import SceneCatalog.Lookup
import SceneCatalog.Proofs.Consensus.Course

/-!
Look-ups only read. Which questions a computation may ask is read off its program, whatever it is
answered; those of a look-up take no lock, and leave a store that is kept in memory as it was.
-/
namespace SceneCatalog

/-! ## Questions that may be asked -/

namespace Dialogue

variable {Q : Type} {A : Q → Type} {P : Q → Prop} {α β : Type}

/-- Every question that may be asked passes a test. -/
def Only (P : Q → Prop) : Dialogue Q A α → Prop
  | .done _ => True
  | .ask q next => P q ∧ ∀ answer, (next answer).Only P

theorem Only.bind {d : Dialogue Q A α} (h : d.Only P) {f : α → Dialogue Q A β}
    (after : ∀ a, (f a).Only P) : (d.bind f).Only P := by
  induction d with
  | done a => exact after a
  | ask q next ih => exact ⟨h.1, fun answer => ih answer (h.2 answer)⟩

end Dialogue

section Work

variable {P : Ask StoreCall → Prop} {α β : Type}

theorem only_pure (a : α) : Dialogue.Only P (pure a : Work α) := trivial

theorem only_throw (e : CatalogError) : Dialogue.Only P (throw e : Work α) := trivial

theorem only_settled (result : Except CatalogError α) :
    Dialogue.Only P (ExceptT.mk (.done result) : Work α) := trivial

/-- Work that may fail goes on only if it has not. -/
theorem only_bind {work : Work α} (h : Dialogue.Only P work) {next : α → Work β}
    (after : ∀ a, Dialogue.Only P (next a)) : Dialogue.Only P (work >>= next : Work β) :=
  Dialogue.Only.bind h fun
    | .ok a => after a
    | .error _ => trivial

end Work

/-- What is asked in a run is what may be asked. -/
theorem only_calls_of_transcript {Call : Type} {Reply : Call → Type} {σ α : Type}
    {P : Ask Call → Prop} {d : Running Call Reply α} (h : d.Only P)
    (respond : (call : Call) → σ → Reply call × σ) (state : σ) :
    ∀ made ∈ (Running.transcript respond d state).asked, P (.call made.1) := by
  induction d generalizing state with
  | done a => exact fun made hmade => absurd hmade List.not_mem_nil
  | ask q next ih =>
    cases q with
    | acquire scene => exact ih () (h.2 ()) state
    | release scene => exact ih () (h.2 ()) state
    | call c =>
      intro made hmade
      rcases List.mem_cons.mp hmade with rfl | hmade
      · exact h.1
      · exact ih _ (h.2 _) _ made hmade

/-! ## Look-ups -/

/-- Whether a call looks something up: it changes nothing and belongs to no transaction. -/
def StoreCall.looks : StoreCall → Bool
  | .txLoad _ => false
  | call => call.reads

theorem StoreCall.reads_of_looks {call : StoreCall} (h : call.looks = true) :
    call.reads = true := by
  cases call with
  | txLoad scene => cases h
  | _ => exact h

/-- Whether a question is a call that looks something up. -/
def Ask.looks : Ask StoreCall → Prop
  | .call c => c.looks = true
  | .acquire _ | .release _ => False

section Lookups

variable {α : Type}

theorem askStore_looks {call : StoreCall} (h : call.Reply = Except StoreError α)
    (looks : call.looks = true) : Dialogue.Only Ask.looks (askStore call h) :=
  ⟨looks, fun _ => trivial⟩

theorem sceneRecords_looks (scene : Uuid) : Dialogue.Only Ask.looks (sceneRecords scene) := by
  refine only_bind (askStore_looks _ rfl) fun known => ?_
  cases known with
  | false => exact only_throw _
  | true => exact only_bind (askStore_looks _ rfl) fun stored => only_pure _

theorem collectMatches_looks (keep : Record → Bool) (scenes : List Uuid) :
    Dialogue.Only Ask.looks (collectMatches keep scenes) := by
  induction scenes with
  | nil => exact only_pure _
  | cons scene scenes ih =>
    exact only_bind (askStore_looks _ rfl) fun stored => only_bind ih fun found => only_pure _

theorem findByFingerprints_looks (wanted : List Fingerprint) :
    Dialogue.Only Ask.looks (findByFingerprints wanted) := by
  unfold findByFingerprints
  split
  · exact only_pure _
  · exact only_bind (askStore_looks _ rfl) fun scenes => collectMatches_looks _ scenes

theorem findByHashes_looks (raws : List String) :
    Dialogue.Only Ask.looks (findByHashes raws) := by
  refine only_bind (only_settled _) fun hashes => ?_
  dsimp only
  split
  · exact only_pure _
  · exact only_bind (askStore_looks _ rfl) fun scenes => collectMatches_looks _ scenes

theorem queryScenes_looks (filter : Filter) (spec : PageSpec) (max : UInt32) :
    Dialogue.Only Ask.looks (queryScenes filter spec max) :=
  only_bind (only_settled _) fun _ => only_bind (only_settled _) fun _ =>
    only_bind (askStore_looks _ rfl) fun _ => only_pure _

end Lookups

/-! ## The store afterwards -/

namespace MemoryStore

/-- A computation that only looks things up leaves nothing behind but that its calls were made. -/
theorem transcript_of_looks {α : Type} {d : Running StoreCall StoreCall.Reply α}
    (h : d.Only Ask.looks) (store : MemoryStore) (i : Nat) :
    let t := Running.transcript (MemoryStore.respond i) d store
    t.state = { store with served := store.served + t.asked.length } := by
  induction d generalizing store with
  | done a => rfl
  | ask q next ih =>
    obtain ⟨hq, hnext⟩ := h
    cases q with
    | acquire scene => exact hq.elim
    | release scene => exact hq.elim
    | call c =>
      simp only [Running.transcript, ih _ (hnext _),
        respond_of_reads store i (StoreCall.reads_of_looks hq)]
      simp [Nat.add_assoc, Nat.add_comm]

/-! ## What is read -/

/-- Work that reads a catalog in a store that refuses nothing has a result, whatever the number of
calls that came before, and leaves the store as it was but for that number. -/
def Tells {α : Type} (store : MemoryStore) (work : Work α) (result : Except CatalogError α) :
    Prop :=
  ∀ n, ∃ m asked, Running.transcript (MemoryStore.respond 0) work { store with served := n } =
    ⟨result, { store with served := m }, asked⟩

section Tells

variable {store : MemoryStore} {α β : Type}

theorem tells_settled (store : MemoryStore) (result : Except CatalogError α) :
    store.Tells (ExceptT.mk (.done result) : Work α) result :=
  fun n => ⟨n, [], rfl⟩

theorem tells_pure (store : MemoryStore) (a : α) : store.Tells (pure a : Work α) (.ok a) :=
  tells_settled store (.ok a)

theorem Tells.bind {work : Work α} {a : α} (h : store.Tells work (.ok a)) {next : α → Work β}
    {result : Except CatalogError β} (after : store.Tells (next a) result) :
    store.Tells (work >>= next : Work β) result := by
  intro n
  obtain ⟨m, asked, hwork⟩ := h n
  obtain ⟨k, more, hnext⟩ := after m
  have hbind := transcript_bind (MemoryStore.respond 0) work (ExceptT.bindCont next)
    { store with served := n }
  have hcont : ExceptT.bindCont next (.ok a) = next a := rfl
  rw [hwork] at hbind
  simp only [hcont, hnext] at hbind
  exact ⟨k, asked ++ more, hbind⟩

/-- A call that the store answers. -/
theorem tells_askStore {call : StoreCall} (h : call.Reply = Except StoreError α)
    (reads : call.reads = true) {a : α}
    (answers : ∀ n, (h ▸ (MemoryStore.respond 0 call { store with served := n }).1 :
      Except StoreError α) = .ok a) :
    store.Tells (askStore call h) (.ok a) := by
  intro n
  refine ⟨n + 1, [⟨call, (MemoryStore.respond 0 call { store with served := n }).1⟩], ?_⟩
  simp only [askStore, Running.transcript, respond_of_reads _ 0 reads, answers n, ofStore]

theorem Tells.result {work : Work α} {result : Except CatalogError α} (h : store.Tells work result)
    (locks : LockTable) :
    (Dialogue.run (respondAlone (MemoryStore.respond 0)) work (locks, store)).result = result := by
  obtain ⟨m, asked, ht⟩ := h store.served
  rw [(run_respondAlone (MemoryStore.respond 0) work locks store).1]
  exact congrArg Dialogue.Transcript.result ht

end Tells

end MemoryStore
end SceneCatalog
