import SceneCatalog.Proofs.Api.Authorization
import SceneCatalog.Proofs.Consensus.Likeness

/-!
What users do not learn. Main statement: catalogs that agree, record by record, on everything but on
who the submitters are besides a user give the user the same responses to the same requests, and
agree in this way after each of them, as long as the user is no administrator.
-/
namespace SceneCatalog.Api

variable {a : Uuid}

/-! ## Views -/

theorem viewRecord_alike {r r' : Record} (h : r.Alike a r') : viewRecord a r = viewRecord a r' := by
  have hown : r.isSubmittedBy a = r'.isSubmittedBy a := decide_eq_decide.mpr h.own
  simp only [viewRecord, h.fingerprint, h.duration, h.submissions, hown, h.created, h.updated]

theorem viewRecords_alike {rs rs' : List Record} (h : List.Forall₂ (Record.Alike a) rs rs') :
    viewRecords a rs = viewRecords a rs' := by
  have hviews : List.Forall₂ Eq (rs.map (viewRecord a)) (rs'.map (viewRecord a)) :=
    List.rel_map (fun _ _ hr => viewRecord_alike hr) h
  rw [List.forall₂_eq_eq_eq] at hviews
  exact congrArg Json.array hviews

theorem viewReply_alike {reply reply' : ChangeReply} (h : reply.Alike a reply') (scene : Uuid) :
    viewReply a scene reply = viewReply a scene reply' := by
  cases h with
  | submitted outcome h => simp only [viewReply, viewSubmitted, viewRecord_alike h]
  | retracted outcome h =>
    cases h with
    | none => rfl
    | some h => simp only [viewReply, viewRetracted, Option.map_some, viewRecord_alike h]
  | reconciled summary h => simp only [viewReply, viewReconciled, viewRecords_alike h]

theorem viewMatches_alike {found found' : List Match}
    (h : List.Forall₂ (Match.Alike a) found found') :
    viewMatches a found = viewMatches a found' := by
  have hviews : List.Forall₂ Eq
      (found.map fun m => Json.object [("scene_id", m.scene.toJson),
        ("fingerprint", viewRecord a m.record)])
      (found'.map fun m => Json.object [("scene_id", m.scene.toJson),
        ("fingerprint", viewRecord a m.record)]) :=
    List.rel_map (fun _ _ hm => by rw [hm.scene, viewRecord_alike hm.record]) h
  rw [List.forall₂_eq_eq_eq] at hviews
  have hempty : found.isEmpty = found'.isEmpty := by
    cases h <;> rfl
  simp only [viewMatches, Json.ofList, hviews, hempty, h.length_eq]

/-! ## Requests -/

variable {s : Service} {now : Timestamp} {r : Request} {endpoint : Endpoint} {work : Answering}

/-- Whoever a request comes from, it is the user, who is no administrator. -/
def Request.Of (a : Uuid) (s : Service) (now : Timestamp) (r : Request) : Prop :=
  ∀ actor, r.Shows s.secret now actor → actor.user = a ∧ .admin ∉ actor.roles

theorem Serves.resembles (h : Serves s now r endpoint work) (own : r.Of a s now) :
    Running.Resembles (StoreCall.likeness a) Eq work work := by
  have huser : ∀ {actor}, r.actor s.secret now = .ok actor → actor.user = a :=
    fun shown => (own _ (Request.actor_eq_ok_iff.mp shown)).1
  have accords := StoreCall.likeness_accords a
  cases h with
  | settled response => exact .done rfl
  | probe => exact readiness_resembles accords
  | change change shown role makes acting named =>
    obtain ⟨huser, hplain⟩ := own _ (Request.actor_eq_ok_iff.mp shown)
    have hunnamed : change.namesUsers = false :=
      Bool.eq_false_iff.mpr fun h => hplain (Actor.has_admin_iff.mp (named h))
    rw [huser] at acting ⊢
    exact answering_resembles (Change.resembles acting hunnamed now) fun _ _ h =>
      viewReply_alike h change.scene
  | fingerprints shown role wanted =>
    rw [huser shown]
    exact answering_resembles (findByFingerprints_resembles StoredAlike.picks accords wanted)
      fun _ _ => viewMatches_alike
  | hashes shown role wanted =>
    rw [huser shown]
    exact answering_resembles (findByHashes_resembles StoredAlike.picks accords wanted)
      fun _ _ => viewMatches_alike
  | scene shown role scene =>
    rw [huser shown]
    refine answering_resembles (sceneRecords_resembles accords StoredAlike.ofRecords scene)
      fun _ _ h => ?_
    simp only [viewScene, viewRecords_alike h]
  | query shown role filter spec =>
    exact answering_resembles (queryScenes_resembles accords filter spec _) fun _ _ h =>
      congrArg viewPage h

theorem Handles.resembles (h : Handles s now r work) (own : r.Of a s now) :
    Running.Resembles (StoreCall.likeness a) Eq work work :=
  h.resembles_of fun serves => serves.resembles own

/-! ## Sessions -/

/-- **What users do not learn** is who the other submitters are: over catalogs that look alike to a
user, who is no administrator, the same requests of the user get the same responses, and the
catalogs look alike to the user after each of them. -/
theorem responses_alike (s : Service) {c c' : Catalog} (alike : c.Alike a c') (staging : Bool)
    (debts : RateLimit.Debts) (locks : LockTable) (requests : List (Timestamp × Request))
    (own : ∀ request ∈ requests, request.2.Of a s request.1) :
    List.Forall₂
      (fun x x' => x.response = x'.response ∧ x.after.catalog.Alike a x'.after.catalog)
      (s.session (MemoryStore.respond 0) requests ⟨debts, locks, .of c staging⟩)
      (s.session (MemoryStore.respond 0) requests ⟨debts, locks, .of c' staging⟩) := by
  refine List.Forall₂.imp (fun x x' h => ⟨h.1, h.2.catalog⟩)
    (session_resembles (MemoryStore.served_likeness a 0) (fun request hmem debts => ?_) rfl
      (MemoryStore.Alike.of alike staging))
  exact (handle_handles s request.1 request.2 debts).resembles (own request hmem)

/-- A catalog in which user 1 and another user stand behind one fingerprint. -/
def sharedCatalog (other : Uuid) : Catalog :=
  let users := IdSet.ofList [.ofNat 1, other]
  (Catalog.ofScenes [.bare (.ofNat 0) ⟨0, 0⟩]).save (.ofNat 0)
    [.create ⟨.sample, 10⟩ users ⟨0, 0⟩
      (IdSet.ne_empty_of_mem (IdSet.mem_ofList.mpr List.mem_cons_self))]

theorem sharedCatalog_alike :
    (sharedCatalog (.ofNat 2)).Alike (.ofNat 1) (sharedCatalog (.ofNat 3)) := by
  have hbare : (Catalog.ofScenes [.bare (.ofNat 0) ⟨0, 0⟩]).Alike (.ofNat 1)
      (.ofScenes [.bare (.ofNat 0) ⟨0, 0⟩]) := ⟨rfl, fun _ => ⟨.nil, .nil⟩⟩
  refine hbare.save (.ofNat 0) ⟨.cons ⟨rfl, rfl, rfl, rfl, ?_, ?_⟩ .nil,
    List.pairwise_singleton ..⟩
  · decide +kernel
  · simp [Record.create]

/-- A user who may modify looks at a scene. -/
def ownView : Request where
  method := "GET"
  target := "/scenes/00000000000000000000000000000000/fingerprints"
  authorization := some ("Bearer " ++ modifierToken)

/-- User 1 submits that fingerprint, too, and looks at the scene. -/
theorem responses_alike_shared :
    let requests := [(⟨0, 0⟩, ownSubmission), (⟨0, 0⟩, ownView)]
    sharedCatalog (.ofNat 2) ≠ sharedCatalog (.ofNat 3) ∧
      (∀ request ∈ requests, request.2.Of (.ofNat 1) smallService request.1) ∧
      List.Forall₂
        (fun x x' => x.response = x'.response ∧ x.after.catalog.Alike (.ofNat 1) x'.after.catalog)
        (smallService.session (MemoryStore.respond 0) requests
          ⟨[], ∅, .of (sharedCatalog (.ofNat 2)) true⟩)
        (smallService.session (MemoryStore.respond 0) requests
          ⟨[], ∅, .of (sharedCatalog (.ofNat 3)) true⟩) := by
  intro requests
  have hof : ∀ {r : Request}, r.authorization = some ("Bearer " ++ modifierToken) →
      r.Of (.ofNat 1) smallService ⟨0, 0⟩ := by
    intro r hr actor shown
    -- a request shows one user at most
    have hactor : r.Shows smallService.secret ⟨0, 0⟩ ⟨.ofNat 1, [.modify]⟩ :=
      ⟨"s", modifierToken, rfl, hr, modifierToken_counts⟩
    rw [← Request.actor_eq_ok_iff] at shown hactor
    rw [hactor] at shown
    cases shown
    exact ⟨rfl, by decide⟩
  have own : ∀ request ∈ requests, request.2.Of (.ofNat 1) smallService request.1 := by
    intro request hmem
    simp only [requests, List.mem_cons, List.not_mem_nil, or_false] at hmem
    rcases hmem with rfl | rfl
    · exact hof rfl
    · exact hof rfl
  exact ⟨by decide +kernel, own,
    responses_alike smallService sharedCatalog_alike true [] ∅ requests own⟩

end SceneCatalog.Api
