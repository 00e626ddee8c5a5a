import Mathlib.Data.List.Forall2
import Mathlib.Data.List.Nodup
import SceneCatalog.Proofs.Fingerprints.Difference

/-!
The whole outcome of reconciling a collection. The entries for a fingerprint count together: what
they name, they name for one record. Main statement: the collection afterwards lists the records
that were there and are wanted, in their old order, and then those that had to be made, in the order
of the first entries for them; and the counts are the lengths of these lists.
-/
namespace SceneCatalog

/-! ## Entries by fingerprint -/

namespace Edit

/-- The first entry for each fingerprint, in the order of the entries. -/
def firsts : List Edit → List Edit
  | [] => []
  | edit :: edits =>
    edit :: (firsts edits).filter fun other => !decide (other.fingerprint = edit.fingerprint)

/-- Whether a fingerprint is wanted. -/
def wants (desired : List Edit) (f : Fingerprint) : Bool :=
  desired.any fun edit => decide (edit.fingerprint = f)

/-- Some entry for the fingerprint names the user. -/
def NamedFor (desired : List Edit) (f : Fingerprint) (u : Uuid) : Prop :=
  ∃ edit ∈ desired, edit.fingerprint = f ∧ ∃ ids, edit.users = some ids ∧ u ∈ ids

theorem wants_iff {desired : List Edit} {f : Fingerprint} :
    wants desired f = true ↔ ∃ edit ∈ desired, edit.fingerprint = f := by
  simp [wants]

/-- An entry is the first for its fingerprint if it is found first. -/
theorem mem_firsts {edits : List Edit} {edit : Edit} :
    edit ∈ firsts edits ↔
      edits.find? (fun e => decide (e.fingerprint = edit.fingerprint)) = some edit := by
  induction edits with
  | nil => simp [firsts]
  | cons e edits ih =>
    rw [firsts, List.mem_cons, List.mem_filter, ih, List.find?_cons]
    by_cases he : e.fingerprint = edit.fingerprint
    · simp [he, eq_comm]
    · have hne : edit.fingerprint ≠ e.fingerprint := Ne.symm he
      have hdiff : edit ≠ e := fun h => hne (h ▸ rfl)
      simp [he, hne, hdiff]

theorem exists_mem_firsts {edits : List Edit} {f : Fingerprint} :
    (∃ edit ∈ firsts edits, edit.fingerprint = f) ↔ ∃ edit ∈ edits, edit.fingerprint = f := by
  induction edits with
  | nil => simp [firsts]
  | cons e edits ih =>
    rw [firsts, List.exists_mem_cons_iff, List.exists_mem_cons_iff, ← ih]
    by_cases he : e.fingerprint = f
    · simp [he]
    · simp only [he, false_or, List.mem_filter]
      constructor
      · rintro ⟨edit, ⟨hmem, -⟩, hf⟩
        exact ⟨edit, hmem, hf⟩
      · rintro ⟨edit, hmem, rfl⟩
        exact ⟨edit, ⟨hmem, by simpa using Ne.symm he⟩, rfl⟩

theorem nodup_firsts (edits : List Edit) : ((firsts edits).map (·.fingerprint)).Nodup := by
  induction edits with
  | nil => exact List.nodup_nil
  | cons e edits ih =>
    rw [firsts, List.map_cons, List.nodup_cons]
    refine ⟨fun hmem => ?_, ih.sublist (List.Sublist.map _ List.filter_sublist)⟩
    obtain ⟨other, hother, hf⟩ := List.mem_map.mp hmem
    have hne := (List.mem_filter.mp hother).2
    simp [hf] at hne

/-- A test of the first entries that the entries for one fingerprint do not pass. -/
theorem filter_firsts_cons (edit : Edit) (edits : List Edit) (p : Fingerprint → Bool) :
    (firsts (edit :: edits)).filter (fun e => p e.fingerprint) =
      (if p edit.fingerprint then [edit] else []) ++
        (firsts edits).filter fun e => p e.fingerprint && !decide (e.fingerprint = edit.fingerprint)
    := by
  rw [firsts, List.filter_cons, List.filter_filter]
  split <;> rfl

end Edit

/-! ## What becomes of a record -/

/-- What becomes of a record that stays. -/
structure Stays (desired : List Edit) (now : Timestamp) (r r' : Record) : Prop where
  fingerprint : r'.fingerprint = r.fingerprint
  duration : r'.duration = r.duration
  created : r'.created = r.created
  submitters : ∀ u, u ∈ r'.submitters ↔ u ∈ r.submitters ∨ Edit.NamedFor desired r.fingerprint u
  updated : r'.updated = if r'.submitters = r.submitters then r.updated else now

/-- The record that is made of a first entry, and of the others for its fingerprint. -/
structure Made (desired : List Edit) (acting : Uuid) (now : Timestamp) (first : Edit)
    (r' : Record) : Prop where
  fingerprint : r'.fingerprint = first.fingerprint
  duration : r'.duration = first.claimed.duration
  created : r'.created = now
  submitters : ∀ u, u ∈ r'.submitters ↔
    (first.users = none ∧ u = acting) ∨ Edit.NamedFor desired first.fingerprint u
  updated : r'.updated = now

/-- A record counts as updated if it has gained a submitter, however many entries it took. -/
theorem updated_foldl_touch {acting : Uuid} {now : Timestamp} {edits : List Edit} {r r' : Record}
    (h : edits.foldl (fun o edit => some (edit.touch acting now o)) (some r) = some r') :
    r'.updated = if r'.submitters = r.submitters then r.updated else now := by
  induction edits generalizing r with
  | nil =>
    cases h
    exact (if_pos rfl).symm
  | cons edit edits ih =>
    have hrest := ih (r := r.credit edit.named now) h
    by_cases hgain : r.gain edit.named = 0
    · rw [Record.credit_of_gain hgain now] at hrest
      exact hrest
    · -- the first entry brings a user, who is a submitter from then on
      obtain ⟨u, hu, hnew⟩ := Record.exists_new_of_gain (Nat.pos_of_ne_zero hgain)
      obtain ⟨q, hq, -, -, hmem⟩ :=
        SceneFingerprints.foldl_touch_some acting now edits (r.credit edit.named now)
      obtain rfl : q = r' := Option.some.inj (hq.symm.trans h)
      have hgrown : q.submitters ≠ r.submitters := by
        intro he
        have hq' : u ∈ q.submitters :=
          (hmem u).mpr (Or.inl (Record.mem_submitters_credit.mpr (Or.inr hu)))
        exact hnew (he ▸ hq')
      have hnow : (r.credit edit.named now).updated = now := if_neg hgain
      rw [hrest, hnow, ite_self, if_neg hgrown]

namespace SceneFingerprints

variable {s after : SceneFingerprints} {desired : List Edit} {acting : Uuid} {now : Timestamp}
  {summary : Summary} {f : Fingerprint} {r r' : Record}

theorem namedFor_iff {u : Uuid} :
    Edit.NamedFor desired f u ↔
      ∃ edit ∈ desired, edit.fingerprint = f ∧ u ∈ edit.named := by
  simp only [Edit.NamedFor, Edit.mem_named]

/-- A record that is found under its fingerprint before and after a reconciliation. -/
theorem stays_of_reconcile (h : s.reconcile desired acting now = .ok (summary, after))
    (before : s.get? f = some r) (found : after.get? f = some r') : Stays desired now r r' := by
  have hf : r.fingerprint = f := fingerprint_of_get? before
  obtain ⟨-, hafter⟩ := get?_reconcile h f
  rcases reconcile_spec h f with ⟨-, hgone⟩ | ⟨first, q, hfind, hq, hcase⟩
  · rw [hgone] at found
    cases found
  obtain rfl : q = r' := Option.some.inj (hq.symm.trans found)
  have hwanted : desired.any (·.fingerprint = f) = true := by
    rw [List.any_eq_true]
    exact ⟨first, List.mem_of_find?_eq_some hfind, by simpa using List.find?_some hfind⟩
  rw [found, hwanted, if_pos rfl, before] at hafter
  rcases hcase with ⟨p, hp, hduration, hcreated, hmem⟩ | ⟨hnone, -⟩
  · obtain rfl : r = p := Option.some.inj (before.symm.trans hp)
    refine ⟨(fingerprint_of_get? found).trans hf.symm, hduration, hcreated, fun u => ?_,
      updated_foldl_touch hafter.symm⟩
    rw [hmem, hf, namedFor_iff]
  · rw [before] at hnone
    cases hnone

/-- A record that is found under a fingerprint that had none before a reconciliation. -/
theorem made_of_reconcile (h : s.reconcile desired acting now = .ok (summary, after))
    (before : s.get? f = none) (found : after.get? f = some r') {first : Edit}
    (hfirst : desired.find? (fun e => decide (e.fingerprint = f)) = some first) :
    Made desired acting now first r' := by
  have hf : first.fingerprint = f := by simpa using List.find?_some hfirst
  obtain ⟨-, hafter⟩ := get?_reconcile h f
  rcases reconcile_spec h f with ⟨-, hgone⟩ | ⟨e, q, hfind, hq, hcase⟩
  · rw [hgone] at found
    cases found
  obtain rfl : q = r' := Option.some.inj (hq.symm.trans found)
  obtain rfl : e = first := Option.some.inj (hfind.symm.trans hfirst)
  rcases hcase with ⟨p, hp, -⟩ | ⟨-, hduration, hcreated, hmem⟩
  · rw [before] at hp
    cases hp
  refine ⟨(fingerprint_of_get? found).trans hf.symm, hduration, hcreated, fun u => ?_, ?_⟩
  · rw [hmem, hf, namedFor_iff, and_comm]
  · -- the first entry makes the record, and what the others bring they bring at the same time
    rw [before, ite_self, found] at hafter
    cases he : desired.filter (·.fingerprint = f) with
    | nil =>
      rw [he] at hafter
      cases hafter
    | cons edit edits =>
      rw [he, List.foldl_cons] at hafter
      rw [updated_foldl_touch hafter.symm]
      exact ite_self _

/-! ## The order of the records -/

theorem isNone_get?_apply (state : Reconciling) (edit : Edit) (f : Fingerprint) :
    ((state.apply acting now edit).current.get? f).isNone =
      ((state.current.get? f).isNone && !decide (f = edit.fingerprint)) := by
  rw [get?_apply]
  by_cases hf : f = edit.fingerprint <;> simp [hf]

/-- An entry for a fingerprint without a record puts one at the end. -/
theorem fingerprints_apply (state : Reconciling) (edit : Edit) :
    (state.apply acting now edit).current.fingerprints =
      state.current.fingerprints ++
        if (state.current.get? edit.fingerprint).isNone then [edit.fingerprint] else [] := by
  unfold Reconciling.apply
  cases hr : state.current.get? edit.fingerprint with
  | none =>
    have hnone : state.current.get? (Record.create edit.claimed (edit.founders acting) now
        (edit.founders_ne_empty acting)).fingerprint = none := hr
    exact fingerprints_append hnone
  | some r =>
    exact (fingerprints_credit ..).trans (List.append_nil _).symm

/-- Entries put the fingerprints that have no record at the end, in the order of their first
entries. -/
theorem fingerprints_foldl_apply (edits : List Edit) (state : Reconciling) :
    (edits.foldl (Reconciling.apply acting now) state).current.fingerprints =
      state.current.fingerprints ++ ((Edit.firsts edits).filter fun e =>
        (state.current.get? e.fingerprint).isNone).map (·.fingerprint) := by
  induction edits generalizing state with
  | nil => exact (List.append_nil _).symm
  | cons edit edits ih =>
    rw [List.foldl_cons, ih, fingerprints_apply]
    simp only [isNone_get?_apply]
    rw [Edit.filter_firsts_cons edit edits fun f => (state.current.get? f).isNone, List.map_append,
      List.append_assoc]
    congr 2
    split <;> rfl

/-! ## The counts -/

/-- A reconciliation counts a record as added when it puts one at the end. -/
theorem length_foldl_apply (acting : Uuid) (now : Timestamp) (edits : List Edit)
    (state : Reconciling) :
    let final := edits.foldl (Reconciling.apply acting now) state
    final.current.fingerprints.length + state.summary.added =
      state.current.fingerprints.length + final.summary.added := by
  induction edits generalizing state with
  | nil => rfl
  | cons edit edits ih =>
    have hrest := ih (state.apply acting now edit)
    have hhere : (state.apply acting now edit).summary.added = state.summary.added +
        if (state.current.get? edit.fingerprint).isNone then 1 else 0 := by
      unfold Reconciling.apply
      cases state.current.get? edit.fingerprint <;> rfl
    rw [fingerprints_apply, hhere, List.length_append] at hrest
    rw [List.foldl_cons]
    split at hrest <;> simp only [List.length_cons, List.length_nil] at hrest <;> omega

/-- A reconciliation counts a record as kept when it comes upon the first entry for it. -/
theorem kept_foldl_apply (acting : Uuid) (now : Timestamp) (edits : List Edit)
    (state : Reconciling) :
    (edits.foldl (Reconciling.apply acting now) state).summary.kept =
      state.summary.kept + ((Edit.firsts edits).filter fun e =>
        !(state.current.get? e.fingerprint).isNone && !state.seen.contains e.fingerprint).length
    := by
  induction edits generalizing state with
  | nil => rfl
  | cons edit edits ih =>
    have hseen : (state.apply acting now edit).seen = edit.fingerprint :: state.seen := by
      unfold Reconciling.apply
      split <;> rfl
    have hhere : (state.apply acting now edit).summary.kept = state.summary.kept +
        if !(state.current.get? edit.fingerprint).isNone && !state.seen.contains edit.fingerprint
        then 1 else 0 := by
      unfold Reconciling.apply
      cases state.current.get? edit.fingerprint <;> simp
    -- the fingerprint of this entry has been seen from now on
    have hrest : ∀ f, (!((state.apply acting now edit).current.get? f).isNone &&
        !(state.apply acting now edit).seen.contains f) =
          ((!(state.current.get? f).isNone && !state.seen.contains f) &&
            !decide (f = edit.fingerprint)) := by
      intro f
      rw [isNone_get?_apply, hseen, List.contains_cons]
      by_cases hf : f = edit.fingerprint
      · simp [hf]
      · have hne : (f == edit.fingerprint) = false := by simpa using hf
        simp [hf, hne]
    rw [List.foldl_cons, ih, hhere]
    simp only [hrest]
    rw [Edit.filter_firsts_cons edit edits fun f =>
      !(state.current.get? f).isNone && !state.seen.contains f, List.length_append, Nat.add_assoc]
    congr 2
    split <;> rfl

/-- Of the wanted fingerprints, as many have a record as there are records that are wanted. -/
theorem length_filter_firsts (s : SceneFingerprints) (desired : List Edit) :
    let kept := s.keep fun r => Edit.wants desired r.fingerprint
    ((Edit.firsts desired).filter fun e => !(kept.get? e.fingerprint).isNone).length =
      kept.records.length := by
  intro kept
  have hperm : (((Edit.firsts desired).filter fun e => !(kept.get? e.fingerprint).isNone).map
      (·.fingerprint)).Perm kept.fingerprints := by
    refine (List.perm_ext_iff_of_nodup ?_ (List.pairwise_map.mpr kept.distinct)).mpr fun f => ?_
    · exact (Edit.nodup_firsts desired).sublist (List.filter_sublist.map _)
    constructor
    · intro hf
      obtain ⟨e, he, rfl⟩ := List.mem_map.mp hf
      have hsome := (List.mem_filter.mp he).2
      cases hr : kept.get? e.fingerprint with
      | none => simp [hr] at hsome
      | some r =>
        exact List.mem_map.mpr ⟨r, List.mem_of_find?_eq_some hr, fingerprint_of_get? hr⟩
    · intro hf
      obtain ⟨r, hr, rfl⟩ := List.mem_map.mp hf
      have hwanted := Edit.wants_iff.mp (List.mem_filter.mp hr).2
      obtain ⟨e, he, hfirst⟩ := Edit.exists_mem_firsts.mpr hwanted
      refine List.mem_map.mpr ⟨e, List.mem_filter.mpr ⟨he, ?_⟩, hfirst⟩
      rw [hfirst, get?_of_mem hr]
      rfl
  simpa [fingerprints] using hperm.length_eq

/-! ## The collection as a whole -/

/-- The outcome of a reconciliation: the collection is made up of records that were there and of
records that are new, and the counts say how many they are. -/
structure Reconciles (s : SceneFingerprints) (desired : List Edit) (acting : Uuid)
    (now : Timestamp) (old new : List Record) (summary : Summary) (after : SceneFingerprints) :
    Prop where
  records : after.records = old ++ new
  /-- In the place of each record that is wanted, what becomes of it. -/
  stays : List.Forall₂ (Stays desired now)
    (s.records.filter fun r => Edit.wants desired r.fingerprint) old
  /-- For each fingerprint that is wanted and has no record, what its first entry makes. -/
  made : List.Forall₂ (Made desired acting now)
    ((Edit.firsts desired).filter fun e => (s.get? e.fingerprint).isNone) new
  kept : summary.kept = old.length
  added : summary.added = new.length
  removed : summary.removed =
    (s.records.filter fun r => !Edit.wants desired r.fingerprint).length

/-- Lists whose members agree by their keys, in order. -/
theorem forall₂_of_map_eq {α β κ : Type} {R : α → β → Prop} {key : α → κ} {key' : β → κ}
    {xs : List α} {ys : List β} (h : xs.map key = ys.map key')
    (related : ∀ x ∈ xs, ∀ y ∈ ys, key x = key' y → R x y) : List.Forall₂ R xs ys := by
  induction xs generalizing ys with
  | nil =>
    obtain rfl : ys = [] := List.map_eq_nil_iff.mp h.symm
    exact .nil
  | cons x xs ih =>
    cases ys with
    | nil => cases h
    | cons y ys =>
      obtain ⟨hkey, hrest⟩ := List.cons.inj h
      refine .cons (related x List.mem_cons_self y List.mem_cons_self hkey) (ih hrest ?_)
      exact fun x' hx y' hy =>
        related x' (List.mem_cons_of_mem x hx) y' (List.mem_cons_of_mem y hy)

/-- Where a reconciliation starts: with the records that are wanted. -/
def begun (s : SceneFingerprints) (desired : List Edit) : Reconciling :=
  let kept := s.keep fun r => Edit.wants desired r.fingerprint
  ⟨kept, ⟨0, 0, s.records.length - kept.records.length, 0⟩, []⟩

/-- Where it stands when all entries have been dealt with. -/
def finished (s : SceneFingerprints) (desired : List Edit) (acting : Uuid) (now : Timestamp) :
    Reconciling :=
  desired.foldl (Reconciling.apply acting now) (s.begun desired)

theorem reconcile_eq (s : SceneFingerprints) (desired : List Edit) (acting : Uuid)
    (now : Timestamp) :
    s.reconcile desired acting now =
      if desired.any Edit.namesNobody then .error .emptySubmitters
      else .ok ((s.finished desired acting now).summary, (s.finished desired acting now).current) :=
  rfl

/-- The fingerprints afterwards are those of the records that are wanted and those that are wanted
and have no record. -/
theorem fingerprints_finished (s : SceneFingerprints) (desired : List Edit) (acting : Uuid)
    (now : Timestamp) :
    (s.finished desired acting now).current.fingerprints =
      (s.records.filter fun r => Edit.wants desired r.fingerprint).map (·.fingerprint) ++
        ((Edit.firsts desired).filter fun e => (s.get? e.fingerprint).isNone).map (·.fingerprint)
    := by
  rw [finished, fingerprints_foldl_apply]
  congr 2
  refine List.filter_congr fun e he => ?_
  -- a fingerprint that is wanted has a record among those that are kept if it has one at all
  have hwanted : Edit.wants desired e.fingerprint = true :=
    Edit.wants_iff.mpr (Edit.exists_mem_firsts.mp ⟨e, he, rfl⟩)
  have hget := get?_keep s (Edit.wants desired) e.fingerprint
  rw [if_pos hwanted] at hget
  exact congrArg Option.isNone hget

theorem kept_finished (s : SceneFingerprints) (desired : List Edit) (acting : Uuid)
    (now : Timestamp) :
    (s.finished desired acting now).summary.kept =
      (s.records.filter fun r => Edit.wants desired r.fingerprint).length := by
  have hkept := kept_foldl_apply acting now desired (s.begun desired)
  have hnone : (s.begun desired).summary.kept = 0 := rfl
  have hunseen : ∀ f, (s.begun desired).seen.contains f = false := fun f => rfl
  simp only [hnone, hunseen, Bool.not_false, Bool.and_true, Nat.zero_add] at hkept
  exact hkept.trans (length_filter_firsts s desired)

theorem added_finished (s : SceneFingerprints) (desired : List Edit) (acting : Uuid)
    (now : Timestamp) :
    (s.finished desired acting now).summary.added =
      ((Edit.firsts desired).filter fun e => (s.get? e.fingerprint).isNone).length := by
  have hlength := length_foldl_apply acting now desired (s.begun desired)
  have hfingerprints := congrArg List.length (fingerprints_finished s desired acting now)
  have hbegun : (s.begun desired).current.fingerprints.length =
      (s.records.filter fun r => Edit.wants desired r.fingerprint).length := List.length_map _
  have hnone : (s.begun desired).summary.added = 0 := rfl
  simp only [List.length_append, List.length_map] at hfingerprints
  rw [finished] at hfingerprints ⊢
  omega

theorem removed_finished (s : SceneFingerprints) (desired : List Edit) (acting : Uuid)
    (now : Timestamp) :
    (s.finished desired acting now).summary.removed =
      (s.records.filter fun r => !Edit.wants desired r.fingerprint).length := by
  have hremoved := removed_foldl_apply acting now desired (s.begun desired)
  have hbegun : (s.begun desired).summary.removed =
      s.records.length - (s.records.filter fun r => Edit.wants desired r.fingerprint).length := rfl
  have hparts := List.length_eq_length_filter_add (l := s.records)
    fun r => Edit.wants desired r.fingerprint
  rw [finished]
  omega

/-- The collection falls apart into the records under old fingerprints and those under new ones. -/
theorem reconciles_finished (ok : s.reconcile desired acting now =
      .ok ((s.finished desired acting now).summary, (s.finished desired acting now).current)) :
    ∃ old new, Reconciles s desired acting now old new (s.finished desired acting now).summary
      (s.finished desired acting now).current := by
  obtain ⟨old, new, hrecords, hold, hnew⟩ :=
    List.map_eq_append_iff.mp (fingerprints_finished s desired acting now)
  have hfound : ∀ r' ∈ old ++ new,
      (s.finished desired acting now).current.get? r'.fingerprint = some r' :=
    fun r' hr' => get?_of_mem (hrecords ▸ hr')
  have hkept : (s.records.filter fun r => Edit.wants desired r.fingerprint).length = old.length :=
    by simpa using congrArg List.length hold.symm
  have hadded : ((Edit.firsts desired).filter fun e => (s.get? e.fingerprint).isNone).length =
      new.length := by simpa using congrArg List.length hnew.symm
  refine ⟨old, new, hrecords, ?_, ?_, (kept_finished s desired acting now).trans hkept,
    (added_finished s desired acting now).trans hadded, removed_finished s desired acting now⟩
  · refine forall₂_of_map_eq hold.symm fun r hr r' hr' hf => ?_
    have hmem : r ∈ s.records := (List.mem_filter.mp hr).1
    exact stays_of_reconcile ok (get?_of_mem hmem) (hf ▸ hfound r' (List.mem_append_left new hr'))
  · refine forall₂_of_map_eq hnew.symm fun e he r' hr' hf => ?_
    obtain ⟨hfirst, hnone⟩ := List.mem_filter.mp he
    exact made_of_reconcile ok (Option.isNone_iff_eq_none.mp hnone)
      (hf ▸ hfound r' (List.mem_append_right old hr')) (Edit.mem_firsts.mp hfirst)

/-- The collection that is there when a reconciliation has been tried. -/
def tried (s : SceneFingerprints) (desired : List Edit) (acting : Uuid) (now : Timestamp) :
    SceneFingerprints :=
  match s.reconcile desired acting now with
  | .ok (_, after) => after
  | .error _ => s

/-- **What reconciling makes of a collection.** It is refused if and only if an entry names users
and then names nobody, which leaves the collection as it is. -/
theorem reconcile_outcome (s : SceneFingerprints) (desired : List Edit) (acting : Uuid)
    (now : Timestamp) :
    ((∃ edit ∈ desired, edit.users = some []) ∧
        s.reconcile desired acting now = .error .emptySubmitters ∧
        s.tried desired acting now = s) ∨
      ((∀ edit ∈ desired, edit.users ≠ some []) ∧ ∃ summary old new,
        s.reconcile desired acting now = .ok (summary, s.tried desired acting now) ∧
        Reconciles s desired acting now old new summary (s.tried desired acting now)) := by
  have hany : desired.any Edit.namesNobody = true ↔ ∃ edit ∈ desired, edit.users = some [] := by
    simp [Edit.namesNobody]
  by_cases hnobody : desired.any Edit.namesNobody = true
  · have herror : s.reconcile desired acting now = .error .emptySubmitters := by
      rw [reconcile_eq, if_pos hnobody]
    exact Or.inl ⟨hany.mp hnobody, herror, by simp only [tried, herror]⟩
  · have hok : s.reconcile desired acting now = .ok ((s.finished desired acting now).summary,
        (s.finished desired acting now).current) := by
      rw [reconcile_eq, if_neg hnobody]
    have htried : s.tried desired acting now = (s.finished desired acting now).current := by
      simp only [tried, hok]
    obtain ⟨old, new, outcome⟩ := reconciles_finished hok
    refine Or.inr ⟨fun edit hedit hnone => hnobody (hany.mpr ⟨edit, hedit, hnone⟩), ?_⟩
    rw [htried]
    exact ⟨_, old, new, hok, outcome⟩

end SceneFingerprints
end SceneCatalog
