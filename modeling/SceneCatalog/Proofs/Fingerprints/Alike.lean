import Mathlib.Data.List.Forall2
import SceneCatalog.Proofs.Fingerprints.Difference
import SceneCatalog.Proofs.Fingerprints.Merging
import SceneCatalog.Proofs.Resemblance

/-!
Collections that a user cannot tell apart: record by record they agree on everything but on who the
submitters are besides the user. What the user does in no other name than the own leaves such
collections alike and has the same outcome on both, because of the submitters it only matters how
many there are and whether the user is one of them.
-/
namespace SceneCatalog

/-! ## Records -/

/-- Records that look alike to a user. -/
structure Record.Alike (a : Uuid) (r r' : Record) : Prop where
  fingerprint : r.fingerprint = r'.fingerprint
  duration : r.duration = r'.duration
  created : r.created = r'.created
  updated : r.updated = r'.updated
  submissions : r.submissions = r'.submissions
  own : a ∈ r.submitters ↔ a ∈ r'.submitters

namespace Record

variable {a : Uuid} {r r' : Record} {users : IdSet}

theorem Alike.refl (a : Uuid) (r : Record) : r.Alike a r :=
  ⟨rfl, rfl, rfl, rfl, rfl, Iff.rfl⟩

/-- The user is new to both records or to neither. -/
theorem Alike.new (h : r.Alike a r') (own : ∀ u ∈ users, u = a) :
    users \ r.submitters = users \ r'.submitters := by
  refine IdSet.ext fun u => ?_
  rw [IdSet.mem_sdiff, IdSet.mem_sdiff]
  refine and_congr_right fun hu => ?_
  rw [own u hu]
  exact not_congr h.own

theorem Alike.gain (h : r.Alike a r') (own : ∀ u ∈ users, u = a) :
    r.gain users = r'.gain users :=
  congrArg IdSet.size (h.new own)

theorem Alike.left (h : r.Alike a r') (own : ∀ u ∈ users, u = a) :
    (r.submitters \ users).size = (r'.submitters \ users).size := by
  have hsize : r.submitters.size = r'.submitters.size := h.submissions
  -- how many leave is settled by how many of the named users are not in
  rw [IdSet.size_sdiff r.submitters, IdSet.size_sdiff r'.submitters, hsize, h.new own]

theorem Alike.loss (h : r.Alike a r') (own : ∀ u ∈ users, u = a) :
    r.loss users = r'.loss users := by
  have hsize : r.submitters.size = r'.submitters.size := h.submissions
  rw [Record.loss, Record.loss, h.left own, hsize]

theorem Alike.credit (h : r.Alike a r') (own : ∀ u ∈ users, u = a) (now : Timestamp) :
    (r.credit users now).Alike a (r'.credit users now) where
  fingerprint := h.fingerprint
  duration := h.duration
  created := h.created
  updated := by simp only [Record.credit, h.gain own, h.updated]
  submissions := by
    have hsize : r.submitters.size = r'.submitters.size := h.submissions
    simp only [Record.credit, Record.submissions, IdSet.size_union, hsize, h.new own]
  own := by simp only [mem_submitters_credit, h.own]

theorem Alike.withdraw (h : r.Alike a r') (own : ∀ u ∈ users, u = a) (now : Timestamp) :
    Option.Rel (Record.Alike a) (r.withdraw users now) (r'.withdraw users now) := by
  have hempty : r.submitters \ users = ∅ ↔ r'.submitters \ users = ∅ := by
    rw [← IdSet.size_eq_zero, ← IdSet.size_eq_zero, h.left own]
  unfold Record.withdraw
  by_cases he : r.submitters \ users = ∅
  · rw [dif_pos he, dif_pos (hempty.mp he)]
    exact .none
  · rw [dif_neg he, dif_neg (mt hempty.mpr he)]
    refine .some ⟨h.fingerprint, h.duration, h.created, ?_, h.left own, ?_⟩
    · simp only [h.loss own, h.updated]
    · simp only [IdSet.mem_sdiff, h.own]

end Record

/-! ## Collections -/

namespace SceneFingerprints

/-- Collections that look alike to a user. -/
def Alike (a : Uuid) (s s' : SceneFingerprints) : Prop :=
  List.Forall₂ (Record.Alike a) s.records s'.records

variable {a : Uuid} {s s' : SceneFingerprints} {users : IdSet}

theorem Alike.get? (h : s.Alike a s') (f : Fingerprint) :
    Option.Rel (Record.Alike a) (s.get? f) (s'.get? f) := by
  have hfind : ∀ {rs rs' : List Record}, List.Forall₂ (Record.Alike a) rs rs' →
      Option.Rel (Record.Alike a) (rs.find? fun r => decide (r.fingerprint = f))
        (rs'.find? fun r => decide (r.fingerprint = f)) := by
    intro rs rs' h
    induction h with
    | nil => exact .none
    | @cons r r' rs rs' hr _ ih =>
      rw [List.find?_cons, List.find?_cons, hr.fingerprint]
      split
      · exact .some hr
      · exact ih
  exact hfind h

theorem Alike.get?_eq_none_iff (h : s.Alike a s') {f : Fingerprint} :
    s.get? f = none ↔ s'.get? f = none := by
  have hrel := h.get? f
  generalize s.get? f = o, s'.get? f = o' at hrel
  cases hrel <;> simp

theorem Alike.mapRecords (h : s.Alike a s') {change change' : Record → Record}
    (keeps : ∀ r, (change r).fingerprint = r.fingerprint)
    (keeps' : ∀ r, (change' r).fingerprint = r.fingerprint)
    (alike : ∀ r r', r.Alike a r' → (change r).Alike a (change' r')) :
    (s.mapRecords change keeps).Alike a (s'.mapRecords change' keeps') :=
  List.rel_map (fun _ _ hr => alike _ _ hr) h

theorem Alike.keep (h : s.Alike a s') (p : Fingerprint → Bool) :
    (s.keep fun r => p r.fingerprint).Alike a (s'.keep fun r => p r.fingerprint) :=
  List.rel_filter (fun _ _ hr => by simp only [hr.fingerprint]) h

theorem Alike.credit (h : s.Alike a s') (f : Fingerprint) (own : ∀ u ∈ users, u = a)
    (now : Timestamp) : (s.credit f users now).Alike a (s'.credit f users now) := by
  refine h.mapRecords _ _ fun r r' hr => ?_
  rw [hr.fingerprint]
  split
  · exact hr.credit own now
  · exact hr

theorem Alike.append (h : s.Alike a s') (r : Record) : (s.append r).Alike a (s'.append r) := by
  unfold SceneFingerprints.append
  by_cases hr : s.get? r.fingerprint = none
  · rw [dif_pos hr, dif_pos (h.get?_eq_none_iff.mp hr)]
    exact List.rel_append h (.cons (.refl a r) .nil)
  · rw [dif_neg hr, dif_neg (mt h.get?_eq_none_iff.mpr hr)]
    exact h

/-! ## What the user does -/

theorem Alike.submit (h : s.Alike a s') (claimed : Claimed) (own : ∀ u ∈ users, u = a)
    (now : Timestamp) :
    Concur Eq (fun x x' => x.1 = x'.1 ∧ x.2.1.Alike a x'.2.1 ∧ x.2.2.Alike a x'.2.2)
      (s.submit claimed users now) (s'.submit claimed users now) := by
  unfold SceneFingerprints.submit
  split
  · exact .error rfl
  · rename_i hne
    have hrel := h.get? claimed.fingerprint
    generalize s.get? claimed.fingerprint = o, s'.get? claimed.fingerprint = o' at hrel
    cases hrel with
    | none => exact .ok ⟨rfl, .refl a _, h.append _⟩
    | some hr =>
      refine .ok ⟨?_, hr.credit own now, h.credit _ own now⟩
      simp only [hr.gain own]

/-- What a withdrawal reports, by the record that it finds. -/
theorem outcome_retract (s : SceneFingerprints) (f : Fingerprint) (users : IdSet)
    (now : Timestamp) :
    (s.retract f users now).1 =
      match s.get? f with
      | none => .absent
      | some r =>
        if r.loss users = 0 then .unchanged
        else if (r.withdraw users now).isNone then .removed
        else .retracted (r.loss users) := by
  unfold SceneFingerprints.retract
  cases hr : s.get? f with
  | none => rfl
  | some r =>
    dsimp only
    by_cases hl : r.loss users = 0
    · rw [if_pos hl, if_pos hl]
    · rw [if_neg hl, if_neg hl]
      split
      · rename_i hw
        simp [hw]
      · rename_i left hw
        simp [hw]

/-- A withdrawal goes through the records, of which only one can have the fingerprint. -/
theorem records_retract (s : SceneFingerprints) (f : Fingerprint) (users : IdSet)
    (now : Timestamp) :
    (s.retract f users now).2.records =
      s.records.filterMap fun q =>
        if q.fingerprint = f then q.withdraw users now else some q := by
  have hsame : (∀ q ∈ s.records, q.fingerprint = f → q.withdraw users now = some q) →
      s.records = s.records.filterMap fun q =>
        if q.fingerprint = f then q.withdraw users now else some q := by
    intro h
    refine (List.filterMap_some.symm.trans (List.filterMap_congr fun q hq => ?_))
    split
    · rename_i hf
      exact (h q hq hf).symm
    · rfl
  unfold SceneFingerprints.retract
  split
  · rename_i hr
    exact hsame fun q hq hf => absurd hf (get?_eq_none_iff.mp hr q hq)
  · rename_i r hr
    -- the record that is found is the only one with its fingerprint, so that to put the changed
    -- record in its place is to change every record with the fingerprint
    have hone : ∀ q ∈ s.records, q.fingerprint = f → q = r := fun q hq hf =>
      Option.some.inj ((get?_of_mem hq).symm.trans (hf ▸ hr))
    by_cases hl : r.loss users = 0
    · rw [if_pos hl]
      refine hsame fun q hq hf => ?_
      rw [hone q hq hf]
      exact Record.withdraw_of_loss hl now
    · rw [if_neg hl]
      split
      · rename_i hw
        refine (congrFun List.filterMap_eq_filter s.records).symm.trans
          (List.filterMap_congr fun q hq => ?_)
        by_cases hf : q.fingerprint = f
        · obtain rfl := hone q hq hf
          simp [hf, hw, Option.guard]
        · simp [hf, Option.guard]
      · rename_i left hw
        refine (congrFun List.filterMap_eq_map s.records).symm.trans
          (List.filterMap_congr fun q hq => ?_)
        by_cases hf : q.fingerprint = f
        · obtain rfl := hone q hq hf
          simp [hf, hw]
        · have hne : q ≠ r := fun e => hf (e ▸ fingerprint_of_get? hr)
          simp [hf, hne]

theorem Alike.retract (h : s.Alike a s') (f : Fingerprint) (own : ∀ u ∈ users, u = a)
    (now : Timestamp) :
    (s.retract f users now).1 = (s'.retract f users now).1 ∧
      (s.retract f users now).2.Alike a (s'.retract f users now).2 := by
  constructor
  · rw [outcome_retract, outcome_retract]
    have hrel := h.get? f
    generalize s.get? f = o, s'.get? f = o' at hrel
    cases hrel with
    | none => rfl
    | @some r r' hr =>
      have hleft := hr.withdraw own now
      simp only [hr.loss own]
      generalize r.withdraw users now = left, r'.withdraw users now = left' at hleft
      cases hleft <;> rfl
  · unfold SceneFingerprints.Alike
    rw [records_retract, records_retract]
    refine List.rel_filterMap (fun q q' hq => ?_) h
    rw [hq.fingerprint]
    split
    · exact hq.withdraw own now
    · exact .some hq

/-- Reconciliations that stand alike. -/
structure Reconciling.Alike (a : Uuid) (state state' : Reconciling) : Prop where
  current : state.current.Alike a state'.current
  summary : state.summary = state'.summary
  seen : state.seen = state'.seen

theorem Reconciling.Alike.apply {state state' : Reconciling} (h : state.Alike a state')
    {edit : Edit} (unnamed : edit.users = none) (now : Timestamp) :
    (state.apply a now edit).Alike a (state'.apply a now edit) := by
  have own : ∀ u ∈ edit.named, u = a := by
    intro u hu
    obtain ⟨ids, hids, -⟩ := Edit.mem_named.mp hu
    rw [unnamed] at hids
    cases hids
  unfold Reconciling.apply
  have hrel := h.current.get? edit.fingerprint
  generalize state.current.get? edit.fingerprint = o,
    state'.current.get? edit.fingerprint = o' at hrel
  cases hrel with
  | none =>
    refine ⟨h.current.append _, ?_, ?_⟩
    · simp only [h.summary]
    · simp only [h.seen]
  | some hr =>
    refine ⟨h.current.credit _ own now, ?_, ?_⟩
    · simp only [h.summary, h.seen, hr.gain own]
    · simp only [h.seen]

theorem Reconciling.Alike.foldl {edits : List Edit} (unnamed : ∀ edit ∈ edits, edit.users = none)
    (now : Timestamp) {state state' : Reconciling} (h : state.Alike a state') :
    (edits.foldl (Reconciling.apply a now) state).Alike a
      (edits.foldl (Reconciling.apply a now) state') := by
  induction edits generalizing state state' with
  | nil => exact h
  | cons edit edits ih =>
    exact ih (fun edit hedit => unnamed edit (List.mem_cons_of_mem _ hedit))
      (h.apply (unnamed edit List.mem_cons_self) now)

theorem Alike.reconcile (h : s.Alike a s') {desired : List Edit}
    (unnamed : ∀ edit ∈ desired, edit.users = none) (now : Timestamp) :
    Concur Eq (fun x x' => x.1 = x'.1 ∧ x.2.Alike a x'.2)
      (s.reconcile desired a now) (s'.reconcile desired a now) := by
  unfold SceneFingerprints.reconcile
  split
  · exact .error rfl
  · have hkept := h.keep fun f => desired.any fun edit => decide (edit.fingerprint = f)
    have hlength := List.Forall₂.length_eq h
    generalize (s.keep fun r => desired.any fun edit =>
      decide (edit.fingerprint = r.fingerprint)) = kept at *
    generalize (s'.keep fun r => desired.any fun edit =>
      decide (edit.fingerprint = r.fingerprint)) = kept' at *
    have hstart : Reconciling.Alike a
        ⟨kept, ⟨0, 0, s.records.length - kept.records.length, 0⟩, []⟩
        ⟨kept', ⟨0, 0, s'.records.length - kept'.records.length, 0⟩, []⟩ :=
      ⟨hkept, by rw [hlength, List.Forall₂.length_eq hkept], rfl⟩
    have hfinal := hstart.foldl unnamed now
    exact .ok ⟨hfinal.summary, hfinal.current⟩

end SceneFingerprints

/-! ## Stored lists -/

/-- Stored lists that look alike to a user, and name every fingerprint once. -/
structure StoredAlike (a : Uuid) (rs rs' : List Record) : Prop where
  alike : List.Forall₂ (Record.Alike a) rs rs'
  distinct : rs.Pairwise fun r q => r.fingerprint ≠ q.fingerprint

variable {a : Uuid} {rs rs' : List Record}

theorem StoredAlike.fingerprints (h : StoredAlike a rs rs') :
    rs.map (·.fingerprint) = rs'.map (·.fingerprint) := by
  have hrel : List.Forall₂ Eq (rs.map (·.fingerprint)) (rs'.map (·.fingerprint)) :=
    List.rel_map (fun _ _ hr => hr.fingerprint) h.alike
  rwa [List.forall₂_eq_eq_eq] at hrel

/-- They stand for collections that look alike. -/
theorem StoredAlike.ofRecords (h : StoredAlike a rs rs') :
    (SceneFingerprints.ofRecords rs).Alike a (.ofRecords rs') := by
  have hdistinct : rs'.Pairwise fun r q => r.fingerprint ≠ q.fingerprint := by
    have hnodup : (rs.map (·.fingerprint)).Nodup := List.pairwise_map.mpr h.distinct
    rw [h.fingerprints] at hnodup
    exact List.pairwise_map.mp hnodup
  unfold SceneFingerprints.Alike
  rw [SceneFingerprints.records_ofRecords h.distinct, SceneFingerprints.records_ofRecords hdistinct]
  exact h.alike

/-- What a change is to store looks alike if the collections do. -/
theorem SceneFingerprints.Alike.stored {s s' : SceneFingerprints} (h : s.Alike a s') :
    StoredAlike a s.records s'.records :=
  ⟨h, s.distinct⟩

end SceneCatalog
