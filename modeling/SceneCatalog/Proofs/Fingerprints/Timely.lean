import SceneCatalog.Proofs.Consensus.Plan

/-!
The times of the records of a collection. A list of records is timely at a point in time if it is
in the order of creation and no record is created after its last update or updated after that
time. Every operation keeps a collection timely at the time at which it happens.
-/
namespace SceneCatalog

/-- The records are in the order of their creation, and none of their times lies beyond `now`. -/
structure Timely (now : Timestamp) (records : List Record) : Prop where
  order : records.Pairwise fun r s => r.created ≤ s.created
  span : ∀ r ∈ records, r.created ≤ r.updated ∧ r.updated ≤ now

variable {now later : Timestamp} {records : List Record}

theorem timely_nil (now : Timestamp) : Timely now [] := ⟨List.Pairwise.nil, nofun⟩

theorem Timely.mono (h : Timely now records) (hle : now ≤ later) : Timely later records :=
  ⟨h.order, fun r hr => ⟨(h.span r hr).1, Timestamp.le_trans (h.span r hr).2 hle⟩⟩

theorem Timely.sublist {kept : List Record} (h : Timely now records)
    (hsub : List.Sublist kept records) : Timely now kept :=
  ⟨h.order.sublist hsub, fun r hr => h.span r (hsub.subset hr)⟩

/-- Updating records without moving their creation. -/
theorem Timely.map (h : Timely now records) {change : Record → Record}
    (created : ∀ r ∈ records, (change r).created = r.created)
    (updated : ∀ r ∈ records, (change r).updated = r.updated ∨ (change r).updated = now) :
    Timely now (records.map change) := by
  constructor
  · rw [List.pairwise_map]
    refine h.order.imp_of_mem fun {r s} hr hs hle => ?_
    rw [created r hr, created s hs]
    exact hle
  · intro r' hr'
    obtain ⟨r, hr, rfl⟩ := List.mem_map.mp hr'
    obtain ⟨hspan, hnow⟩ := h.span r hr
    rw [created r hr]
    rcases updated r hr with he | he
    · rw [he]
      exact ⟨hspan, hnow⟩
    · rw [he]
      exact ⟨Timestamp.le_trans hspan hnow, Timestamp.le_refl now⟩

/-- A record made now comes last. -/
theorem Timely.snoc (h : Timely now records) {r : Record} (created : r.created = now)
    (updated : r.updated = now) : Timely now (records ++ [r]) := by
  constructor
  · rw [List.pairwise_append]
    refine ⟨h.order, List.pairwise_singleton .., fun q hq p hp => ?_⟩
    obtain ⟨hspan, hnow⟩ := h.span q hq
    rw [List.mem_singleton.mp hp, created]
    exact Timestamp.le_trans hspan hnow
  · intro q hq
    rcases List.mem_append.mp hq with hq | hq
    · exact h.span q hq
    · rw [List.mem_singleton.mp hq, created, updated]
      exact ⟨Timestamp.le_refl now, Timestamp.le_refl now⟩

namespace SceneFingerprints

variable {s : SceneFingerprints}

/-! ## The operations -/

theorem timely_keep (h : Timely now s.records) (p : Record → Bool) :
    Timely now (s.keep p).records :=
  h.sublist List.filter_sublist

theorem timely_credit (h : Timely now s.records) (f : Fingerprint) (users : IdSet) :
    Timely now (s.credit f users now).records := by
  refine h.map (fun r _ => ?_) fun r _ => ?_
  · split
    · rfl
    · rfl
  · split
    · by_cases hg : r.gain users = 0
      · exact Or.inl (if_pos hg)
      · exact Or.inr (if_neg hg)
    · exact Or.inl rfl

theorem timely_append (h : Timely now s.records) {r : Record} (created : r.created = now)
    (updated : r.updated = now) : Timely now (s.append r).records := by
  unfold append
  split
  · exact h.snoc created updated
  · exact h

theorem timely_submit (h : Timely now s.records) {claimed : Claimed} {users : IdSet}
    {outcome : SubmitOutcome} {record : Record} {after : SceneFingerprints}
    (hs : s.submit claimed users now = .ok (outcome, record, after)) :
    Timely now after.records := by
  unfold submit at hs
  split at hs
  · cases hs
  · split at hs
    · cases hs
      exact timely_credit h _ _
    · cases hs
      exact timely_append h rfl rfl

theorem timely_retract (h : Timely now s.records) (f : Fingerprint) (users : IdSet) :
    Timely now (s.retract f users now).2.records := by
  unfold retract
  split
  · exact h
  · rename_i r _
    by_cases hl : r.loss users = 0
    · rw [if_pos hl]
      exact h
    · rw [if_neg hl]
      split
      · exact timely_keep h _
      · rename_i left hw
        unfold Record.withdraw at hw
        split at hw
        · cases hw
        · cases hw
          refine h.map (fun q _ => ?_) fun q _ => ?_
          · by_cases hq : q = r <;> simp [hq]
          · by_cases hq : q = r
            · rw [if_pos hq]
              exact Or.inr rfl
            · rw [if_neg hq]
              exact Or.inl rfl

theorem timely_apply {state : Reconciling} (h : Timely now state.current.records) (acting : Uuid)
    (edit : Edit) : Timely now (state.apply acting now edit).current.records := by
  unfold Reconciling.apply
  split
  · exact timely_credit h _ _
  · exact timely_append h rfl rfl

theorem timely_reconcile (h : Timely now s.records) {desired : List Edit} {acting : Uuid}
    {summary : Summary} {after : SceneFingerprints}
    (hs : s.reconcile desired acting now = .ok (summary, after)) : Timely now after.records := by
  have hfold : ∀ (edits : List Edit) (state : Reconciling), Timely now state.current.records →
      Timely now (edits.foldl (Reconciling.apply acting now) state).current.records := by
    intro edits
    induction edits with
    | nil => exact fun state hstate => hstate
    | cons edit edits ih => exact fun state hstate => ih _ (timely_apply hstate acting edit)
  unfold reconcile at hs
  split at hs
  · cases hs
  · cases hs
    exact hfold desired _ (timely_keep h _)

end SceneFingerprints

/-- What a change writes is timely at the time of the change, if what it found was. -/
theorem Change.timely_plan {change : Change} {effect : SceneFingerprints → Effect ChangeReply}
    (hp : change.plan now = .ok effect) {current after : SceneFingerprints} {reply : ChangeReply}
    (he : effect current = .ok (reply, some after)) (h : Timely now current.records) :
    Timely now after.records := by
  have hwritten : ∀ {wrote : Bool} {found : SceneFingerprints},
      (if wrote then some found else none) = some after → found = after := by
    intro wrote found hw
    cases wrote with
    | true => exact Option.some.inj hw
    | false => cases hw
  cases change with
  | submit s =>
    obtain ⟨users, -, rfl⟩ := of_map_ok hp
    obtain ⟨⟨submitted, after?⟩, he, hreply⟩ := of_map_ok he
    obtain ⟨⟨outcome, record, found⟩, hs, hafter⟩ := of_map_ok he
    obtain rfl : after? = some after := congrArg Prod.snd hreply
    rw [← hwritten (congrArg Prod.snd hafter)]
    exact SceneFingerprints.timely_submit h hs
  | retract r =>
    obtain ⟨users, -, rfl⟩ := of_map_ok hp
    obtain ⟨⟨retracted, after?⟩, hafter, hreply⟩ := of_map_ok he
    obtain rfl : after? = some after := congrArg Prod.snd hreply
    rw [← hwritten (congrArg Prod.snd (Except.ok.inj hafter))]
    exact SceneFingerprints.timely_retract h r.fingerprint users
  | reconcile r =>
    simp only [plan] at hp
    split at hp
    · cases hp
    · cases hp
      obtain ⟨⟨reconciled, after?⟩, he, hreply⟩ := of_map_ok he
      obtain ⟨⟨summary, found⟩, hs, hafter⟩ := of_map_ok he
      obtain rfl : after? = some after := congrArg Prod.snd hreply
      rw [← hwritten (congrArg Prod.snd hafter)]
      exact SceneFingerprints.timely_reconcile h hs

end SceneCatalog
