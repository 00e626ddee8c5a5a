import SceneCatalog.Proofs.Consensus.Plan
import SceneCatalog.Proofs.Fingerprints.Reconcile

/-!
The state of a scene as a function of what has been done to it. Main statement: after any history
of successful changes, the submitters of a fingerprint are the users whom some change credited and
no later change withdrew, and the record of the fingerprint is the one that was made when it was
last without one.
-/
namespace SceneCatalog

/-! ## Histories -/

/-- The collection of a scene after a change, if the change succeeds. -/
def Change.applied (now : Timestamp) (current : SceneFingerprints) :
    Change → Except CatalogError SceneFingerprints
  | .submit s =>
    (resolveUsers s.acting s.users).bind fun users =>
      (current.submit s.claimed users now).map fun (_, _, after) => after
  | .retract r =>
    (resolveUsers r.acting r.users).map fun users => (current.retract r.fingerprint users now).2
  | .reconcile r => (current.reconcile r.desired r.acting now).map fun (_, after) => after

/-- The collection after changes that all succeed, starting from the empty one. -/
def collectionAfter (ops : List (Change × Timestamp)) : Except CatalogError SceneFingerprints :=
  ops.foldlM (fun current op => op.1.applied op.2 current) ∅

/-- A change credits a user for a fingerprint: it submits the fingerprint for the user, or names
the user in an entry for it, or makes its record for want of one, by the hand of the user and from
a first entry that names no users. -/
def Change.Credits (before : SceneFingerprints) (f : Fingerprint) (u : Uuid) : Change → Prop
  | .submit s =>
    s.claimed.fingerprint = f ∧ ∃ users, resolveUsers s.acting s.users = .ok users ∧ u ∈ users
  | .retract _ => False
  | .reconcile r =>
    (∃ edit ∈ r.desired, edit.fingerprint = f ∧ ∃ ids, edit.users = some ids ∧ u ∈ ids) ∨
      (before.get? f = none ∧ u = r.acting ∧
        ∃ first, r.desired.find? (·.fingerprint = f) = some first ∧ first.users = none)

/-- A change withdraws a user from a fingerprint: it takes the user out, or does not want the
fingerprint. -/
def Change.Withdraws (f : Fingerprint) (u : Uuid) : Change → Prop
  | .submit _ => False
  | .retract r =>
    r.fingerprint = f ∧ ∃ users, resolveUsers r.acting r.users = .ok users ∧ u ∈ users
  | .reconcile r => ∀ edit ∈ r.desired, edit.fingerprint ≠ f

/-- The duration that a change states for a fingerprint. -/
def Change.stated? (f : Fingerprint) : Change → Option UInt32
  | .submit s => if s.claimed.fingerprint = f then some s.claimed.duration else none
  | .retract _ => none
  | .reconcile r => (r.desired.find? (·.fingerprint = f)).map (·.claimed.duration)

/-- Some change credited the user for the fingerprint, and no later one withdrew it. -/
def Standing (ops : List (Change × Timestamp)) (f : Fingerprint) (u : Uuid) : Prop :=
  ∃ earlier op later before, ops = earlier ++ op :: later ∧ collectionAfter earlier = .ok before ∧
    op.1.Credits before f u ∧ ∀ op' ∈ later, ¬ op'.1.Withdraws f u

/-- The change that made the record of the fingerprint after it was last without one stated this
duration, at this time. -/
def Founded (ops : List (Change × Timestamp)) (f : Fingerprint) (duration : UInt32)
    (created : Timestamp) : Prop :=
  ∃ earlier op later before, ops = earlier ++ op :: later ∧ collectionAfter earlier = .ok before ∧
    before.get? f = none ∧ op.1.stated? f = some duration ∧ op.2 = created ∧
      ∀ more, more <+: later → ∃ current, collectionAfter (earlier ++ op :: more) = .ok current ∧
        (current.get? f).isSome

/-- What a history says about the collection that it leads to. -/
structure HistoryLaw (ops : List (Change × Timestamp)) (final : SceneFingerprints) : Prop where
  submitters : ∀ f u, (∃ r, final.get? f = some r ∧ u ∈ r.submitters) ↔ Standing ops f u
  present : ∀ f, (final.get? f).isSome ↔ ∃ u, Standing ops f u
  counted : ∀ f r, final.get? f = some r → r.submissions = {u | Standing ops f u}.ncard
  founded : ∀ f r, final.get? f = some r → Founded ops f r.duration r.created

/-! ## One change -/

variable {change : Change} {now : Timestamp} {s s' : SceneFingerprints} {f : Fingerprint}

/-- What a change makes of one fingerprint. -/
inductive Evolves (change : Change) (now : Timestamp) (s s' : SceneFingerprints)
    (f : Fingerprint) : Prop
  /-- There is no record afterwards: whoever was a submitter has been withdrawn. -/
  | without (gone : s'.get? f = none)
      (withdrawn : ∀ r u, s.get? f = some r → u ∈ r.submitters → change.Withdraws f u)
      (uncredited : ∀ u, ¬ change.Credits s f u)
  /-- There is a record, and there was one. -/
  | found (r r' : Record) (before : s.get? f = some r) (after : s'.get? f = some r')
      (duration : r'.duration = r.duration) (created : r'.created = r.created)
      (submitters : ∀ u, u ∈ r'.submitters ↔
        (u ∈ r.submitters ∧ ¬ change.Withdraws f u) ∨ change.Credits s f u)
  /-- The record has been made. -/
  | made (r' : Record) (before : s.get? f = none) (after : s'.get? f = some r')
      (duration : change.stated? f = some r'.duration) (created : r'.created = now)
      (submitters : ∀ u, u ∈ r'.submitters ↔ change.Credits s f u)

/-- A change that is not about a fingerprint. -/
theorem Evolves.of_eq (same : s'.get? f = s.get? f) (keeps : ∀ u, ¬ change.Withdraws f u)
    (adds : ∀ u, ¬ change.Credits s f u) : Evolves change now s s' f := by
  cases hr : s.get? f with
  | none => exact .without (same.trans hr) (fun r u h => by rw [hr] at h; cases h) adds
  | some r =>
    refine .found r r hr (same.trans hr) rfl rfl fun u => ?_
    constructor
    · exact fun hu => Or.inl ⟨hu, keeps u⟩
    · rintro (⟨hu, -⟩ | hc)
      · exact hu
      · exact absurd hc (adds u)

theorem Submission.evolves {submission : Submission}
    (h : (Change.submit submission).applied now s = .ok s') (f : Fingerprint) :
    Evolves (.submit submission) now s s' f := by
  obtain ⟨users, hu, h⟩ := of_bind_ok h
  obtain ⟨⟨outcome, record, after⟩, ho, rfl⟩ := of_map_ok h
  obtain ⟨hother, hself, hrecord⟩ := SceneFingerprints.submit_spec ho
  have hcredits : ∀ u, (Change.submit submission).Credits s submission.claimed.fingerprint u ↔
      u ∈ users := by
    intro u
    simp [Change.Credits, hu]
  by_cases hf : submission.claimed.fingerprint = f
  · subst hf
    rcases hrecord with ⟨r, hr, rfl⟩ | ⟨hr, hne, rfl⟩
    · refine .found r _ hr hself rfl rfl fun u => ?_
      rw [Record.mem_submitters_credit, hcredits]
      simp [Change.Withdraws]
    · refine .made _ hr hself ?_ rfl fun u => ?_
      · simp [Change.stated?, Record.create]
      · rw [hcredits]
        rfl
  · exact .of_eq (hother f (Ne.symm hf)) (fun u hw => hw) fun u hc => hf hc.1

theorem Retraction.evolves {retraction : Retraction}
    (h : (Change.retract retraction).applied now s = .ok s') (f : Fingerprint) :
    Evolves (.retract retraction) now s s' f := by
  obtain ⟨users, hu, rfl⟩ := of_map_ok h
  have hafter := SceneFingerprints.get?_retract s retraction.fingerprint users now f
  by_cases hf : retraction.fingerprint = f
  · subst hf
    rw [if_pos rfl] at hafter
    have hwithdraws : ∀ u, (Change.retract retraction).Withdraws retraction.fingerprint u ↔
        u ∈ users := by
      intro u
      simp [Change.Withdraws, hu]
    cases hr : s.get? retraction.fingerprint with
    | none =>
      rw [hr] at hafter
      exact .without hafter (fun r u h => by rw [hr] at h; cases h) fun u hc => hc
    | some r =>
      rw [hr] at hafter
      cases hw : r.withdraw users now with
      | none =>
        refine .without (hafter.trans hw) (fun q u hq hmem => ?_) fun u hc => hc
        rw [hr] at hq
        cases hq
        exact (hwithdraws u).mpr (Record.mem_of_withdraw_none hw hmem)
      | some left =>
        obtain ⟨hduration, hcreated, hsub⟩ := Record.of_withdraw hw
        refine .found r left hr (hafter.trans hw) hduration hcreated fun u => ?_
        rw [hsub, IdSet.mem_sdiff, hwithdraws]
        simp [Change.Credits]
  · rw [if_neg (Ne.symm hf)] at hafter
    exact .of_eq hafter (fun u hw => hf hw.1) fun u hc => hc

theorem Reconciliation.evolves {reconciliation : Reconciliation}
    (h : (Change.reconcile reconciliation).applied now s = .ok s') (f : Fingerprint) :
    Evolves (.reconcile reconciliation) now s s' f := by
  obtain ⟨⟨summary, after⟩, ho, rfl⟩ := of_map_ok h
  rcases SceneFingerprints.reconcile_spec ho f with ⟨hnone, hgone⟩ |
    ⟨first, r', hfirst, hr', ⟨r, hr, hduration, hcreated, hsub⟩ | ⟨hr, hduration, hcreated, hsub⟩⟩
  · refine .without hgone (fun _ _ _ _ => hnone) fun u hc => ?_
    rcases hc with ⟨edit, hedit, hf, -⟩ | ⟨-, -, first, hfirst, -⟩
    · exact hnone edit hedit hf
    · exact hnone first (List.mem_of_find?_eq_some hfirst) (by simpa using List.find?_some hfirst)
  · have hwanted : ∀ u, ¬ (Change.reconcile reconciliation).Withdraws f u := fun u hw =>
      hw first (List.mem_of_find?_eq_some hfirst) (by simpa using List.find?_some hfirst)
    refine .found r r' hr hr' hduration hcreated fun u => ?_
    rw [hsub]
    simp [Change.Credits, hr, hwanted, Edit.mem_named]
  · refine .made r' hr hr' ?_ hcreated fun u => ?_
    · simp [Change.stated?, hfirst, hduration]
    · rw [hsub]
      simp [Change.Credits, hr, hfirst, Edit.mem_named, or_comm]

theorem Change.evolves (h : change.applied now s = .ok s') (f : Fingerprint) :
    Evolves change now s s' f := by
  cases change with
  | submit submission => exact Submission.evolves h f
  | retract retraction => exact Retraction.evolves h f
  | reconcile reconciliation => exact Reconciliation.evolves h f

/-- Who is a submitter after a change: those who were and are not withdrawn, and those who are
credited. -/
theorem Change.submitters_iff (h : change.applied now s = .ok s') (f : Fingerprint) (u : Uuid) :
    (∃ r, s'.get? f = some r ∧ u ∈ r.submitters) ↔
      ((∃ r, s.get? f = some r ∧ u ∈ r.submitters) ∧ ¬ change.Withdraws f u) ∨
        change.Credits s f u := by
  cases Change.evolves h f with
  | without gone withdrawn uncredited =>
    rw [gone]
    constructor
    · rintro ⟨r, hr, -⟩
      cases hr
    · rintro (⟨⟨r, hr, hu⟩, hnot⟩ | hc)
      · exact absurd (withdrawn r u hr hu) hnot
      · exact absurd hc (uncredited u)
  | found r r' before after duration created submitters =>
    simp [before, after, submitters]
  | made r' before after duration created submitters =>
    simp [before, after, submitters]

/-! ## One change more -/

variable {ops : List (Change × Timestamp)} {op : Change × Timestamp} {u : Uuid}

theorem collectionAfter_snoc (ops : List (Change × Timestamp)) (op : Change × Timestamp) :
    collectionAfter (ops ++ [op]) =
      (collectionAfter ops).bind fun current => op.1.applied op.2 current := by
  rw [collectionAfter, List.foldlM_append]
  change ((collectionAfter ops).bind fun current =>
    (op.1.applied op.2 current).bind fun after => .ok after) = _
  congr 1
  funext current
  cases op.1.applied op.2 current <;> rfl

theorem collectionAfter_snoc_ok (h : collectionAfter (ops ++ [op]) = .ok s') :
    ∃ s, collectionAfter ops = .ok s ∧ op.1.applied op.2 s = .ok s' := by
  rw [collectionAfter_snoc] at h
  exact of_bind_ok h

/-- Who stands after one change more: those who stood and are not withdrawn, and those who are
credited. -/
theorem standing_snoc (hs : collectionAfter ops = .ok s) :
    Standing (ops ++ [op]) f u ↔
      (Standing ops f u ∧ ¬ op.1.Withdraws f u) ∨ op.1.Credits s f u := by
  constructor
  · -- the change that credits the user is the last one, or there is one more after it
    rintro ⟨earlier, op', later, before, he, hb, hc, hw⟩
    rcases List.eq_nil_or_concat later with rfl | ⟨later', last, rfl⟩
    · obtain ⟨rfl, hop⟩ := List.append_inj' he rfl
      cases hop
      rw [hs] at hb
      cases hb
      exact Or.inr hc
    · rw [List.concat_eq_append, ← List.cons_append, ← List.append_assoc] at he
      obtain ⟨rfl, hop⟩ := List.append_inj' he rfl
      cases hop
      refine Or.inl ⟨⟨earlier, op', later', before, rfl, hb, hc, fun o ho => hw o ?_⟩, hw _ ?_⟩
      · simp [ho]
      · simp
  · rintro (⟨⟨earlier, op', later, before, rfl, hb, hc, hw⟩, hnot⟩ | hc)
    · refine ⟨earlier, op', later ++ [op], before, by simp, hb, hc, fun o ho => ?_⟩
      rcases List.mem_append.mp ho with ho | ho
      · exact hw o ho
      · rw [List.mem_singleton.mp ho]
        exact hnot
    · exact ⟨ops, op, [], s, rfl, hs, hc, fun o ho => absurd ho List.not_mem_nil⟩

/-- A record that is found is the one that was made when it was. -/
theorem Founded.snoc {duration : UInt32} {created : Timestamp}
    (h : Founded ops f duration created) (hs : collectionAfter (ops ++ [op]) = .ok s')
    (there : (s'.get? f).isSome) : Founded (ops ++ [op]) f duration created := by
  obtain ⟨earlier, op', later, before, rfl, hb, habsent, hstated, hcreated, hkept⟩ := h
  refine ⟨earlier, op', later ++ [op], before, by simp, hb, habsent, hstated, hcreated, ?_⟩
  intro more hmore
  rcases List.prefix_concat_iff.mp hmore with rfl | hmore
  · rw [List.append_assoc, List.cons_append] at hs
    exact ⟨s', hs, there⟩
  · exact hkept more hmore

/-! ## The law -/

theorem submitters_iff_standing (h : collectionAfter ops = .ok s) (f : Fingerprint) (u : Uuid) :
    (∃ r, s.get? f = some r ∧ u ∈ r.submitters) ↔ Standing ops f u := by
  induction ops using List.reverseRecOn generalizing s with
  | nil =>
    cases h
    constructor
    · rintro ⟨r, hr, -⟩
      cases hr
    · rintro ⟨earlier, op, later, before, he, -⟩
      exact absurd he (by simp)
  | append_singleton ops op ih =>
    obtain ⟨s₀, hs₀, happlied⟩ := collectionAfter_snoc_ok h
    rw [standing_snoc hs₀, ← ih hs₀]
    exact Change.submitters_iff happlied f u

theorem founded_of_get? (h : collectionAfter ops = .ok s) {r : Record} (hr : s.get? f = some r) :
    Founded ops f r.duration r.created := by
  induction ops using List.reverseRecOn generalizing s r with
  | nil =>
    cases h
    cases hr
  | append_singleton ops op ih =>
    obtain ⟨s₀, hs₀, happlied⟩ := collectionAfter_snoc_ok h
    cases Change.evolves happlied f with
    | without gone withdrawn uncredited =>
      rw [hr] at gone
      cases gone
    | found r₀ r' before after duration created submitters =>
      rw [hr] at after
      cases after
      rw [duration, created]
      exact (ih hs₀ before).snoc h (by rw [hr]; rfl)
    | made r' before after duration created submitters =>
      rw [hr] at after
      cases after
      refine ⟨ops, op, [], s₀, rfl, hs₀, before, duration, created.symm, fun more hmore => ?_⟩
      rw [List.prefix_nil.mp hmore]
      exact ⟨s, h, by rw [hr]; rfl⟩

/-- **The law of history.** After any finite sequence of successful changes of a scene that starts
with nothing, who is a submitter of a fingerprint, whether it has a record, how many submissions
the record counts, and its duration and time of creation, are told by the sequence. -/
theorem history_law {ops : List (Change × Timestamp)} {final : SceneFingerprints}
    (h : collectionAfter ops = .ok final) : HistoryLaw ops final := by
  have hstanding := submitters_iff_standing h
  refine ⟨hstanding, fun f => ?_, fun f r hr => ?_, fun f r hr => founded_of_get? h hr⟩
  · constructor
    · intro hsome
      obtain ⟨r, hr⟩ := Option.isSome_iff_exists.mp hsome
      obtain ⟨u, hu⟩ := IdSet.exists_mem_of_ne_empty r.backed
      exact ⟨u, (hstanding f u).mp ⟨r, hr, hu⟩⟩
    · rintro ⟨u, hu⟩
      obtain ⟨r, hr, -⟩ := (hstanding f u).mpr hu
      rw [hr]
      rfl
  · have hset : {u | u ∈ r.submitters} = {u | Standing ops f u} := by
      ext u
      change u ∈ r.submitters ↔ Standing ops f u
      rw [← hstanding f u, hr]
      simp
    rw [Record.submissions, IdSet.size_eq_ncard, hset]

/-- A history in which a record is made and corroborated, dropped, made again with another duration
and by two entries, and left by one of its users. -/
def remade : List (Change × Timestamp) :=
  let f := Fingerprint.sample
  let scene := Uuid.ofNat 0
  let user := Uuid.ofNat 1
  let other := Uuid.ofNat 2
  [(.submit ⟨scene, ⟨f, 10⟩, user, none⟩, ⟨1, 0⟩),
    (.submit ⟨scene, ⟨f, 12⟩, user, some [other, user]⟩, ⟨2, 0⟩),
    (.reconcile ⟨scene, [], user⟩, ⟨3, 0⟩),
    (.reconcile ⟨scene, [⟨⟨f, 20⟩, none⟩, ⟨⟨f, 30⟩, some [other]⟩], user⟩, ⟨4, 0⟩),
    (.retract ⟨scene, f, user, none⟩, ⟨5, 0⟩)]

theorem history_law_remade :
    ∃ final r, collectionAfter remade = .ok final ∧ final.get? .sample = some r ∧
      r.submitters = .singleton (.ofNat 2) ∧ r.duration = 20 ∧ r.created = ⟨4, 0⟩ ∧
      HistoryLaw remade final :=
  ⟨_, _, rfl, rfl, rfl, rfl, rfl, history_law rfl⟩

end SceneCatalog
