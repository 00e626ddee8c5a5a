import Mathlib.Data.List.Perm.Subperm
import SceneCatalog.Proofs.Fingerprints.Outcome

/-!
What a reconciliation counts as corroborated. It counts entries, where the records that have grown
are what one would count. Main statement: the two numbers are the same exactly if no record takes
new users from two entries, and none that is made on the way takes any from a later entry.
-/
namespace SceneCatalog.SceneFingerprints

variable {s after : SceneFingerprints} {desired done rest : List Edit} {edit : Edit}
  {acting u : Uuid} {now : Timestamp} {summary : Summary} {f : Fingerprint} {r : Record}

/-! ## Entries that bring somebody -/

/-- The submitters that a record starts from, if there is one when the entries `done` have been
dealt with: those from before, or the founders that the first of these entries gave it. -/
def origin? (s : SceneFingerprints) (acting : Uuid) (done : List Edit) (f : Fingerprint) :
    Option IdSet :=
  match s.get? f with
  | some r => some r.submitters
  | none => (done.find? fun edit => decide (edit.fingerprint = f)).map (·.founders acting)

/-- Whether an entry finds a record, when the entries `done` have been dealt with, and names a user
who is none of its submitters by then. -/
def brings (s : SceneFingerprints) (acting : Uuid) (done : List Edit) (edit : Edit) : Bool :=
  (s.origin? acting done edit.fingerprint).any fun users =>
    edit.named.toList.any fun u => !decide (u ∈ users) &&
      !done.any fun other => decide (other.fingerprint = edit.fingerprint ∧ u ∈ other.named)

/-- The entries of `rest` that bring somebody, when the entries `done` come before them. -/
def bringing (s : SceneFingerprints) (acting : Uuid) (done : List Edit) : List Edit → List Edit
  | [] => []
  | edit :: rest =>
    (if s.brings acting done edit then [edit] else []) ++ bringing s acting (done ++ [edit]) rest

/-- The records that are still there afterwards and have more submitters than before. -/
def grown (s after : SceneFingerprints) : List Record :=
  s.records.filter fun r => (after.get? r.fingerprint).any fun r' =>
    r.submitters.isSubset r'.submitters && decide (r'.submitters ≠ r.submitters)

theorem brings_iff :
    s.brings acting done edit = true ↔ ∃ users,
      s.origin? acting done edit.fingerprint = some users ∧
        ∃ u ∈ edit.named, u ∉ users ∧ ¬ Edit.NamedFor done edit.fingerprint u := by
  simp [brings, namedFor_iff, Option.any_eq_true, IdSet.mem_def]

theorem bringing_sublist (s : SceneFingerprints) (acting : Uuid) (done rest : List Edit) :
    (s.bringing acting done rest).Sublist rest := by
  induction rest generalizing done with
  | nil => exact .slnil
  | cons edit rest ih =>
    rw [bringing]
    split
    · exact (ih _).cons_cons edit
    · exact (ih _).cons edit

theorem mem_bringing (h : edit ∈ s.bringing acting done rest) :
    ∃ more others, rest = more ++ edit :: others ∧ s.brings acting (done ++ more) edit = true := by
  induction rest generalizing done with
  | nil => cases h
  | cons e rest ih =>
    rw [bringing, List.mem_append] at h
    rcases h with h | h
    · split at h
      · rename_i hbrings
        obtain rfl := List.mem_singleton.mp h
        exact ⟨[], rest, rfl, by rwa [List.append_nil]⟩
      · cases h
    · obtain ⟨more, others, rfl, hbrings⟩ := ih h
      exact ⟨e :: more, others, rfl, by rwa [List.append_assoc] at hbrings⟩

/-! ## What an entry finds -/

/-- Where a reconciliation stands when the entries `done` have been dealt with. -/
def reached (s : SceneFingerprints) (desired : List Edit) (acting : Uuid) (now : Timestamp)
    (done : List Edit) : Reconciling :=
  done.foldl (Reconciling.apply acting now) (s.begun desired)

theorem reached_snoc (s : SceneFingerprints) (desired : List Edit) (acting : Uuid)
    (now : Timestamp) (done : List Edit) (edit : Edit) :
    s.reached desired acting now (done ++ [edit]) =
      (s.reached desired acting now done).apply acting now edit :=
  List.foldl_concat ..

/-- Who is named with an entry is among the founders of a record that it makes. -/
theorem mem_founders_of_named (h : u ∈ edit.named) : u ∈ edit.founders acting := by
  obtain ⟨ids, hids, hu⟩ := Edit.mem_named.mp h
  cases ids with
  | nil => cases hu
  | cons user users => simpa [Edit.founders, hids] using hu

/-- The record of a wanted fingerprint on the way: its submitters are those that it starts from and
those that have been named for it. -/
theorem submitters_reached (s : SceneFingerprints) (acting : Uuid) (now : Timestamp)
    (done : List Edit) (wanted : Edit.wants desired f = true) :
    match (s.reached desired acting now done).current.get? f with
    | none => s.origin? acting done f = none
    | some r => ∃ users, s.origin? acting done f = some users ∧
        ∀ u, u ∈ r.submitters ↔ u ∈ users ∨ Edit.NamedFor done f u := by
  have hbegun : (s.begun desired).current.get? f = s.get? f := by
    rw [begun, get?_keep s (Edit.wants desired), if_pos wanted]
  have hnamed : ∀ u, (∃ edit ∈ done.filter (·.fingerprint = f), u ∈ edit.named) ↔
      Edit.NamedFor done f u := by
    intro u
    simp [namedFor_iff, and_assoc]
  rw [reached, get?_foldl_apply, hbegun]
  cases hr : s.get? f with
  | some r =>
    obtain ⟨r', hr', -, -, hmem⟩ := foldl_touch_some acting now (done.filter (·.fingerprint = f)) r
    rw [hr']
    refine ⟨r.submitters, ?_, fun u => ?_⟩
    · rw [origin?, hr]
    · rw [hmem, hnamed]
  | none =>
    have horigin : s.origin? acting done f =
        (done.filter (·.fingerprint = f)).head?.map (·.founders acting) := by
      rw [origin?, hr, List.head?_filter]
    -- the first of the entries makes the record, the others add to it
    cases he : done.filter (·.fingerprint = f) with
    | nil =>
      rw [he] at horigin
      exact horigin
    | cons first others =>
      rw [he] at horigin
      obtain ⟨r', hr', -, -, hmem⟩ := foldl_touch_some acting now others
        (first.touch acting now none)
      rw [List.foldl_cons, hr']
      refine ⟨first.founders acting, horigin, fun u => ?_⟩
      have hmade : u ∈ (first.touch acting now none).submitters ↔ u ∈ first.founders acting :=
        Iff.rfl
      rw [hmem, hmade, ← hnamed, he, List.exists_mem_cons_iff, ← or_assoc,
        or_iff_left_of_imp (b := u ∈ first.named) mem_founders_of_named]

/-! ## Counting entries -/

/-- An entry counts as corroborating if it brings somebody. -/
theorem corroborated_apply (now : Timestamp)
    (wanted : Edit.wants desired edit.fingerprint = true) :
    ((s.reached desired acting now done).apply acting now edit).summary.corroborated =
      (s.reached desired acting now done).summary.corroborated +
        if s.brings acting done edit then 1 else 0 := by
  have hfound := submitters_reached s acting now done wanted
  unfold Reconciling.apply
  cases hr : (s.reached desired acting now done).current.get? edit.fingerprint with
  | none =>
    rw [hr] at hfound
    have hnot : ¬ s.brings acting done edit = true := by
      rw [brings_iff, hfound]
      rintro ⟨users, ⟨⟩, -⟩
    rw [if_neg hnot]
    rfl
  | some r =>
    rw [hr] at hfound
    obtain ⟨users, horigin, hmem⟩ := hfound
    have hgain : 0 < r.gain edit.named ↔ s.brings acting done edit = true := by
      rw [Record.gain_pos_iff, brings_iff, horigin]
      simp only [hmem, not_or, Option.some.injEq, exists_eq_left']
    simp only [hgain]

theorem corroborated_reached (now : Timestamp)
    (wanted : ∀ edit ∈ rest, Edit.wants desired edit.fingerprint = true) (done : List Edit) :
    (s.reached desired acting now (done ++ rest)).summary.corroborated =
      (s.reached desired acting now done).summary.corroborated +
        (s.bringing acting done rest).length := by
  induction rest generalizing done with
  | nil =>
    rw [List.append_nil]
    rfl
  | cons edit rest ih =>
    have hrest := ih (fun e he => wanted e (List.mem_cons_of_mem edit he)) (done ++ [edit])
    rw [List.append_assoc, List.singleton_append, reached_snoc,
      corroborated_apply now (wanted edit List.mem_cons_self)] at hrest
    rw [hrest, bringing, List.length_append]
    split <;> simp only [List.length_cons, List.length_nil] <;> omega

/-! ## Counting records -/

/-- A record grows if a user is named for it who is no submitter. -/
theorem mem_grown_iff (h : s.reconcile desired acting now = .ok (summary, after))
    (hr : r ∈ s.records) :
    r ∈ s.grown after ↔ ∃ u, Edit.NamedFor desired r.fingerprint u ∧ u ∉ r.submitters := by
  have hbefore : s.get? r.fingerprint = some r := get?_of_mem hr
  simp only [grown, List.mem_filter, hr, true_and]
  rcases reconcile_spec h r.fingerprint with ⟨hunwanted, hgone⟩ | ⟨-, r', -, hfound, -⟩
  · rw [hgone]
    simp only [Option.any_none, Bool.false_eq_true, false_iff]
    rintro ⟨u, ⟨edit, hedit, hf, -⟩, -⟩
    exact hunwanted edit hedit hf
  · have hstays := stays_of_reconcile h hbefore hfound
    rw [hfound, Option.any_some, Bool.and_eq_true, decide_eq_true_iff]
    constructor
    · rintro ⟨-, hmore⟩
      by_contra hnone
      refine hmore (IdSet.ext fun u => ?_)
      rw [hstays.submitters]
      refine or_iff_left_of_imp fun hu => ?_
      by_contra hnew
      exact hnone ⟨u, hu, hnew⟩
    · rintro ⟨u, hu, hnew⟩
      refine ⟨?_, fun hsame => hnew (hsame ▸ (hstays.submitters u).mpr (Or.inr hu))⟩
      rw [IdSet.isSubset, List.all_eq_true]
      exact fun v hv => decide_eq_true ((hstays.submitters v).mpr (Or.inl hv))

theorem namedFor_snoc :
    Edit.NamedFor (done ++ [edit]) f u ↔
      Edit.NamedFor done f u ∨ (edit.fingerprint = f ∧ u ∈ edit.named) := by
  simp only [namedFor_iff, List.mem_append, List.mem_singleton, or_and_right, exists_or,
    exists_eq_left]

theorem namedFor_cons :
    Edit.NamedFor (edit :: rest) f u ↔
      (edit.fingerprint = f ∧ u ∈ edit.named) ∨ Edit.NamedFor rest f u := by
  simp only [namedFor_iff, List.exists_mem_cons_iff]

/-- Of the entries for a record, one brings somebody if they name a user who is no submitter. -/
theorem exists_mem_bringing_iff (hr : s.get? f = some r) (done rest : List Edit) :
    (∃ edit ∈ s.bringing acting done rest, edit.fingerprint = f) ↔
      ∃ u, Edit.NamedFor rest f u ∧ u ∉ r.submitters ∧ ¬ Edit.NamedFor done f u := by
  induction rest generalizing done with
  | nil => simp [bringing, Edit.NamedFor]
  | cons edit rest ih =>
    have horigin : s.origin? acting done f = some r.submitters := by rw [origin?, hr]
    simp only [bringing, List.mem_append, or_and_right, exists_or, ih, namedFor_snoc, namedFor_cons]
    by_cases hf : edit.fingerprint = f
    · subst hf
      by_cases hb : s.brings acting done edit = true
      · obtain ⟨users, husers, u, hu, hnew, hunnamed⟩ := brings_iff.mp hb
        obtain rfl : r.submitters = users := Option.some.inj (horigin.symm.trans husers)
        exact iff_of_true (Or.inl ⟨edit, by simp [hb], rfl⟩)
          (Or.inl ⟨u, ⟨rfl, hu⟩, hnew, hunnamed⟩)
      · -- whom the entry names are submitters, or have been named
        have hold : ∀ u ∈ edit.named, u ∉ r.submitters → Edit.NamedFor done edit.fingerprint u := by
          intro u hu hnew
          by_contra hunnamed
          exact hb (brings_iff.mpr ⟨r.submitters, horigin, u, hu, hnew, hunnamed⟩)
        rw [if_neg hb]
        constructor
        · rintro (⟨e, he, -⟩ | ⟨u, hu, hnew, hunnamed⟩)
          · cases he
          · exact Or.inr ⟨u, hu, hnew, fun h => hunnamed (Or.inl h)⟩
        · rintro (⟨u, ⟨-, hu⟩, hnew, hunnamed⟩ | ⟨u, hu, hnew, hunnamed⟩)
          · exact absurd (hold u hu hnew) hunnamed
          · exact Or.inr ⟨u, hu, hnew, fun h => h.elim hunnamed fun hu =>
              hunnamed (hold u hu.2 hnew)⟩
    · have hother : ¬ ∃ e ∈ (if s.brings acting done edit then [edit] else []),
          e.fingerprint = f := by
        split <;> simp [hf]
      simp only [hother, hf, false_and, or_false, false_or, exists_false]

/-- A list that has each member of another once is as long only if it is the other in some order. -/
theorem length_eq_iff_of_subset {α : Type} {xs ys : List α} (nodup : xs.Nodup) (h : xs ⊆ ys) :
    ys.length = xs.length ↔ ys.Nodup ∧ ys ⊆ xs := by
  have hsub : xs.Subperm ys := List.subperm_of_subset nodup h
  constructor
  · intro hlen
    have hperm := hsub.perm_of_length_le (Nat.le_of_eq hlen)
    exact ⟨hperm.nodup nodup, hperm.symm.subset⟩
  · rintro ⟨hnodup, hback⟩
    exact Nat.le_antisymm (List.subperm_of_subset hnodup hback).length_le hsub.length_le

/-- The fingerprints of the records that have grown are those that have a record and an entry that
brings somebody. -/
theorem mem_fingerprints_grown (h : s.reconcile desired acting now = .ok (summary, after)) :
    f ∈ (s.grown after).map (·.fingerprint) ↔
      f ∈ (s.bringing acting [] desired).map (·.fingerprint) ∧ (s.get? f).isSome = true := by
  have hgrown : ∀ r, s.get? f = some r → (r ∈ s.grown after ↔
      ∃ edit ∈ s.bringing acting [] desired, edit.fingerprint = f) := by
    intro r hr
    have hunnamed : ∀ u, ¬ Edit.NamedFor [] f u :=
      fun u ⟨_, hmem, _⟩ => absurd hmem List.not_mem_nil
    rw [mem_grown_iff h (List.mem_of_find?_eq_some hr), exists_mem_bringing_iff hr,
      fingerprint_of_get? hr]
    simp only [hunnamed, not_false_eq_true, and_true]
  simp only [List.mem_map]
  constructor
  · rintro ⟨r, hr, rfl⟩
    have hfound : s.get? r.fingerprint = some r := get?_of_mem (List.mem_filter.mp hr).1
    exact ⟨(hgrown r hfound).mp hr, by rw [hfound]; rfl⟩
  · rintro ⟨hbrings, hsome⟩
    obtain ⟨r, hr⟩ := Option.isSome_iff_exists.mp hsome
    exact ⟨r, (hgrown r hr).mpr hbrings, fingerprint_of_get? hr⟩

theorem summary_eq_finished (h : s.reconcile desired acting now = .ok (summary, after)) :
    summary = (s.finished desired acting now).summary := by
  rw [reconcile_eq] at h
  split at h
  · cases h
  · cases h
    rfl

/-- A reconciliation counts the entries that bring somebody as corroborating. -/
theorem corroborated_eq (h : s.reconcile desired acting now = .ok (summary, after)) :
    summary.corroborated = (s.bringing acting [] desired).length := by
  have hwanted : ∀ edit ∈ desired, Edit.wants desired edit.fingerprint = true :=
    fun edit hedit => Edit.wants_iff.mpr ⟨edit, hedit, rfl⟩
  rw [summary_eq_finished h]
  exact (corroborated_reached now hwanted []).trans (Nat.zero_add _)

/-- A record that has grown has an entry that brings somebody, and records that have grown are as
many as these entries only if each has one and no other record has any. -/
theorem length_grown (h : s.reconcile desired acting now = .ok (summary, after)) :
    (s.grown after).length ≤ (s.bringing acting [] desired).length ∧
      ((s.bringing acting [] desired).length = (s.grown after).length ↔
        ((s.bringing acting [] desired).map (·.fingerprint)).Nodup ∧
          ∀ edit ∈ s.bringing acting [] desired, (s.get? edit.fingerprint).isSome = true) := by
  have hmem := fun f => mem_fingerprints_grown (f := f) h
  have hnodup : ((s.grown after).map (·.fingerprint)).Nodup :=
    List.pairwise_map.mpr (s.distinct.filter _)
  have hsubset : (s.grown after).map (·.fingerprint) ⊆
      (s.bringing acting [] desired).map (·.fingerprint) := fun f hf => ((hmem f).mp hf).1
  have hle := (List.subperm_of_subset hnodup hsubset).length_le
  have hiff := length_eq_iff_of_subset hnodup hsubset
  simp only [List.length_map] at hle hiff
  refine ⟨hle, hiff.trans (and_congr_right fun _ => ⟨fun hback edit hedit => ?_, ?_⟩)⟩
  · exact ((hmem _).mp (hback (List.mem_map.mpr ⟨edit, hedit, rfl⟩))).2
  · intro hall f hf
    obtain ⟨edit, hedit, rfl⟩ := List.mem_map.mp hf
    exact (hmem _).mpr ⟨hf, hall edit hedit⟩

theorem length_grown_le_kept (h : s.reconcile desired acting now = .ok (summary, after)) :
    (s.grown after).length ≤ summary.kept := by
  rw [summary_eq_finished h, kept_finished, grown, ← List.countP_eq_length_filter,
    ← List.countP_eq_length_filter]
  refine List.countP_mono_left fun r hr hgrown => ?_
  obtain ⟨u, ⟨edit, hedit, hf, -⟩, -⟩ := (mem_grown_iff h hr).mp (List.mem_filter.mpr ⟨hr, hgrown⟩)
  exact Edit.wants_iff.mpr ⟨edit, hedit, hf⟩

/-- Where no fingerprint is repeated, what is counted are the records that have grown. -/
theorem corroborated_of_nodup (h : s.reconcile desired acting now = .ok (summary, after))
    (nodup : (desired.map (·.fingerprint)).Nodup) :
    summary.corroborated = (s.grown after).length := by
  rw [corroborated_eq h, (length_grown h).2]
  refine ⟨nodup.sublist ((bringing_sublist s acting [] desired).map _), fun edit hedit => ?_⟩
  obtain ⟨done, rest, rfl, hbrings⟩ := mem_bringing hedit
  rw [List.nil_append] at hbrings
  obtain ⟨users, horigin, -⟩ := brings_iff.mp hbrings
  cases hr : s.get? edit.fingerprint with
  | some r => rfl
  | none =>
    -- without a record, an entry before this one would have made it
    rw [origin?, hr] at horigin
    obtain ⟨first, hfirst, -⟩ := Option.map_eq_some_iff.mp horigin
    rw [List.map_append, List.map_cons, List.nodup_append] at nodup
    have hsame : first.fingerprint = edit.fingerprint := by simpa using List.find?_some hfirst
    have hbefore := List.mem_map_of_mem (f := Edit.fingerprint) (List.mem_of_find?_eq_some hfirst)
    exact absurd hsame (nodup.2.2 _ hbefore _ List.mem_cons_self)

/-- **What is counted as corroborated.** A reconciliation that is accepted counts the entries that
bring somebody. That many records have grown if and only if no two of these entries are for one
fingerprint, and each is for a fingerprint that had a record before. -/
theorem corroborated_eq_iff (s : SceneFingerprints) {desired : List Edit}
    (accepted : ∀ edit ∈ desired, edit.users ≠ some []) (acting : Uuid) (now : Timestamp) :
    ∃ summary after, s.reconcile desired acting now = .ok (summary, after) ∧
      summary.corroborated = (s.bringing acting [] desired).length ∧
      (s.grown after).length ≤ summary.corroborated ∧
      (s.grown after).length ≤ summary.kept ∧
      (summary.corroborated = (s.grown after).length ↔
        ((s.bringing acting [] desired).map (·.fingerprint)).Nodup ∧
          ∀ edit ∈ s.bringing acting [] desired, (s.get? edit.fingerprint).isSome = true) := by
  have hnobody : ¬ desired.any Edit.namesNobody = true := by
    simpa [Edit.namesNobody] using accepted
  have hok : s.reconcile desired acting now = .ok ((s.finished desired acting now).summary,
      (s.finished desired acting now).current) := by
    rw [reconcile_eq, if_neg hnobody]
  have hcount := corroborated_eq hok
  obtain ⟨hle, hiff⟩ := length_grown hok
  rw [← hcount] at hle hiff
  exact ⟨_, _, hok, hcount, hle, length_grown_le_kept hok, hiff⟩

/-- One record, of one user. -/
def lone (user : Uuid) : SceneFingerprints :=
  (∅ : SceneFingerprints).append (.ofUser ⟨.sample, 10⟩ user ⟨1, 0⟩)

/-- Repeated fingerprints do not disturb the count where the entries name nobody, or only users who
are there already. -/
theorem corroborated_eq_iff_repeated :
    ∃ (g : Fingerprint) (summary : Summary) (after : SceneFingerprints),
      (lone (.ofNat 1)).reconcile [⟨⟨.sample, 10⟩, none⟩, ⟨⟨.sample, 10⟩, some [.ofNat 2]⟩,
        ⟨⟨g, 20⟩, some [.ofNat 3]⟩, ⟨⟨g, 30⟩, some [.ofNat 3]⟩] (.ofNat 1) ⟨2, 0⟩ =
          .ok (summary, after) ∧
      summary = ⟨1, 1, 0, 1⟩ ∧ ((lone (.ofNat 1)).grown after).length = 1 := by
  let g : Fingerprint := ⟨.oshash, "11ff00ff00ff00ff", by decide⟩
  let desired : List Edit := [⟨⟨.sample, 10⟩, none⟩, ⟨⟨.sample, 10⟩, some [.ofNat 2]⟩,
    ⟨⟨g, 20⟩, some [.ofNat 3]⟩, ⟨⟨g, 30⟩, some [.ofNat 3]⟩]
  have accepted : ∀ edit ∈ desired, edit.users ≠ some [] := by decide
  obtain ⟨summary, after, hok, -, -, -, hiff⟩ :=
    corroborated_eq_iff (lone (.ofNat 1)) accepted (.ofNat 1) ⟨2, 0⟩
  have hsummary : summary = ⟨1, 1, 0, 1⟩ := by
    cases hok
    rfl
  rw [hsummary] at hiff
  exact ⟨g, summary, after, hok, hsummary, (hiff.mpr (by decide)).symm⟩

/-- Two entries that each bring a user to the one record are counted as two. -/
theorem corroborated_counts_entries :
    ∃ (summary : Summary) (after : SceneFingerprints),
      (lone (.ofNat 1)).reconcile
        [⟨⟨.sample, 10⟩, some [.ofNat 2]⟩, ⟨⟨.sample, 10⟩, some [.ofNat 3]⟩] (.ofNat 1) ⟨2, 0⟩ =
          .ok (summary, after) ∧
      summary.corroborated = 2 ∧ summary.kept = 1 ∧
      ((lone (.ofNat 1)).grown after).length = 1 :=
  ⟨_, _, rfl, rfl, rfl, rfl⟩

end SceneCatalog.SceneFingerprints
