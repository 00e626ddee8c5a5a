import Mathlib.Data.List.TakeWhile
import SceneCatalog.Filter

/-!
When a title search finds what it is given. Titles and fragments are lower-cased each on its own,
and the small form of a capital sigma depends on the characters around it. Main statement: a
fragment is found in every title that holds it exactly if no capital sigma in it stands where
another text around the fragment would give it another form.
-/
namespace SceneCatalog

namespace Text

/-! ## Lower-casing between other characters -/

/-- What a character becomes between those before it, the nearest first, and those behind it. -/
def lowerAt (before : List Char) (c : Char) (behind : List Char) : List Char :=
  if c == '\u03A3' then
    if meetsCased before && !meetsCased behind then ['\u03C2'] else ['\u03C3']
  else if c == '\u0130' then ['i', '\u0307']
  else [lowerSimple c]

/-- What `cs` becomes between the characters before it, the nearest first, and those behind it. -/
def lowerBetween (before : List Char) : (cs behind : List Char) → List Char
  | [], _ => []
  | c :: rest, behind =>
    lowerAt before c (rest ++ behind) ++ lowerBetween (c :: before) rest behind

theorem lowerAfter_append (before cs behind : List Char) :
    lowerAfter before (cs ++ behind) =
      lowerBetween before cs behind ++ lowerAfter (cs.reverse ++ before) behind := by
  induction cs generalizing before with
  | nil => rfl
  | cons c rest ih =>
    rw [List.reverse_cons, List.append_assoc, lowerBetween, List.append_assoc]
    exact congrArg (lowerAt before c (rest ++ behind) ++ ·) (ih (c :: before))

theorem lowerBetween_append (before xs ys behind : List Char) :
    lowerBetween before (xs ++ ys) behind =
      lowerBetween before xs (ys ++ behind) ++ lowerBetween (xs.reverse ++ before) ys behind := by
  induction xs generalizing before with
  | nil => rfl
  | cons x xs ih =>
    rw [List.cons_append, lowerBetween, ih, lowerBetween, List.reverse_cons]
    simp only [List.append_assoc, List.singleton_append]

theorem toList_lower (s : String) : (lower s).toList = lowerBetween [] s.toList [] := by
  have happend := lowerAfter_append [] s.toList []
  rw [List.append_nil] at happend
  rw [lower, String.toList_ofList, happend]
  exact List.append_nil _

/-! ## Capital sigmas -/

/-- The nearest character that counts when the end of a word is looked for. -/
def nearest? (cs : List Char) : Option Char := cs.find? fun c => !isCaseIgnorable c

/-- Whether the form of a capital sigma is told by the characters `before` it, the nearest first,
and `behind` it, whatever stands around these. -/
def tellsSigma (before behind : List Char) : Bool :=
  match nearest? before, nearest? behind with
  | some _, some _ => true
  | some c, none => !isCasedLetter c
  | none, some c => isCasedLetter c
  | none, none => false

/-- Whether every capital sigma in `cs` has its form told within `before` and `cs`. -/
def settledAfter (before : List Char) : List Char → Bool
  | [] => true
  | c :: rest => (c != '\u03A3' || tellsSigma before rest) && settledAfter (c :: before) rest

/-- Whether a text has the same small letters wherever it stands. -/
def isSettled (s : String) : Bool := settledAfter [] s.toList

theorem meetsCased_eq (cs : List Char) : meetsCased cs = (nearest? cs).any isCasedLetter := by
  rw [nearest?, List.find?_not_eq_head?_dropWhile, meetsCased]
  cases cs.dropWhile isCaseIgnorable <;> rfl

theorem nearest?_append (xs ys : List Char) :
    nearest? (xs ++ ys) = (nearest? xs).or (nearest? ys) :=
  List.find?_append

theorem nearest?_sigma (cs : List Char) : nearest? ('\u03A3' :: cs) = some '\u03A3' := by
  have hcounts : isCaseIgnorable '\u03A3' = false := by decide +kernel
  simp [nearest?, hcounts]

theorem not_mem_of_nearest?_eq_none {cs : List Char} (h : nearest? cs = none) : '\u03A3' ∉ cs := by
  intro hmem
  obtain ⟨xs, ys, rfl⟩ := List.append_of_mem hmem
  rw [nearest?_append, nearest?_sigma] at h
  cases hx : nearest? xs <;> simp [hx] at h

/-- The form of a sigma depends on the nearest characters that count, and no other on any. -/
theorem lowerAt_congr {before before' behind behind' : List Char} {c : Char}
    (h : c = '\u03A3' → nearest? before = nearest? before' ∧ nearest? behind = nearest? behind') :
    lowerAt before c behind = lowerAt before' c behind' := by
  unfold lowerAt
  split
  · rename_i hc
    obtain ⟨hbefore, hbehind⟩ := h (eq_of_beq hc)
    simp only [meetsCased_eq, hbefore, hbehind]
  · rfl

theorem lowerBetween_congr {before before' behind behind' : List Char} (cs : List Char)
    (hbefore : nearest? before = nearest? before') (hbehind : nearest? behind = nearest? behind') :
    lowerBetween before cs behind = lowerBetween before' cs behind' := by
  induction cs generalizing before before' with
  | nil => rfl
  | cons c rest ih =>
    have hnext : nearest? (c :: before) = nearest? (c :: before') := by
      have happend := nearest?_append [c]
      exact (happend before).trans (hbefore ▸ (happend before').symm)
    rw [lowerBetween, lowerBetween, ih hnext]
    congr 1
    exact lowerAt_congr fun _ => ⟨hbefore, by rw [nearest?_append, nearest?_append, hbehind]⟩

theorem lowerBetween_of_not_mem {cs : List Char} (h : '\u03A3' ∉ cs)
    (before before' behind behind' : List Char) :
    lowerBetween before cs behind = lowerBetween before' cs behind' := by
  induction cs generalizing before before' with
  | nil => rfl
  | cons c rest ih =>
    obtain ⟨hc, hrest⟩ := List.ne_and_not_mem_of_not_mem_cons h
    rw [lowerBetween, lowerBetween, ih hrest (c :: before) (c :: before')]
    congr 1
    exact lowerAt_congr fun he => absurd he.symm hc

/-! ## Texts that are settled -/

theorem lowerAt_of_tells {before behind : List Char} (h : tellsSigma before behind = true)
    (b r : List Char) :
    lowerAt (before ++ b) '\u03A3' (behind ++ r) = lowerAt before '\u03A3' behind := by
  have hsame : (meetsCased (before ++ b) && !meetsCased (behind ++ r)) =
      (meetsCased before && !meetsCased behind) := by
    simp only [meetsCased_eq, nearest?_append]
    unfold tellsSigma at h
    cases hx : nearest? before <;> cases hy : nearest? behind <;> simp_all
  simp only [lowerAt, hsame]

theorem lowerBetween_of_settled {before cs : List Char} (h : settledAfter before cs = true)
    (b r : List Char) : lowerBetween (before ++ b) cs r = lowerBetween before cs [] := by
  induction cs generalizing before with
  | nil => rfl
  | cons c rest ih =>
    rw [settledAfter, Bool.and_eq_true, Bool.or_eq_true, bne_iff_ne] at h
    obtain ⟨hc, hrest⟩ := h
    rw [lowerBetween, lowerBetween, ← List.cons_append, ih hrest, List.append_nil]
    congr 1
    by_cases hsigma : c = '\u03A3'
    · subst hsigma
      exact lowerAt_of_tells (hc.resolve_left fun hne => hne rfl) b r
    · exact lowerAt_congr fun he => absurd he hsigma

/-- A settled text keeps its small letters within another. -/
theorem infix_lower {u t : String} (settled : isSettled u = true) (h : u.toList <:+: t.toList) :
    (lower u).toList <:+: (lower t).toList := by
  obtain ⟨b, r, ht⟩ := h
  have hhere := lowerBetween_of_settled settled b.reverse r
  rw [List.nil_append] at hhere
  rw [toList_lower, toList_lower, ← ht, List.append_assoc, lowerBetween_append,
    lowerBetween_append]
  simp only [List.append_nil, hhere]
  exact ⟨_, _, List.append_assoc ..⟩

/-! ## Texts that are not -/

theorem exists_of_not_settled {before cs : List Char} (h : settledAfter before cs = false) :
    ∃ xs ys, cs = xs ++ '\u03A3' :: ys ∧ tellsSigma (xs.reverse ++ before) ys = false := by
  induction cs generalizing before with
  | nil => cases h
  | cons c rest ih =>
    rw [settledAfter, Bool.and_eq_false_iff, Bool.or_eq_false_iff] at h
    rcases h with ⟨hc, htells⟩ | hrest
    · have hsigma : c = '\u03A3' := by simpa using hc
      exact ⟨[], rest, by rw [hsigma, List.nil_append], htells⟩
    · obtain ⟨xs, ys, rfl, htells⟩ := ih hrest
      exact ⟨c :: xs, ys, rfl, by simpa using htells⟩

theorem lowerAt_sigma (before behind : List Char) :
    lowerAt before '\u03A3' behind =
      [if meetsCased before && !meetsCased behind then '\u03C2' else '\u03C3'] := by
  unfold lowerAt
  split
  · split <;> rfl
  · rename_i hc
    exact absurd rfl hc

/-- A text that holds a capital sigma: what is around the sigma does not depend on its form, and on
what stands outside only where it holds another sigma. -/
theorem lowerBetween_sigma (xs ys b r : List Char) (hx : '\u03A3' ∈ xs → b = [])
    (hy : '\u03A3' ∈ ys → r = []) :
    lowerBetween b (xs ++ '\u03A3' :: ys) r =
      lowerBetween [] xs ['\u03A3'] ++
        [if meetsCased (xs.reverse ++ b) && !meetsCased (ys ++ r) then '\u03C2' else '\u03C3'] ++
          lowerBetween ['\u03A3'] ys [] := by
  have hfront : lowerBetween b xs ('\u03A3' :: ys ++ r) = lowerBetween [] xs ['\u03A3'] := by
    by_cases hmem : '\u03A3' ∈ xs
    · rw [hx hmem]
      exact lowerBetween_congr xs rfl (by rw [List.cons_append, nearest?_sigma, nearest?_sigma])
    · exact lowerBetween_of_not_mem hmem ..
  have hrear : lowerBetween ('\u03A3' :: (xs.reverse ++ b)) ys r =
      lowerBetween ['\u03A3'] ys [] := by
    by_cases hmem : '\u03A3' ∈ ys
    · rw [hy hmem]
      exact lowerBetween_congr ys (by rw [nearest?_sigma, nearest?_sigma]) rfl
    · exact lowerBetween_of_not_mem hmem ..
  rw [lowerBetween_append, lowerBetween, hfront, hrear, lowerAt_sigma, List.append_assoc]

/-- Where one of the characters has been exchanged for another, and none like it has been put
around, a text is not found any more. -/
theorem not_infix_exchange (xs ys front rear : List Char) {c d : Char} (hne : d ≠ c)
    (hfront : c ∉ front) (hrear : c ∉ rear) :
    ¬ (xs ++ [c] ++ ys) <:+: (front ++ (xs ++ [d] ++ ys) ++ rear) := by
  intro h
  have hcount := h.sublist.count_le c
  have hd : List.count c [d] = 0 := by simp [hne]
  have hc : List.count c [c] = 1 := by simp
  simp only [List.count_append, List.count_eq_zero.mpr hfront, List.count_eq_zero.mpr hrear, hd,
    hc] at hcount
  omega

/-- A capital letter counts when the end of a word is looked for. -/
theorem nearest?_capital : nearest? ['A'] = some 'A' ∧ isCasedLetter 'A' = true := by
  decide +kernel

theorem lowerBetween_capital (before behind : List Char) :
    lowerBetween before ['A'] behind = ['a'] := by
  rw [lowerBetween_of_not_mem (by decide) before [] behind []]
  decide +kernel

/-- Behind a capital letter a sigma is final that is not when nothing before it counts. -/
theorem not_infix_behind_capital {xs ys : List Char} (hx : nearest? xs.reverse = none)
    (hy : meetsCased ys = false) :
    ¬ lowerBetween [] (xs ++ '\u03A3' :: ys) [] <:+:
      lowerBetween [] (['A'] ++ (xs ++ '\u03A3' :: ys)) [] := by
  have hxs : '\u03A3' ∉ xs := fun hmem =>
    not_mem_of_nearest?_eq_none hx (List.mem_reverse.mpr hmem)
  have hplain : meetsCased xs.reverse = false := by
    rw [meetsCased_eq, hx]
    rfl
  have hfinal : meetsCased (xs.reverse ++ ['A']) = true := by
    rw [meetsCased_eq, nearest?_append, hx, nearest?_capital.1]
    exact nearest?_capital.2
  have halone := lowerBetween_sigma xs ys [] [] (fun _ => rfl) fun _ => rfl
  have hbehind := lowerBetween_sigma xs ys ['A'] [] (fun hmem => absurd hmem hxs) fun _ => rfl
  simp only [List.append_nil, hplain, hfinal, hy] at halone hbehind
  rw [halone, lowerBetween_append [] ['A'], lowerBetween_capital, List.reverse_singleton,
    List.append_nil, hbehind, ← List.append_nil (['a'] ++ _)]
  exact not_infix_exchange _ _ ['a'] [] (by decide) (by decide) (by decide)

/-- In front of a capital letter a sigma is not final that is when nothing behind it counts. -/
theorem not_infix_before_capital {xs ys : List Char} (hx : meetsCased xs.reverse = true)
    (hy : nearest? ys = none) :
    ¬ lowerBetween [] (xs ++ '\u03A3' :: ys) [] <:+:
      lowerBetween [] (xs ++ '\u03A3' :: ys ++ ['A']) [] := by
  have hys : '\u03A3' ∉ ys := not_mem_of_nearest?_eq_none hy
  have hfinal : meetsCased ys = false := by
    rw [meetsCased_eq, hy]
    rfl
  have hplain : meetsCased (ys ++ ['A']) = true := by
    rw [meetsCased_eq, nearest?_append, hy, nearest?_capital.1]
    exact nearest?_capital.2
  have halone := lowerBetween_sigma xs ys [] [] (fun _ => rfl) fun _ => rfl
  have hbefore := lowerBetween_sigma xs ys [] ['A'] (fun _ => rfl) fun hmem => absurd hmem hys
  simp only [List.append_nil, hplain, hfinal, hx] at halone hbefore
  rw [halone, lowerBetween_append [] (xs ++ '\u03A3' :: ys), lowerBetween_capital,
    List.append_nil, hbefore]
  exact not_infix_exchange _ _ [] ['a'] (by decide) (by decide) (by decide)

/-- A text that is not settled has other small letters in some text around it. -/
theorem exists_not_infix {u : String} (h : isSettled u = false) :
    ∃ t : String, u.toList <:+: t.toList ∧ ¬ (lower u).toList <:+: (lower t).toList := by
  obtain ⟨xs, ys, hu, htells⟩ := exists_of_not_settled h
  rw [List.append_nil] at htells
  simp only [toList_lower, hu]
  cases hx : nearest? xs.reverse with
  | none =>
    have hy : meetsCased ys = false := by
      rw [meetsCased_eq]
      cases hy : nearest? ys <;> simp_all [tellsSigma]
    refine ⟨String.ofList (['A'] ++ u.toList), ?_, ?_⟩
    all_goals rw [String.toList_ofList, hu]
    · exact (List.suffix_append ..).isInfix
    · exact not_infix_behind_capital hx hy
  | some c =>
    have hy : nearest? ys = none := by
      cases hy : nearest? ys <;> simp_all [tellsSigma]
    have hcased : meetsCased xs.reverse = true := by
      rw [meetsCased_eq]
      simp_all [tellsSigma]
    refine ⟨String.ofList (u.toList ++ ['A']), ?_, ?_⟩
    all_goals rw [String.toList_ofList, hu]
    · exact (List.prefix_append ..).isInfix
    · exact not_infix_before_capital hcased hy

end Text

/-! ## Title searches -/

open Text

/-- The filter that searches titles and does nothing else. -/
def Filter.ofTitle (title : String) : Filter := ⟨some title, none, none, none⟩

theorem Filter.compile_ofTitle {title : String} (h : trim title ≠ "") :
    (Filter.ofTitle title).compile = .ok ⟨some (lower (trim title)), []⟩ := by
  have hfragment : (Filter.ofTitle title).fragment? = some (lower (trim title)) := by
    simp only [Filter.fragment?, Filter.ofTitle, Option.map_some, Option.filter_some, h, ne_eq,
      not_false_eq_true, decide_true, if_true]
  rw [← hfragment]
  rfl

theorem titleHolds_iff {fragment title : String} :
    titleHolds fragment title = true ↔ fragment.toList <:+: (lower title).toList := by
  rw [titleHolds, occursIn_iff]
  exact exists₂_congr fun _ _ => eq_comm

/-- **Title searches.** A filter for a title that is not blank compiles, and it finds every title
that holds the trimmed text as it stands if and only if that text is settled. -/
theorem found_iff_isSettled {title : String} (h : trim title ≠ "") :
    ∃ compiled, (Filter.ofTitle title).compile = .ok compiled ∧
      ((∀ (scene : Scene) (t : String), scene.title = some t →
          (trim title).toList <:+: t.toList → compiled.holds scene = true) ↔
        isSettled (trim title) = true) := by
  have hholds : ∀ (scene : Scene) (t : String), scene.title = some t →
      ((⟨some (lower (trim title)), []⟩ : CompiledFilter).holds scene = true ↔
        (lower (trim title)).toList <:+: (lower t).toList) := by
    intro scene t ht
    simp [CompiledFilter.holds, ht, titleHolds_iff]
  refine ⟨_, Filter.compile_ofTitle h, fun found => ?_, fun settled scene t ht hin => ?_⟩
  · by_contra hnot
    obtain ⟨t, hin, hmissed⟩ := exists_not_infix (Bool.eq_false_iff.mpr hnot)
    let scene : Scene := ⟨.ofNat 0, some t, none, ∅, ∅, ⟨0, 0⟩⟩
    exact hmissed ((hholds scene t rfl).mp (found scene t rfl hin))
  · exact (hholds scene t ht).mpr (infix_lower settled hin)

/-- A word that does not end with a sigma is found wherever it stands. -/
theorem found_iff_isSettled_word :
    trim " ΣΤΑΣΗ " = "ΣΤΑΣΗ" ∧ ∃ compiled, (Filter.ofTitle " ΣΤΑΣΗ ").compile = .ok compiled ∧
      ∀ (scene : Scene) (t : String), scene.title = some t →
        "ΣΤΑΣΗ".toList <:+: t.toList → compiled.holds scene = true := by
  have htrim : trim " ΣΤΑΣΗ " = "ΣΤΑΣΗ" := by decide +kernel
  have hsome : trim " ΣΤΑΣΗ " ≠ "" := by rw [htrim]; decide
  obtain ⟨compiled, hcompiled, hiff⟩ := found_iff_isSettled hsome
  rw [htrim] at hiff
  exact ⟨htrim, compiled, hcompiled, hiff.mpr (by decide +kernel)⟩

/-- The beginning of a word is not found where the sigma at its end has another form in the word. -/
theorem beginning_missed :
    ∃ compiled, (Filter.ofTitle "ΣΤΑΣ").compile = .ok compiled ∧ trim "ΣΤΑΣ" = "ΣΤΑΣ" ∧
      "ΣΤΑΣ".toList <:+: "ΣΤΑΣΗ".toList ∧
      compiled.holds ⟨.ofNat 0, some "ΣΤΑΣΗ", none, ∅, ∅, ⟨0, 0⟩⟩ = false :=
  ⟨_, Filter.compile_ofTitle (by decide +kernel), by decide +kernel, ⟨[], ['Η'], rfl⟩,
    by decide +kernel⟩

end SceneCatalog
