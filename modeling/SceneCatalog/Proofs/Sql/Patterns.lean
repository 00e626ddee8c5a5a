import SceneCatalog.Sql.Condition
import SceneCatalog.Sql.Pattern

/-!
Which texts a pattern matches. A pattern is read part by part, and one that breaks off behind a `\`
cannot be read. Main statement: the pattern that is made of a fragment can always be read, stands
for the characters of the fragment as they are with any text around them, and matches the texts
that hold the fragment and no others.
-/
namespace SceneCatalog.Sql

/-! ## The rules of patterns -/

/-- What a part of a pattern stands for. -/
inductive PatternPart where
  | anyText
  | anyOne
  | just (c : Char)
deriving DecidableEq

/-- The parts of a pattern; `none` if it ends with a `\` that has nothing to stand in front of. -/
def patternParts? : List Char → Option (List PatternPart)
  | [] => some []
  | '%' :: pattern => (patternParts? pattern).map (.anyText :: ·)
  | '_' :: pattern => (patternParts? pattern).map (.anyOne :: ·)
  | ['\\'] => none
  | '\\' :: c :: pattern => (patternParts? pattern).map (.just c :: ·)
  | c :: pattern => (patternParts? pattern).map (.just c :: ·)

/-- A text is made up of what the parts stand for, one after another. -/
inductive MadeOf : List PatternPart → List Char → Prop
  | nothing : MadeOf [] []
  | anyText {parts rest} (front : List Char) (h : MadeOf parts rest) :
      MadeOf (.anyText :: parts) (front ++ rest)
  | anyOne {parts rest} (c : Char) (h : MadeOf parts rest) : MadeOf (.anyOne :: parts) (c :: rest)
  | just {parts rest} (c : Char) (h : MadeOf parts rest) : MadeOf (.just c :: parts) (c :: rest)

/-- A pattern can be read, and a text is made up of what its parts stand for. -/
def Likes (pattern text : List Char) : Prop :=
  ∃ parts, patternParts? pattern = some parts ∧ MadeOf parts text

section MadeOf

variable {parts : List PatternPart} {text : List Char}

theorem madeOf_nil_iff : MadeOf [] text ↔ text = [] := by
  constructor
  · rintro ⟨⟩
    rfl
  · rintro rfl
    exact .nothing

theorem madeOf_anyText_iff :
    MadeOf (.anyText :: parts) text ↔ ∃ front rest, text = front ++ rest ∧ MadeOf parts rest := by
  constructor
  · rintro (_ | ⟨front, h⟩)
    exact ⟨front, _, rfl, h⟩
  · rintro ⟨front, rest, rfl, h⟩
    exact .anyText front h

theorem madeOf_anyOne_iff :
    MadeOf (.anyOne :: parts) text ↔ ∃ c rest, text = c :: rest ∧ MadeOf parts rest := by
  constructor
  · rintro (_ | _ | ⟨c, h⟩)
    exact ⟨c, _, rfl, h⟩
  · rintro ⟨c, rest, rfl, h⟩
    exact .anyOne c h

theorem madeOf_just_iff {c : Char} :
    MadeOf (.just c :: parts) text ↔ ∃ rest, text = c :: rest ∧ MadeOf parts rest := by
  constructor
  · rintro (_ | _ | _ | ⟨_, h⟩)
    exact ⟨_, rfl, h⟩
  · rintro ⟨rest, rfl, h⟩
    exact .just c h

/-- Characters that stand for themselves are found one after another. -/
theorem madeOf_just_append_iff {cs : List Char} :
    MadeOf (cs.map .just ++ parts) text ↔ ∃ rest, text = cs ++ rest ∧ MadeOf parts rest := by
  induction cs generalizing text with
  | nil => simp
  | cons c cs ih =>
    rw [List.map_cons, List.cons_append, madeOf_just_iff]
    constructor
    · rintro ⟨_, rfl, h⟩
      obtain ⟨rest, rfl, hrest⟩ := ih.mp h
      exact ⟨rest, rfl, hrest⟩
    · rintro ⟨rest, rfl, h⟩
      exact ⟨cs ++ rest, rfl, ih.mpr ⟨rest, rfl, h⟩⟩

end MadeOf

/-! ## The search goes by the rules -/

theorem someEnd_iff {p : List Char → Bool} {text : List Char} :
    someEnd p text = true ↔ ∃ front rest, text = front ++ rest ∧ p rest = true := by
  induction text with
  | nil => simp [someEnd, and_assoc]
  | cons c text ih =>
    rw [someEnd, Bool.or_eq_true, ih]
    constructor
    · rintro (h | ⟨front, rest, rfl, h⟩)
      · exact ⟨[], c :: text, rfl, h⟩
      · exact ⟨c :: front, rest, rfl, h⟩
    · rintro ⟨_ | ⟨d, front⟩, rest, htext, h⟩
      · exact Or.inl (htext ▸ h)
      · exact Or.inr ⟨front, rest, (List.cons.inj htext).2, h⟩

theorem firstThen_iff {here : Char → Bool} {p : List Char → Bool} {text : List Char} :
    firstThen here p text = true ↔
      ∃ c rest, text = c :: rest ∧ here c = true ∧ p rest = true := by
  cases text <;> simp [firstThen, and_assoc]

/-- A search for a character and what is to follow it. -/
theorem firstThen_just_iff {c : Char} {parts : List PatternPart} {p : List Char → Bool}
    (h : ∀ rest, p rest = true ↔ MadeOf parts rest) {text : List Char} :
    firstThen (· == c) p text = true ↔ MadeOf (.just c :: parts) text := by
  rw [firstThen_iff, madeOf_just_iff]
  constructor
  · rintro ⟨d, rest, rfl, hd, hp⟩
    exact ⟨rest, by rw [eq_of_beq hd], (h rest).mp hp⟩
  · rintro ⟨rest, rfl, hparts⟩
    exact ⟨c, rest, rfl, beq_self_eq_true c, (h rest).mpr hparts⟩

/-- **The search for a match** finds what the parts of the pattern stand for. -/
theorem matchesPattern_iff {pattern : List Char} {parts : List PatternPart}
    (h : patternParts? pattern = some parts) (text : List Char) :
    matchesPattern pattern text = true ↔ MadeOf parts text := by
  fun_induction patternParts? pattern generalizing parts text with
  | case1 =>
    cases h
    rw [matchesPattern, List.isEmpty_iff, madeOf_nil_iff]
  | case2 pattern ih =>
    obtain ⟨rest, hrest, rfl⟩ := Option.map_eq_some_iff.mp h
    simp only [matchesPattern, someEnd_iff, madeOf_anyText_iff, ih hrest]
  | case3 pattern ih =>
    obtain ⟨rest, hrest, rfl⟩ := Option.map_eq_some_iff.mp h
    simp only [matchesPattern, firstThen_iff, madeOf_anyOne_iff, ih hrest, true_and]
  | case4 => cases h
  | case5 c pattern ih =>
    obtain ⟨rest, hrest, rfl⟩ := Option.map_eq_some_iff.mp h
    rw [matchesPattern]
    exact firstThen_just_iff (ih hrest)
  | case6 c pattern hmany hone hend hescape ih =>
    obtain ⟨rest, hrest, rfl⟩ := Option.map_eq_some_iff.mp h
    rw [matchesPattern]
    · exact firstThen_just_iff (ih hrest)
    all_goals assumption

/-! ## Patterns of fragments -/

/-- A character that means nothing in a pattern stands for itself. -/
theorem patternParts?_cons_of_plain {c : Char} (h : (c == '%' || c == '_' || c == '\\') = false)
    (pattern : List Char) :
    patternParts? (c :: pattern) = (patternParts? pattern).map (.just c :: ·) := by
  simp only [Bool.or_eq_false_iff, beq_eq_false_iff_ne] at h
  obtain ⟨⟨hmany, hone⟩, hescape⟩ := h
  rw [patternParts?]
  · exact hmany
  · exact hone
  · exact fun hc _ => hescape hc
  · exact fun _ _ hc _ => hescape hc

/-- An escaped fragment is read as its characters, whatever they are and whatever follows. -/
theorem patternParts?_escapeLike_append (fragment rest : List Char) :
    patternParts? (Condition.escapeLike fragment ++ rest) =
      (patternParts? rest).map (fragment.map .just ++ ·) := by
  induction fragment with
  | nil => simp [Condition.escapeLike]
  | cons c fragment ih =>
    have htail : Condition.escapeLike (c :: fragment) ++ rest =
        (if c == '%' || c == '_' || c == '\\' then ['\\', c] else [c]) ++
          (Condition.escapeLike fragment ++ rest) := by
      rw [Condition.escapeLike, List.flatMap_cons, List.append_assoc]
      rfl
    rw [htail]
    by_cases h : (c == '%' || c == '_' || c == '\\') = true
    · rw [if_pos h, List.cons_append, List.singleton_append, patternParts?, ih, Option.map_map]
      rfl
    · rw [if_neg h, List.singleton_append,
        patternParts?_cons_of_plain (Bool.eq_false_iff.mpr h), ih, Option.map_map]
      rfl

/-- What the pattern of a fragment stands for. -/
def fragmentParts (fragment : List Char) : List PatternPart :=
  .anyText :: (fragment.map .just ++ [.anyText])

theorem patternParts?_likeFragment (fragment : String) :
    patternParts? (Condition.likeFragment fragment).toList =
      some (fragmentParts fragment.toList) := by
  rw [Condition.likeFragment, String.toList_ofList, List.append_assoc, List.singleton_append,
    patternParts?, patternParts?_escapeLike_append]
  rfl

theorem madeOf_fragmentParts_iff {fragment text : List Char} :
    MadeOf (fragmentParts fragment) text ↔ fragment <:+: text := by
  have hend : ∀ rest, MadeOf [.anyText] rest := fun rest =>
    madeOf_anyText_iff.mpr ⟨rest, [], (List.append_nil rest).symm, .nothing⟩
  rw [fragmentParts, madeOf_anyText_iff]
  constructor
  · rintro ⟨front, _, rfl, h⟩
    obtain ⟨rest, rfl, -⟩ := madeOf_just_append_iff.mp h
    exact ⟨front, rest, List.append_assoc ..⟩
  · rintro ⟨front, rest, rfl⟩
    exact ⟨front, fragment ++ rest, List.append_assoc ..,
      madeOf_just_append_iff.mpr ⟨rest, rfl, hend rest⟩⟩

/-- **Patterns of fragments are exact.** The pattern can be read, no character of the fragment means
anything but itself in it, and both by the rules and for the search it matches the texts that hold
the fragment, wherever they do, and no others. -/
theorem likeFragment_exact (fragment text : String) :
    let pattern := (Condition.likeFragment fragment).toList
    patternParts? pattern = some ([.anyText] ++ fragment.toList.map .just ++ [.anyText]) ∧
      (Likes pattern text.toList ↔ fragment.toList <:+: text.toList) ∧
      (matchesPattern pattern text.toList = true ↔ fragment.toList <:+: text.toList) := by
  have hparts := patternParts?_likeFragment fragment
  refine ⟨hparts, ?_, (matchesPattern_iff hparts _).trans madeOf_fragmentParts_iff⟩
  constructor
  · rintro ⟨parts, hread, h⟩
    rw [hparts] at hread
    cases hread
    exact madeOf_fragmentParts_iff.mp h
  · exact fun h => ⟨_, hparts, madeOf_fragmentParts_iff.mpr h⟩

end SceneCatalog.Sql
