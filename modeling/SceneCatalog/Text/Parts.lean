/-!
Taking texts apart: white space at both ends, what stands between separators, and contiguous
substrings.
-/
namespace SceneCatalog.Text

/-! ## White space -/

/-- The characters with the Unicode property White_Space. -/
def isBlank (c : Char) : Bool :=
  (0x9 ≤ c.val && c.val ≤ 0xD) || c.val == 0x20 || c.val == 0x85 || c.val == 0xA0 ||
  c.val == 0x1680 || (0x2000 ≤ c.val && c.val ≤ 0x200A) || c.val == 0x2028 || c.val == 0x2029 ||
  c.val == 0x202F || c.val == 0x205F || c.val == 0x3000

/-- The characters left when blanks are dropped at both ends. -/
def trimChars (cs : List Char) : List Char :=
  ((cs.dropWhile isBlank).reverse.dropWhile isBlank).reverse

def trim (s : String) : String :=
  String.ofList (trimChars s.toList)

/-- A trimmed text does not start with a blank. -/
theorem head_dropWhile_isBlank (cs : List Char) :
    ∀ c ∈ (cs.dropWhile isBlank).head?, isBlank c = false := by
  induction cs with
  | nil => simp
  | cons c cs ih =>
    by_cases h : isBlank c
    · simpa [h] using ih
    · simp [h]

/-! ## Separators -/

/-- The parts of a text that a character separates, one more than it has separators. -/
def parts (separator : Char) (s : String) : List String :=
  (s.toList.splitOn separator).map String.ofList

/-! ## Contiguous substrings -/

/-- Whether `part` starts `whole`. -/
def startsWith : (part whole : List Char) → Bool
  | [], _ => true
  | _ :: _, [] => false
  | p :: part, w :: whole => p == w && startsWith part whole

/-- Whether `part` occurs in `whole`, its characters next to each other. -/
def occursIn (part : List Char) : (whole : List Char) → Bool
  | [] => startsWith part []
  | w :: whole => startsWith part (w :: whole) || occursIn part whole

theorem startsWith_iff {part whole : List Char} :
    startsWith part whole = true ↔ ∃ rest, whole = part ++ rest := by
  induction part generalizing whole with
  | nil => simp [startsWith]
  | cons p part ih =>
    cases whole with
    | nil => simp [startsWith]
    | cons w whole =>
      simp only [startsWith, Bool.and_eq_true, beq_iff_eq, ih, List.cons_append, List.cons.injEq]
      constructor
      · rintro ⟨rfl, rest, h⟩
        exact ⟨rest, rfl, h⟩
      · rintro ⟨rest, rfl, h⟩
        exact ⟨rfl, rest, h⟩

theorem occursIn_iff {part whole : List Char} :
    occursIn part whole = true ↔ ∃ before rest, whole = before ++ part ++ rest := by
  induction whole with
  | nil =>
    simp only [occursIn, startsWith_iff]
    constructor
    · rintro ⟨rest, h⟩
      exact ⟨[], rest, by simpa using h⟩
    · rintro ⟨before, rest, h⟩
      simp only [List.append_assoc, List.nil_eq, List.append_eq_nil_iff] at h
      exact ⟨rest, by simp [h.2.1, h.2.2]⟩
  | cons w whole ih =>
    simp only [occursIn, Bool.or_eq_true, startsWith_iff, ih]
    constructor
    · rintro (⟨rest, h⟩ | ⟨before, rest, h⟩)
      · exact ⟨[], rest, by simpa using h⟩
      · exact ⟨w :: before, rest, by simp [h]⟩
    · rintro ⟨before, rest, h⟩
      cases before with
      | nil => exact Or.inl ⟨rest, by simpa using h⟩
      | cons b before =>
        simp only [List.cons_append, List.cons.injEq] at h
        exact Or.inr ⟨before, rest, h.2⟩

end SceneCatalog.Text
