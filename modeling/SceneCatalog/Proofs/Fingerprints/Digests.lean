import Mathlib.Data.List.TakeWhile
import SceneCatalog.Fingerprint

/-!
Digests as they are given and as they are kept. Letters, digits and blanks are told by the numbers
of the characters; a text is trimmed in one way only, and what is kept is kept as it is.
-/
namespace SceneCatalog

namespace Text

/-! ## Letters and digits, by their numbers -/

theorem le_iff_toNat_le {a b : Char} : a ≤ b ↔ a.toNat ≤ b.toNat := UInt32.le_iff_toNat_le

theorem toNat_ofNat_of_lt {n : Nat} (h : n < 0xD800) : (Char.ofNat n).toNat = n :=
  congrArg Char.toNat (dif_pos (Or.inl h))

theorem toNat_lowerAsciiChar (c : Char) :
    (lowerAsciiChar c).toNat = if 65 ≤ c.toNat ∧ c.toNat ≤ 90 then c.toNat + 32 else c.toNat := by
  simp only [lowerAsciiChar, le_iff_toNat_le, Char.reduceToNat]
  split
  · exact toNat_ofNat_of_lt (by omega)
  · rfl

theorem toNat_upperAsciiChar (c : Char) :
    (upperAsciiChar c).toNat = if 97 ≤ c.toNat ∧ c.toNat ≤ 122 then c.toNat - 32 else c.toNat := by
  simp only [upperAsciiChar, le_iff_toNat_le, Char.reduceToNat]
  split
  · exact toNat_ofNat_of_lt (by omega)
  · rfl

theorem isLowerHex_iff {c : Char} :
    isLowerHex c = true ↔ 48 ≤ c.toNat ∧ c.toNat ≤ 57 ∨ 97 ≤ c.toNat ∧ c.toNat ≤ 102 := by
  simp only [isLowerHex, le_iff_toNat_le, Char.reduceToNat, Bool.or_eq_true, Bool.and_eq_true,
    decide_eq_true_eq]

/-- A hexadecimal digit, in either letter case. -/
def IsHexDigit (c : Char) : Prop := (hexValue? c).isSome

theorem isHexDigit_iff {c : Char} :
    IsHexDigit c ↔ 48 ≤ c.toNat ∧ c.toNat ≤ 57 ∨ 97 ≤ c.toNat ∧ c.toNat ≤ 102 ∨
      65 ≤ c.toNat ∧ c.toNat ≤ 70 := by
  simp only [IsHexDigit, hexValue?, le_iff_toNat_le, Char.reduceToNat]
  split
  · simp [*]
  · split
    · simp [*]
    · split <;> simp [*]

theorem isHexDigit_of_isLowerHex {c : Char} (h : isLowerHex c = true) : IsHexDigit c := by
  rw [isLowerHex_iff] at h
  rw [isHexDigit_iff]
  omega

theorem isLowerHex_lowerAsciiChar_iff {c : Char} :
    isLowerHex (lowerAsciiChar c) = true ↔ IsHexDigit c := by
  rw [isLowerHex_iff, isHexDigit_iff, toNat_lowerAsciiChar]
  split <;> omega

theorem lowerAsciiChar_of_isLowerHex {c : Char} (h : isLowerHex c = true) :
    lowerAsciiChar c = c := by
  rw [isLowerHex_iff] at h
  rw [← Char.toNat_inj, toNat_lowerAsciiChar, if_neg (by omega)]

theorem not_isBlank_of_isHexDigit {c : Char} (h : IsHexDigit c) : isBlank c = false := by
  rw [isHexDigit_iff, ← Char.toNat_val] at h
  simp [isBlank, UInt32.le_iff_toNat_le, ← UInt32.toNat_inj] at h ⊢
  omega

/-- A letter and another that is its capital or its small form, or the same. -/
def SameLetter (c d : Char) : Prop := c = d ∨ upperAsciiChar c = d ∨ c = upperAsciiChar d

theorem lowerAsciiChar_eq_iff {c d : Char} :
    lowerAsciiChar c = lowerAsciiChar d ↔ SameLetter c d := by
  simp only [SameLetter, ← Char.toNat_inj, toNat_lowerAsciiChar, toNat_upperAsciiChar]
  split <;> split <;> split <;> split <;> omega

/-! ## Blanks -/

/-- A text is `core` with nothing but blanks around it. -/
structure Trimmed (text core : List Char) : Prop where
  around : ∃ front back, text = front ++ core ++ back ∧ (∀ c ∈ front, isBlank c = true) ∧
    ∀ c ∈ back, isBlank c = true
  starts : ∀ c ∈ core.head?, isBlank c = false
  ends : ∀ c ∈ core.getLast?, isBlank c = false

theorem dropWhile_isBlank_of_head {cs : List Char} (h : ∀ c ∈ cs.head?, isBlank c = false) :
    cs.dropWhile isBlank = cs := by
  cases cs with
  | nil => rfl
  | cons c cs =>
    rw [List.dropWhile_cons_of_neg]
    rw [h c rfl]
    exact Bool.false_ne_true

/-- Blanks are dropped up to the first character that is none. -/
theorem dropWhile_isBlank_append {front cs : List Char} (blank : ∀ c ∈ front, isBlank c = true)
    (starts : ∀ c ∈ cs.head?, isBlank c = false) : (front ++ cs).dropWhile isBlank = cs := by
  rw [List.dropWhile_append_of_pos blank, dropWhile_isBlank_of_head starts]

/-- What neither starts nor ends with a blank is trimmed. -/
theorem trimmed_self {core : List Char} (h : ∀ c ∈ core, isBlank c = false) : Trimmed core core :=
  ⟨⟨[], [], (List.append_nil core).symm, nofun, nofun⟩, fun c hc => h c (List.mem_of_mem_head? hc),
    fun c hc => h c (List.mem_of_mem_getLast? hc)⟩

theorem trimmed_trimChars (text : List Char) : Trimmed text (trimChars text) := by
  let behind := text.dropWhile isBlank
  let kept := behind.reverse.dropWhile isBlank
  have hfront : text.takeWhile isBlank ++ behind = text := List.takeWhile_append_dropWhile
  have hback : behind.reverse.takeWhile isBlank ++ kept = behind.reverse :=
    List.takeWhile_append_dropWhile
  have hbehind : kept.reverse ++ (behind.reverse.takeWhile isBlank).reverse = behind := by
    rw [← List.reverse_append, hback, List.reverse_reverse]
  refine ⟨⟨text.takeWhile isBlank, (behind.reverse.takeWhile isBlank).reverse, ?_, ?_, ?_⟩, ?_, ?_⟩
  · rw [trimChars, List.append_assoc]
    exact (hfront.symm.trans (congrArg _ hbehind.symm))
  · exact fun c hc => List.mem_takeWhile_imp hc
  · exact fun c hc => List.mem_takeWhile_imp (List.mem_reverse.mp hc)
  · -- what is kept starts as what is behind the blanks in front
    intro c hc
    refine head_dropWhile_isBlank text c ?_
    change c ∈ kept.reverse.head? at hc
    change c ∈ behind.head?
    rw [← hbehind, List.head?_append, Option.mem_def.mp hc]
    rfl
  · intro c hc
    rw [trimChars, List.getLast?_reverse] at hc
    exact head_dropWhile_isBlank _ c hc

/-- There is only one way to trim a text. -/
theorem Trimmed.eq {text core : List Char} (h : Trimmed text core) : trimChars text = core := by
  obtain ⟨⟨front, back, rfl, hfront, hback⟩, starts, ends⟩ := h
  cases core with
  | nil =>
    have hall : (front ++ [] ++ back).dropWhile isBlank = [] := by
      rw [List.append_nil, List.dropWhile_eq_nil_iff]
      exact fun c hc => (List.mem_append.mp hc).elim (hfront c) (hback c)
    rw [trimChars, hall]
    rfl
  | cons c core =>
    have hdrop : (front ++ (c :: core) ++ back).dropWhile isBlank = c :: core ++ back := by
      rw [List.append_assoc]
      exact dropWhile_isBlank_append hfront starts
    rw [trimChars, hdrop, List.reverse_append, dropWhile_isBlank_append, List.reverse_reverse]
    · exact fun c hc => hback c (List.mem_reverse.mp hc)
    · rwa [List.head?_reverse]

end Text

open Text

/-! ## Kept digests -/

/-- A digest in its kept form is kept as it is. -/
theorem keptHash_of_accepts {a : Algorithm} {hash : String} (h : a.Accepts hash) :
    keptHash hash = hash := by
  have hhex : ∀ c ∈ hash.toList, isLowerHex c = true := List.all_eq_true.mp h.2
  have htrim : trimChars hash.toList = hash.toList :=
    (trimmed_self fun c hc => not_isBlank_of_isHexDigit (isHexDigit_of_isLowerHex (hhex c hc))).eq
  have hlower : hash.toList.map lowerAsciiChar = hash.toList :=
    (List.map_congr_left fun c hc => lowerAsciiChar_of_isLowerHex (hhex c hc)).trans (List.map_id _)
  rw [keptHash, trim, htrim, String.ofList_toList, lowerAscii, hlower, String.ofList_toList]

/-- A fingerprint is known by the name of its family and its digest. -/
theorem Fingerprint.eq_of_name {f g : Fingerprint} (halgorithm : f.algorithm.name = g.algorithm.name)
    (hhash : f.hash = g.hash) : f = g := by
  have hsame : f.algorithm = g.algorithm := by
    have h := Algorithm.ofName?_name f.algorithm
    rw [halgorithm, Algorithm.ofName?_name] at h
    exact (Option.some.inj h).symm
  cases f
  cases g
  cases hsame
  cases hhash
  rfl

theorem Fingerprint.parse_name (f : Fingerprint) :
    Fingerprint.parse f.algorithm.name f.hash = .ok f := by
  have hkept := keptHash_of_accepts f.accepted
  rw [Fingerprint.parse, Algorithm.ofName?_name]
  dsimp only
  unfold Fingerprint.ofRaw
  simp only [hkept, f.accepted, dif_pos]

theorem Fingerprint.hash_of_ofRaw {a : Algorithm} {raw : String} {f : Fingerprint}
    (h : Fingerprint.ofRaw a raw = .ok f) : f.hash = keptHash raw := by
  by_cases ha : a.Accepts (keptHash raw)
  · simp only [Fingerprint.ofRaw, dif_pos ha, Except.ok.injEq] at h
    rw [← h]
  · simp [Fingerprint.ofRaw, ha] at h

/-- A text is a digest of some hash family. -/
def IsDigest (raw : String) : Prop := ∃ a f, Fingerprint.ofRaw a raw = .ok f

theorem isDigest_iff {raw : String} :
    IsDigest raw ↔ ∃ a : Algorithm, a.Accepts (keptHash raw) := by
  constructor
  · rintro ⟨a, f, h⟩
    by_cases ha : a.Accepts (keptHash raw)
    · exact ⟨a, ha⟩
    · simp [Fingerprint.ofRaw, ha] at h
  · rintro ⟨a, ha⟩
    exact ⟨a, ⟨a, keptHash raw, ha⟩, by simp [Fingerprint.ofRaw, ha]⟩

end SceneCatalog
