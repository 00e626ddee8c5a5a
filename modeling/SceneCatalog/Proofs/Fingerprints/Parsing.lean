import Mathlib.Data.List.Forall2
import SceneCatalog.Proofs.Fingerprints.Digests

/-!
Which texts are read as fingerprints. A digest is counted in bytes and its characters are looked at
byte by byte, but blanks, letter cases and digits are those of characters. Main statement: what is
read is the name of a family with as many hexadecimal digits as the family has, blanks around them
put aside; all else is refused for the name, the number of bytes or the first byte that is no digit,
in this order.
-/
namespace SceneCatalog

namespace Text

/-! ## Bytes -/

/-- The bytes of a text in UTF-8. -/
def bytes (cs : List Char) : List UInt8 := cs.flatMap String.utf8EncodeChar

/-- A byte that is a hexadecimal digit, in either letter case. -/
def IsHexByte (b : UInt8) : Prop := IsHexDigit (Char.ofNat b.toNat)

theorem toNat_lt (c : Char) : c.toNat < 0x110000 := by
  rcases c.valid with h | h
  · exact Nat.lt_trans h (by decide)
  · exact h.2

/-- A character is one byte if it is an ASCII character, and else starts with its lead byte. -/
theorem utf8EncodeChar_eq (c : Char) :
    ∃ rest, String.utf8EncodeChar c = UInt8.ofNat (leadByte c) :: rest ∧
      (c.toNat < 0x80 → rest = []) := by
  have hc := toNat_lt c
  simp only [String.utf8EncodeChar, leadByte, Char.toNat_val]
  by_cases h1 : c.toNat < 0x80
  · rw [if_pos h1, if_pos (by omega)]
    exact ⟨[], rfl, fun _ => rfl⟩
  rw [if_neg h1, if_neg (by omega)]
  by_cases h2 : c.toNat < 0x800
  · rw [if_pos h2, if_pos (by omega), Nat.mod_eq_of_lt (by omega), Nat.add_comm]
    exact ⟨_, rfl, fun h => absurd h h1⟩
  rw [if_neg h2, if_neg (by omega)]
  by_cases h3 : c.toNat < 0x10000
  · rw [if_pos h3, if_pos (by omega), Nat.mod_eq_of_lt (by omega), Nat.add_comm]
    exact ⟨_, rfl, fun h => absurd h h1⟩
  · rw [if_neg h3, if_neg (by omega), Nat.mod_eq_of_lt (by omega), Nat.add_comm]
    exact ⟨_, rfl, fun h => absurd h h1⟩

theorem toNat_lt_of_isHexDigit {c : Char} (h : IsHexDigit c) : c.toNat < 0x80 := by
  rw [isHexDigit_iff] at h
  omega

theorem leadByte_of_lt {c : Char} (h : c.toNat < 0x80) : leadByte c = c.toNat := if_pos h

/-- The lead byte of a character beyond ASCII is beyond ASCII. -/
theorem leadByte_of_not_lt {c : Char} (h : ¬ c.toNat < 0x80) :
    0x80 ≤ leadByte c ∧ leadByte c < 0x100 := by
  have hc := toNat_lt c
  simp only [leadByte, if_neg h]
  split
  · omega
  split <;> omega

theorem leadByte_lt (c : Char) : leadByte c < 0x100 := by
  by_cases h : c.toNat < 0x80
  · rw [leadByte_of_lt h]
    omega
  · exact (leadByte_of_not_lt h).2

theorem toNat_ofNat_leadByte (c : Char) : (UInt8.ofNat (leadByte c)).toNat = leadByte c :=
  UInt8.toNat_ofNat_of_lt' (leadByte_lt c)

/-- A character is a digit if its first byte is one. -/
theorem isHexByte_leadByte_iff {c : Char} :
    IsHexByte (UInt8.ofNat (leadByte c)) ↔ IsHexDigit c := by
  have hlt := leadByte_lt c
  rw [IsHexByte, toNat_ofNat_leadByte, isHexDigit_iff, isHexDigit_iff,
    toNat_ofNat_of_lt (by omega)]
  by_cases h : c.toNat < 0x80
  · rw [leadByte_of_lt h]
  · have := leadByte_of_not_lt h
    omega

/-- Made small, a character starts with its first byte made small. -/
theorem leadByte_lowerAsciiChar (c : Char) :
    Char.ofNat (leadByte (lowerAsciiChar c)) = lowerAsciiChar (Char.ofNat (leadByte c)) := by
  by_cases h : c.toNat < 0x80
  · have hlower : (lowerAsciiChar c).toNat < 0x80 := by
      rw [toNat_lowerAsciiChar]
      split <;> omega
    rw [leadByte_of_lt h, leadByte_of_lt hlower, Char.ofNat_toNat, Char.ofNat_toNat]
  · have hkept : lowerAsciiChar c = c := by
      rw [← Char.toNat_inj, toNat_lowerAsciiChar, if_neg (by omega)]
    have hlead := leadByte_of_not_lt h
    rw [hkept, ← Char.toNat_inj, toNat_lowerAsciiChar, toNat_ofNat_of_lt (by omega),
      if_neg (by omega)]

theorem utf8Size_lowerAsciiChar (c : Char) : (lowerAsciiChar c).utf8Size = c.utf8Size := by
  have hone : ∀ {d : Char}, d.toNat ≤ 127 → d.utf8Size = 1 := fun h =>
    Char.utf8Size_eq_one_iff.mpr (UInt32.le_iff_toNat_le.mpr h)
  have hsmall := toNat_lowerAsciiChar c
  split at hsmall
  · rw [hone (by omega), hone (by omega)]
  · rw [Char.toNat_inj.mp hsmall]

theorem utf8ByteSize_ofList (cs : List Char) :
    (String.ofList cs).utf8ByteSize = (bytes cs).length := by
  rw [String.utf8ByteSize, String.toByteArray_ofList]
  simp [List.utf8Encode, bytes]

theorem length_bytes_map_lowerAsciiChar (cs : List Char) :
    (bytes (cs.map lowerAsciiChar)).length = (bytes cs).length := by
  induction cs with
  | nil => rfl
  | cons c cs ih =>
    simp only [bytes, List.map_cons, List.flatMap_cons, List.length_append,
      String.length_utf8EncodeChar, utf8Size_lowerAsciiChar] at ih ⊢
    rw [ih]

/-- The bytes of digits are the digits. -/
theorem length_bytes_of_isHexDigit {cs : List Char} (h : ∀ c ∈ cs, IsHexDigit c) :
    (bytes cs).length = cs.length := by
  induction cs with
  | nil => rfl
  | cons c cs ih =>
    obtain ⟨rest, hencode, hrest⟩ := utf8EncodeChar_eq c
    rw [bytes, List.flatMap_cons, List.length_append, hencode,
      hrest (toNat_lt_of_isHexDigit (h c List.mem_cons_self)), List.length_cons]
    exact (Nat.add_comm _ _).trans
      (congrArg (· + 1) (ih fun d hd => h d (List.mem_cons_of_mem _ hd)))

/-- Every byte is a digit if every character is one. -/
theorem forall_isHexByte_iff {cs : List Char} :
    (∀ b ∈ bytes cs, IsHexByte b) ↔ ∀ c ∈ cs, IsHexDigit c := by
  constructor
  · intro h c hc
    obtain ⟨rest, hencode, -⟩ := utf8EncodeChar_eq c
    refine isHexByte_leadByte_iff.mp (h _ (List.mem_flatMap.mpr ⟨c, hc, ?_⟩))
    rw [hencode]
    exact List.mem_cons_self
  · intro h b hb
    obtain ⟨c, hc, hb⟩ := List.mem_flatMap.mp hb
    obtain ⟨rest, hencode, hrest⟩ := utf8EncodeChar_eq c
    rw [hencode, hrest (toNat_lt_of_isHexDigit (h c hc)), List.mem_singleton] at hb
    exact hb ▸ isHexByte_leadByte_iff.mpr (h c hc)

/-- A byte is the first that is no digit. -/
structure FirstOther (bs front : List UInt8) (byte : UInt8) : Prop where
  split : ∃ rest, bs = front ++ byte :: rest
  digits : ∀ b ∈ front, IsHexByte b
  other : ¬ IsHexByte byte

theorem exists_firstOther {bs : List UInt8} (h : ¬ ∀ b ∈ bs, IsHexByte b) :
    ∃ front byte, FirstOther bs front byte := by
  induction bs with
  | nil => exact absurd nofun h
  | cons b bs ih =>
    by_cases hb : IsHexByte b
    · obtain ⟨front, byte, ⟨rest, rfl⟩, hdigits, hother⟩ :=
        ih fun hbs => h (List.forall_mem_cons.mpr ⟨hb, hbs⟩)
      exact ⟨b :: front, byte, ⟨rest, rfl⟩, List.forall_mem_cons.mpr ⟨hb, hdigits⟩, hother⟩
    · exact ⟨[], b, ⟨bs, rfl⟩, nofun, hb⟩

theorem FirstOther.not_forall {bs front : List UInt8} {byte : UInt8}
    (h : FirstOther bs front byte) : ¬ ∀ b ∈ bs, IsHexByte b := by
  obtain ⟨⟨rest, rfl⟩, -, hother⟩ := h
  exact fun hall => hother (hall byte (List.mem_append_right _ List.mem_cons_self))

end Text

open Text

/-- The first character that is no digit is reported with its first byte, which is the first that is
none. -/
theorem HashFault.firstCharacter?_of_firstOther {cs : List Char} {front : List UInt8} {byte : UInt8}
    (h : FirstOther (bytes cs) front byte) (position : Nat) :
    HashFault.firstCharacter? position (cs.map lowerAsciiChar) =
      some (.character (lowerAsciiChar (Char.ofNat byte.toNat)) (position + front.length)) := by
  induction cs generalizing front position with
  | nil =>
    obtain ⟨⟨rest, hsplit⟩, -, -⟩ := h
    exact absurd hsplit.symm (List.append_ne_nil_of_right_ne_nil _ (List.cons_ne_nil _ _))
  | cons c cs ih =>
    obtain ⟨⟨rest, hsplit⟩, hdigits, hother⟩ := h
    obtain ⟨more, hencode, hmore⟩ := utf8EncodeChar_eq c
    rw [bytes, List.flatMap_cons, hencode, List.cons_append] at hsplit
    rw [List.map_cons, HashFault.firstCharacter?]
    by_cases hc : IsHexDigit c
    · -- a digit is one byte, and the byte that is none comes behind it
      rw [if_pos (isLowerHex_lowerAsciiChar_iff.mpr hc)]
      rw [hmore (toNat_lt_of_isHexDigit hc), List.nil_append] at hsplit
      cases front with
      | nil =>
        rw [← (List.cons.inj hsplit).1, isHexByte_leadByte_iff] at hother
        exact absurd hc hother
      | cons b front =>
        rw [ih ⟨⟨rest, (List.cons.inj hsplit).2⟩, (List.forall_mem_cons.mp hdigits).2, hother⟩,
          List.length_cons, Nat.add_right_comm, Nat.add_assoc]
    · rw [if_neg (fun hlower => hc (isLowerHex_lowerAsciiChar_iff.mp hlower))]
      cases front with
      | nil =>
        rw [← (List.cons.inj hsplit).1, toNat_ofNat_leadByte, leadByte_lowerAsciiChar]
        rfl
      | cons b front =>
        have hb := hdigits b List.mem_cons_self
        rw [← (List.cons.inj hsplit).1, isHexByte_leadByte_iff] at hb
        exact absurd hb hc

/-! ## What is read and what is refused -/

/-- A text gives digits of a family: as many as its digests have, with nothing but blanks around
them. -/
structure Gives (raw : String) (a : Algorithm) (digits : List Char) : Prop where
  trimmed : Trimmed raw.toList digits
  count : digits.length = a.digits
  hex : ∀ c ∈ digits, IsHexDigit c

/-- A fingerprint is what a family's name and a digest stand for: the digits in small letters. -/
def Stands (family raw : String) (f : Fingerprint) : Prop :=
  f.algorithm.name = family ∧
    ∃ digits, Gives raw f.algorithm digits ∧ f.hash = String.ofList (digits.map lowerAsciiChar)

/-- Why a family's name and a digest are refused. -/
inductive Refused (family raw : String) : CatalogError → Prop
  | family (unknown : ∀ a : Algorithm, a.name ≠ family) :
      Refused family raw (.unknownAlgorithm family)
  | length {a : Algorithm} {core : List Char} (known : a.name = family)
      (trimmed : Trimmed raw.toList core) (differs : (bytes core).length ≠ a.digits) :
      Refused family raw (.invalidHash (some a) raw (.length a.digits (bytes core).length))
  | character {a : Algorithm} {core : List Char} {front : List UInt8} {byte : UInt8}
      (known : a.name = family) (trimmed : Trimmed raw.toList core)
      (agrees : (bytes core).length = a.digits) (first : FirstOther (bytes core) front byte) :
      Refused family raw (.invalidHash (some a) raw
        (.character (lowerAsciiChar (Char.ofNat byte.toNat)) front.length))

section OneText

variable {raw : String} {a : Algorithm} {core : List Char}

theorem toList_keptHash (h : Trimmed raw.toList core) :
    (keptHash raw).toList = core.map lowerAsciiChar := by
  rw [keptHash, trim, h.eq, lowerAscii, String.toList_ofList, String.toList_ofList]

theorem utf8ByteSize_keptHash (h : Trimmed raw.toList core) :
    (keptHash raw).utf8ByteSize = (bytes core).length := by
  rw [← String.ofList_toList (s := keptHash raw), toList_keptHash h, utf8ByteSize_ofList,
    length_bytes_map_lowerAsciiChar]

theorem accepts_keptHash_iff (h : Trimmed raw.toList core) :
    a.Accepts (keptHash raw) ↔ Gives raw a core := by
  rw [Algorithm.Accepts, toList_keptHash h, List.length_map, List.all_map, List.all_eq_true]
  simp only [Function.comp_apply, isLowerHex_lowerAsciiChar_iff]
  exact ⟨fun ⟨hcount, hhex⟩ => ⟨h, hcount, hhex⟩, fun hgives => ⟨hgives.count, hgives.hex⟩⟩

/-- Digits may be counted and looked at byte by byte. -/
theorem gives_iff_bytes (h : Trimmed raw.toList core) :
    Gives raw a core ↔ (bytes core).length = a.digits ∧ ∀ b ∈ bytes core, IsHexByte b := by
  rw [forall_isHexByte_iff]
  constructor
  · rintro ⟨-, hcount, hhex⟩
    exact ⟨(length_bytes_of_isHexDigit hhex).trans hcount, hhex⟩
  · rintro ⟨hcount, hhex⟩
    exact ⟨h, (length_bytes_of_isHexDigit hhex).symm.trans hcount, hhex⟩

/-- What the fingerprint of given digits is. -/
theorem ofRaw_of_gives (h : Gives raw a core) :
    ∃ f, Fingerprint.ofRaw a raw = .ok f ∧ f.algorithm = a ∧
      f.hash = String.ofList (core.map lowerAsciiChar) := by
  have haccepts := (accepts_keptHash_iff h.trimmed).mpr h
  refine ⟨⟨a, keptHash raw, haccepts⟩, by simp only [Fingerprint.ofRaw, dif_pos haccepts], rfl, ?_⟩
  rw [← toList_keptHash h.trimmed, String.ofList_toList]

theorem ofRaw_of_not_gives (trimmed : Trimmed raw.toList core) (h : ¬ Gives raw a core) :
    Fingerprint.ofRaw a raw =
      .error (.invalidHash (some a) raw (Fingerprint.faultOf a (keptHash raw))) := by
  have hnot : ¬ a.Accepts (keptHash raw) := fun haccepts =>
    h ((accepts_keptHash_iff trimmed).mp haccepts)
  simp only [Fingerprint.ofRaw, dif_neg hnot]

theorem ofRaw_of_length (trimmed : Trimmed raw.toList core)
    (differs : (bytes core).length ≠ a.digits) :
    Fingerprint.ofRaw a raw =
      .error (.invalidHash (some a) raw (.length a.digits (bytes core).length)) := by
  rw [ofRaw_of_not_gives trimmed fun h => differs ((gives_iff_bytes trimmed).mp h).1,
    Fingerprint.faultOf, utf8ByteSize_keptHash trimmed, if_pos differs]

theorem ofRaw_of_firstOther {front : List UInt8} {byte : UInt8} (trimmed : Trimmed raw.toList core)
    (agrees : (bytes core).length = a.digits) (first : FirstOther (bytes core) front byte) :
    Fingerprint.ofRaw a raw = .error (.invalidHash (some a) raw
      (.character (lowerAsciiChar (Char.ofNat byte.toNat)) front.length)) := by
  rw [ofRaw_of_not_gives trimmed fun h => first.not_forall ((gives_iff_bytes trimmed).mp h).2,
    Fingerprint.faultOf, utf8ByteSize_keptHash trimmed, if_neg (not_not_intro agrees),
    toList_keptHash trimmed, HashFault.firstCharacter?_of_firstOther first, Option.getD_some,
    Nat.zero_add]

/-- Digits are given, or their number is wrong, or there is a first byte that is no digit. -/
theorem gives_or_faulty (a : Algorithm) (trimmed : Trimmed raw.toList core) :
    Gives raw a core ∨ (bytes core).length ≠ a.digits ∨
      ((bytes core).length = a.digits ∧ ∃ front byte, FirstOther (bytes core) front byte) := by
  by_cases agrees : (bytes core).length = a.digits
  · by_cases hall : ∀ b ∈ bytes core, IsHexByte b
    · exact Or.inl ((gives_iff_bytes trimmed).mpr ⟨agrees, hall⟩)
    · exact Or.inr (Or.inr ⟨agrees, exists_firstOther hall⟩)
  · exact Or.inr (Or.inl agrees)

end OneText

namespace Fingerprint

theorem parse_of_name (a : Algorithm) (raw : String) : parse a.name raw = ofRaw a raw := by
  rw [parse, Algorithm.ofName?_name]

theorem parse_of_unknown {family : String} (h : ∀ a : Algorithm, a.name ≠ family) (raw : String) :
    parse family raw = .error (.unknownAlgorithm family) := by
  have hnone : Algorithm.ofName? family = none := by
    cases hname : Algorithm.ofName? family with
    | none => rfl
    | some a => exact absurd (Algorithm.ofName?_eq_some_iff.mp hname) (h a)
  rw [parse, hnone]

theorem parse_of_stands {family raw : String} {f : Fingerprint} (h : Stands family raw f) :
    parse family raw = .ok f := by
  obtain ⟨rfl, digits, hgives, hhash⟩ := h
  obtain ⟨g, hg, halgorithm, hghash⟩ := ofRaw_of_gives hgives
  rw [parse_of_name, hg, eq_of_name (congrArg Algorithm.name halgorithm) (hghash.trans hhash.symm)]

theorem parse_of_refused {family raw : String} {e : CatalogError} (h : Refused family raw e) :
    parse family raw = .error e := by
  cases h with
  | family unknown => exact parse_of_unknown unknown raw
  | length known trimmed differs =>
    rw [← known, parse_of_name, ofRaw_of_length trimmed differs]
  | character known trimmed agrees first =>
    rw [← known, parse_of_name, ofRaw_of_firstOther trimmed agrees first]

/-- Every name with a digest stands for a fingerprint or is refused for some reason. -/
theorem stands_or_refused (family raw : String) :
    (∃ f, Stands family raw f) ∨ ∃ e, Refused family raw e := by
  by_cases hname : ∃ a : Algorithm, a.name = family
  · obtain ⟨a, rfl⟩ := hname
    have trimmed := trimmed_trimChars raw.toList
    rcases gives_or_faulty a trimmed with hgives | differs | ⟨agrees, front, byte, first⟩
    · obtain ⟨f, -, rfl, hhash⟩ := ofRaw_of_gives hgives
      exact Or.inl ⟨f, rfl, _, hgives, hhash⟩
    · exact Or.inr ⟨_, .length rfl trimmed differs⟩
    · exact Or.inr ⟨_, .character rfl trimmed agrees first⟩
  · exact Or.inr ⟨_, .family fun a ha => hname ⟨a, ha⟩⟩

theorem parse_eq_ok_iff {family raw : String} {f : Fingerprint} :
    parse family raw = .ok f ↔ Stands family raw f := by
  refine ⟨fun h => ?_, parse_of_stands⟩
  rcases stands_or_refused family raw with ⟨g, hg⟩ | ⟨e, he⟩
  · cases h.symm.trans (parse_of_stands hg)
    exact hg
  · cases h.symm.trans (parse_of_refused he)

theorem parse_eq_error_iff {family raw : String} {e : CatalogError} :
    parse family raw = .error e ↔ Refused family raw e := by
  refine ⟨fun h => ?_, parse_of_refused⟩
  rcases stands_or_refused family raw with ⟨g, hg⟩ | ⟨e, he⟩
  · cases h.symm.trans (parse_of_stands hg)
  · cases h.symm.trans (parse_of_refused he)
    exact he

/-- Digits that are the same but for their letter case are the same in small letters. -/
theorem map_lowerAsciiChar_eq_iff {cs ds : List Char} :
    cs.map lowerAsciiChar = ds.map lowerAsciiChar ↔ List.Forall₂ SameLetter cs ds := by
  rw [← List.forall₂_eq_eq_eq, List.forall₂_map_left_iff, List.forall₂_map_right_iff]
  simp only [lowerAsciiChar_eq_iff]

/-- Two names with digests stand for one fingerprint if the names are the same and the digits are,
but for their letter case. -/
theorem eq_iff_of_stands {family family' raw raw' : String} {f g : Fingerprint}
    {digits digits' : List Char} (hf : Stands family raw f) (hg : Stands family' raw' g)
    (trimmed : Trimmed raw.toList digits) (trimmed' : Trimmed raw'.toList digits') :
    f = g ↔ family = family' ∧ List.Forall₂ SameLetter digits digits' := by
  obtain ⟨rfl, _, hgives, hhash⟩ := hf
  obtain ⟨rfl, _, hgives', hhash'⟩ := hg
  cases hgives.trimmed.eq.symm.trans trimmed.eq
  cases hgives'.trimmed.eq.symm.trans trimmed'.eq
  rw [← map_lowerAsciiChar_eq_iff, ← String.ofList_inj, ← hhash, ← hhash']
  constructor
  · rintro rfl
    exact ⟨rfl, rfl⟩
  · exact fun ⟨hname, hdigits⟩ => eq_of_name hname hdigits

end Fingerprint

/-! ## Digests whose family is not known -/

theorem HashFault.firstCharacter?_eq_none_iff {cs : List Char} {position : Nat} :
    HashFault.firstCharacter? position cs = none ↔ ∀ c ∈ cs, isLowerHex c = true := by
  induction cs generalizing position with
  | nil => exact ⟨fun _ => nofun, fun _ => rfl⟩
  | cons c cs ih =>
    rw [HashFault.firstCharacter?, List.forall_mem_cons]
    by_cases hc : isLowerHex c = true
    · rw [if_pos hc, ih]
      exact (and_iff_right hc).symm
    · rw [if_neg hc]
      exact ⟨nofun, fun h => absurd h.1 hc⟩

/-- The digits of a kept digest may be counted in bytes. -/
theorem accepts_iff_bytes {a : Algorithm} {hash : String} :
    a.Accepts hash ↔
      hash.utf8ByteSize = a.digits ∧ ∀ c ∈ hash.toList, isLowerHex c = true := by
  rw [Algorithm.Accepts, List.all_eq_true]
  refine and_congr_left fun hhex => ?_
  have hsize : hash.utf8ByteSize = hash.toList.length := by
    rw [← String.ofList_toList (s := hash), utf8ByteSize_ofList, String.toList_ofList]
    exact length_bytes_of_isHexDigit fun c hc => isHexDigit_of_isLowerHex (hhex c hc)
  rw [hsize]

theorem any_digits_iff {n : Nat} :
    (Algorithm.all.any (·.digits == n)) = true ↔ ∃ a : Algorithm, n = a.digits := by
  rw [List.any_eq_true]
  constructor
  · rintro ⟨a, -, ha⟩
    exact ⟨a, (beq_iff_eq.mp ha).symm⟩
  · rintro ⟨a, rfl⟩
    exact ⟨a, by cases a <;> simp [Algorithm.all], beq_self_eq_true _⟩

/-- Nothing is wrong with the digests of some family, and with no other text. -/
theorem anyHashFault?_eq_none_iff {hash : String} :
    anyHashFault? hash = none ↔ ∃ a : Algorithm, a.Accepts hash := by
  simp only [accepts_iff_bytes, exists_and_right, ← any_digits_iff, anyHashFault?]
  split
  · rename_i hlength
    rw [HashFault.firstCharacter?_eq_none_iff]
    exact (and_iff_right hlength).symm
  · rename_i hlength
    exact ⟨nofun, fun h => absurd h.1 hlength⟩

theorem normalizeAnyHash_of_isDigest {raw : String} (h : IsDigest raw) :
    normalizeAnyHash raw = .ok (keptHash raw) := by
  rw [normalizeAnyHash, anyHashFault?_eq_none_iff.mpr (isDigest_iff.mp h)]

theorem normalizeAnyHash_of_not_isDigest {raw : String} (h : ¬ IsDigest raw) :
    ∃ fault, normalizeAnyHash raw = .error (.invalidHash none raw fault) := by
  cases hfault : anyHashFault? (keptHash raw) with
  | none => exact absurd (isDigest_iff.mpr (anyHashFault?_eq_none_iff.mp hfault)) h
  | some fault => exact ⟨fault, by rw [normalizeAnyHash, hfault]⟩

/-- A digest of a family that is not known is kept as some family keeps it. -/
theorem normalizeAnyHash_eq_ok_iff {raw hash : String} :
    normalizeAnyHash raw = .ok hash ↔ ∃ a f, Fingerprint.ofRaw a raw = .ok f ∧ f.hash = hash := by
  constructor
  · intro h
    by_cases hdigest : IsDigest raw
    · rw [normalizeAnyHash_of_isDigest hdigest] at h
      obtain ⟨a, f, hf⟩ := hdigest
      exact ⟨a, f, hf, (Fingerprint.hash_of_ofRaw hf).trans (Except.ok.inj h)⟩
    · obtain ⟨fault, hfault⟩ := normalizeAnyHash_of_not_isDigest hdigest
      exact nomatch h.symm.trans hfault
  · rintro ⟨a, f, hf, rfl⟩
    rw [normalizeAnyHash_of_isDigest ⟨a, f, hf⟩, Fingerprint.hash_of_ofRaw hf]

/-- **Fingerprints are read exactly.** What is read is the name of a family with a digest of it, in
any letter case and with blanks around it; all else is refused for the first thing that is wrong with
it. A fingerprint that was read is read again as itself, and two are the same if they were given with
the same name and, but for letter case, the same digits. A digest without a family is kept if some
family keeps it, and in the same form. -/
theorem Fingerprint.parse_exact (family raw : String) :
    (∀ f, parse family raw = .ok f ↔ Stands family raw f) ∧
      (∀ e, parse family raw = .error e ↔ Refused family raw e) ∧
      (∀ f : Fingerprint, parse f.algorithm.name f.hash = .ok f) ∧
      (∀ (family' raw' : String) (f g : Fingerprint) (digits digits' : List Char),
        parse family raw = .ok f → parse family' raw' = .ok g →
          Trimmed raw.toList digits → Trimmed raw'.toList digits' →
            (f = g ↔ family = family' ∧ List.Forall₂ SameLetter digits digits')) ∧
      ∀ hash, normalizeAnyHash raw = .ok hash ↔ ∃ a f, ofRaw a raw = .ok f ∧ f.hash = hash := by
  refine ⟨fun f => parse_eq_ok_iff, fun e => parse_eq_error_iff, parse_name, ?_, fun hash =>
    normalizeAnyHash_eq_ok_iff⟩
  intro family' raw' f g digits digits' hf hg trimmed trimmed'
  exact eq_iff_of_stands (parse_eq_ok_iff.mp hf) (parse_eq_ok_iff.mp hg) trimmed trimmed'

end SceneCatalog
