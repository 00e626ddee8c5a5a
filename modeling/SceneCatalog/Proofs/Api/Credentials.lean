import SceneCatalog.Api.Service
import SceneCatalog.Proofs.Consensus.Plan

/-!
Who a request comes from, told without the order in which a token is taken apart and checked: a
token consists of a header, claims and a signature over both; it counts for the user and the roles
of its claims, as long as the claims have not expired.
-/
namespace SceneCatalog

/-! ## Parts of a text -/

namespace Text

/-- No part of a text has the character at which the text is taken apart. -/
theorem not_mem_of_mem_splitOn {xs l : List Char} {c : Char} (h : l ∈ xs.splitOn c) : c ∉ l := by
  induction xs generalizing l with
  | nil =>
    rw [List.splitOn_nil, List.mem_singleton] at h
    simp [h]
  | cons x xs ih =>
    rw [List.splitOn_cons_eq_if_modifyHead] at h
    split at h
    · rcases List.mem_cons.mp h with rfl | h
      · exact List.not_mem_nil
      · exact ih h
    · rename_i hx
      have hne : c ≠ x := fun e => hx (by simp [e])
      obtain ⟨first, rest, he⟩ := List.exists_cons_of_ne_nil (List.splitOn_ne_nil c xs)
      rw [he, List.modifyHead_cons] at h
      rcases List.mem_cons.mp h with rfl | h
      · exact List.not_mem_cons_of_ne_of_not_mem hne (ih (he ▸ List.mem_cons_self))
      · exact ih (he ▸ List.mem_cons_of_mem _ h)

theorem intercalate_concat {c : Char} {ls : List (List Char)} (h : ls ≠ []) (l : List Char) :
    [c].intercalate (ls ++ [l]) = [c].intercalate ls ++ c :: l := by
  induction ls with
  | nil => exact absurd rfl h
  | cons first rest ih =>
    cases rest with
    | nil => simp
    | cons second rest =>
      rw [List.cons_append, List.intercalate_cons_of_ne_nil (by simp), ih (by simp),
        List.intercalate_cons_cons]
      simp

/-! ## Digits of base 64 -/

namespace Base64Url

theorem isSome_value?_digit (n : Nat) : (value? (digit n)).isSome := by
  by_cases h : n < 63
  · revert h
    revert n
    decide
  · have h26 : ¬ n < 26 := by omega
    have h52 : ¬ n < 52 := by omega
    have h62 : ¬ n < 62 := by omega
    have h62' : n ≠ 62 := by omega
    simp [digit, h26, h52, h62, h62']
    decide

/-- A text that is written in base 64 has digits only. -/
theorem isSome_value?_of_mem_encode {bytes : List UInt8} {c : Char} (h : c ∈ encode bytes) :
    (value? c).isSome := by
  fun_induction encode bytes with
  | case1 => exact absurd h List.not_mem_nil
  | case2 a =>
    simp only [List.mem_cons, List.not_mem_nil, or_false] at h
    rcases h with rfl | rfl <;> exact isSome_value?_digit _
  | case3 a b =>
    simp only [List.mem_cons, List.not_mem_nil, or_false] at h
    rcases h with rfl | rfl | rfl <;> exact isSome_value?_digit _
  | case4 a b d rest ih =>
    simp only [List.mem_cons] at h
    rcases h with rfl | rfl | rfl | rfl | h
    · exact isSome_value?_digit _
    · exact isSome_value?_digit _
    · exact isSome_value?_digit _
    · exact isSome_value?_digit _
    · exact ih h

/-- A text that is read in base 64 has digits only. -/
theorem isSome_value?_of_decode? {cs : List Char} {bytes : List UInt8} {c : Char}
    (h : decode? cs = some bytes) (hc : c ∈ cs) : (value? c).isSome := by
  fun_induction decode? cs generalizing bytes with
  | case1 => exact absurd hc List.not_mem_nil
  | case2 => cases h
  | case3 x y =>
    simp only [Option.bind_eq_bind, Option.bind_eq_some_iff] at h
    obtain ⟨_, hx, _, hy, -⟩ := h
    simp only [List.mem_cons, List.not_mem_nil, or_false] at hc
    rcases hc with rfl | rfl <;> simp [*]
  | case4 x y z =>
    simp only [Option.bind_eq_bind, Option.bind_eq_some_iff] at h
    obtain ⟨_, hx, _, hy, _, hz, -⟩ := h
    simp only [List.mem_cons, List.not_mem_nil, or_false] at hc
    rcases hc with rfl | rfl | rfl <;> simp [*]
  | case5 x y z w rest ih =>
    simp only [Option.bind_eq_bind, Option.bind_eq_some_iff] at h
    obtain ⟨_, hx, _, hy, _, hz, _, hw, _, hrest, -⟩ := h
    simp only [List.mem_cons] at hc
    rcases hc with rfl | rfl | rfl | rfl | hc
    · simp [hx]
    · simp [hy]
    · simp [hz]
    · simp [hw]
    · exact ih hrest hc

theorem ne_dot_of_value? {c : Char} (h : (value? c).isSome) : c ≠ '.' := by
  rintro rfl
  exact absurd h (by decide)

theorem isPlain_of_between {a b c : Char} (h : a ≤ c ∧ c ≤ b) (ha : ' ' ≤ a) (hb : b ≤ '~') :
    Api.isPlain c = true := by
  simp [Api.isPlain, Char.le_trans ha h.1, Char.le_trans h.2 hb]

theorem isPlain_of_value? {c : Char} (h : (value? c).isSome) : Api.isPlain c = true := by
  unfold value? at h
  split at h
  · rename_i hc
    exact isPlain_of_between hc (by decide) (by decide)
  split at h
  · rename_i hc
    exact isPlain_of_between hc (by decide) (by decide)
  split at h
  · rename_i hc
    exact isPlain_of_between hc (by decide) (by decide)
  split at h
  · rename_i hc
    subst hc
    decide
  split at h
  · rename_i hc
    subst hc
    decide
  · cases h

end Base64Url
end Text

namespace Api

/-! ## Tokens -/

namespace Token

open Text

/-- A text is split at its last dot. -/
theorem splitLast?_eq_some_iff {text front last : String} :
    splitLast? text = some (front, last) ↔ text = front ++ "." ++ last ∧ '.' ∉ last.toList := by
  have hwhole : ['.'].intercalate (text.toList.splitOn '.') = text.toList :=
    List.intercalate_splitOn '.'
  unfold splitLast? Text.parts
  constructor
  · intro h
    split at h
    · rename_i last' part more hparts
      cases h
      have hsplit : text.toList.splitOn '.' =
          (part :: more).reverse.map String.toList ++ [last.toList] := by
        have hback := congrArg (fun l => (l.reverse).map String.toList) hparts
        simpa [Function.comp_def] using hback
      have hlast : last.toList ∈ text.toList.splitOn '.' := by
        rw [hsplit]
        simp
      rw [hsplit, intercalate_concat (by simp)] at hwhole
      refine ⟨String.toList_inj.mp ?_, not_mem_of_mem_splitOn hlast⟩
      rw [← hwhole]
      simp [String.toList_intercalate]
    · cases h
  · rintro ⟨rfl, hdot⟩
    have hsplit : (front ++ "." ++ last).toList.splitOn '.' =
        front.toList.splitOn '.' ++ [last.toList] := by
      rw [← List.splitOn_eq_singleton hdot, ← List.splitOn_append_cons_self]
      simp
    obtain ⟨part, more, hfront⟩ : ∃ part more,
        ((front.toList.splitOn '.').map String.ofList).reverse = part :: more :=
      List.exists_cons_of_ne_nil (by simp [List.splitOn_ne_nil])
    have hjoined : ".".intercalate (part :: more).reverse = front := by
      rw [← hfront, List.reverse_reverse]
      refine String.toList_inj.mp ?_
      rw [String.toList_intercalate, List.map_map]
      simp [Function.comp_def, List.intercalate_splitOn]
    rw [hsplit, List.map_append, List.reverse_append, hfront]
    simpa using hjoined

/-- What is written in base 64 comes off again. -/
theorem splitLast?_append (front : String) {last : String}
    (h : ∀ c ∈ last.toList, (Base64Url.value? c).isSome) :
    splitLast? (front ++ "." ++ last) = some (front, last) :=
  splitLast?_eq_some_iff.mpr ⟨rfl, fun hdot => Base64Url.ne_dot_of_value? (h _ hdot) rfl⟩

/-- A part that can be read is written in base 64. -/
theorem isSome_value?_of_readPart {α : Type} {decode : Json.Draft → Except Json.Fault α}
    {part : String} {a : α} (h : readPart decode part = .ok a) :
    ∀ c ∈ part.toList, (Base64Url.value? c).isSome := by
  intro c hc
  unfold readPart at h
  split at h
  · cases h
  · rename_i bytes hbytes
    exact Base64Url.isSome_value?_of_decode? hbytes hc

theorem isSome_value?_of_signature (secret text : String) :
    ∀ c ∈ (signature secret text).toList, (Base64Url.value? c).isSome := by
  intro c hc
  rw [signature, String.toList_ofList] at hc
  exact Base64Url.isSome_value?_of_mem_encode hc

/-- At a time, a token counts for a user under a secret. -/
def Counts (secret : String) (now : Timestamp) (token : String) (actor : Actor) : Prop :=
  ∃ header payload claims,
    token = header ++ "." ++ payload ++ "." ++ signature secret (header ++ "." ++ payload) ∧
      readPart SigningMethod.ofHeader header = .ok .hs256 ∧
      readPart Claims.ofDraft payload = .ok claims ∧ isFresh claims.expires now = true ∧
      actor = ⟨claims.subject, claims.roles⟩

/-- A token that counts is plain text. -/
theorem Counts.all_isPlain {secret : String} {now : Timestamp} {token : String} {actor : Actor}
    (h : Counts secret now token actor) : token.toList.all isPlain = true := by
  obtain ⟨header, payload, claims, rfl, hheader, hclaims, -⟩ := h
  have hdot : isPlain '.' = true := by decide
  have hdigits : ∀ {text : String}, (∀ c ∈ text.toList, (Base64Url.value? c).isSome) →
      text.toList.all isPlain = true := fun h =>
    List.all_eq_true.mpr fun c hc => Base64Url.isPlain_of_value? (h c hc)
  simp [String.toList_append, List.all_append, hdot,
    hdigits (isSome_value?_of_readPart hheader), hdigits (isSome_value?_of_readPart hclaims),
    hdigits (isSome_value?_of_signature _ _)]

theorem check_eq_ok_iff {secret : String} {now : Timestamp} {token : String} {actor : Actor} :
    check secret now token = .ok actor ↔ Counts secret now token actor := by
  constructor
  · intro h
    unfold check at h
    split at h
    · cases h
    rename_i message given hmessage
    split at h
    · cases h
    rename_i header payload hheader
    obtain ⟨method, hmethod, h⟩ := of_bind_ok h
    split at h
    · cases h
    split at h
    · cases h
    rename_i hgiven
    obtain ⟨claims, hclaims, h⟩ := of_bind_ok h
    split at h
    · rename_i hfresh
      cases h
      obtain ⟨rfl, -⟩ := splitLast?_eq_some_iff.mp hmessage
      obtain ⟨rfl, -⟩ := splitLast?_eq_some_iff.mp hheader
      obtain rfl := Decidable.not_not.mp hgiven
      exact ⟨header, payload, claims, rfl, hmethod, hclaims, hfresh, rfl⟩
    · cases h
  · rintro ⟨header, payload, claims, rfl, hmethod, hclaims, hfresh, rfl⟩
    -- base 64 has no dots, so the token comes apart where it was put together
    have hmessage := splitLast?_append (header ++ "." ++ payload)
      (isSome_value?_of_signature secret (header ++ "." ++ payload))
    have hheader := splitLast?_append header (isSome_value?_of_readPart hclaims)
    simp [check, hmessage, hheader, hmethod, hclaims, hfresh, bind, Except.bind]

end Token

/-- A token of a user who may modify, signed under the secret "s". The claims in it are
`{"sub":"00000000000000000000000000000001","roles":["MODIFY"],"exp":9}`. -/
def modifierToken : String :=
  let message := "eyJhbGciOiJIUzI1NiJ9" ++ "." ++
    "eyJzdWIiOiIwMDAwMDAwMDAwMDAwMDAwMDAwMDAwMDAwMDAwMDAwMSIsInJvbGVzIjpbIk1PRElGWSJdLCJleHAiOjl9"
  message ++ "." ++ Token.signature "s" message

theorem modifierToken_counts :
    Token.Counts "s" ⟨0, 0⟩ modifierToken ⟨.ofNat 1, [.modify]⟩ := by
  refine ⟨_, _, ⟨.ofNat 1, [.modify], 9⟩, rfl, of_toOption ?_, of_toOption ?_, ?_, rfl⟩
  · decide +kernel
  · decide +kernel
  · decide

/-! ## Requests -/

/-- A request shows a token that counts for a user, in the way in which tokens are shown. -/
def Request.Shows (r : Request) (secret : Option String) (now : Timestamp) (actor : Actor) :
    Prop :=
  ∃ key token, secret = some key ∧ r.authorization = some ("Bearer " ++ token) ∧
    Token.Counts key now token actor

theorem Request.bearer_eq_ok_iff {r : Request} {token : String} :
    r.bearer = .ok token ↔
      r.authorization = some ("Bearer " ++ token) ∧ token.toList.all isPlain = true := by
  unfold bearer
  cases r.authorization with
  | none => simp
  | some header =>
    simp only [Option.some.injEq]
    constructor
    · intro h
      split at h
      · cases h
      rename_i hplain
      split at h
      · rename_i hprefix
        cases h
        obtain ⟨token, htoken⟩ := List.isPrefixOf_iff_prefix.mp hprefix
        rw [← htoken] at hplain ⊢
        refine ⟨String.toList_inj.mp ?_, ?_⟩
        · simp [← htoken]
        · simp only [List.all_append, Bool.not_eq_true, Bool.not_eq_false', Bool.and_eq_true]
            at hplain
          simpa using hplain.2
      · cases h
    · rintro ⟨rfl, hplain⟩
      have hall : ("Bearer " ++ token).toList.all isPlain = true := by
        rw [String.toList_append, List.all_append, hplain]
        decide
      simp only [hall, Bool.not_true]
      simp

theorem Request.actor_eq_ok_iff {r : Request} {secret : Option String} {now : Timestamp}
    {actor : Actor} : r.actor secret now = .ok actor ↔ r.Shows secret now actor := by
  unfold Request.actor Request.Shows
  constructor
  · intro h
    split at h
    · cases h
    rename_i token hbearer
    split at h
    · cases h
    rename_i key
    obtain ⟨hauthorization, -⟩ := Request.bearer_eq_ok_iff.mp hbearer
    cases hcheck : Token.check key now token with
    | error fault =>
      rw [hcheck] at h
      cases h
    | ok checked =>
      rw [hcheck] at h
      cases h
      exact ⟨key, token, rfl, hauthorization, Token.check_eq_ok_iff.mp hcheck⟩
  · rintro ⟨key, token, rfl, hauthorization, hcounts⟩
    rw [Request.bearer_eq_ok_iff.mpr ⟨hauthorization, hcounts.all_isPlain⟩]
    exact congrArg (·.mapError Error.unauthenticated) (Token.check_eq_ok_iff.mpr hcounts)

end Api
end SceneCatalog
