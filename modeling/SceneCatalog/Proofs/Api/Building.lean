import Mathlib.Data.Nat.Digits.Defs
import SceneCatalog.Api.Service
import SceneCatalog.Proofs.Consensus.Plan

/-!
From an environment to a service. Main statement: a service can be built from what an environment
says just if no origin in it is the wildcard, the limit on bodies is below 2 ^ 44 units, and the
rate limit is switched off or no variable spells zero as its burst or its rate.
-/
namespace SceneCatalog

open Text

/-! ## Numbers in variables -/

/-- A text spells a number: decimal digits, the highest first, behind a plus at most. -/
def Spells (s : String) (n : Nat) : Prop :=
  ∃ digits : List Char, digits ≠ [] ∧ (∀ c ∈ digits, '0' ≤ c ∧ c ≤ '9') ∧
    (s.toList = digits ∨ s.toList = '+' :: digits) ∧
    n = Nat.ofDigits 10 (digits.reverse.map fun c => c.toNat - '0'.toNat)

/-- Reading digits from the left gives the number that they spell. -/
theorem foldl_digits (digits : List Char) :
    digits.foldl (fun n c => 10 * n + (c.toNat - '0'.toNat)) 0 =
      Nat.ofDigits 10 (digits.reverse.map fun c => c.toNat - '0'.toNat) := by
  rw [Nat.ofDigits_eq_foldr, List.foldr_map, List.foldr_reverse]
  congr
  funext n c
  exact Nat.add_comm _ _

/-- There is one way to take the plus away: no digit is one. -/
theorem spells_iff {s : String} {n : Nat} {digits : List Char}
    (h : s.toList = digits ∧ digits.head? ≠ some '+' ∨ s.toList = '+' :: digits) :
    Spells s n ↔ digits ≠ [] ∧ (∀ c ∈ digits, '0' ≤ c ∧ c ≤ '9') ∧
      n = Nat.ofDigits 10 (digits.reverse.map fun c => c.toNat - '0'.toNat) := by
  constructor
  · rintro ⟨digits', nonempty, all, shape, value⟩
    obtain rfl : digits' = digits := by
      rcases h with ⟨h, plain⟩ | h <;> rcases shape with shape | shape <;> rw [h] at shape
      · exact shape.symm
      · simp [shape] at plain
      · exact absurd (all '+' (by simp [← shape])) (by decide)
      · exact (List.cons.inj shape).2.symm
    exact ⟨nonempty, all, value⟩
  · rintro ⟨nonempty, all, value⟩
    exact ⟨digits, nonempty, all, h.imp_left And.left, value⟩

/-- The numbers that a variable can hold are those that it spells, below the bound. -/
theorem unsigned?_eq_some_iff {bound : Nat} {s : String} {n : Nat} :
    unsigned? bound s = some n ↔ Spells s n ∧ n < bound := by
  -- what is left when the plus has been taken away is read in one way
  have read : ∀ digits : List Char,
      (if digits.isEmpty || !digits.all (fun c => '0' ≤ c && c ≤ '9') then none
        else
          let value := digits.foldl (fun n c => 10 * n + (c.toNat - '0'.toNat)) 0
          if value < bound then some value else none) = some n ↔
        (digits ≠ [] ∧ (∀ c ∈ digits, '0' ≤ c ∧ c ≤ '9') ∧
          n = Nat.ofDigits 10 (digits.reverse.map fun c => c.toNat - '0'.toNat)) ∧ n < bound := by
    intro digits
    rw [foldl_digits]
    generalize Nat.ofDigits 10 (digits.reverse.map fun c => c.toNat - '0'.toNat) = value
    by_cases good : digits ≠ [] ∧ ∀ c ∈ digits, '0' ≤ c ∧ c ≤ '9'
    · obtain ⟨nonempty, all⟩ := good
      have hall : digits.all (fun c => '0' ≤ c && c ≤ '9') = true := by simpa using all
      simp only [hall, List.isEmpty_eq_false_iff.mpr nonempty]
      grind
    · have hbad : (digits.isEmpty || !digits.all (fun c => '0' ≤ c && c ≤ '9')) = true := by
        grind
      rw [if_pos hbad]
      grind
  unfold unsigned?
  dsimp only
  split
  · rename_i rest hrest
    rw [read, spells_iff (Or.inr hrest)]
  · rename_i plain
    have hplain : s.toList.head? ≠ some '+' := by
      intro hhead
      obtain ⟨rest, hrest⟩ := List.head?_eq_some_iff.mp hhead
      exact plain rest hrest
    rw [read, spells_iff (Or.inl ⟨rfl, hplain⟩)]

/-! ## Settings -/

/-- A setting is the number that its variable holds, or its default. What is true of the default is
true of the setting if it is true of every number that the variable can hold. -/
theorem setting_iff {α : Type} {ofNat : Nat → α} {toNat : α → Nat} {bound : Nat}
    (faithful : ∀ n < bound, toNat (ofNat n) = n) {P : Nat → Prop} (value : Option String)
    (default : α) (fine : P (toNat default)) :
    P (toNat (((value >>= unsigned? bound).map ofNat).getD default)) ↔
      ∀ v ∈ value, ∀ n < bound, Spells v n → P n := by
  cases value with
  | none => simpa using fine
  | some v =>
    have hvariable : (some v >>= unsigned? bound) = unsigned? bound v := rfl
    rw [hvariable]
    cases h : unsigned? bound v with
    | none =>
      have hholds : ∀ n, ¬ (Spells v n ∧ n < bound) := by
        intro n hn
        rw [unsigned?_eq_some_iff.mpr hn] at h
        cases h
      simp only [Option.map_none, Option.getD_none, Option.mem_some_iff, forall_eq']
      exact ⟨fun _ n hlt hn => absurd ⟨hn, hlt⟩ (hholds n), fun _ => fine⟩
    | some n =>
      obtain ⟨hn, hlt⟩ := unsigned?_eq_some_iff.mp h
      simp only [Option.map_some, Option.getD_some, Option.mem_some_iff, forall_eq',
        faithful n hlt]
      refine ⟨fun hP m hm hspells => ?_, fun hP => hP n hlt hn⟩
      have hsame : unsigned? bound v = some m := unsigned?_eq_some_iff.mpr ⟨hspells, hm⟩
      obtain rfl : n = m := Option.some.inj (h.symm.trans hsame)
      exact hP

/-- A setting is not zero as long as its variable spells no zero. -/
theorem setting_ne_zero_iff {α : Type} {ofNat : Nat → α} {toNat : α → Nat} {bound : Nat}
    (faithful : ∀ n < bound, toNat (ofNat n) = n) (pos : 0 < bound) (value : Option String)
    (default : α) (fine : toNat default ≠ 0) :
    toNat (((value >>= unsigned? bound).map ofNat).getD default) ≠ 0 ↔
      ∀ v ∈ value, ¬ Spells v 0 := by
  rw [setting_iff (P := (· ≠ 0)) faithful value default fine]
  refine forall₂_congr fun v _ => ⟨fun h hv => h 0 pos hv rfl, fun h n _ hv hn => ?_⟩
  rw [hn] at hv
  exact h hv

namespace Config

variable (valueOf : String → Option String)

theorem wildcard_ofEnvironment :
    "*" ∈ (ofEnvironment valueOf).allowedOrigins.getD [] ↔
      ∃ v ∈ valueOf "ALLOWED_ORIGINS", ∃ part ∈ parts ',' v, trim part = "*" := by
  have hmem : ∀ s, "*" ∈ commaList s ↔ ∃ part ∈ parts ',' s, trim part = "*" := by
    simp [commaList]
  cases h : valueOf "ALLOWED_ORIGINS" <;> simp [ofEnvironment, h, hmem]

theorem bodyLimit_ofEnvironment :
    (ofEnvironment valueOf).bodyLimitMb.toNat * mebibyte < UInt64.size ↔
      ∀ v ∈ valueOf "BODY_LIMIT_MB", ∀ n < UInt64.size, Spells v n → n < 2 ^ 44 := by
  have fits : ∀ n, n * mebibyte < UInt64.size ↔ n < 2 ^ 44 := by
    intro n
    simp only [mebibyte, UInt64.size]
    omega
  rw [fits]
  exact setting_iff (P := (· < 2 ^ 44)) (fun n h => UInt64.toNat_ofNat_of_lt h) _ _ (by decide)

theorem rateLimitEnabled_ofEnvironment :
    (ofEnvironment valueOf).rateLimitEnabled = true ↔
      ¬ ∃ v ∈ valueOf "RATE_LIMIT_ENABLED", lower v = "false" := by
  cases h : valueOf "RATE_LIMIT_ENABLED" <;> simp [ofEnvironment, h]

theorem rateLimitBurst_ofEnvironment :
    (ofEnvironment valueOf).rateLimitBurst.toNat ≠ 0 ↔
      ∀ v ∈ valueOf "RATE_LIMIT_BURST", ¬ Spells v 0 :=
  setting_ne_zero_iff (fun n h => UInt32.toNat_ofNat_of_lt h) (by decide) _ _ (by decide)

theorem rateLimitPerSecond_ofEnvironment :
    (ofEnvironment valueOf).rateLimitPerSecond.toNat ≠ 0 ↔
      ∀ v ∈ valueOf "RATE_LIMIT_PER_SEC", ¬ Spells v 0 :=
  setting_ne_zero_iff (fun n h => UInt64.toNat_ofNat_of_lt h) (by decide) _ _ (by decide)

end Config

/-! ## The service -/

namespace Api

/-- From which configurations a service can be built. -/
theorem Service.ofConfig_ok_iff {config : Config} {persistent emptyNames : Bool} :
    (∃ s, Service.ofConfig config persistent emptyNames = .ok s) ↔
      "*" ∉ config.allowedOrigins.getD [] ∧
      config.bodyLimitMb.toNat * Config.mebibyte < UInt64.size ∧
      (config.rateLimitEnabled = true →
        config.rateLimitBurst.toNat ≠ 0 ∧ config.rateLimitPerSecond.toNat ≠ 0) := by
  have hrate : (∃ limit, Service.rateLimitOf config = .ok limit) ↔
      (config.rateLimitEnabled = true →
        config.rateLimitBurst.toNat ≠ 0 ∧ config.rateLimitPerSecond.toNat ≠ 0) := by
    unfold Service.rateLimitOf
    dsimp only
    split
    · split <;> simp_all <;> omega
    · simp_all
  rw [← hrate]
  unfold Service.ofConfig
  split
  · simp_all
  · split
    · simp_all
    · cases hlimit : Service.rateLimitOf config with
      | error fault => simp [bind, Except.bind]
      | ok limit =>
        rename_i listed small
        refine ⟨fun _ => ⟨?_, Nat.not_le.mp small, limit, rfl⟩, fun _ => ⟨_, rfl⟩⟩
        simpa using listed

/-- What of a configuration a service that is built from it works with. -/
theorem Service.of_built {config : Config} {persistent emptyNames : Bool} {s : Service}
    (built : Service.ofConfig config persistent emptyNames = .ok s) :
    s.bodyLimit = config.bodyLimitMb.toNat * Config.mebibyte ∧
      Service.rateLimitOf config = .ok s.rateLimit := by
  unfold Service.ofConfig at built
  split at built
  · cases built
  · split at built
    · cases built
    · obtain ⟨rateLimit, hlimit, built⟩ := of_bind_ok built
      cases built
      exact ⟨rfl, hlimit⟩

/-- **From an environment to a service.** A service can be built just if no origin is the wildcard,
the limit on bodies is below 2 ^ 44 units, and the rate limit is switched off or no zero is spelled
for its burst and for its rate. -/
theorem buildable_iff (valueOf : String → Option String) (persistent emptyNames : Bool) :
    (∃ s, Service.ofConfig (Config.ofEnvironment valueOf) persistent emptyNames = .ok s) ↔
      (¬ ∃ v ∈ valueOf "ALLOWED_ORIGINS", ∃ part ∈ parts ',' v, trim part = "*") ∧
      (∀ v ∈ valueOf "BODY_LIMIT_MB", ∀ n < UInt64.size, Spells v n → n < 2 ^ 44) ∧
      ((∃ v ∈ valueOf "RATE_LIMIT_ENABLED", lower v = "false") ∨
        (∀ v ∈ valueOf "RATE_LIMIT_BURST", ¬ Spells v 0) ∧
          ∀ v ∈ valueOf "RATE_LIMIT_PER_SEC", ¬ Spells v 0) := by
  rw [Service.ofConfig_ok_iff, Config.wildcard_ofEnvironment, Config.bodyLimit_ofEnvironment,
    Config.rateLimitEnabled_ofEnvironment, Config.rateLimitBurst_ofEnvironment,
    Config.rateLimitPerSecond_ofEnvironment, or_iff_not_imp_left]

/-- A rate limit that lets nothing through, or has no interval, is found out last. -/
theorem Service.ofConfig_of_empty {config : Config} {persistent emptyNames : Bool}
    (listed : ¬ (config.allowedOrigins.getD []).contains "*" = true)
    (small : ¬ UInt64.size ≤ config.bodyLimitMb.toNat * Config.mebibyte)
    (enabled : config.rateLimitEnabled = true)
    (empty : ¬ (0 < config.rateLimitBurst.toNat ∧
      0 < config.rateLimitPerSecond.toNat * 1000000000)) :
    Service.ofConfig config persistent emptyNames = .error .emptyRateLimit := by
  have hlimit : Service.rateLimitOf config = .error .emptyRateLimit :=
    (if_pos enabled).trans (dif_neg empty)
  rw [Service.ofConfig, if_neg listed, if_neg small, hlimit]
  rfl

/-- The environment in which one variable is set. -/
def only (name value : String) : String → Option String :=
  fun other => if other = name then some value else none

/-- Each of the things that can go wrong does, with one variable that is set. -/
theorem only_unbuildable :
    let build := fun name value =>
      Service.ofConfig (Config.ofEnvironment (only name value)) false true
    build "ALLOWED_ORIGINS" "*" = .error .wildcardOrigin ∧
      build "BODY_LIMIT_MB" "17592186044416" = .error .bodyLimitTooGreat ∧
      build "RATE_LIMIT_BURST" "0" = .error .emptyRateLimit ∧
      build "RATE_LIMIT_PER_SEC" "0" = .error .emptyRateLimit := by
  intro build
  refine ⟨?_, ?_, ?_, ?_⟩
  · exact if_pos (by decide +kernel)
  · exact (if_neg (by decide +kernel)).trans (if_pos (by decide +kernel))
  · exact Service.ofConfig_of_empty (by decide +kernel) (by decide +kernel) (by decide +kernel)
      (by decide +kernel)
  · exact Service.ofConfig_of_empty (by decide +kernel) (by decide +kernel) (by decide +kernel)
      (by decide +kernel)

end Api

end SceneCatalog
