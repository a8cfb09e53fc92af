import Gatekeeper.Environment
import Gatekeeper.Proofs.Process.Trace

/-! The mode that the environment tells. Full lower case maps no other letters to the word for
production than its own, small or capital. -/
namespace Gatekeeper

namespace Text

variable {char letter : Char} {chars word before : List Char}

def modeLetters : List Char :=
  ['p', 'r', 'o', 'd', 'u', 'c', 't', 'i', 'n']

def capital (letter : Char) : Char :=
  Char.ofNat (letter.toNat - 32)

theorem eq_capital (above : char.toNat + 32 = letter.toNat) : char = capital letter := by
  rw [capital, ← above, Nat.add_sub_cancel, Char.ofNat_toNat]

/-- Of the runs that change a letter, only that of the plain capitals leads to this one, and the letter
and its capital are all that is made it, by either way to lower case. -/
def isPlain (letter : Char) : Bool :=
  letter.toNat != 0 &&
    (lowerRuns.all fun run =>
      !run.covers ((letter.toNat : Int) - run.offset).toNat || run.offset == 32) &&
    ([letter, capital letter].all fun char =>
      shift lowerRuns char == letter && char.toLower == letter)

theorem isPlain_of_mem (plain : letter ∈ modeLetters) : isPlain letter = true := by
  have all : modeLetters.all isPlain = true := by decide +kernel
  exact List.all_eq_true.mp all letter plain

theorem eq_toNat_of_ofNat {code : Nat} (same : Char.ofNat code = letter) (proper : letter.toNat ≠ 0) :
    code = letter.toNat := by
  by_cases valid : code.isValidChar
  · have made : Char.ofNat code = Char.ofNatAux code valid := dif_pos valid
    rw [← same, made]
    rfl
  · have made : Char.ofNat code = '\x00' := dif_neg valid
    exact absurd (congrArg Char.toNat (same.symm.trans made)) proper

theorem shift_eq_iff (plain : letter ∈ modeLetters) :
    shift lowerRuns char = letter ↔ char = letter ∨ char = capital letter := by
  have checked := isPlain_of_mem plain
  simp only [isPlain, Bool.and_eq_true, bne_iff_ne, List.all_eq_true, Bool.or_eq_true,
    Bool.not_eq_true', List.forall_mem_cons, beq_iff_eq] at checked
  obtain ⟨⟨proper, others⟩, ⟨small, -⟩, ⟨large, -⟩, -⟩ := checked
  constructor
  · intro shifted
    unfold shift at shifted
    split at shifted
    next run found =>
      have code := eq_toNat_of_ofNat shifted proper
      have covered : run.covers char.toNat = true := by simpa using List.find?_some found
      have here : char.toNat = ((letter.toNat : Int) - run.offset).toNat := by omega
      have offset : run.offset = 32 := by
        rcases others run (List.mem_of_find?_eq_some found) with apart | offset
        · rw [← here, covered] at apart
          cases apart
        · exact offset
      exact .inr (eq_capital (by omega))
    next => exact .inl shifted
  · rintro (rfl | rfl)
    · exact small
    · exact large

theorem toLower_eq_iff (plain : letter ∈ modeLetters) :
    char.toLower = letter ↔ char = letter ∨ char = capital letter := by
  have checked := isPlain_of_mem plain
  simp only [isPlain, Bool.and_eq_true, List.all_eq_true, List.forall_mem_cons, beq_iff_eq] at checked
  obtain ⟨-, ⟨-, small⟩, ⟨-, large⟩, -⟩ := checked
  constructor
  · intro lowered
    unfold Char.toLower at lowered
    split at lowered
    next upper =>
      refine .inr (eq_capital ?_)
      have last : char.val.toNat ≤ 90 := upper.2
      have room : char.val.toNat + (32 : UInt32).toNat < 2 ^ 32 := by
        rw [show (32 : UInt32).toNat = 32 from rfl]
        omega
      rw [← lowered]
      exact ((UInt32.toNat_add ..).trans (Nat.mod_eq_of_lt room)).symm
    next => exact .inl lowered
  · rintro (rfl | rfl)
    · exact small
    · exact large

theorem lowerFrom_eq_iff (plain : ∀ letter ∈ word, letter ∈ modeLetters) :
    lowerFrom before chars = word ↔ chars.map Char.toLower = word := by
  induction chars generalizing before word with
  | nil => rfl
  | cons char rest ih =>
    cases word with
    | nil =>
      unfold lowerFrom
      split
      · simp
      · split <;> simp
    | cons letter tail =>
      obtain ⟨here, others⟩ := List.forall_mem_cons.mp plain
      rw [lowerFrom, List.map_cons, List.cons.injEq]
      -- Two characters have a lower case of their own, and it is none of these letters.
      by_cases sigma : char = 'Σ'
      · subst sigma
        rw [if_pos rfl, List.singleton_append, List.cons.injEq]
        constructor
        · rintro ⟨rfl, -⟩
          split at here <;> exact absurd here (by decide)
        · rintro ⟨rfl, -⟩
          exact absurd here (by decide)
      by_cases dotted : char = 'İ'
      · subst dotted
        rw [if_neg sigma, if_pos rfl]
        constructor
        · intro same
          obtain ⟨-, rfl⟩ := List.cons.inj same
          exact absurd (others _ List.mem_cons_self) (by decide)
        · rintro ⟨rfl, -⟩
          exact absurd here (by decide)
      rw [if_neg sigma, if_neg dotted, List.singleton_append, List.cons.injEq, ih others,
        shift_eq_iff here, toLower_eq_iff here]

theorem lower_eq_production_iff {mode : String} :
    lower mode = "production" ↔ mode.toLower = "production" := by
  have plain : "production".toList ⊆ modeLetters := by simp [modeLetters]
  have lowered : mode.toLower = mode.map Char.toLower := rfl
  rw [lower, lowered, ← String.toList_inj, String.toList_ofList, lowerFrom_eq_iff plain,
    ← String.toList_inj, String.toList_map]

end Text

open Process

def World.InProduction (world : World) : Prop :=
  ∃ mode, world.environment.lookup "SESSIONKIT_ENV" = some mode ∧ mode.toLower = "production"

namespace Environment

variable {s t : Surroundings} {trace : List Op}

theorem ownStart_upper_env : ownStart ++ Text.upper "env" = "SESSIONKIT_ENV" := by
  decide +kernel

theorem lower_getD_eq_iff {mode : Option String} :
    Text.lower (mode.getD "development") = "production" ↔
      ∃ told, mode = some told ∧ told.toLower = "production" := by
  rw [Text.lower_eq_production_iff]
  cases mode with
  | none => simp; decide +kernel
  | some told => simp

end Environment

instance (world : World) : Decidable world.InProduction :=
  decidable_of_iff _ Environment.lower_getD_eq_iff

namespace Environment

theorem runs_isProduction_iff {result : Except Fault Bool} :
    Runs s (isProduction ownStart) trace result t ↔
      trace = [.environment "SESSIONKIT_ENV"] ∧ result = .ok (decide s.world.InProduction) ∧
        t = s := by
  have same : (Text.lower ((s.world.environment.lookup "SESSIONKIT_ENV").getD "development") ==
      "production") = decide s.world.InProduction := by
    rw [Bool.eq_iff_iff, beq_iff_eq, decide_eq_true_iff]
    exact lower_getD_eq_iff
  rw [isProduction, setting?, bind_eq, ownStart_upper_env, runs_request_bind_iff (by simp)]
  simp only [pure_eq, runs_done_iff, Surroundings.answer, same]
  constructor
  · rintro ⟨_, rfl, rfl, rfl, rfl⟩
    exact ⟨rfl, rfl, rfl⟩
  · rintro ⟨rfl, rfl, rfl⟩
    exact ⟨_, rfl, rfl, rfl, rfl⟩

end Environment

end Gatekeeper
