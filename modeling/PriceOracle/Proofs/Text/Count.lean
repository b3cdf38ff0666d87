import PriceOracle.Proofs.Text.Numeral
import PriceOracle.Text.Count

/-!
# PriceOracle.Proofs.Text.Count

Which texts are read as counts: decimal digits, behind a plus sign or not, of a number of 64 bits
(`read_eq_ok_iff`).
-/

namespace PriceOracle
namespace Count

open Decimal Numeral

/-- The text is digits, with or without a plus sign in front, and they denote the number. -/
def Denotes (text : String) (n : Nat) : Prop :=
  ∃ ds, (text.toList = ds ∨ text.toList = '+' :: ds) ∧ ds ≠ [] ∧ Digits ds ∧
    natOfDigits ds = n ∧ n < 2 ^ 64

section Reading

variable {value n : Nat} {ds cs : List Char} {text : String}

/-- The number is below the bound in the end just when it is at every digit. -/
theorem readDigits_eq_ok_iff (hvalue : value < 2 ^ 64) : readDigits value ds = .ok n ↔
    Digits ds ∧ ontoDigits value (ds.map fun c => c.toNat - 48) = n ∧ n < 2 ^ 64 := by
  induction ds generalizing value with
  | nil =>
    rw [readDigits, Except.ok.injEq]
    constructor
    · rintro rfl
      exact ⟨nofun, rfl, hvalue⟩
    · rintro ⟨-, h, -⟩
      exact h
  | cons c ds ih =>
    have hdigits : Digits (c :: ds) ↔ c.isDigit = true ∧ Digits ds := List.forall_mem_cons
    rw [hdigits, readDigits]
    split
    · next hc =>
      show _ ↔ _ ∧ ontoDigits (value * 10 + (c.toNat - 48)) (ds.map fun c => c.toNat - 48) = n ∧ _
      by_cases hsmall : value * 10 + (c.toNat - 48) < Nat.pow 2 64
      · simp only [if_pos hsmall, ih hsmall, hc, true_and]
      · simp only [if_neg hsmall, reduceCtorEq, false_iff]
        rintro ⟨-, rfl, hlt⟩
        exact hsmall ((le_ontoDigits _ _).trans_lt hlt)
    · next hc => simp [hc]

theorem read_eq_ok_iff : read text = .ok n ↔ Denotes text n := by
  have hread (ds : List Char) : readDigits 0 ds = .ok n ↔
      Digits ds ∧ natOfDigits ds = n ∧ n < 2 ^ 64 := by
    rw [readDigits_eq_ok_iff (by decide), ontoDigits_map]
  have hplus (ds : List Char) : ¬Digits ('+' :: ds) :=
    fun h => absurd (h '+' List.mem_cons_self) (by decide)
  unfold read Denotes
  split
  · next htext => simp [htext]
  · next htext =>
    simp only [htext, reduceCtorEq, false_iff]
    rintro ⟨ds, rfl | hds, hne, hdigits, -⟩
    · exact hplus [] hdigits
    · exact hne (List.cons.inj hds).2.symm
  · next rest hne htext =>
    rw [htext, hread]
    constructor
    · intro h
      exact ⟨rest, .inr rfl, fun hnil => hne (by rw [hnil]), h⟩
    · rintro ⟨ds, rfl | hds, -, hdigits, h⟩
      · exact absurd hdigits (hplus rest)
      · cases hds
        exact ⟨hdigits, h⟩
  · next hnil _ hsign =>
    rw [hread]
    constructor
    · intro h
      exact ⟨_, .inl rfl, hnil, h⟩
    · rintro ⟨ds, rfl | hds, -, h⟩
      · exact h
      · exact absurd hds (hsign ds)

end Reading

end Count
end PriceOracle
