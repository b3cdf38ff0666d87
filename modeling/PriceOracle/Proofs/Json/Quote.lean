import PriceOracle.Json.Parser
import PriceOracle.Json.Printer

/-!
# PriceOracle.Proofs.Json.Quote

Texts in quotes. Every character is written so that the reader finds it again
(`readTextFrom_escape`), and so is every text (`readText_quote`).
-/

namespace PriceOracle
namespace Json

theorem unit_controlDigits {n : Nat} (h : n < 0x20) : ∃ a b, controlDigits n = [a, b] ∧
    unit? '0' '0' a b = some n := by
  have : ∀ n : Fin 0x20, ∃ a b, controlDigits n = [a, b] ∧ unit? '0' '0' a b = some n.val := by
    intro n
    refine ⟨_, _, rfl, ?_⟩
    revert n
    decide
  exact this ⟨n, h⟩

theorem readTextFrom_letter {e l : Char} (tail : List Char) (hu : e ≠ 'u')
    (hl : letterEscape? e = some l) :
    readTextFrom 0 ('\\' :: e :: tail) = (readTextFrom 0 tail).map (·.push l) := by
  have hq : '\\' ≠ '"' := by decide
  have hc : ¬ '\\'.toNat < 0x20 := by decide
  rw [readTextFrom.eq_def]
  simp only [hq, hc, hu, hl, if_true, if_false, readTextFrom]

theorem readTextFrom_unit {a b c d : Char} {u : Nat} (tail : List Char)
    (hu : unit? a b c d = some u) (hlow : u < 0xD800) :
    readTextFrom 0 ('\\' :: 'u' :: a :: b :: c :: d :: tail)
      = (readTextFrom 0 tail).map (·.push (Char.ofNat u)) := by
  have hq : '\\' ≠ '"' := by decide
  have hc : ¬ '\\'.toNat < 0x20 := by decide
  have hhigh : ¬(0xD800 ≤ u ∧ u ≤ 0xDBFF) := by omega
  have hlone : ¬(0xDC00 ≤ u ∧ u ≤ 0xDFFF) := by omega
  rw [readTextFrom.eq_def]
  simp only [hq, hc, hu, hhigh, hlone, if_true, if_false, readTextFrom]

/-- A character is read as what was written. -/
theorem readTextFrom_escape (c : Char) (tail : List Char) :
    readTextFrom 0 (escape c ++ tail) = (readTextFrom 0 tail).map (·.push c) := by
  unfold escape
  split
  · next h => subst h; exact readTextFrom_letter tail (by decide) (by decide)
  split
  · next h => subst h; exact readTextFrom_letter tail (by decide) (by decide)
  split
  · next hq hb hc =>
    have hlow : ¬c.toNat < 0x20 := by omega
    rw [List.singleton_append, readTextFrom.eq_def]
    simp only [hq, hb, hlow, if_false]
  split
  · next h => subst h; exact readTextFrom_letter tail (by decide) (by decide)
  split
  · next h => subst h; exact readTextFrom_letter tail (by decide) (by decide)
  split
  · next h => subst h; exact readTextFrom_letter tail (by decide) (by decide)
  split
  · next h => subst h; exact readTextFrom_letter tail (by decide) (by decide)
  split
  · next h => subst h; exact readTextFrom_letter tail (by decide) (by decide)
  · next hc _ _ _ _ _ =>
    obtain ⟨a, b, hd, hu⟩ := unit_controlDigits (show c.toNat < 0x20 by omega)
    rw [hd]
    refine (readTextFrom_unit tail hu (by omega)).trans ?_
    rw [Char.ofNat_toNat]

theorem readText_quote (cs rest : List Char) :
    readText (cs.flatMap escape ++ '"' :: rest) = some (some cs, rest) := by
  unfold readText
  induction cs with
  | nil => rw [List.flatMap_nil, List.nil_append, readTextFrom.eq_def]; simp only [if_true]
  | cons c cs ih =>
    rw [List.flatMap_cons, List.append_assoc, readTextFrom_escape, ih]
    rfl

end Json
end PriceOracle
