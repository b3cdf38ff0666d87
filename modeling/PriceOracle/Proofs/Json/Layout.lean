import PriceOracle.Json.Printer
import PriceOracle.Proofs.Json.Numeral

/-!
# PriceOracle.Proofs.Json.Layout

Doubles as JSON text. However the digits are laid out, with or without an exponent, the reader takes
from the text the number that they stand for, perhaps with more zeros behind (`number?_layout`).
-/

namespace PriceOracle
namespace Json

open Decimal

variable {negative : Bool} {d : Scaled}

/-- Digits with zeros in front, so that more than `places` are there. -/
def padded (places : Nat) (ds : List Char) : List Char :=
  List.replicate (places + 1 - ds.length) '0' ++ ds

/-- What stands in front of the point, if there are `places` digits behind it. -/
def wholePart (places : Nat) (ds : List Char) : List Char :=
  (padded places ds).take ((padded places ds).length - places)

def fraction (places : Nat) (ds : List Char) : List Char :=
  (padded places ds).drop ((padded places ds).length - places)

theorem length_fraction (places : Nat) (ds : List Char) :
    (fraction places ds).length = places := by
  rw [fraction, List.length_drop, padded, List.length_append, List.length_replicate]
  omega

theorem digits_fraction (places n : Nat) : Digits (fraction places (Nat.toDigits 10 n)) :=
  ((digits_replicate _).append (digits_toDigits n)).of_sublist (List.drop_sublist _ _)

theorem natOfDigits_parts (places n : Nat) :
    natOfDigits (wholePart places (Nat.toDigits 10 n) ++ fraction places (Nat.toDigits 10 n))
      = n := by
  rw [wholePart, fraction, List.take_append_drop, padded, natOfDigits_append,
    natOfDigits_replicate, natOfDigits_toDigits, Nat.mul_zero, Nat.zero_add]

theorem isWhole_wholePart {places : Nat} (hp : places ≠ 0) (n : Nat) :
    IsWhole (wholePart places (Nat.toDigits 10 n)) := by
  by_cases h : (Nat.toDigits 10 n).length ≤ places
  · -- all digits stand behind the point, and a single zero in front of it
    obtain ⟨k, hk⟩ : ∃ k, places + 1 - (Nat.toDigits 10 n).length = k + 1 :=
      ⟨places - (Nat.toDigits 10 n).length, by omega⟩
    have hlen : (padded places (Nat.toDigits 10 n)).length - places = 1 := by
      rw [padded, List.length_append, List.length_replicate]
      omega
    rw [wholePart, hlen, padded, hk, List.replicate_succ, List.cons_append, List.take_succ_cons,
      List.take_zero]
    exact isWhole_toDigits 0
  · have hn : n ≠ 0 := by
      rintro rfl
      have : (Nat.toDigits 10 0).length = 1 := rfl
      omega
    have hpad : padded places (Nat.toDigits 10 n) = Nat.toDigits 10 n := by
      rw [padded, show places + 1 - (Nat.toDigits 10 n).length = 0 by omega, List.replicate_zero,
        List.nil_append]
    rw [wholePart, hpad]
    refine ⟨(digits_toDigits n).of_sublist (List.take_sublist _ _), ?_, .inr ?_⟩
    · rw [ne_eq, List.take_eq_nil_iff, not_or]
      exact ⟨by omega, Nat.toDigits_ne_nil⟩
    · rw [List.head?_take, if_neg (by omega)]
      exact head?_toDigits (by decide) (by decide) hn

theorem isWhole_append_zeros {n k : Nat} (h : n = 0 → k = 0) :
    IsWhole (Nat.toDigits 10 n ++ List.replicate k '0') := by
  by_cases hn : n = 0
  · rw [h hn, List.replicate_zero, List.append_nil]
    exact isWhole_toDigits n
  · rw [toDigits_append_zeros hn]
    exact isWhole_toDigits _

/-- The digits and the exponent that the reader finds, given those that were written. -/
def Wider (d e : Scaled) : Prop := ∃ k : Nat, e.digits = Nat.pow 10 k * d.digits ∧ e.exp = d.exp - k

theorem Wider.refl (d : Scaled) : Wider d d := ⟨0, by simp, by simp⟩

theorem number?_positional (hd : d.digits = 0 → d.exp ≤ 0) :
    ∃ e, Wider d e ∧ number? (signed negative (positional doubleStyle d))
      = some (.double (nearest negative e.digits e.exp)) := by
  unfold positional decimalDigits
  split
  · next he =>
    have hw := isWhole_append_zeros (n := d.digits) (k := d.exp.toNat) (by omega)
    have hvalue : natOfDigits (Nat.toDigits 10 d.digits ++ List.replicate d.exp.toNat '0' ++ ['0'])
        = Nat.pow 10 (d.exp.toNat + 1) * d.digits := by
      rw [List.append_assoc, ← List.replicate_succ', natOfDigits_append, List.length_replicate,
        natOfDigits_replicate, natOfDigits_toDigits, Nat.add_zero]
    refine ⟨⟨_, -1⟩, ⟨d.exp.toNat + 1, rfl, by simp only; omega⟩, ?_⟩
    rw [← hvalue]
    exact number?_pointed negative hw (digits_replicate 1) (List.cons_ne_nil _ _)
  · next he =>
    have hp : (-d.exp).toNat ≠ 0 := by omega
    have hlen := length_fraction (-d.exp).toNat (Nat.toDigits 10 d.digits)
    have hne : fraction (-d.exp).toNat (Nat.toDigits 10 d.digits) ≠ [] := by
      intro h
      rw [h] at hlen
      exact hp hlen.symm
    have h := number?_pointed negative (isWhole_wholePart hp d.digits)
      (digits_fraction _ _) hne
    rw [natOfDigits_parts, hlen, show -(((-d.exp).toNat : Nat) : Int) = d.exp by omega] at h
    exact ⟨d, .refl d, h⟩

theorem exponent?_signed (lead : Int) :
    exponent? ((if lead < 0 then '-' else '+') :: Nat.toDigits 10 lead.natAbs) = some lead := by
  obtain ⟨hplus, hminus⟩ := exponent?_of_digits (digits_toDigits lead.natAbs) Nat.toDigits_ne_nil
  rw [natOfDigits_toDigits] at hplus hminus
  split
  · rw [hminus, show -(lead.natAbs : Int) = lead by omega]
  · rw [hplus, show (lead.natAbs : Int) = lead by omega]

theorem number?_leading (d : Scaled) :
    number? (signed negative (scientific d (d.exp + ((decimalDigits d.digits).length : Int) - 1)))
      = some (.double (nearest negative d.digits d.exp)) := by
  have hne : Nat.toDigits 10 d.digits ≠ [] := Nat.toDigits_ne_nil
  obtain ⟨c, rest, hds⟩ := List.exists_cons_of_ne_nil hne
  have hdigits : Digits (c :: rest) := hds ▸ digits_toDigits d.digits
  have hw : IsWhole [c] :=
    ⟨hdigits.of_sublist (List.cons_sublist_cons.2 (List.nil_sublist _)), List.cons_ne_nil _ _,
      .inl (Nat.le_refl 1)⟩
  have hmantissa : scientific d (d.exp + ((decimalDigits d.digits).length : Int) - 1)
      = [c] ++ pointed rest ++ 'e' ::
        (if d.exp + (rest.length : Int) < 0 then '-' else '+') ::
          Nat.toDigits 10 (d.exp + (rest.length : Int)).natAbs := by
    have hlead : d.exp + ((c :: rest).length : Int) - 1 = d.exp + (rest.length : Int) := by
      rw [List.length_cons]
      omega
    unfold scientific decimalDigits
    rw [hds, hlead]
    cases rest <;> rfl
  rw [hmantissa, number?_scientific negative hw (hdigits.of_sublist (List.sublist_cons_self _ _))
    (exponent?_signed _), List.singleton_append, ← hds, natOfDigits_toDigits]
  rw [show d.exp + (rest.length : Int) - (rest.length : Int) = d.exp by omega]

theorem number?_layout (negative : Bool) (hd : d.digits = 0 → d.exp ≤ 0) :
    ∃ e, Wider d e ∧ number? (signed negative (layout doubleStyle d))
      = some (.double (nearest negative e.digits e.exp)) := by
  unfold layout
  simp only
  split
  · exact number?_positional hd
  · exact ⟨d, .refl d, number?_leading d⟩

theorem isPlain_of_isDigit {c : Char} (h : c.isDigit = true) : isPlain c = true := by
  have hne : ∀ d : Char, d.isDigit = false → c ≠ d := fun d hd e => by simp [e, hd] at h
  simp [isPlain, isSpace, mark?, hne ' ' rfl, hne '\n' rfl, hne '\t' rfl, hne '\r' rfl, hne '"' rfl,
    hne '[' rfl, hne ']' rfl, hne '\x7b' rfl, hne '\x7d' rfl, hne ',' rfl, hne ':' rfl]

/-- A text that is read as one scalar, wherever it ends. -/
def Plain (cs : List Char) : Prop := ∀ c ∈ cs, isPlain c = true

section Plain

variable {cs ds : List Char} {c : Char}

theorem Plain.append (hc : Plain cs) (hd : Plain ds) : Plain (cs ++ ds) := by
  intro c h
  obtain h | h := List.mem_append.1 h
  · exact hc c h
  · exact hd c h

theorem plain_cons (h : isPlain c = true) (hd : Plain ds) : Plain (c :: ds) :=
  List.forall_mem_cons.2 ⟨h, hd⟩

theorem Plain.of_digits (hd : Digits ds) : Plain ds := fun c h => isPlain_of_isDigit (hd c h)

theorem Plain.of_all (h : cs.all isPlain = true) : Plain cs := List.all_eq_true.1 h

theorem Plain.signed (h : Plain ds) : Plain (signed negative ds) := by
  cases negative
  · exact h
  · exact plain_cons (by decide) h

theorem plain_positional (style : Style) (d : Scaled) : Plain (positional style d) := by
  have hpad := (digits_replicate ((-d.exp).toNat + 1 - (Nat.toDigits 10 d.digits).length)).append
    (digits_toDigits d.digits)
  unfold positional decimalDigits
  split
  · refine (Plain.of_digits ((digits_toDigits _).append (digits_replicate _))).append ?_
    split
    · exact plain_cons (by decide) (plain_cons (by decide) nofun)
    · exact nofun
  · exact (Plain.of_digits (hpad.of_sublist (List.take_sublist _ _))).append
      (plain_cons (by decide) (.of_digits (hpad.of_sublist (List.drop_sublist _ _))))

theorem plain_scientific (d : Scaled) (lead : Int) : Plain (scientific d lead) := by
  have hds := digits_toDigits d.digits
  have hexp := Plain.of_digits (digits_toDigits lead.natAbs)
  unfold scientific decimalDigits
  refine Plain.append ?_ (plain_cons (by decide) (plain_cons ?_ hexp))
  · split
    · exact nofun
    · next h => exact .of_digits (h ▸ hds)
    · next h =>
      rw [h] at hds
      exact plain_cons (isPlain_of_isDigit (hds _ List.mem_cons_self)) (plain_cons (by decide)
        (.of_digits (hds.of_sublist (List.sublist_cons_self _ _))))
  · split <;> decide

theorem plain_layout (style : Style) (d : Scaled) : Plain (layout style d) := by
  unfold layout
  simp only
  split
  · exact plain_positional style d
  · exact plain_scientific d _

end Plain

end Json
end PriceOracle
