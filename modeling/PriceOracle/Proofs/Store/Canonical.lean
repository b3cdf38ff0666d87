import PriceOracle.Proofs.Store.Quantity

/-!
# PriceOracle.Proofs.Store.Canonical

The one way in which a word is written: the mark, and lower-case digits as few as there can be. The
reader takes many records for one word, and the one that is written is the only canonical one of
them.

* `IsShortest.eq_of_value`: numerals without leading zeros are equal when they denote one number.
* `canonical_account`: what is written is canonical, and is read as the word; nothing else is both.
-/

namespace PriceOracle
namespace Numeral

open Nat (digitChar)

def IsLower (c : Char) : Prop := '0' ≤ c ∧ c ≤ '9' ∨ 'a' ≤ c ∧ c ≤ 'f'

instance (c : Char) : Decidable (IsLower c) := inferInstanceAs (Decidable (_ ∨ _))

/-- Lower-case digits without a leading zero. Zero has one digit. -/
structure IsShortest (ds : List Char) : Prop where
  digits : ∀ c ∈ ds, IsLower c
  nonempty : ds ≠ []
  shortest : ds.head? = some '0' → ds = ['0']

section Shortest

variable {c : Char} {ds es : List Char}

theorem exists_of_isLower (h : IsLower c) : ∃ d, d < 16 ∧ c = digitChar d := by
  have hplain : Utf8.IsPlain c := by
    obtain h | h := h
    · exact Nat.lt_of_le_of_lt (Char.le_def.1 h.2) (by decide)
    · exact Nat.lt_of_le_of_lt (Char.le_def.1 h.2) (by decide)
  have hdigit : ∃ d : Fin 16, c = digitChar d :=
    plain_char (p := fun c => IsLower c → ∃ d : Fin 16, c = digitChar d) hplain (by decide) h
  obtain ⟨d, rfl⟩ := hdigit
  exact ⟨d, d.isLt, rfl⟩

theorem isLower_digitChar {d : Nat} (h : d < 16) : IsLower (digitChar d) := by
  have : ∀ d : Fin 16, IsLower (digitChar d) := by decide
  exact this ⟨d, h⟩

theorem hexDigit?_digitChar {d : Nat} (h : d < 16) : hexDigit? (digitChar d) = some d := by
  have : ∀ d : Fin 16, hexDigit? (digitChar d) = some d.val := by decide
  exact this ⟨d, h⟩

theorem hexPlaces_cons {d : Nat} (h : d < 16) (cs : List Char) :
    hexPlaces (digitChar d :: cs) = hexPlaces cs ++ [d] := by
  rw [hexPlaces, List.reverse_cons, List.filterMap_append, hexPlaces]
  simp [hexDigit?_digitChar h]

theorem hexPlaces_lt (h : ∀ c ∈ ds, IsLower c) : ∀ d ∈ hexPlaces ds, d < 16 := by
  induction ds with
  | nil => simp [hexPlaces]
  | cons c cs ih =>
    obtain ⟨hc, hcs⟩ := List.forall_mem_cons.1 h
    obtain ⟨d, hd, rfl⟩ := exists_of_isLower hc
    rw [hexPlaces_cons hd]
    intro e he
    obtain he | he := List.mem_append.1 he
    · exact ih hcs e he
    · rw [List.mem_singleton.1 he]
      exact hd

/-- The digits of a text tell the text, when they are in lower case. -/
theorem map_hexPlaces (h : ∀ c ∈ ds, IsLower c) : (hexPlaces ds).reverse.map digitChar = ds := by
  induction ds with
  | nil => rfl
  | cons c cs ih =>
    obtain ⟨hc, hcs⟩ := List.forall_mem_cons.1 h
    obtain ⟨d, hd, rfl⟩ := exists_of_isLower hc
    rw [hexPlaces_cons hd, List.reverse_append, List.reverse_singleton, List.singleton_append,
      List.map_cons, ih hcs]

namespace IsShortest

theorem digits_value (h : IsShortest ds) (hds : ds ≠ ['0']) :
    Nat.digits 16 (Nat.ofDigits 16 (hexPlaces ds)) = hexPlaces ds := by
  refine Nat.digits_ofDigits 16 (by decide) _ (hexPlaces_lt h.digits) ?_
  intro hne hzero
  apply hds
  apply h.shortest
  rw [← map_hexPlaces h.digits, List.head?_map, List.head?_reverse,
    List.getLast?_eq_getLast_of_ne_nil hne, hzero]
  rfl

theorem value_ne_zero (h : IsShortest ds) (hds : ds ≠ ['0']) :
    Nat.ofDigits 16 (hexPlaces ds) ≠ 0 := by
  intro hzero
  have hplaces := h.digits_value hds
  rw [hzero, Nat.digits_zero] at hplaces
  apply h.nonempty
  rw [← map_hexPlaces h.digits, ← hplaces]
  rfl

theorem eq_of_value (hd : IsShortest ds) (he : IsShortest es)
    (h : Nat.ofDigits 16 (hexPlaces ds) = Nat.ofDigits 16 (hexPlaces es)) : ds = es := by
  have hzero : Nat.ofDigits 16 (hexPlaces ['0']) = 0 := by decide
  by_cases hds : ds = ['0']
  · subst hds
    by_contra hes
    exact he.value_ne_zero (fun h => hes h.symm) (h.symm.trans hzero)
  by_cases hes : es = ['0']
  · subst hes
    exact absurd (h.trans hzero) (hd.value_ne_zero hds)
  have hplaces : hexPlaces ds = hexPlaces es := by
    rw [← hd.digits_value hds, h, he.digits_value hes]
  rw [← map_hexPlaces hd.digits, hplaces, map_hexPlaces he.digits]

end IsShortest

theorem isShortest_hexChars (w : Word) : IsShortest (hexChars w) where
  digits := by
    intro c hc
    obtain ⟨d, hd, rfl⟩ := exists_of_mem_toDigits hc
    exact isLower_digitChar hd
  nonempty := Nat.toDigits_ne_nil
  shortest := by
    intro hhead
    by_cases hw : w.toNat = 0
    · rw [hexChars, hw]
      rfl
    · exact absurd hhead (Decimal.head?_toDigits (by decide) (by decide) hw)

end Shortest

end Numeral

namespace Quantity

/-- A record with the mark and the fewest lower-case digits. -/
def IsCanonical (raw : Bytes) : Prop :=
  ∃ ds, Numeral.IsShortest ds ∧ raw = Utf8.encode (String.ofList ('0' :: 'x' :: ds))

section Canonical

variable {raw : Bytes} {w : Word} {ds : List Char}

theorem isCanonical_encode (w : Word) : IsCanonical (encode w) :=
  ⟨_, Numeral.isShortest_hexChars w, rfl⟩

/-- No digit of a canonical record is taken for a mark. -/
theorem digits_canonical (h : Numeral.IsShortest ds) :
    digits (String.ofList ('0' :: 'x' :: ds)) = ds :=
  digits_marked fun c hc => Numeral.exists_of_isLower (h.digits c hc)

theorem value_of_read (h : Numeral.IsShortest ds)
    (hread : read (Utf8.encode (String.ofList ('0' :: 'x' :: ds))) = .ok w) :
    w.toNat = Nat.ofDigits 16 (Numeral.hexPlaces ds) := by
  obtain ⟨ds', hshows, -, hvalue⟩ := read_eq_ok_iff.1 hread
  obtain ⟨text, htext, rfl⟩ := shows_iff.1 hshows
  rw [Utf8.decode_encode, Except.ok.injEq] at htext
  rwa [← htext, digits_canonical h] at hvalue

theorem eq_encode_of_read (h : IsCanonical raw) (hread : read raw = .ok w) : raw = encode w := by
  obtain ⟨ds, hds, rfl⟩ := h
  have hvalue : w.toNat = Nat.ofDigits 16 (Numeral.hexPlaces (Numeral.hexChars w)) :=
    value_of_read (Numeral.isShortest_hexChars w) (read_encode w)
  have heq : ds = Numeral.hexChars w :=
    hds.eq_of_value (Numeral.isShortest_hexChars w) ((value_of_read hds hread).symm.trans hvalue)
  rw [heq, encode]

/-- What is written for a word is read as the word, under every key, and is canonical; two words
are never written alike. Of all records that are read as a word it is the only canonical one. -/
theorem canonical_account :
    (∀ key w, decode key (encode w) = .ok w) ∧
      Function.Injective encode ∧
      (∀ w, ∃ ds, Numeral.IsShortest ds ∧ w.toNat = Nat.ofDigits 16 (Numeral.hexPlaces ds) ∧
        encode w = Utf8.encode (String.ofList ('0' :: 'x' :: ds))) ∧
      encode 0 = Utf8.encode "0x0" ∧
      ∀ key raw w, IsCanonical raw ∧ decode key raw = .ok w ↔ raw = encode w := by
  refine ⟨decode_encode, fun _ _ => encode_injective, ?_, by decide, ?_⟩
  · intro w
    have hshort := Numeral.isShortest_hexChars w
    exact ⟨_, hshort, value_of_read hshort (read_encode w), rfl⟩
  · intro key raw w
    constructor
    · rintro ⟨hcanonical, hdecode⟩
      exact eq_encode_of_read hcanonical (decode_eq_ok_iff.1 hdecode)
    · rintro rfl
      exact ⟨isCanonical_encode w, decode_encode key w⟩

end Canonical

end Quantity
end PriceOracle
