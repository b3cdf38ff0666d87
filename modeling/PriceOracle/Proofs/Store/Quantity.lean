import PriceOracle.Proofs.Text.Numeral

/-!
# PriceOracle.Proofs.Store.Quantity

Words survive being stored, and other records than those of words are read, too.

* `readHexUp_reverse_toDigits`: the reader takes the digits of a number for the number.
* `decode_encode`: the record of a word is read as the word.
* `decode_account`: which records are read, as what, and how the others are refused.
-/

namespace PriceOracle
namespace Numeral

open Nat (digitChar toDigits)

theorem isPlain_digitChar {d : Nat} (h : d < 16) : Utf8.IsPlain (digitChar d) := by
  have : ∀ d : Fin 16, (digitChar d).toNat < 0x80 := by decide
  exact this ⟨d, h⟩

theorem value_digitChar {d : Nat} (h : d < 16) :
    Hex.value? (UInt8.ofNat (digitChar d).toNat) = some d := by
  have : ∀ d : Fin 16, Hex.value? (UInt8.ofNat (digitChar d).toNat) = some d.val := by decide
  exact this ⟨d, h⟩

theorem digitChar_ne_underscore {d : Nat} (h : d < 16) :
    UInt8.ofNat (digitChar d).toNat ≠ underscore := by
  have : ∀ d : Fin 16, UInt8.ofNat (digitChar d).toNat ≠ underscore := by decide
  exact this ⟨d, h⟩

/-- What every character of a numeral is. -/
theorem exists_of_mem_toDigits {n : Nat} {c : Char} (h : c ∈ toDigits 16 n) :
    ∃ d, d < 16 ∧ c = digitChar d := by
  induction n using Nat.strongRecOn with
  | ind n ih =>
    by_cases hn : n < 16
    · rw [Nat.toDigits_of_lt_base hn, List.mem_singleton] at h
      exact ⟨n, hn, h⟩
    · rw [Nat.toDigits_of_base_le (by omega) (by omega), List.mem_append,
        List.mem_singleton] at h
      obtain h | h := h
      · exact ih (n / 16) (by omega) h
      · exact ⟨n % 16, by omega, h⟩

theorem readHexUp_digit {place value d : Nat} (hd : d < 16) (hp : d = 0 ∨ place < 64)
    (rest : Bytes) :
    readHexUp place value (UInt8.ofNat (digitChar d).toNat :: rest)
      = readHexUp (place + 1) (value + d * Nat.pow 16 place) rest := by
  have hfit : ¬(64 ≤ place ∧ d ≠ 0) := by omega
  simp only [readHexUp, digitChar_ne_underscore hd, value_digitChar hd, hfit, if_false]

/-- A digit that is not zero stands at one of the 64 lowest places. -/
theorem place_lt_of_fits {n place : Nat} (hn : 0 < n)
    (h : n * Nat.pow 16 place < Nat.pow 16 64) : place < 64 := by
  apply Decidable.byContradiction
  intro hp
  have hle : Nat.pow 16 64 ≤ Nat.pow 16 place := Nat.pow_le_pow_right (by omega) (by omega)
  have : 1 * Nat.pow 16 place ≤ n * Nat.pow 16 place := Nat.mul_le_mul_right _ hn
  omega

theorem digits_at_place (n place : Nat) :
    n % 16 * Nat.pow 16 place + n / 16 * Nat.pow 16 (place + 1) = n * Nat.pow 16 place := by
  have hsucc : Nat.pow 16 (place + 1) = 16 * Nat.pow 16 place := Nat.mul_comm _ _
  calc n % 16 * Nat.pow 16 place + n / 16 * Nat.pow 16 (place + 1)
      = (n % 16 + 16 * (n / 16)) * Nat.pow 16 place := by
        rw [hsucc, Nat.add_mul, ← Nat.mul_assoc, Nat.mul_comm (n / 16) 16]
    _ = n * Nat.pow 16 place := by rw [Nat.mod_add_div]

theorem readHexUp_reverse_toDigits (n place value : Nat)
    (h : n * Nat.pow 16 place < Nat.pow 16 64) :
    readHexUp place value ((toDigits 16 n).map fun c => UInt8.ofNat c.toNat).reverse
      = .ok (value + n * Nat.pow 16 place) := by
  induction n using Nat.strongRecOn generalizing place value with
  | ind n ih =>
    by_cases hn : n < 16
    · have hp : n = 0 ∨ place < 64 :=
        n.eq_zero_or_pos.imp_right fun hpos => place_lt_of_fits hpos h
      rw [Nat.toDigits_of_lt_base hn]
      exact readHexUp_digit hn hp []
    · have hp : place < 64 := place_lt_of_fits (by omega) h
      have hsum := digits_at_place n place
      rw [Nat.toDigits_of_base_le (by omega) (by omega), List.map_append, List.reverse_append,
        List.map_singleton, List.reverse_singleton, List.singleton_append,
        readHexUp_digit (Nat.mod_lt _ (by omega)) (.inr hp),
        ih (n / 16) (by omega) _ _ (by omega), Nat.add_assoc, hsum]

theorem readHex_hexChars (w : Word) :
    readHex ((hexChars w).map fun c => UInt8.ofNat c.toNat) = .ok w := by
  have hw : w.toNat * Nat.pow 16 0 < Nat.pow 16 64 := by
    have := w.isLt
    rw [Nat.pow_eq, Nat.pow_eq]
    omega
  rw [readHex, hexChars, readHexUp_reverse_toDigits _ _ _ hw]
  show Except.ok (BitVec.ofNat 256 (0 + w.toNat * 1)) = _
  rw [Nat.mul_one, Nat.zero_add, BitVec.ofNat_toNat, BitVec.setWidth_eq]

end Numeral

namespace Quantity

open Nat (digitChar)

theorem isBlank_digitChar {d : Nat} (h : d < 16) : Text.isBlank (digitChar d) = false := by
  have : ∀ d : Fin 16, Text.isBlank (digitChar d) = false := by decide
  exact this ⟨d, h⟩

theorem digitChar_ne_x {d : Nat} (h : d < 16) : digitChar d ≠ 'x' := by
  have : ∀ d : Fin 16, digitChar d ≠ 'x' := by decide
  exact this ⟨d, h⟩

theorem dropMarks_eq_self {cs : List Char} (h : 'x' ∉ cs) : Hex.dropMarks cs = cs := by
  unfold Hex.dropMarks
  split
  · simp at h
  · rfl

theorem isPlain_of_mem_hexChars {w : Word} {c : Char} (h : c ∈ Numeral.hexChars w) :
    Utf8.IsPlain c := by
  obtain ⟨d, hd, rfl⟩ := Numeral.exists_of_mem_toDigits h
  exact Numeral.isPlain_digitChar hd

/-- The mark in front of digits comes off, and nothing else does. -/
theorem digits_marked {ds : List Char} (h : ∀ c ∈ ds, ∃ d, d < 16 ∧ c = digitChar d) :
    digits (String.ofList ('0' :: 'x' :: ds)) = ds := by
  have hblank : ∀ c ∈ '0' :: 'x' :: ds, Text.isBlank c = false := by
    intro c hc
    rw [List.mem_cons, List.mem_cons] at hc
    obtain rfl | rfl | hc := hc
    · decide
    · decide
    · obtain ⟨d, hd, rfl⟩ := h c hc
      exact isBlank_digitChar hd
  have hx : 'x' ∉ ds := by
    intro hmem
    obtain ⟨d, hd, he⟩ := h 'x' hmem
    exact digitChar_ne_x hd he.symm
  rw [digits, String.toList_ofList, Text.trim_eq_self hblank]
  exact dropMarks_eq_self hx

theorem digits_text (w : Word) :
    digits (String.ofList ('0' :: 'x' :: Numeral.hexChars w)) = Numeral.hexChars w :=
  digits_marked fun _ => Numeral.exists_of_mem_toDigits

theorem read_encode (w : Word) : read (encode w) = .ok w := by
  have hne : (Numeral.hexChars w).isEmpty = false := by
    rw [List.isEmpty_eq_false_iff]
    exact Nat.toDigits_ne_nil
  rw [read, encode, Utf8.decode_encode]
  simp only [digits_text, hne, Bool.false_eq_true, if_false]
  rw [Utf8.encode_of_isPlain fun _ => isPlain_of_mem_hexChars, Numeral.readHex_hexChars]
  rfl

theorem decode_encode (key : String) (w : Word) : decode key (encode w) = .ok w := by
  rw [decode, read_encode]
  rfl

theorem encode_injective {v w : Word} (h : encode v = encode w) : v = w := by
  have hv := read_encode v
  rw [h, read_encode] at hv
  exact (Except.ok.inj hv).symm

/-! ## Any record -/

/-- A record is text, and this is left of it without white space at the ends and without marks. -/
def Shows (raw : Bytes) (ds : List Char) : Prop :=
  ∃ text core, raw = Utf8.encode text ∧ Text.IsTrimmed text.toList core ∧ Hex.IsUnmarked core ds

/-- Digits of either case, separated at will. Those beyond the 64 lowest ones are zeros. -/
structure IsNumeral (ds : List Char) : Prop where
  nonempty : ds ≠ []
  digits : ∀ c ∈ ds, c = '_' ∨ (Numeral.hexDigit? c).isSome
  small : ∀ d ∈ (Numeral.hexPlaces ds).drop 64, d = 0

section Account

variable {raw : Bytes} {ds : List Char} {w : Word} {key : String}

theorem shows_iff : Shows raw ds ↔ ∃ text, Utf8.decode raw = .ok text ∧ digits text = ds := by
  constructor
  · rintro ⟨text, core, hraw, hcore, hds⟩
    rw [← Text.trim_eq_iff] at hcore
    rw [← Hex.dropMarks_eq_iff] at hds
    refine ⟨text, Utf8.decode_eq_ok_iff.2 hraw, ?_⟩
    rw [digits, hcore, hds]
  · rintro ⟨text, hraw, rfl⟩
    exact ⟨text, _, Utf8.decode_eq_ok_iff.1 hraw, Text.isTrimmed_trim _, Hex.isUnmarked_dropMarks _⟩

theorem read_eq_ok_iff : read raw = .ok w ↔
    ∃ ds, Shows raw ds ∧ IsNumeral ds ∧ w.toNat = Nat.ofDigits 16 (Numeral.hexPlaces ds) := by
  have hnumeral (text : String) : read (Utf8.encode text) = .ok w ↔
      IsNumeral (digits text) ∧
        w.toNat = Nat.ofDigits 16 (Numeral.hexPlaces (digits text)) := by
    rw [read, Utf8.decode_encode]
    simp only
    by_cases hempty : digits text = []
    · simp only [hempty, List.isEmpty_nil, if_true, reduceCtorEq, false_iff]
      rintro ⟨h, -⟩
      exact h.nonempty rfl
    · rw [if_neg (by rwa [List.isEmpty_iff])]
      cases hread : Numeral.readHex (Utf8.encode (String.ofList (digits text))) with
      | error e =>
        simp only [Except.mapError, reduceCtorEq, false_iff]
        rintro ⟨h, hvalue⟩
        rw [Numeral.readHex_encode_iff.2 ⟨h.digits, h.small, hvalue⟩] at hread
        cases hread
      | ok v =>
        obtain ⟨hdigits, hsmall, hvalue⟩ := Numeral.readHex_encode_iff.1 hread
        rw [Except.mapError, Except.ok.injEq, ← BitVec.toNat_inj, hvalue]
        constructor
        · intro h
          exact ⟨⟨hempty, hdigits, hsmall⟩, h.symm⟩
        · rintro ⟨-, h⟩
          exact h.symm
  constructor
  · intro h
    cases hraw : Utf8.decode raw with
    | error e =>
      rw [read, hraw] at h
      cases h
    | ok text =>
      rw [Utf8.decode_eq_ok_iff.1 hraw, hnumeral] at h
      exact ⟨digits text, shows_iff.2 ⟨text, hraw, rfl⟩, h⟩
  · rintro ⟨ds, hshows, h⟩
    obtain ⟨text, hraw, rfl⟩ := shows_iff.1 hshows
    rw [Utf8.decode_eq_ok_iff.1 hraw, hnumeral]
    exact h

theorem decode_eq_ok_iff : decode key raw = .ok w ↔ read raw = .ok w := by
  rw [decode]
  cases read raw <;> simp [Except.mapError]

theorem exists_word (h : IsNumeral ds) :
    ∃ w : Word, w.toNat = Nat.ofDigits 16 (Numeral.hexPlaces ds) := by
  have hlt : Nat.ofDigits 16 (Numeral.hexPlaces ds) < 2 ^ 256 := by
    refine Numeral.ofDigits_lt ?_ h.small
    intro d hd
    obtain ⟨c, hc, hcd⟩ := List.mem_filterMap.1 hd
    have hplain := Numeral.isPlain_of_hexDigit? (h.digits c (List.mem_reverse.1 hc))
    rw [← Numeral.value?_byte hplain] at hcd
    exact Numeral.value?_lt hcd
  refine ⟨BitVec.ofNat 256 (Nat.ofDigits 16 (Numeral.hexPlaces ds)), ?_⟩
  rw [BitVec.toNat_ofNat, Nat.mod_eq_of_lt hlt]

/-- A record is read as the number that its digits denote, and it is read just when it shows a
numeral. All other records are refused under their key. -/
theorem decode_account (key : String) (raw : Bytes) :
    (∀ w, decode key raw = .ok w ↔
        ∃ ds, Shows raw ds ∧ IsNumeral ds ∧ w.toNat = Nat.ofDigits 16 (Numeral.hexPlaces ds)) ∧
      ((∃ w, decode key raw = .ok w) ↔ ∃ ds, Shows raw ds ∧ IsNumeral ds) ∧
      ∀ e, decode key raw = .error e → ∃ fault, e = .malformed key fault := by
  have hread (w : Word) : decode key raw = .ok w ↔
      ∃ ds, Shows raw ds ∧ IsNumeral ds ∧ w.toNat = Nat.ofDigits 16 (Numeral.hexPlaces ds) :=
    decode_eq_ok_iff.trans read_eq_ok_iff
  refine ⟨hread, ?_, ?_⟩
  · constructor
    · rintro ⟨w, h⟩
      obtain ⟨ds, hshows, hnumeral, -⟩ := (hread w).1 h
      exact ⟨ds, hshows, hnumeral⟩
    · rintro ⟨ds, hshows, hnumeral⟩
      obtain ⟨w, hw⟩ := exists_word hnumeral
      exact ⟨w, (hread w).2 ⟨ds, hshows, hnumeral, hw⟩⟩
  · intro e h
    rw [decode] at h
    cases hraw : read raw with
    | ok w =>
      rw [hraw] at h
      cases h
    | error fault =>
      rw [hraw] at h
      cases h
      exact ⟨fault, rfl⟩

end Account

end Quantity
end PriceOracle
