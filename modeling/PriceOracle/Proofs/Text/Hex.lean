import PriceOracle.Proofs.Text.Numeral
import PriceOracle.Text.Hex

/-!
# PriceOracle.Proofs.Text.Hex

Bytes survive being written in hexadecimal digits.

* `decode_encode`: reading gives back what was written.
* `exists_decode_iff`: which texts are read.
-/

namespace PriceOracle
namespace Hex

theorem isPlain_digit {n : Nat} (h : n < 16) : Utf8.IsPlain (digit n) := by
  have : ∀ n : Fin 16, Utf8.IsPlain (digit n) := by decide
  exact this ⟨n, h⟩

theorem value_digit {n : Nat} (h : n < 16) : value? (UInt8.ofNat (digit n).toNat) = some n := by
  have : ∀ n : Fin 16, value? (UInt8.ofNat (digit n).toNat) = some n.val := by decide
  exact this ⟨n, h⟩

theorem encodeChars_cons (b : UInt8) (bytes : Bytes) :
    encodeChars (b :: bytes)
      = digit (b.toNat / 16) :: digit (b.toNat % 16) :: encodeChars bytes := rfl

theorem isPlain_of_mem_encodeChars {bytes : Bytes} {c : Char} (h : c ∈ encodeChars bytes) :
    Utf8.IsPlain c := by
  obtain ⟨b, -, hc⟩ := List.mem_flatMap.1 h
  have hb : b.toNat < 256 := b.toNat_lt
  rw [List.mem_cons, List.mem_singleton] at hc
  obtain rfl | rfl := hc
  · exact isPlain_digit (by omega)
  · exact isPlain_digit (by omega)

theorem length_encodeChars (bytes : Bytes) : (encodeChars bytes).length = 2 * bytes.length := by
  induction bytes with
  | nil => rfl
  | cons b bytes ih =>
    rw [encodeChars_cons, List.length_cons, List.length_cons, List.length_cons, ih]
    omega

theorem decodePairs_encodeChars (index : Nat) (bytes : Bytes) :
    decodePairs index ((encodeChars bytes).map fun c => UInt8.ofNat c.toNat) = .ok bytes := by
  induction bytes generalizing index with
  | nil => rfl
  | cons b bytes ih =>
    have hb : b.toNat < 256 := b.toNat_lt
    have hsum : 16 * (b.toNat / 16) + b.toNat % 16 = b.toNat := by omega
    rw [encodeChars_cons, List.map_cons, List.map_cons, decodePairs, value_digit (by omega),
      value_digit (by omega)]
    simp only [ih, hsum, UInt8.ofNat_toNat]

theorem decode_encode (bytes : Bytes) : decode (encode bytes) = .ok bytes := by
  have heven : (2 * bytes.length) % 2 ≠ 1 := by omega
  rw [decode, encode, Utf8.encode_of_isPlain fun _ => isPlain_of_mem_encodeChars, decodeBytes,
    List.length_map, length_encodeChars, if_neg heven, decodePairs_encodeChars]

/-- An even number of characters, each of them a digit of either case. -/
def IsPaired (s : String) : Prop :=
  s.toList.length % 2 = 0 ∧ ∀ c ∈ s.toList, (Numeral.hexDigit? c).isSome

theorem exists_decodePairs_iff {index : Nat} {text : Bytes} :
    (∃ bytes, decodePairs index text = .ok bytes) ↔
      text.length % 2 = 0 ∧ ∀ b ∈ text, (value? b).isSome := by
  fun_induction decodePairs index text with
  | case1 => simp
  | case2 => simp
  | case3 index hi lo rest hhi => simp [hhi]
  | case4 index hi lo rest h hlo hhi => simp [hlo]
  | case5 index hi lo rest h l hhi hlo bytes hrest ih
  | case6 index hi lo rest h l hhi hlo e hrest ih =>
    rw [hrest] at ih
    simpa [hhi, hlo, Nat.add_assoc] using ih

theorem exists_decode_iff {s : String} : (∃ bytes, decode s = .ok bytes) ↔ IsPaired s := by
  have hbytes : (∃ bytes, decode s = .ok bytes) ↔
      (Utf8.encode s).length % 2 = 0 ∧ ∀ b ∈ Utf8.encode s, (value? b).isSome := by
    rw [decode, decodeBytes]
    split
    · next hodd => simp [hodd]
    · exact exists_decodePairs_iff
  have hchars : (∀ b ∈ Utf8.encode s, (value? b).isSome) ↔
      ∀ c ∈ s.toList, (Numeral.hexDigit? c).isSome := by
    rw [← String.ofList_toList (s := s), Utf8.forall_mem_encode fun b hb =>
      Numeral.plain_of_value? (.inr hb), String.toList_ofList]
    refine forall₂_congr fun c _ => ⟨fun ⟨hplain, h⟩ => ?_, fun h => ?_⟩
    · rwa [Numeral.value?_byte hplain] at h
    · have hplain := Numeral.isPlain_of_hexDigit? (.inr h)
      exact ⟨hplain, by rwa [Numeral.value?_byte hplain]⟩
  rw [hbytes, hchars, IsPaired]
  refine and_congr_left fun hdigits => ?_
  have hplain : ∀ c ∈ s.toList, Utf8.IsPlain c :=
    fun c hc => Numeral.isPlain_of_hexDigit? (.inr (hdigits c hc))
  rw [← String.ofList_toList (s := s), Utf8.encode_of_isPlain hplain, List.length_map,
    String.toList_ofList]

end Hex
end PriceOracle
