import Mathlib.Data.List.Induction
import Mathlib.Data.Nat.Digits.Lemmas
import PriceOracle.Word

/-!
# PriceOracle.Proofs.Word

Numbers in bytes, the high byte first. `IsBigEndian` says which bytes a number has; words and
addresses are read from just these (`Word.ofBytes_eq_iff`, `Address.ofBytes_eq_iff`), and a word
whose low bytes are an address begins with zeros (`toBytes_toWord`).
-/

namespace PriceOracle

/-- The bytes are the base-256 digits of the number, the highest first. -/
structure IsBigEndian (width : Nat) (bytes : Bytes) (n : Nat) : Prop where
  length : bytes.length = width
  value : Nat.ofDigits 256 (bytes.reverse.map UInt8.toNat) = n

section Bytes

variable {width : Nat} {bytes : Bytes}

theorem natOfBytes_eq (bytes : Bytes) :
    natOfBytes bytes = Nat.ofDigits 256 (bytes.reverse.map UInt8.toNat) := by
  induction bytes using List.reverseRecOn with
  | nil => rfl
  | append_singleton front b ih =>
    rw [natOfBytes_append, ih, List.reverse_append, List.reverse_singleton, List.singleton_append,
      List.map_cons, Nat.ofDigits_cons, Nat.mul_comm, Nat.add_comm]

theorem natOfBytes_lt (bytes : Bytes) : natOfBytes bytes < 256 ^ bytes.length := by
  have hdigits : ∀ d ∈ bytes.reverse.map UInt8.toNat, d < 256 := by
    intro d hd
    obtain ⟨b, -, rfl⟩ := List.mem_map.1 hd
    exact b.toNat_lt
  have hlt := Nat.ofDigits_lt_base_pow_length (by decide) hdigits
  rwa [← natOfBytes_eq, List.length_map, List.length_reverse] at hlt

/-- A vector of as many bits as the bytes have holds all numbers that they can be. -/
theorem ofNat_natOfBytes_eq_iff {bits : Nat} {w : BitVec bits} (hlength : bytes.length = width)
    (hbits : 256 ^ width = 2 ^ bits) :
    BitVec.ofNat bits (natOfBytes bytes) = w ↔ IsBigEndian width bytes w.toNat := by
  have hlt : natOfBytes bytes < 2 ^ bits := hbits ▸ hlength ▸ natOfBytes_lt bytes
  rw [← BitVec.toNat_inj, BitVec.toNat_ofNat, Nat.mod_eq_of_lt hlt, natOfBytes_eq]
  exact ⟨fun h => ⟨hlength, h⟩, fun h => h.value⟩

theorem bytesOfNat_add (high low n : Nat) :
    bytesOfNat (high + low) n = bytesOfNat high (n / 256 ^ low) ++ bytesOfNat low n := by
  induction low generalizing n with
  | zero => rw [Nat.add_zero, Nat.pow_zero, Nat.div_one, bytesOfNat, List.append_nil]
  | succ low ih =>
    rw [← Nat.add_assoc, bytesOfNat, ih, bytesOfNat, Nat.div_div_eq_div_mul, Nat.pow_succ',
      List.append_assoc]

theorem bytesOfNat_zero (width : Nat) : bytesOfNat width 0 = List.replicate width 0 := by
  induction width with
  | zero => rfl
  | succ width ih =>
    rw [bytesOfNat, Nat.zero_div, ih, List.replicate_succ']
    rfl

end Bytes

theorem Word.ofBytes_eq_iff {bytes : Bytes} {w : Word} (hlength : bytes.length = 32) :
    Word.ofBytes bytes = w ↔ IsBigEndian 32 bytes w.toNat :=
  ofNat_natOfBytes_eq_iff hlength (by decide)

theorem Address.ofBytes_eq_iff {bytes : Bytes} {a : Address} (hlength : bytes.length = 20) :
    Address.ofBytes bytes = a ↔ IsBigEndian 20 bytes a.toNat :=
  ofNat_natOfBytes_eq_iff hlength (by decide)

theorem Address.toBytes_toWord (a : Address) :
    (Address.toWord a).toBytes = List.replicate 12 0 ++ a.toBytes := by
  have hvalue : (Address.toWord a).toNat = a.toNat := by
    rw [Address.toWord, BitVec.toNat_setWidth, Nat.mod_eq_of_lt]
    exact a.isLt.trans_le (Nat.pow_le_pow_right (by decide) (by decide))
  have hhigh : a.toNat / 256 ^ 20 = 0 := Nat.div_eq_of_lt (by simpa using a.isLt)
  rw [Word.toBytes, hvalue, show (32 : Nat) = 12 + 20 from rfl, bytesOfNat_add, hhigh,
    bytesOfNat_zero, Address.toBytes]

end PriceOracle
