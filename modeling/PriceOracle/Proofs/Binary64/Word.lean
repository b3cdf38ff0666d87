import PriceOracle.Decimal.Binary
import PriceOracle.Proofs.Binary64.Operations

/-!
# PriceOracle.Proofs.Binary64.Word

Doubles as words of 64 bits: a sign, and the code of a magnitude. The codes from `infinite` on stand
for infinity and for what is no number. A double is known by its sign and its code
(`eq_of_code`), and a result beyond the doubles becomes infinite (`code_pack`).
-/

namespace PriceOracle
namespace Binary64

open Float.Model Float.Model.UnpackedFloat

/-- The bits of a double without the sign. -/
def code (x : Float) : ℕ := x.toBits.toNat % 2 ^ 63

def sign (x : Float) : Sign := if x.toBits.toNat < 2 ^ 63 then .positive else .negative

variable {x y : Float} {n : ℕ} {s : Sign}

section Unpack

theorem toNat_unpackMantissa (b : BitVec 64) :
    (@unpackMantissa .binary64 b).toNat = b.toNat % 2 ^ 52 := by
  simp [unpackMantissa]

theorem toNat_unpackExponent (b : BitVec 64) :
    (@unpackExponent .binary64 b).toNat = b.toNat / 2 ^ 52 % 2 ^ 11 := by
  simp [unpackExponent, Nat.shiftRight_eq_div_pow]

theorem toNat_unpackSign (b : BitVec 64) :
    (@unpackSign .binary64 b).toNat = b.toNat / 2 ^ 63 % 2 := by
  show (b.extractLsb 63 63).toNat = _
  simp [Nat.shiftRight_eq_div_pow]

theorem ofBitVec_unpackSign (x : Float) :
    Sign.ofBitVec (@unpackSign .binary64 x.toBits.toBitVec) = sign x := by
  have h := toNat_unpackSign x.toBits.toBitVec
  have hlt : x.toBits.toNat < 2 ^ 64 := x.toBits.toNat_lt
  rw [UInt64.toNat_toBitVec] at h
  unfold Sign.ofBitVec sign
  by_cases hx : x.toBits.toNat < 2 ^ 63
  · rw [if_pos hx, if_pos]
    rw [← BitVec.toNat_inj, h, BitVec.toNat_ofNat]
    omega
  · rw [if_neg hx, if_neg]
    rw [← BitVec.toNat_inj, h, BitVec.toNat_ofNat]
    omega

theorem finite_eq_unpacked {m : ℕ} {e : ℤ} (hpos : 0 < m) (hm : m = mantissa n)
    (he : e = place n) : .finite s m e hpos = unpacked s n := by
  subst hm he
  rw [unpacked, dif_neg hpos.ne']

/-- A double as arithmetic takes it. -/
theorem unpack_eq (x : Float) :
    x.toModel.unpack =
      if code x < infinite then unpacked (sign x) (code x)
      else if code x = infinite then .infinity (sign x)
      else .notANumber := by
  obtain ⟨w, hw⟩ : ∃ w, x.toBits.toNat = w := ⟨_, rfl⟩
  have hmantissa : (@unpackMantissa .binary64 x.toBits.toBitVec).toNat = w % 2 ^ 52 :=
    hw ▸ toNat_unpackMantissa x.toBits.toBitVec
  have hexponent : (@unpackExponent .binary64 x.toBits.toBitVec).toNat = w / 2 ^ 52 % 2 ^ 11 :=
    hw ▸ toNat_unpackExponent x.toBits.toBitVec
  have hfull : (1#1 ++ @unpackMantissa .binary64 x.toBits.toBitVec).toNat =
      2 ^ 52 + w % 2 ^ 52 := by
    rw [BitVec.toNat_append, ← Nat.shiftLeft_add_eq_or_of_lt (BitVec.isLt _), hmantissa]
    rfl
  have hfixed : @unpackMantissa .binary64 x.toBits.toBitVec = 0#52 ↔ w % 2 ^ 52 = 0 := by
    rw [← BitVec.toNat_inj, hmantissa, BitVec.toNat_zero]
  have hlowest : @unpackExponent .binary64 x.toBits.toBitVec = 0#11 ↔
      w / 2 ^ 52 % 2 ^ 11 = 0 := by
    rw [← BitVec.toNat_inj, hexponent, BitVec.toNat_zero]
  have hhighest : @unpackExponent .binary64 x.toBits.toBitVec = -1#11 ↔
      w / 2 ^ 52 % 2 ^ 11 = 2047 := by
    rw [← BitVec.toNat_inj, hexponent]
    rfl
  have hcode : code x = w % 2 ^ 63 := by rw [code, hw]
  have hplace := place.eq_def (code x)
  have hm := mul_add_mantissa (code x)
  have hb := binade.eq_def (code x)
  have hinfinite : infinite = 2047 * 2 ^ 52 := rfl
  have hbias : Format.binary64.exponentBias = 1023 := rfl
  show UnpackedFloat.unpack .binary64 x.toBits.toBitVec = _
  unfold UnpackedFloat.unpack
  dsimp only
  rw [ofBitVec_unpackSign]
  by_cases hhigh : w / 2 ^ 52 % 2 ^ 11 = 2047
  · rw [if_pos (hhighest.2 hhigh), if_neg (by omega : ¬code x < infinite)]
    by_cases hzero : w % 2 ^ 52 = 0
    · rw [if_pos (hfixed.2 hzero), if_pos (by omega)]
    · rw [if_neg (mt hfixed.1 hzero), if_neg (by omega)]
  rw [if_neg (mt hhighest.1 hhigh), if_pos (by omega : code x < infinite)]
  by_cases hlow : w / 2 ^ 52 % 2 ^ 11 = 0
  · rw [if_pos (hlowest.2 hlow)]
    by_cases hzero : w % 2 ^ 52 = 0
    · have hnone : code x = 0 := by omega
      rw [dif_pos (hfixed.2 hzero), hnone, unpacked_zero]
    · rw [dif_neg (mt hfixed.1 hzero)]
      refine finite_eq_unpacked _ (hmantissa.trans ?_) ?_ <;> omega
  · rw [if_neg (mt hlowest.1 hlow)]
    refine finite_eq_unpacked _ (hfull.trans ?_) ?_ <;> omega

end Unpack

section Pack

def signBit : Sign → ℕ
  | .negative => 1
  | .positive => 0

theorem toNat_packComponents (s : Sign) (e : BitVec 11) (m : BitVec 52) :
    (packComponents .binary64 s e m).toNat = signBit s * 2 ^ 63 + e.toNat * 2 ^ 52 + m.toNat := by
  have happend : (packComponents .binary64 s e m).toNat =
      (s.toBitVec.toNat <<< 11 ||| e.toNat) <<< 52 ||| m.toNat := by
    unfold packComponents
    rw [BitVec.toNat_append, BitVec.toNat_append]
  have hsign : s.toBitVec.toNat = signBit s := by cases s <;> rfl
  rw [happend, ← Nat.shiftLeft_add_eq_or_of_lt e.isLt, ← Nat.shiftLeft_add_eq_or_of_lt m.isLt,
    Nat.shiftLeft_eq, Nat.shiftLeft_eq, hsign]
  ring

theorem toNat_packedInfinity (s : Sign) :
    (packedInfinity .binary64 s).toNat = signBit s * 2 ^ 63 + infinite := by
  have hones : (-1#11 : BitVec 11).toNat = 2047 := rfl
  have hzero : (0 : BitVec 52).toNat = 0 := rfl
  rw [packedInfinity, toNat_packComponents, hones, hzero, infinite, add_zero]

theorem toNat_packedZero (s : Sign) : (packedZero .binary64 s).toNat = signBit s * 2 ^ 63 := by
  have hzero : (0 : BitVec 52).toNat = 0 := rfl
  have hzero' : (0 : BitVec 11).toNat = 0 := rfl
  rw [packedZero, toNat_packComponents, hzero, hzero', zero_mul, add_zero, add_zero]

theorem pack_finite {m : ℕ} {e : ℤ} (hm : 0 < m) :
    UnpackedFloat.pack .binary64 (.finite s m e hm) =
      if 2 ^ 11 ≤ (e + 1023 + 52).toNat + 1 then packedInfinity .binary64 s
      else if m.log2 + 1 = 53 then
        packComponents .binary64 s (.ofNat 11 (e + 1023 + 52).toNat) (.ofNat 52 m)
      else packComponents .binary64 s 0#11 (.ofNat 52 m) := rfl

/-- The highest bit of a full mantissa counts as one more binade. -/
theorem add_mod_mantissa (hm : 2 ^ 52 ≤ mantissa n) :
    (binade n + 1) * 2 ^ 52 + mantissa n % 2 ^ 52 = n := by
  have hlt := mantissa_lt n
  refine Eq.trans ?_ (mul_add_mantissa n)
  omega

/-- Beyond the doubles is infinity. -/
theorem toNat_pack (s : Sign) (n : ℕ) :
    (UnpackedFloat.pack .binary64 (unpacked s n)).toNat = signBit s * 2 ^ 63 + min n infinite := by
  have hinfinite : infinite = 2047 * 2 ^ 52 := rfl
  by_cases hn : n = 0
  · subst hn
    rw [unpacked_zero, Nat.zero_min, add_zero]
    exact toNat_packedZero s
  rw [unpacked_of_ne s hn]
  have hcode := mul_add_mantissa n
  have hlt := mantissa_lt n
  have hplace := place.eq_def n
  have hbinade := binade.eq_def n
  have hbiased : (place n + 1023 + 52).toNat = binade n + 1 := by omega
  rw [pack_finite, hbiased]
  split
  · rw [toNat_packedInfinity, Nat.min_eq_right (by omega)]
  · have hfull : (mantissa n).log2 + 1 = 53 ↔ 2 ^ 52 ≤ mantissa n := by
      have hlow := Nat.le_log2 (k := 52) (mantissa_pos hn).ne'
      have hhigh := Nat.log2_lt (k := 53) (mantissa_pos hn).ne'
      omega
    split
    · next hm =>
      have := hfull.1 hm
      rw [toNat_packComponents, BitVec.toNat_ofNat, BitVec.toNat_ofNat,
        Nat.min_eq_left (by omega), add_assoc, Nat.add_left_cancel_iff,
        Nat.mod_eq_of_lt (by omega)]
      exact add_mod_mantissa this
    · next hm =>
      have := (le_mantissa n).resolve_left (mt hfull.2 hm)
      rw [toNat_packComponents, BitVec.toNat_ofNat, BitVec.toNat_ofNat,
        Nat.min_eq_left (by omega), Nat.zero_mod, zero_mul, add_zero, Nat.add_left_cancel_iff,
        Nat.mod_eq_of_lt (by omega)]
      omega

theorem code_pack (s : Sign) (n : ℕ) :
    code (.ofModel (.pack (unpacked s n))) = min n infinite := by
  have h := toNat_pack s n
  have hinfinite : infinite = 2047 * 2 ^ 52 := rfl
  show (UnpackedFloat.pack .binary64 (unpacked s n)).toNat % 2 ^ 63 = _
  rw [h]
  cases s <;> simp only [signBit] <;> omega

theorem sign_pack (s : Sign) (n : ℕ) : sign (.ofModel (.pack (unpacked s n))) = s := by
  have h := toNat_pack s n
  have hinfinite : infinite = 2047 * 2 ^ 52 := rfl
  show (if (UnpackedFloat.pack .binary64 (unpacked s n)).toNat < 2 ^ 63 then _ else _) = _
  rw [h]
  cases s
  · exact if_neg (by simp only [signBit]; omega)
  · exact if_pos (by simp only [signBit]; omega)

theorem code_pack_infinity (s : Sign) : code (.ofModel (.pack (.infinity s))) = infinite := by
  cases s <;> rfl

theorem sign_pack_infinity (s : Sign) : sign (.ofModel (.pack (.infinity s))) = s := by
  cases s <;> rfl

/-- A double is known by its sign and its code. -/
theorem eq_of_code (hs : sign x = sign y) (hc : code x = code y) : x = y := by
  have hbits : x.toBits.toNat = y.toBits.toNat := by
    have hx := x.toBits.toNat_lt
    have hy := y.toBits.toNat_lt
    unfold sign at hs
    unfold code at hc
    split at hs <;> split at hs
    · omega
    · cases hs
    · cases hs
    · omega
  obtain ⟨⟨bits, valid⟩⟩ := x
  obtain ⟨⟨bits', valid'⟩⟩ := y
  obtain rfl : bits = bits' := UInt64.toNat_inj.1 hbits
  rfl

/-- What is no number is one double. -/
theorem toBitVec_of_not_number (hx : infinite < code x) :
    x.toBits.toBitVec = packedNaN .binary64 := by
  unfold code infinite at hx
  have hexponent : @unpackExponent .binary64 x.toBits.toBitVec = -1#_ := by
    rw [← BitVec.toNat_inj, toNat_unpackExponent, UInt64.toNat_toBitVec]
    show _ = 2047
    omega
  have hmantissa : @unpackMantissa .binary64 x.toBits.toBitVec ≠ 0#_ := by
    rw [Ne, ← BitVec.toNat_inj, toNat_unpackMantissa, UInt64.toNat_toBitVec]
    show ¬_ = 0
    omega
  exact x.toModel.valid.eq_packedNaN hexponent hmantissa

theorem eq_of_not_number (hx : infinite < code x) (hy : infinite < code y) : x = y := by
  have hbits : x.toBits = y.toBits := by
    rw [← UInt64.toBitVec_inj, toBitVec_of_not_number hx, toBitVec_of_not_number hy]
  refine eq_of_code ?_ ?_
  · rw [sign, sign, hbits]
  · rw [code, code, hbits]

/-- A double that is a number is read from its bits. -/
theorem ofBits_toBits (hx : code x ≤ infinite) : Float.ofBits x.toBits = x := by
  have hread : Float.ofBits x.toBits = .ofModel (.pack x.toModel.unpack) := rfl
  rw [hread, unpack_eq]
  split
  · next hlt =>
    exact eq_of_code (sign_pack _ _) ((code_pack _ _).trans (Nat.min_eq_left hx))
  · next hlt =>
    have heq : code x = infinite := by omega
    rw [if_pos heq]
    exact eq_of_code (sign_pack_infinity _) ((code_pack_infinity _).trans heq.symm)

end Pack

section Kind

theorem isNaN_unpacked (s : Sign) (n : ℕ) : (unpacked s n).isNaN = false := by
  obtain h | ⟨m, e, hm, h⟩ := unpacked_cases s n <;> rw [h] <;> rfl

theorem isFinite_unpacked (s : Sign) (n : ℕ) : (unpacked s n).isFinite = true := by
  obtain h | ⟨m, e, hm, h⟩ := unpacked_cases s n <;> rw [h] <;> rfl

theorem isNaN_iff (x : Float) : x.isNaN = true ↔ infinite < code x := by
  show x.toModel.unpack.isNaN = true ↔ _
  rw [unpack_eq]
  split
  · next h =>
    rw [isNaN_unpacked]
    exact iff_of_false Bool.false_ne_true (by omega)
  · next h =>
    split
    · next h' => exact iff_of_false Bool.false_ne_true (by omega)
    · next h' => exact iff_of_true rfl (by omega)

theorem isFinite_iff (x : Float) : x.isFinite = true ↔ code x < infinite := by
  show x.toModel.unpack.isFinite = true ↔ _
  rw [unpack_eq]
  split
  · next h =>
    exact iff_of_true (isFinite_unpacked _ _) h
  · next h =>
    refine iff_of_false ?_ h
    split <;> exact Bool.false_ne_true

theorem toNat_exponent (x : Float) :
    ((x.toBits >>> 52) &&& 0x7FF).toNat = code x / 2 ^ 52 := by
  rw [UInt64.toNat_and, UInt64.toNat_shiftRight, code]
  show x.toBits.toNat >>> 52 &&& (2 ^ 11 - 1) = _
  rw [Nat.and_two_pow_sub_one_eq_mod, Nat.shiftRight_eq_div_pow]
  omega

theorem toNat_fraction (x : Float) : (x.toBits &&& 0xFFFFFFFFFFFFF).toNat = code x % 2 ^ 52 := by
  rw [UInt64.toNat_and, code]
  show x.toBits.toNat &&& (2 ^ 52 - 1) = _
  rw [Nat.and_two_pow_sub_one_eq_mod]
  omega

theorem decide_sign (x : Float) : decide (x.toBits >>> 63 = 1) = (sign x == .negative) := by
  have hlt := x.toBits.toNat_lt
  have hbit : x.toBits >>> 63 = 1 ↔ x.toBits.toNat / 2 ^ 63 = 1 := by
    rw [← UInt64.toNat_inj, UInt64.toNat_shiftRight]
    show x.toBits.toNat >>> 63 = 1 ↔ _
    rw [Nat.shiftRight_eq_div_pow]
  unfold sign
  split
  · exact decide_eq_false (by rw [hbit]; omega)
  · exact decide_eq_true (by rw [hbit]; omega)

/-- The magnitude of code `n` as an exact number. -/
def magnitude (n : ℕ) : Decimal.Binary :=
  ⟨mantissa n, place n, decide (mantissa n = 2 ^ 52 ∧ binade n ≠ 0)⟩

theorem ofBits_eq (x : Float) : Decimal.Binary.ofBits x.toBits = magnitude (code x) := by
  have hm := mul_add_mantissa (code x)
  have hb := binade.eq_def (code x)
  unfold Decimal.Binary.ofBits magnitude place
  simp only [toNat_exponent, toNat_fraction]
  split
  · rw [Decimal.Binary.mk.injEq]
    refine ⟨by omega, by omega, ?_⟩
    rw [eq_comm, decide_eq_false_iff_not]
    omega
  · rw [Decimal.Binary.mk.injEq, Nat.pow_eq]
    refine ⟨by omega, by omega, ?_⟩
    rw [Bool.eq_iff_iff, Bool.and_eq_true, decide_eq_true_iff, decide_eq_true_iff,
      decide_eq_true_iff]
    omega

theorem kind_of (x : Float) :
    Decimal.Kind.of x =
      if code x < infinite then .finite (sign x == .negative) (magnitude (code x))
      else if code x = infinite then .infinite (sign x == .negative)
      else .nan := by
  have hinfinite : infinite = 2047 * 2 ^ 52 := rfl
  have hlt : code x < 2 ^ 63 := Nat.mod_lt _ (by norm_num)
  have hexponent : (x.toBits >>> 52) &&& 0x7FF = 0x7FF ↔ code x / 2 ^ 52 = 2047 := by
    rw [← UInt64.toNat_inj, toNat_exponent]
    exact Iff.rfl
  unfold Decimal.Kind.of
  simp only [isNaN_iff, decide_sign, ofBits_eq, hexponent]
  split
  · rw [if_neg (by omega), if_neg (by omega)]
  · split
    · rw [if_neg (by omega), if_pos (by omega)]
    · rw [if_pos (by omega)]

theorem kind_of_finite (hx : code x < infinite) :
    Decimal.Kind.of x = .finite (sign x == .negative) (magnitude (code x)) := by
  rw [kind_of, if_pos hx]

theorem kind_of_ne (hx : ¬ code x < infinite) (negative : Bool) (b : Decimal.Binary) :
    Decimal.Kind.of x ≠ .finite negative b := by
  rw [kind_of, if_neg hx]
  split <;> intro h <;> cases h

end Kind
end Binary64
end PriceOracle
