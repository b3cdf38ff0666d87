import Mathlib.Data.List.TakeWhile
import Mathlib.Data.Nat.Digits.Lemmas
import PriceOracle.Proofs.Json.Numeral
import PriceOracle.Proofs.Text.Utf8
import PriceOracle.Store.Quantity

/-!
# PriceOracle.Proofs.Text.Numeral

What the readers of numerals accept, and what they make of it. White space at the ends and marks in
front are taken off as far as they reach (`trim_eq_iff`, `dropMarks_eq_iff`). A numeral in base 16
is read when no digit but zero stands beyond the 64 lowest places (`readHex_eq_ok_iff`), and one in
base 10 when its number is below `2 ^ 256`, however it falls into blocks (`readDecimal_eq_ok_iff`).
-/

namespace PriceOracle

namespace Text

/-- A text without the white space at its ends. -/
structure IsTrimmed (s core : List Char) : Prop where
  split : ∃ front back, s = front ++ core ++ back ∧ (∀ c ∈ front, isBlank c = true) ∧
    ∀ c ∈ back, isBlank c = true
  first : ∀ c, core.head? = some c → isBlank c = false
  last : ∀ c, core.getLast? = some c → isBlank c = false

section Trim

variable {s core : List Char} {c : Char}

theorem head_dropWhile (h : (s.dropWhile isBlank).head? = some c) : isBlank c = false := by
  have hnot := List.head?_dropWhile_not isBlank s
  rwa [h] at hnot

theorem isTrimmed_trim (s : List Char) : IsTrimmed s (trim s) := by
  obtain ⟨r, hr⟩ : ∃ r, s.dropWhile isBlank = r := ⟨_, rfl⟩
  have hs : s = s.takeWhile isBlank ++ r := by
    rw [← hr, List.takeWhile_append_dropWhile]
  have hcore : r = trim s ++ (r.reverse.takeWhile isBlank).reverse := by
    rw [trim, hr, ← List.reverse_append, List.takeWhile_append_dropWhile, List.reverse_reverse]
  refine ⟨⟨s.takeWhile isBlank, (r.reverse.takeWhile isBlank).reverse, ?_, ?_, ?_⟩, ?_, ?_⟩
  · rw [List.append_assoc, ← hcore]
    exact hs
  · intro c hc
    exact List.mem_takeWhile_imp hc
  · intro c hc
    exact List.mem_takeWhile_imp (List.mem_reverse.1 hc)
  · intro c hc
    have hhead : r.head? = some c := by
      rw [hcore, List.head?_append, hc]
      rfl
    exact head_dropWhile (hr ▸ hhead)
  · intro c hc
    rw [trim, List.getLast?_reverse] at hc
    exact head_dropWhile hc

theorem trim_eq_iff : trim s = core ↔ IsTrimmed s core := by
  constructor
  · rintro rfl
    exact isTrimmed_trim s
  · rintro ⟨⟨front, back, rfl, hfront, hback⟩, hfirst, hlast⟩
    cases core with
    | nil =>
      have hall : ∀ c ∈ front ++ back, isBlank c = true := by
        intro c hc
        obtain h | h := List.mem_append.1 hc
        · exact hfront c h
        · exact hback c h
      have hnil : (front ++ back).dropWhile isBlank = [] := List.dropWhile_eq_nil_iff.2 hall
      rw [trim, List.append_nil, hnil]
      rfl
    | cons d ds =>
      have hdrop : (front ++ (d :: ds) ++ back).dropWhile isBlank = d :: ds ++ back := by
        rw [List.append_assoc]
        exact Stops.dropWhile_append hfirst hfront
      have hlast' : Stops isBlank (d :: ds).reverse := by
        intro c hc
        rw [List.head?_reverse] at hc
        exact hlast c hc
      have hback' : ∀ c ∈ back.reverse, isBlank c = true := by
        intro c hc
        exact hback c (List.mem_reverse.1 hc)
      rw [trim, hdrop, List.reverse_append, hlast'.dropWhile_append hback', List.reverse_reverse]

theorem trim_eq_self (h : ∀ c ∈ s, isBlank c = false) : trim s = s := by
  rw [trim_eq_iff]
  refine ⟨⟨[], [], by simp, nofun, nofun⟩, ?_, ?_⟩
  · intro c hc
    exact h c (List.mem_of_head? hc)
  · intro c hc
    exact h c (List.mem_of_getLast? hc)

end Trim

end Text

namespace Hex

/-- A text without the marks in front. -/
structure IsUnmarked (s rest : List Char) : Prop where
  split : ∃ n, s = (List.replicate n ['0', 'x']).flatten ++ rest
  first : ¬['0', 'x'] <+: rest

theorem isUnmarked_dropMarks (s : List Char) : IsUnmarked s (dropMarks s) := by
  fun_induction dropMarks s with
  | case1 rest ih =>
    obtain ⟨⟨n, hn⟩, hfirst⟩ := ih
    refine ⟨⟨n + 1, ?_⟩, hfirst⟩
    rw [List.replicate_succ, List.flatten_cons, List.append_assoc, ← hn]
    rfl
  | case2 s hs =>
    refine ⟨⟨0, rfl⟩, ?_⟩
    rintro ⟨rest, rfl⟩
    exact hs rest rfl

theorem dropMarks_eq_iff {s rest : List Char} : dropMarks s = rest ↔ IsUnmarked s rest := by
  constructor
  · rintro rfl
    exact isUnmarked_dropMarks s
  · rintro ⟨⟨n, rfl⟩, hfirst⟩
    induction n with
    | zero =>
      unfold dropMarks
      split
      · next r hr =>
        exact absurd ⟨r, hr.symm⟩ hfirst
      · rfl
    | succ n ih => exact ih

end Hex

namespace Numeral

section Hexadecimal

variable {b : UInt8} {bytes : Bytes} {place value n : Nat} {w : Word}

theorem value?_underscore : Hex.value? underscore = none := by decide

theorem value?_cases {d : Nat} (h : Hex.value? b = some d) :
    48 ≤ b.toNat ∧ b.toNat ≤ 57 ∧ d = b.toNat - 48 ∨
      97 ≤ b.toNat ∧ b.toNat ≤ 102 ∧ d = b.toNat - 87 ∨
      65 ≤ b.toNat ∧ b.toNat ≤ 70 ∧ d = b.toNat - 55 := by
  simp only [Hex.value?, Bool.and_eq_true, decide_eq_true_eq, UInt8.le_iff_toNat_le,
    UInt8.reduceToNat] at h
  split at h
  · next hb => exact .inl ⟨hb.1, hb.2, (Option.some.inj h).symm⟩
  split at h
  · next hb => exact .inr (.inl ⟨hb.1, hb.2, (Option.some.inj h).symm⟩)
  split at h
  · next hb => exact .inr (.inr ⟨hb.1, hb.2, (Option.some.inj h).symm⟩)
  · cases h

theorem value?_lt {d : Nat} (h : Hex.value? b = some d) : d < 16 := by
  have := value?_cases h
  omega

theorem plain_of_value? (h : b = underscore ∨ (Hex.value? b).isSome) : b < 0x80 := by
  obtain rfl | h := h
  · decide
  · obtain ⟨d, hd⟩ := Option.isSome_iff_exists.1 h
    have := value?_cases hd
    rw [UInt8.lt_iff_toNat_lt]
    show b.toNat < 128
    omega

/-- Digits are read as the number of which they are the digits, lowest first. -/
theorem readHexUp_eq_ok_iff : readHexUp place value bytes = .ok n ↔
    (∀ b ∈ bytes, b = underscore ∨ (Hex.value? b).isSome) ∧
      (∀ d ∈ (bytes.filterMap Hex.value?).drop (64 - place), d = 0) ∧
      n = value + 16 ^ place * Nat.ofDigits 16 (bytes.filterMap Hex.value?) := by
  induction bytes generalizing place value with
  | nil =>
    rw [readHexUp, Except.ok.injEq, List.filterMap_nil, Nat.ofDigits_nil, mul_zero, add_zero,
      List.drop_nil]
    simp only [List.not_mem_nil, false_implies, implies_true, true_and]
    exact eq_comm
  | cons b rest ih =>
    by_cases hb : b = underscore
    · subst hb
      simp only [readHexUp, if_true, List.forall_mem_cons,
        List.filterMap_cons_none value?_underscore, true_or, true_and, ih]
    cases hd : Hex.value? b with
    | none => simp [readHexUp, hb, hd]
    | some d =>
      have hvalue : value + d * Nat.pow 16 place +
          16 ^ (place + 1) * Nat.ofDigits 16 (rest.filterMap Hex.value?) =
            value + 16 ^ place * Nat.ofDigits 16 (d :: rest.filterMap Hex.value?) := by
        rw [Nat.ofDigits_cons, Nat.pow_eq, pow_succ]
        ring
      rw [List.filterMap_cons_some hd, List.forall_mem_cons, ← hvalue]
      simp only [readHexUp, hb, if_false, hd, Option.isSome_some, or_true, true_and]
      by_cases hlarge : 64 ≤ place ∧ d ≠ 0
      · rw [if_pos hlarge, Nat.sub_eq_zero_of_le hlarge.1, List.drop_zero, List.forall_mem_cons]
        simp [hlarge.2]
      rw [if_neg hlarge, ih]
      -- a digit beyond the last place is a zero here
      have hdrop : (∀ x ∈ (rest.filterMap Hex.value?).drop (64 - (place + 1)), x = 0) ↔
          ∀ x ∈ (d :: rest.filterMap Hex.value?).drop (64 - place), x = 0 := by
        by_cases hplace : 64 ≤ place
        · have hzero : d = 0 := by
            by_contra hd0
            exact hlarge ⟨hplace, hd0⟩
          rw [Nat.sub_eq_zero_of_le hplace, Nat.sub_eq_zero_of_le (by omega), List.drop_zero,
            List.drop_zero, List.forall_mem_cons]
          exact (and_iff_right hzero).symm
        · rw [show 64 - place = 64 - (place + 1) + 1 by omega, List.drop_succ_cons]
      rw [hdrop]

/-- A number whose digits beyond the 64 lowest are zero fits a word. -/
theorem ofDigits_lt {ds : List Nat} (hds : ∀ d ∈ ds, d < 16) (hzero : ∀ d ∈ ds.drop 64, d = 0) :
    Nat.ofDigits 16 ds < 2 ^ 256 := by
  have hhigh : Nat.ofDigits 16 (ds.drop 64) = 0 := by
    rw [List.eq_replicate_of_mem hzero, Nat.ofDigits_replicate_zero]
  have hlow : Nat.ofDigits 16 (ds.take 64) < 16 ^ (ds.take 64).length := by
    refine Nat.ofDigits_lt_base_pow_length (by decide) ?_
    intro d hd
    exact hds d (List.mem_of_mem_take hd)
  have hpow : 16 ^ (ds.take 64).length ≤ 16 ^ 64 :=
    Nat.pow_le_pow_right (by decide) (List.length_take_le 64 ds)
  rw [← List.take_append_drop 64 ds, Nat.ofDigits_append, hhigh, mul_zero, add_zero]
  calc Nat.ofDigits 16 (ds.take 64) < 16 ^ (ds.take 64).length := hlow
    _ ≤ 16 ^ 64 := hpow
    _ = 2 ^ 256 := by norm_num

theorem readHex_eq_ok_iff : readHex bytes = .ok w ↔
    (∀ b ∈ bytes, b = underscore ∨ (Hex.value? b).isSome) ∧
      (∀ d ∈ (bytes.reverse.filterMap Hex.value?).drop 64, d = 0) ∧
      w.toNat = Nat.ofDigits 16 (bytes.reverse.filterMap Hex.value?) := by
  have hiff (n : Nat) : readHexUp 0 0 bytes.reverse = .ok n ↔
      (∀ b ∈ bytes, b = underscore ∨ (Hex.value? b).isSome) ∧
        (∀ d ∈ (bytes.reverse.filterMap Hex.value?).drop 64, d = 0) ∧
        n = Nat.ofDigits 16 (bytes.reverse.filterMap Hex.value?) := by
    rw [readHexUp_eq_ok_iff]
    simp only [List.mem_reverse, Nat.sub_zero, pow_zero, one_mul, Nat.zero_add]
  constructor
  · intro h
    cases hread : readHexUp 0 0 bytes.reverse with
    | error e =>
      rw [readHex, hread] at h
      cases h
    | ok n =>
      obtain ⟨hdigits, hzero, rfl⟩ := (hiff n).1 hread
      rw [readHex, hread] at h
      cases h
      refine ⟨hdigits, hzero, ?_⟩
      rw [BitVec.toNat_ofNat, Nat.mod_eq_of_lt]
      refine ofDigits_lt ?_ hzero
      intro d hd
      obtain ⟨b, -, hb⟩ := List.mem_filterMap.1 hd
      exact value?_lt hb
  · rintro ⟨hdigits, hzero, hvalue⟩
    rw [readHex, (hiff w.toNat).2 ⟨hdigits, hzero, hvalue⟩]
    show Except.ok (BitVec.ofNat 256 w.toNat) = _
    rw [BitVec.ofNat_toNat, BitVec.setWidth_eq]

/-- The value of a character as a hexadecimal digit of either case. -/
def hexDigit? (c : Char) : Option Nat :=
  if '0' ≤ c ∧ c ≤ '9' then some (c.toNat - '0'.toNat)
  else if 'a' ≤ c ∧ c ≤ 'f' then some (c.toNat - 'a'.toNat + 10)
  else if 'A' ≤ c ∧ c ≤ 'F' then some (c.toNat - 'A'.toNat + 10)
  else none

/-- The hexadecimal digits of a text, the lowest first. -/
def hexPlaces (cs : List Char) : List Nat := cs.reverse.filterMap hexDigit?

theorem plain_char {p : Char → Prop} [DecidablePred p] {c : Char} (hc : Utf8.IsPlain c)
    (hall : ∀ n : Fin 128, p (Char.ofNat n)) : p c := by
  have h := hall ⟨c.toNat, hc⟩
  rwa [Char.ofNat_toNat] at h

theorem value?_byte {c : Char} (hc : Utf8.IsPlain c) :
    Hex.value? (UInt8.ofNat c.toNat) = hexDigit? c :=
  plain_char (p := fun c => Hex.value? (UInt8.ofNat c.toNat) = hexDigit? c) hc (by decide)

theorem byte_eq_underscore {c : Char} (hc : Utf8.IsPlain c) :
    UInt8.ofNat c.toNat = underscore ↔ c = '_' :=
  plain_char (p := fun c => UInt8.ofNat c.toNat = underscore ↔ c = '_') hc (by decide)

theorem isPlain_of_hexDigit? {c : Char} (h : c = '_' ∨ (hexDigit? c).isSome) :
    Utf8.IsPlain c := by
  have hle (d : Char) (hd : d.toNat < 0x80) (hcd : c ≤ d) : Utf8.IsPlain c :=
    Nat.lt_of_le_of_lt (Char.le_def.1 hcd) hd
  obtain rfl | h := h
  · decide
  unfold hexDigit? at h
  split at h
  · next hc => exact hle '9' (by decide) hc.2
  split at h
  · next hc => exact hle 'f' (by decide) hc.2
  split at h
  · next hc => exact hle 'F' (by decide) hc.2
  · cases h

theorem readHex_encode_iff {cs : List Char} :
    readHex (Utf8.encode (String.ofList cs)) = .ok w ↔
      (∀ c ∈ cs, c = '_' ∨ (hexDigit? c).isSome) ∧ (∀ d ∈ (hexPlaces cs).drop 64, d = 0) ∧
        w.toNat = Nat.ofDigits 16 (hexPlaces cs) := by
  have hchars : (∀ b ∈ Utf8.encode (String.ofList cs), b = underscore ∨ (Hex.value? b).isSome) ↔
      ∀ c ∈ cs, c = '_' ∨ (hexDigit? c).isSome := by
    rw [Utf8.forall_mem_encode (fun b => plain_of_value?)]
    refine forall₂_congr fun c _ => ⟨?_, fun h => ?_⟩
    · rintro ⟨hplain, h⟩
      rwa [byte_eq_underscore hplain, value?_byte hplain] at h
    · have hplain := isPlain_of_hexDigit? h
      exact ⟨hplain, by rwa [byte_eq_underscore hplain, value?_byte hplain]⟩
  rw [readHex_eq_ok_iff, hchars]
  refine and_congr_right fun hdigits => ?_
  have hplain : ∀ c ∈ cs, Utf8.IsPlain c := fun c hc => isPlain_of_hexDigit? (hdigits c hc)
  have hplaces : (Utf8.encode (String.ofList cs)).reverse.filterMap Hex.value? = hexPlaces cs := by
    rw [Utf8.encode_of_isPlain hplain, ← List.map_reverse, List.filterMap_map, hexPlaces]
    refine List.filterMap_congr fun c hc => ?_
    exact value?_byte (hplain c (List.mem_reverse.1 hc))
  rw [hplaces]

end Hexadecimal

section Decimal

variable {b : UInt8} {bytes : Bytes} {filled value n : Nat} {w : Word}

/-- Read digits onto a number, the highest first. -/
def ontoDigits (value : Nat) (ds : List Nat) : Nat := ds.foldl (fun n d => n * 10 + d) value

theorem le_ontoDigits (value : Nat) (ds : List Nat) : value ≤ ontoDigits value ds := by
  induction ds generalizing value with
  | nil => exact le_rfl
  | cons d ds ih =>
    calc value ≤ value * 10 + d := by omega
      _ ≤ ontoDigits (value * 10 + d) ds := ih _

/-- The number is below the bound in the end just when it is at every look. -/
theorem readDecimalDown_eq_ok_iff : readDecimalDown filled value bytes = .ok n ↔
    (∀ b ∈ bytes, b = underscore ∨ (decimal? b).isSome) ∧
      n = ontoDigits value (bytes.filterMap decimal?) ∧ n < 2 ^ 256 := by
  induction bytes generalizing filled value with
  | nil =>
    simp only [readDecimalDown, List.filterMap_nil, ontoDigits, List.foldl_nil, List.not_mem_nil,
      false_implies, implies_true, true_and, Nat.pow_eq]
    split
    · next h =>
      rw [Except.ok.injEq]
      constructor
      · rintro rfl
        exact ⟨rfl, h⟩
      · rintro ⟨rfl, -⟩
        rfl
    · next h =>
      simp only [reduceCtorEq, false_iff]
      rintro ⟨rfl, hlt⟩
      exact h hlt
  | cons b rest ih =>
    by_cases hb : b = underscore
    · subst hb
      have hnone : decimal? underscore = none := by decide
      simp only [readDecimalDown, if_true, List.forall_mem_cons, List.filterMap_cons_none hnone,
        true_or, true_and, ih]
    cases hd : decimal? b with
    | none => simp [readDecimalDown, hb, hd]
    | some d =>
      rw [List.filterMap_cons_some hd, List.forall_mem_cons]
      simp only [readDecimalDown, hb, if_false, hd, Option.isSome_some, or_true, true_and]
      show _ ↔ _ ∧ n = ontoDigits (value * 10 + d) (rest.filterMap decimal?) ∧ _
      by_cases hfull : filled + 1 = blockSize
      · rw [if_pos hfull]
        by_cases hsmall : value * 10 + d < Nat.pow 2 256
        · rw [if_pos hsmall, ih]
        · rw [if_neg hsmall]
          simp only [reduceCtorEq, false_iff]
          rintro ⟨-, rfl, hlt⟩
          exact hsmall ((le_ontoDigits _ _).trans_lt hlt)
      · rw [if_neg hfull, ih]

theorem readDecimal_eq_ok_iff : readDecimal bytes = .ok w ↔
    (∀ b ∈ bytes, b = underscore ∨ (decimal? b).isSome) ∧
      w.toNat = ontoDigits 0 (bytes.filterMap decimal?) := by
  constructor
  · intro h
    cases hread : readDecimalDown 0 0 bytes with
    | error e =>
      rw [readDecimal, hread] at h
      cases h
    | ok n =>
      obtain ⟨hdigits, hvalue, hlt⟩ := readDecimalDown_eq_ok_iff.1 hread
      rw [readDecimal, hread] at h
      cases h
      refine ⟨hdigits, ?_⟩
      rw [BitVec.toNat_ofNat, Nat.mod_eq_of_lt hlt, hvalue]
  · rintro ⟨hdigits, hvalue⟩
    rw [readDecimal, readDecimalDown_eq_ok_iff.2 ⟨hdigits, hvalue, w.isLt⟩]
    show Except.ok (BitVec.ofNat 256 w.toNat) = _
    rw [BitVec.ofNat_toNat, BitVec.setWidth_eq]

theorem plain_of_decimal? (h : b = underscore ∨ (decimal? b).isSome) : b < 0x80 := by
  obtain rfl | h := h
  · decide
  simp only [decimal?, Bool.and_eq_true, decide_eq_true_eq, UInt8.le_iff_toNat_le,
    UInt8.reduceToNat] at h
  split at h
  · next hb =>
    rw [UInt8.lt_iff_toNat_lt]
    show b.toNat < 128
    omega
  · cases h

theorem decimal?_byte {c : Char} (hc : Utf8.IsPlain c) :
    decimal? (UInt8.ofNat c.toNat) = if c.isDigit then some (c.toNat - 48) else none :=
  plain_char (p := fun c => decimal? (UInt8.ofNat c.toNat) =
    if c.isDigit then some (c.toNat - 48) else none) hc (by decide)

theorem isPlain_of_isDigit {c : Char} (h : c = '_' ∨ c.isDigit = true) : Utf8.IsPlain c := by
  obtain rfl | h := h
  · decide
  · exact Nat.lt_of_le_of_lt (Decimal.digit_bounds h).2 (by decide)

/-- The bytes that are read as decimal digits are those of digits, but for the separators. -/
theorem decimal_byte_iff {c : Char} : (Utf8.IsPlain c ∧ (UInt8.ofNat c.toNat = underscore ∨
    (decimal? (UInt8.ofNat c.toNat)).isSome)) ↔ c = '_' ∨ c.isDigit = true := by
  have hbyte (hc : Utf8.IsPlain c) : (UInt8.ofNat c.toNat = underscore ∨
      (decimal? (UInt8.ofNat c.toNat)).isSome) ↔ c = '_' ∨ c.isDigit = true := by
    rw [byte_eq_underscore hc, decimal?_byte hc]
    cases c.isDigit <;> simp
  constructor
  · rintro ⟨hc, h⟩
    exact (hbyte hc).1 h
  · intro h
    have hc := isPlain_of_isDigit h
    exact ⟨hc, (hbyte hc).2 h⟩

theorem ontoDigits_map (cs : List Char) :
    ontoDigits 0 (cs.map fun c => c.toNat - 48) = Decimal.natOfDigits cs := by
  rw [ontoDigits, List.foldl_map]
  rfl

/-- Plain characters are read as the number of the digits among them. -/
theorem readDecimal_map_iff {cs : List Char} (hplain : ∀ c ∈ cs, Utf8.IsPlain c) :
    readDecimal (cs.map fun c => UInt8.ofNat c.toNat) = .ok w ↔
      (∀ c ∈ cs, c = '_' ∨ c.isDigit = true) ∧
        w.toNat = Decimal.natOfDigits (cs.filter Char.isDigit) := by
  have hdigits : (∀ b ∈ cs.map (fun c => UInt8.ofNat c.toNat),
      b = underscore ∨ (decimal? b).isSome) ↔ ∀ c ∈ cs, c = '_' ∨ c.isDigit = true := by
    rw [List.forall_mem_map]
    refine forall₂_congr fun c hc => ?_
    rw [← decimal_byte_iff]
    exact (and_iff_right (hplain c hc)).symm
  have hvalues : (cs.map fun c => UInt8.ofNat c.toNat).filterMap decimal? =
      (cs.filter Char.isDigit).map fun c => c.toNat - 48 := by
    rw [List.filterMap_map, ← List.filterMap_eq_map, ← List.filterMap_eq_filter,
      List.filterMap_filterMap]
    refine List.filterMap_congr fun c hc => ?_
    rw [Function.comp_apply, decimal?_byte (hplain c hc)]
    cases hd : c.isDigit <;> simp [Option.guard, hd]
  rw [readDecimal_eq_ok_iff, hdigits, hvalues, ontoDigits_map]

end Decimal

end Numeral

end PriceOracle
