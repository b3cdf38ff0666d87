import PriceOracle.Json.Token

/-!
# PriceOracle.Proofs.Json.Numeral

Numerals of JSON text. A numeral has a sign, digits before and after the point, and an exponent; the
reader finds these parts again (`number?_whole`, `number?_pointed`, `number?_scientific`), and the
decimal digits of a number are read as the number.
-/

namespace PriceOracle

/-- A text in front of which a run of characters of a kind ends. -/
def Stops (p : Char → Bool) (tail : List Char) : Prop := ∀ c, tail.head? = some c → p c = false

section Stops

variable {p : Char → Bool} {cs tail : List Char}

theorem stops_nil : Stops p [] := nofun

theorem stops_cons {c : Char} (h : p c = false) : Stops p (c :: tail) := by
  intro d hd
  cases hd
  exact h

theorem Stops.takeWhile (h : Stops p tail) : tail.takeWhile p = [] := by
  cases tail with
  | nil => rfl
  | cons c tail => simp [h c rfl]

theorem Stops.dropWhile (h : Stops p tail) : tail.dropWhile p = tail := by
  cases tail with
  | nil => rfl
  | cons c tail => simp [h c rfl]

theorem Stops.takeWhile_append (h : Stops p tail) (hcs : ∀ c ∈ cs, p c = true) :
    (cs ++ tail).takeWhile p = cs := by
  rw [List.takeWhile_append_of_pos hcs, h.takeWhile, List.append_nil]

theorem Stops.dropWhile_append (h : Stops p tail) (hcs : ∀ c ∈ cs, p c = true) :
    (cs ++ tail).dropWhile p = tail := by
  rw [List.dropWhile_append_of_pos hcs, h.dropWhile]

end Stops

namespace Decimal

/-- A text of decimal digits. -/
def Digits (ds : List Char) : Prop := ∀ c ∈ ds, c.isDigit = true

section Digits

variable {ds es : List Char}

theorem Digits.append (hd : Digits ds) (he : Digits es) : Digits (ds ++ es) := by
  intro c hc
  obtain h | h := List.mem_append.1 hc
  · exact hd c h
  · exact he c h

theorem digits_replicate (n : Nat) : Digits (List.replicate n '0') := by
  intro c hc
  rw [(List.mem_replicate.1 hc).2]
  rfl

theorem Digits.of_sublist (hd : Digits ds) (hs : es.Sublist ds) : Digits es :=
  fun c hc => hd c (hs.subset hc)

theorem Digits.all (hd : Digits ds) : ds.all Char.isDigit = true := List.all_eq_true.2 hd

theorem digits_toDigits (n : Nat) : Digits (Nat.toDigits 10 n) :=
  fun _ hc => Nat.isDigit_of_mem_toDigits (by decide) (by decide) hc

theorem natOfDigits_eq (ds : List Char) : natOfDigits ds = Nat.ofDigitChars 10 ds 0 := by
  rw [natOfDigits, Nat.ofDigitChars_eq_foldl]
  congr 1
  funext n c
  rw [Nat.mul_comm]
  rfl

@[simp] theorem natOfDigits_toDigits (n : Nat) : natOfDigits (Nat.toDigits 10 n) = n := by
  rw [natOfDigits_eq, Nat.ofDigitChars_ten_toDigits]

theorem toDigits_inj {m n : Nat} : Nat.toDigits 10 m = Nat.toDigits 10 n ↔ m = n := by
  refine ⟨fun h => ?_, fun h => h ▸ rfl⟩
  rw [← natOfDigits_toDigits m, h, natOfDigits_toDigits]

/-- A number is told from what is written behind it when that begins with no digit. -/
theorem toDigits_append_inj {m n : Nat} {c d : Char} {cs ds : List Char}
    (hc : c.isDigit = false) (hd : d.isDigit = false) :
    Nat.toDigits 10 m ++ c :: cs = Nat.toDigits 10 n ++ d :: ds ↔ m = n ∧ c = d ∧ cs = ds := by
  constructor
  · intro h
    have hdigits := congrArg (List.takeWhile Char.isDigit) h
    rw [(stops_cons hc).takeWhile_append (digits_toDigits m),
      (stops_cons hd).takeWhile_append (digits_toDigits n)] at hdigits
    have hmn := congrArg natOfDigits hdigits
    rw [natOfDigits_toDigits, natOfDigits_toDigits] at hmn
    subst hmn
    exact ⟨rfl, List.cons.inj (List.append_cancel_left h)⟩
  · rintro ⟨rfl, rfl, rfl⟩
    rfl

theorem natOfDigits_append (ds es : List Char) :
    natOfDigits (ds ++ es) = Nat.pow 10 es.length * natOfDigits ds + natOfDigits es := by
  rw [natOfDigits_eq, natOfDigits_eq, natOfDigits_eq, Nat.ofDigitChars_append,
    Nat.ofDigitChars_eq_ofDigitChars_zero, Nat.pow_eq]

theorem natOfDigits_replicate (n : Nat) : natOfDigits (List.replicate n '0') = 0 := by
  rw [natOfDigits_eq, Nat.ofDigitChars_replicate_zero, Nat.mul_zero]

theorem digit_bounds {c : Char} (h : c.isDigit = true) : 48 ≤ c.toNat ∧ c.toNat ≤ 57 := by
  rw [Char.isDigit, Bool.and_eq_true, decide_eq_true_iff, decide_eq_true_iff] at h
  exact ⟨UInt32.le_iff_toNat_le.1 h.1, UInt32.le_iff_toNat_le.1 h.2⟩

theorem natOfDigits_cons (c : Char) (ds : List Char) :
    natOfDigits (c :: ds) = Nat.pow 10 ds.length * (c.toNat - 48) + natOfDigits ds := by
  have h := natOfDigits_append [c] ds
  rwa [List.singleton_append, show natOfDigits [c] = c.toNat - 48 from Nat.zero_add _] at h

theorem natOfDigits_lt (hd : Digits ds) : natOfDigits ds < Nat.pow 10 ds.length := by
  induction ds with
  | nil => decide
  | cons c ds ih =>
    have hc := digit_bounds (hd c List.mem_cons_self)
    have hlt : natOfDigits ds < Nat.pow 10 ds.length := ih fun x hx => hd x (.tail c hx)
    have hmul : Nat.pow 10 ds.length * (c.toNat - 48) ≤ Nat.pow 10 ds.length * 9 :=
      Nat.mul_le_mul_left _ (by omega)
    have hpow : Nat.pow 10 (c :: ds).length = Nat.pow 10 ds.length * 10 := rfl
    rw [natOfDigits_cons]
    omega

/-- Texts of one length that are read as one number are the same. -/
theorem eq_of_natOfDigits (hd : Digits ds) (he : Digits es) (hlen : ds.length = es.length)
    (h : natOfDigits ds = natOfDigits es) : ds = es := by
  induction ds generalizing es with
  | nil => exact (List.length_eq_zero_iff.1 hlen.symm).symm
  | cons c ds ih =>
    cases es with
    | nil => cases hlen
    | cons d es =>
      have hds : Digits ds := fun x hx => hd x (.tail c hx)
      have hes : Digits es := fun x hx => he x (.tail d hx)
      have hlen' : ds.length = es.length := Nat.succ.inj hlen
      have hlt₁ := natOfDigits_lt hds
      have hlt₂ := natOfDigits_lt hes
      rw [natOfDigits_cons, natOfDigits_cons, hlen'] at h
      rw [hlen'] at hlt₁
      have hpos : 0 < Nat.pow 10 es.length := Nat.pow_pos (by decide)
      have hhead : c.toNat - 48 = d.toNat - 48 := by
        have hdiv := congrArg (· / Nat.pow 10 es.length) h
        simp only [Nat.mul_add_div hpos, Nat.div_eq_of_lt hlt₁, Nat.div_eq_of_lt hlt₂] at hdiv
        exact hdiv
      have hc := digit_bounds (hd c List.mem_cons_self)
      have hc' := digit_bounds (he d List.mem_cons_self)
      have hcd : c = d := Char.toNat_inj.1 (by omega)
      rw [hhead] at h
      rw [hcd, ih hds hes hlen' (Nat.add_left_cancel h)]

/-- The digits of a number other than zero do not begin with a zero. -/
theorem head?_toDigits {base n : Nat} (hbase : 1 < base) (hhex : base ≤ 16) (hn : n ≠ 0) :
    (Nat.toDigits base n).head? ≠ some '0' := by
  induction n using Nat.strongRecOn with
  | ind n ih =>
    by_cases hlt : n < base
    · rw [Nat.toDigits_of_lt_base hlt]
      have : ∀ d : Fin 16, d.val ≠ 0 → Nat.digitChar d ≠ '0' := by decide
      exact fun h => this ⟨n, by omega⟩ hn (Option.some.inj h)
    · have hpos : n / base ≠ 0 := Nat.div_ne_zero_iff.2 ⟨by omega, by omega⟩
      rw [Nat.toDigits_of_base_le hbase (by omega), List.head?_append,
        List.head?_eq_some_head Nat.toDigits_ne_nil, Option.some_or,
        ← List.head?_eq_some_head Nat.toDigits_ne_nil]
      exact ih (n / base) (Nat.div_lt_self (by omega) hbase) hpos

theorem toDigits_append_zeros {n : Nat} (hn : n ≠ 0) (k : Nat) :
    Nat.toDigits 10 n ++ List.replicate k '0' = Nat.toDigits 10 (Nat.pow 10 k * n) := by
  induction k with
  | zero => simp
  | succ k ih =>
    have hpos : 0 < Nat.pow 10 k * n :=
      Nat.mul_pos (Nat.pow_pos (by decide)) (Nat.pos_of_ne_zero hn)
    have hpow : Nat.pow 10 (k + 1) * n = 10 * (Nat.pow 10 k * n) + 0 := by
      rw [Nat.pow_eq, Nat.pow_eq, Nat.pow_succ', Nat.mul_assoc, Nat.add_zero]
    rw [List.replicate_succ', ← List.append_assoc, ih, hpow]
    exact Nat.toDigits_append_toDigits (by decide) hpos (show 0 < 10 by decide)

theorem exponent?_of_digits (hd : Digits ds) (hne : ds ≠ []) :
    exponent? ('+' :: ds) = some (natOfDigits ds : Int) ∧
      exponent? ('-' :: ds) = some (-(natOfDigits ds : Int)) := by
  have hempty : ds.isEmpty = false := by rwa [List.isEmpty_eq_false_iff]
  constructor <;> simp [exponent?, hempty, hd.all]

end Digits

end Decimal

namespace Json

open Decimal

/-- A numeral with its sign. -/
def signed (negative : Bool) (s : List Char) : List Char := if negative then '-' :: s else s

/-- Digits in front of the point: at least one, and no needless zero. -/
structure IsWhole (ds : List Char) : Prop where
  digits : Digits ds
  nonempty : ds ≠ []
  shortest : ds.length ≤ 1 ∨ ds.head? ≠ some '0'

theorem isWhole_toDigits (n : Nat) : IsWhole (Nat.toDigits 10 n) where
  digits := digits_toDigits n
  nonempty := Nat.toDigits_ne_nil
  shortest := by
    by_cases hn : n = 0
    · exact .inl (by rw [hn]; decide)
    · exact .inr (head?_toDigits (by decide) (by decide) hn)

/-- The longer one of two texts of one number begins with a zero. -/
theorem IsWhole.length_le {ds es : List Char} (hd : IsWhole ds) (he : IsWhole es)
    (h : natOfDigits ds = natOfDigits es) : ds.length ≤ es.length := by
  apply Decidable.byContradiction
  intro hlen
  have hpos : 0 < es.length := List.length_pos_iff.2 he.nonempty
  have hzeros : ds = List.replicate (ds.length - es.length) '0' ++ es := by
    refine eq_of_natOfDigits hd.digits ((digits_replicate _).append he.digits) ?_ ?_
    · rw [List.length_append, List.length_replicate]
      omega
    · rw [natOfDigits_append, natOfDigits_replicate, Nat.mul_zero, Nat.zero_add, h]
  obtain hone | hfirst := hd.shortest
  · omega
  · apply hfirst
    rw [hzeros, List.head?_append, List.head?_replicate, if_neg (by omega)]
    rfl

theorem IsWhole.eq_of_natOfDigits {ds es : List Char} (hd : IsWhole ds) (he : IsWhole es)
    (h : natOfDigits ds = natOfDigits es) : ds = es :=
  Decimal.eq_of_natOfDigits hd.digits he.digits
    (Nat.le_antisymm (hd.length_le he h) (he.length_le hd h.symm)) h

/-- What comes of a numeral, by what follows its first digits. -/
def afterWhole (negative : Bool) (whole : List Char) : List Char → Option Number
  | [] => some (integerLiteral negative (natOfDigits whole))
  | c :: r =>
    let places := if c = '.' then r.takeWhile Char.isDigit else []
    let tail := if c = '.' then r.dropWhile Char.isDigit else c :: r
    if c = '.' && places.isEmpty then none
    else
      let digits := natOfDigits (whole ++ places)
      match tail with
      | [] => some (.double (nearest negative digits (-(places.length : Int))))
      | e :: r =>
        if e = 'e' ∨ e = 'E' then
          (exponent? r).map fun exp =>
            .double (nearest negative digits (exp - (places.length : Int)))
        else none

section Number

variable (negative : Bool) {whole places tail : List Char}

theorem number?_signed (hw : IsWhole whole) (ht : Stops Char.isDigit tail) :
    number? (signed negative (whole ++ tail)) = afterWhole negative whole tail := by
  obtain ⟨d, ds, rfl⟩ := List.exists_cons_of_ne_nil hw.nonempty
  have hminus : d ≠ '-' := by
    rintro rfl
    exact absurd (hw.digits '-' List.mem_cons_self) (by decide)
  have hlead : ((d :: ds).isEmpty ||
      decide (1 < (d :: ds).length) && decide ((d :: ds).head? = some '0')) = false := by
    obtain h | h := hw.shortest
    · simp only [List.isEmpty_cons, Bool.false_or, Bool.and_eq_false_iff, decide_eq_false_iff_not]
      exact .inl (Nat.not_lt.2 h)
    · simp only [List.isEmpty_cons, Bool.false_or, Bool.and_eq_false_iff, decide_eq_false_iff_not]
      exact .inr h
  cases negative with
  | true =>
    show number? ('-' :: (d :: ds ++ tail)) = _
    rw [number?]
    simp only [ht.takeWhile_append hw.digits, ht.dropWhile_append hw.digits, hlead]
    rfl
  | false =>
    show number? (d :: ds ++ tail) = _
    rw [number?]
    · simp only [ht.takeWhile_append hw.digits, ht.dropWhile_append hw.digits, hlead]
      rfl
    · intro r hr
      exact hminus (List.cons.inj hr).1

theorem number?_whole (hw : IsWhole whole) :
    number? (signed negative whole) = some (integerLiteral negative (natOfDigits whole)) := by
  have h := number?_signed negative hw stops_nil
  rwa [List.append_nil] at h

theorem number?_pointed (hw : IsWhole whole) (hp : Digits places) (hne : places ≠ []) :
    number? (signed negative (whole ++ '.' :: places))
      = some
          (.double (nearest negative (natOfDigits (whole ++ places)) (-(places.length : Int)))) := by
  have hempty : places.isEmpty = false := by rwa [List.isEmpty_eq_false_iff]
  have htake : places.takeWhile Char.isDigit = places := by
    simpa using (stops_nil (p := Char.isDigit)).takeWhile_append hp
  have hdrop : places.dropWhile Char.isDigit = [] := by
    simpa using (stops_nil (p := Char.isDigit)).dropWhile_append hp
  rw [number?_signed negative hw (stops_cons (by decide)), afterWhole]
  simp only [if_true, htake, hdrop, hempty, Bool.and_false, Bool.false_eq_true, if_false]

/-- The digits behind the point with the point, if there are any. -/
def pointed (places : List Char) : List Char := if places.isEmpty then [] else '.' :: places

theorem number?_scientific {exponent : List Char} {exp : Int} (hw : IsWhole whole)
    (hp : Digits places) (he : exponent? exponent = some exp) :
    number? (signed negative (whole ++ pointed places ++ 'e' :: exponent))
      = some (.double (nearest negative (natOfDigits (whole ++ places))
          (exp - (places.length : Int)))) := by
  have hstop : Stops Char.isDigit ('e' :: exponent) := stops_cons (by decide)
  rw [List.append_assoc]
  cases places with
  | nil =>
    rw [pointed, List.isEmpty_nil, if_pos rfl, List.nil_append,
      number?_signed negative hw hstop, afterWhole]
    simp [he]
  | cons d ds =>
    rw [pointed, List.isEmpty_cons, if_neg Bool.false_ne_true,
      List.cons_append, number?_signed negative hw (stops_cons (by decide)), afterWhole]
    simp only [if_true, hstop.takeWhile_append hp, hstop.dropWhile_append hp]
    simp [he]

end Number

end Json
end PriceOracle
