import Mathlib.Algebra.Field.Rat
import Mathlib.Tactic.FieldSimp
import PriceOracle.Command.Run
import PriceOracle.Proofs.Text.Numeral

/-!
# PriceOracle.Proofs.Amount

How amounts are read and written. A text is read as the number of its digits, of which those past
the eighteenth decimal are not looked at (`parse_eq_ok_iff`).

* `parse_account`: a text is read as the amount that it denotes just when it has no separators, at
  most eighteen decimals and a digit.
* `format_account`: what is written is canonical, and is read as the amount.
-/

namespace PriceOracle
namespace Amount

open Decimal

/-! ## Reading -/

/-- The characters in front of the first point. -/
def front (t : List Char) : List Char := t.takeWhile (· ≠ '.')

/-- The characters behind the first point. -/
def behind (t : List Char) : List Char := (t.dropWhile (· ≠ '.')).tail

/-- The characters that are looked at. -/
def seen (t : List Char) : List Char := front t ++ (behind t).take places

/-- A text without white space at its ends that is read as an amount. -/
structure Accepts (t : List Char) (v : Word) : Prop where
  nonempty : t ≠ []
  unsigned : t.head? ≠ some '-'
  digits : ∀ c ∈ seen t, c = '_' ∨ c.isDigit = true
  value : v.toNat = natOfDigits ((seen t).filter Char.isDigit) * 10 ^ (places - (behind t).length)

section Read

variable {t cs ds : List Char} {n : Nat} {v w : Word} {raw : String}

theorem point_ne_of_mem {c : Char} (hc : c ≠ '.') :
    ∀ b ∈ String.utf8EncodeChar c, decide (b ≠ point) = true := by
  intro b hb
  rw [decide_eq_true_iff]
  rintro rfl
  exact hc (Char.toNat_inj.1 ((Utf8.mem_encodeChar_iff (by decide)).1 hb))

theorem takeWhile_encode (t : List Char) :
    (Utf8.encode (String.ofList t)).takeWhile (· ≠ point) =
      Utf8.encode (String.ofList (front t)) := by
  rw [Utf8.encode_ofList, Utf8.encode_ofList, front]
  induction t with
  | nil => rfl
  | cons c cs ih =>
    by_cases hc : c = '.'
    · subst hc
      rfl
    · rw [List.flatMap_cons, List.takeWhile_append_of_pos (point_ne_of_mem hc), ih,
        List.takeWhile_cons_of_pos (by simpa using hc), List.flatMap_cons]

theorem tail_dropWhile_encode (t : List Char) :
    ((Utf8.encode (String.ofList t)).dropWhile (· ≠ point)).tail =
      Utf8.encode (String.ofList (behind t)) := by
  rw [Utf8.encode_ofList, Utf8.encode_ofList, behind]
  induction t with
  | nil => rfl
  | cons c cs ih =>
    by_cases hc : c = '.'
    · subst hc
      rfl
    · rw [List.flatMap_cons, List.dropWhile_append_of_pos (point_ne_of_mem hc), ih,
        List.dropWhile_cons_of_pos (by simpa using hc)]

theorem splitPoint_eq (text : Bytes) :
    splitPoint text = (text.takeWhile (· ≠ point) ++ (text.dropWhile (· ≠ point)).tail,
      ((text.dropWhile (· ≠ point)).tail).length) := by
  rw [splitPoint]
  cases text.dropWhile (· ≠ point) with
  | nil => simp
  | cons b decimals => rfl

theorem take_splitPoint {whole decimals : Bytes} :
    (whole ++ decimals).take ((whole ++ decimals).length - (decimals.length - places)) =
      whole ++ decimals.take places := by
  rw [List.length_append, List.take_append, List.take_of_length_le (by omega)]
  by_cases h : decimals.length ≤ places
  · rw [List.take_of_length_le (by omega), List.take_of_length_le h]
  · rw [show whole.length + decimals.length - (decimals.length - places) - whole.length = places
      by omega]

theorem head_encode : (Utf8.encode (String.ofList t)).head? = some 45 ↔ t.head? = some '-' := by
  rw [Utf8.encode_ofList]
  cases t with
  | nil => simp
  | cons c cs =>
    obtain ⟨b, tail, hbytes, -⟩ := Utf8.next_encodeChar c []
    simp only [List.flatMap_cons, hbytes, List.cons_append, List.head?_cons, Option.some.injEq]
    constructor
    · rintro rfl
      have hmem : 45 ∈ String.utf8EncodeChar c := by simp [hbytes]
      exact Char.toNat_inj.1 ((Utf8.mem_encodeChar_iff (by decide)).1 hmem)
    · rintro rfl
      have hminus : String.utf8EncodeChar '-' = [45] := rfl
      rw [hminus] at hbytes
      exact (List.cons.inj hbytes).1.symm

/-- Bytes that are cut off within a character make the text unreadable, so that the cut may be
counted in characters. -/
theorem readDecimal_encode_iff :
    Numeral.readDecimal (Utf8.encode (String.ofList cs) ++
        (Utf8.encode (String.ofList ds)).take n) = .ok w ↔
      (∀ c ∈ cs ++ ds.take n, c = '_' ∨ c.isDigit = true) ∧
        w.toNat = natOfDigits ((cs ++ ds.take n).filter Char.isDigit) := by
  have hbytes : (∀ b ∈ Utf8.encode (String.ofList cs) ++ (Utf8.encode (String.ofList ds)).take n,
      b = Numeral.underscore ∨ (Numeral.decimal? b).isSome) ↔
        ∀ c ∈ cs ++ ds.take n, c = '_' ∨ c.isDigit = true := by
    rw [List.forall_mem_append, List.forall_mem_append,
      Utf8.forall_mem_encode fun b => Numeral.plain_of_decimal?,
      Utf8.forall_mem_take_encode fun b => Numeral.plain_of_decimal?]
    simp only [Numeral.decimal_byte_iff]
  by_cases hall : ∀ c ∈ cs ++ ds.take n, c = '_' ∨ c.isDigit = true
  · have hplain : ∀ c ∈ cs ++ ds.take n, Utf8.IsPlain c :=
      fun c hc => Numeral.isPlain_of_isDigit (hall c hc)
    obtain ⟨hcs, hds⟩ := List.forall_mem_append.1 hplain
    rw [Utf8.encode_of_isPlain hcs, Utf8.take_encode_of_isPlain hds, ← List.map_append,
      Numeral.readDecimal_map_iff hplain]
  · rw [Numeral.readDecimal_eq_ok_iff, hbytes]
    simp only [hall, false_and]

/-- The places that are missing, whether bytes or characters are counted. -/
theorem missing_encode (h : ∀ c ∈ ds.take places, c = '_' ∨ c.isDigit = true) :
    places - (Utf8.encode (String.ofList ds)).length = places - ds.length := by
  have hplain : ∀ c ∈ ds.take places, Utf8.IsPlain c :=
    fun c hc => Numeral.isPlain_of_isDigit (h c hc)
  have hlength := congrArg List.length (Utf8.take_encode_of_isPlain hplain)
  rw [List.length_map, List.length_take, List.length_take] at hlength
  omega

theorem ofNat?_eq_some_iff : Word.ofNat? n = some v ↔ v.toNat = n := by
  rw [Word.ofNat?, Nat.pow_eq]
  split
  · next hn =>
    rw [Option.some.injEq, ← BitVec.toNat_inj, BitVec.toNat_ofNat, Nat.mod_eq_of_lt hn]
    exact eq_comm
  · next hn =>
    simp only [reduceCtorEq, false_iff]
    have := v.isLt
    omega

theorem guard_iff : ((Utf8.encode (String.ofList t)).isEmpty ||
    (Utf8.encode (String.ofList t)).head? = some 45) = true ↔ t = [] ∨ t.head? = some '-' := by
  rw [Bool.or_eq_true, List.isEmpty_iff, Utf8.encode_eq_nil, decide_eq_true_iff, head_encode]

theorem readTrimmed_eq_ok_iff : readTrimmed (Utf8.encode (String.ofList t)) = .ok v ↔
    Accepts t v := by
  by_cases hguard : t = [] ∨ t.head? = some '-'
  · rw [readTrimmed, if_pos (guard_iff.2 hguard)]
    simp only [reduceCtorEq, false_iff]
    intro h
    exact hguard.elim h.nonempty h.unsigned
  rw [readTrimmed, if_neg (guard_iff.not.2 hguard), splitPoint_eq, takeWhile_encode,
    tail_dropWhile_encode]
  simp only [take_splitPoint]
  obtain ⟨hne, hhead⟩ := not_or.1 hguard
  have hmissing (h : ∀ c ∈ seen t, c = '_' ∨ c.isDigit = true) :=
    missing_encode fun c hc => h c (List.mem_append_right _ hc)
  constructor
  · intro h
    split at h
    · cases h
    · next units hunits =>
      obtain ⟨hdigits, hvalue⟩ := readDecimal_encode_iff.1 hunits
      split at h
      · next amount hamount =>
        cases h
        rw [ofNat?_eq_some_iff, hvalue, Nat.pow_eq, hmissing hdigits] at hamount
        exact ⟨hne, hhead, hdigits, hamount⟩
      · cases h
  · rintro ⟨-, -, hdigits, hvalue⟩
    -- the digits alone fit a word, too
    obtain ⟨units, hunits⟩ : ∃ units : Word,
        units.toNat = natOfDigits ((seen t).filter Char.isDigit) := by
      refine ⟨BitVec.ofNat 256 _, (BitVec.toNat_ofNat _ _).trans (Nat.mod_eq_of_lt ?_)⟩
      calc natOfDigits ((seen t).filter Char.isDigit) ≤ v.toNat := by
            rw [hvalue]
            exact Nat.le_mul_of_pos_right _ (Nat.pow_pos (by decide))
        _ < 2 ^ 256 := v.isLt
    rw [readDecimal_encode_iff.2 ⟨hdigits, hunits⟩]
    simp only
    rw [hmissing hdigits, Nat.pow_eq, hunits, ofNat?_eq_some_iff.2 hvalue]

theorem parse_eq_ok_iff : parse raw = .ok v ↔ Accepts (Text.trim raw.toList) v :=
  readTrimmed_eq_ok_iff

end Read

/-! ## Numerals -/

/-- A decimal numeral, and the number that it denotes. -/
inductive Denotes : List Char → ℚ → Prop
  | whole {ds : List Char} : Digits ds → ds ≠ [] → Denotes ds (natOfDigits ds)
  | pointed {ds es : List Char} : Digits ds → Digits es → ds ++ es ≠ [] → es.length ≤ places →
      Denotes (ds ++ '.' :: es) (natOfDigits ds + natOfDigits es / 10 ^ es.length)

/-- The text denotes an amount, in tokens. -/
def IsWorth (t : List Char) (v : Word) : Prop := ∃ x, Denotes t x ∧ x * 10 ^ places = v.toNat

/-- No separators, no decimals that are not looked at, and not the point alone. -/
structure IsStrict (t : List Char) : Prop where
  joined : '_' ∉ t
  short : (behind t).length ≤ places
  digit : t ≠ ['.']

/-- The text is read as the amount that it denotes, or refused if it denotes none. -/
structure Faithful (raw : String) : Prop where
  read : ∀ v, parse raw = .ok v ↔ IsWorth (Text.trim raw.toList) v
  refused : (∀ v, ¬IsWorth (Text.trim raw.toList) v) →
    ∃ fault, Command.amount raw = throw (.refused (.amount raw fault))

section Numerals

variable {t ds es : List Char} {v : Word} {raw : String}

theorem ne_point_of_digits (h : Digits ds) : ∀ c ∈ ds, decide (c ≠ '.') = true := by
  intro c hc
  rw [decide_eq_true_iff]
  rintro rfl
  exact absurd (h '.' hc) (by decide)

theorem front_whole (h : Digits ds) : front ds = ds := by
  have hfront := stops_nil.takeWhile_append (ne_point_of_digits h)
  rwa [List.append_nil] at hfront

theorem behind_whole (h : Digits ds) : behind ds = [] := by
  have hbehind := stops_nil.dropWhile_append (ne_point_of_digits h)
  rw [List.append_nil] at hbehind
  rw [behind, hbehind]
  rfl

theorem front_pointed (h : Digits ds) : front (ds ++ '.' :: es) = ds :=
  (stops_cons (by decide)).takeWhile_append (ne_point_of_digits h)

theorem behind_pointed (h : Digits ds) : behind (ds ++ '.' :: es) = es := by
  rw [behind, (stops_cons (by decide)).dropWhile_append (ne_point_of_digits h)]
  rfl

theorem filter_digits (h : Digits ds) : ds.filter Char.isDigit = ds := List.filter_eq_self.2 h

theorem unsigned_of_digits (h : Digits ds) : ds.head? ≠ some '-' := by
  intro hd
  exact absurd (h '-' (List.mem_of_head? hd)) (by decide)

theorem accepts_whole (hd : Digits ds) (hne : ds ≠ []) :
    Accepts ds v ↔ v.toNat = natOfDigits ds * 10 ^ places := by
  have hseen : seen ds = ds := by
    rw [seen, front_whole hd, behind_whole hd, List.take_nil, List.append_nil]
  constructor
  · intro h
    have hvalue := h.value
    rwa [hseen, filter_digits hd, behind_whole hd] at hvalue
  · intro hvalue
    refine ⟨hne, unsigned_of_digits hd, ?_, ?_⟩
    · intro c hc
      exact .inr (hd c (hseen ▸ hc))
    · rwa [hseen, filter_digits hd, behind_whole hd]

theorem accepts_pointed (hd : Digits ds) (he : Digits es) (hlen : es.length ≤ places) :
    Accepts (ds ++ '.' :: es) v ↔
      v.toNat = natOfDigits (ds ++ es) * 10 ^ (places - es.length) := by
  have hseen : seen (ds ++ '.' :: es) = ds ++ es := by
    rw [seen, front_pointed hd, behind_pointed hd, List.take_of_length_le hlen]
  constructor
  · intro h
    have hvalue := h.value
    rwa [hseen, filter_digits (hd.append he), behind_pointed hd] at hvalue
  · intro hvalue
    refine ⟨by simp, ?_, ?_, ?_⟩
    · rw [List.head?_append]
      cases hhead : ds.head? with
      | none => simp
      | some c =>
        rw [Option.some_or, ← hhead]
        exact unsigned_of_digits hd
    · intro c hc
      exact .inr (hd.append he c (hseen ▸ hc))
    · rwa [hseen, filter_digits (hd.append he), behind_pointed hd]

/-- Decimals count in units once they are filled up with zeros. -/
theorem units_eq (hlen : es.length ≤ places) :
    ((natOfDigits ds : ℚ) + natOfDigits es / 10 ^ es.length) * 10 ^ places =
      (natOfDigits (ds ++ es) * 10 ^ (places - es.length) : ℕ) := by
  have hpow : (10 : ℚ) ^ places = 10 ^ es.length * 10 ^ (places - es.length) := by
    rw [← pow_add, Nat.add_sub_of_le hlen]
  rw [natOfDigits_append, Nat.pow_eq, hpow]
  push_cast
  field_simp

theorem accepts_of_isWorth (h : IsWorth t v) : Accepts t v := by
  obtain ⟨x, hx, hv⟩ := h
  cases hx with
  | whole hd hne =>
    rw [accepts_whole hd hne]
    exact_mod_cast hv.symm
  | pointed hd he hne hlen =>
    rw [accepts_pointed hd he hlen]
    rw [units_eq hlen] at hv
    exact_mod_cast hv.symm

theorem isStrict_of_denotes {x : ℚ} (h : Denotes t x) : IsStrict t := by
  have hjoined {ds : List Char} (hd : Digits ds) : '_' ∉ ds := by
    intro hmem
    exact absurd (hd '_' hmem) (by decide)
  cases h with
  | whole hd hne =>
    refine ⟨hjoined hd, ?_, ?_⟩
    · rw [behind_whole hd]
      exact Nat.zero_le _
    · rintro rfl
      exact absurd (hd '.' List.mem_cons_self) (by decide)
  | @pointed ds es hd he hne hlen =>
    refine ⟨?_, ?_, ?_⟩
    · simp [hjoined hd, hjoined he]
    · rwa [behind_pointed hd]
    · intro hpoint
      have hlength := congrArg List.length hpoint
      rw [List.length_append, List.length_cons, List.length_singleton] at hlength
      apply hne
      rw [← List.length_eq_zero_iff, List.length_append]
      omega

theorem split_point (t : List Char) :
    front t = t ∧ behind t = [] ∨ t = front t ++ '.' :: behind t := by
  have happend : t = front t ++ t.dropWhile (· ≠ '.') := List.takeWhile_append_dropWhile.symm
  cases hrest : t.dropWhile (· ≠ '.') with
  | nil =>
    rw [hrest, List.append_nil] at happend
    exact .inl ⟨happend.symm, by rw [behind, hrest]; rfl⟩
  | cons c rest =>
    have hpoint := List.head?_dropWhile_not (· ≠ '.') t
    rw [hrest] at hpoint
    have hc : c = '.' := by simpa using hpoint
    rw [hrest, hc] at happend
    exact .inr (by rw [behind, hrest]; exact happend)

theorem isWorth_of_accepts (h : Accepts t v) (hp : IsStrict t) : IsWorth t v := by
  have hseen : seen t = front t ++ behind t := by rw [seen, List.take_of_length_le hp.short]
  obtain ⟨hwhole, hnil⟩ | hsplit := split_point t
  · have hd : Digits t := by
      intro c hc
      have hmem : c ∈ seen t := by rwa [hseen, hwhole, hnil, List.append_nil]
      refine (h.digits c hmem).resolve_left ?_
      rintro rfl
      exact hp.joined hc
    refine ⟨_, .whole hd h.nonempty, ?_⟩
    rw [(accepts_whole hd h.nonempty).1 h]
    push_cast
    rfl
  · have hd : Digits (front t ++ behind t) := by
      intro c hc
      refine (h.digits c (hseen ▸ hc)).resolve_left ?_
      rintro rfl
      apply hp.joined
      rw [hsplit, List.mem_append, List.mem_cons]
      exact (List.mem_append.1 hc).imp_right .inr
    have hfront := hd.of_sublist (List.sublist_append_left ..)
    have hbehind := hd.of_sublist (List.sublist_append_right ..)
    have hne : front t ++ behind t ≠ [] := by
      intro hnil
      rw [List.append_eq_nil_iff] at hnil
      apply hp.digit
      rw [hsplit, hnil.1, hnil.2]
      rfl
    rw [hsplit] at h ⊢
    refine ⟨_, .pointed hfront hbehind hne hp.short, ?_⟩
    rw [units_eq hp.short, (accepts_pointed hfront hbehind hp.short).1 h]

theorem exists_fault (h : ∀ v, parse raw ≠ .ok v) :
    ∃ fault, Command.amount raw = throw (.refused (.amount raw fault)) := by
  cases hparse : parse raw with
  | error fault => exact ⟨fault, by rw [Command.amount, hparse]⟩
  | ok v => exact absurd hparse (h v)

theorem faithful_iff :
    Faithful raw ↔ (∀ v, parse raw ≠ .ok v) ∨ IsStrict (Text.trim raw.toList) := by
  constructor
  · intro h
    by_cases hread : ∃ v, parse raw = .ok v
    · obtain ⟨v, hv⟩ := hread
      obtain ⟨x, hx, -⟩ := (h.read v).1 hv
      exact .inr (isStrict_of_denotes hx)
    · exact .inl (not_exists.1 hread)
  · intro h
    have hread (v : Word) : parse raw = .ok v ↔ IsWorth (Text.trim raw.toList) v := by
      constructor
      · intro hv
        have hstrict := h.resolve_left fun hnone => hnone v hv
        exact isWorth_of_accepts (parse_eq_ok_iff.1 hv) hstrict
      · intro hv
        exact parse_eq_ok_iff.2 (accepts_of_isWorth hv)
    refine ⟨hread, ?_⟩
    intro hnone
    exact exists_fault fun v hv => hnone v ((hread v).1 hv)

/-- A text is read by the digits that are looked at, and all other texts are refused. What is read
is the amount that the text denotes when there are no separators in it, no decimals too many, and
a digit. -/
theorem parse_account (raw : String) :
    (∀ v, parse raw = .ok v ↔ Accepts (Text.trim raw.toList) v) ∧
      ((∀ v, parse raw ≠ .ok v) →
        ∃ fault, Command.amount raw = throw (.refused (.amount raw fault))) ∧
      (Faithful raw ↔ (∀ v, parse raw ≠ .ok v) ∨ IsStrict (Text.trim raw.toList)) :=
  ⟨fun _ => parse_eq_ok_iff, exists_fault, faithful_iff⟩

/-- A separator that takes the place of a decimal, and a decimal that is not looked at. -/
theorem misread :
    parse "1.5_0" = .ok 150000000000000000 ∧ (∀ v, ¬IsWorth (Text.trim "1.5_0".toList) v) ∧
      parse "1.0000000000000000019" = .ok 1000000000000000001 ∧
      ∀ v, ¬IsWorth (Text.trim "1.0000000000000000019".toList) v := by
  refine ⟨rfl, ?_, rfl, ?_⟩
  · rintro v ⟨x, hx, -⟩
    exact (isStrict_of_denotes hx).joined (by decide)
  · rintro v ⟨x, hx, -⟩
    exact absurd (isStrict_of_denotes hx).short (by decide)

end Numerals

/-! ## Writing -/

/-- A text in the form of what is written: whole tokens without needless zeros in front, and if
there are decimals, the point and these, the last of them no zero. -/
structure IsCanonical (t ds es : List Char) : Prop where
  text : t = ds ++ Json.pointed es
  whole : Json.IsWhole ds
  decimals : Digits es
  short : es.length ≤ places
  last : es.getLast? ≠ some '0'

/-- A text without the zeros at its end. -/
def stripped (ds : List Char) : List Char := (ds.reverse.dropWhile (· = '0')).reverse

section Strip

variable {ds : List Char}

theorem exists_stripped (ds : List Char) : ∃ n, ds = stripped ds ++ List.replicate n '0' := by
  have hzeros : ∀ c ∈ ds.reverse.takeWhile (· = '0'), c = '0' := by
    intro c hc
    simpa using List.mem_takeWhile_imp hc
  refine ⟨(ds.reverse.takeWhile (· = '0')).length, ?_⟩
  rw [← List.reverse_inj, List.reverse_append, List.reverse_replicate, stripped,
    List.reverse_reverse, ← List.eq_replicate_of_mem hzeros, List.takeWhile_append_dropWhile]

theorem getLast?_stripped (ds : List Char) : (stripped ds).getLast? ≠ some '0' := by
  rw [stripped, List.getLast?_reverse]
  intro hzero
  have hnot := List.head?_dropWhile_not (· = '0') ds.reverse
  rw [hzero] at hnot
  exact absurd hnot (by decide)

theorem stripped_append (h : ds.getLast? ≠ some '0') (n : Nat) :
    stripped (ds ++ List.replicate n '0') = ds := by
  have hstops : Stops (fun c => decide (c = '0')) ds.reverse := by
    intro c hc
    rw [decide_eq_false_iff_not]
    rintro rfl
    rw [List.head?_reverse] at hc
    exact h hc
  rw [stripped, List.reverse_append, List.reverse_replicate, hstops.dropWhile_append,
    List.reverse_reverse]
  intro c hc
  rw [decide_eq_true_iff]
  exact (List.mem_replicate.1 hc).2

end Strip

section Write

variable {t t' ds ds' es es' : List Char} {v w : Word}

/-- The eighteen decimals of an amount. -/
def decimals (v : Word) : List Char :=
  let ds := Nat.toDigits 10 (v.toNat % Nat.pow 10 places)
  List.replicate (places - ds.length) '0' ++ ds

theorem digits_decimals (v : Word) : Digits (decimals v) :=
  (digits_replicate _).append (digits_toDigits _)

theorem length_decimals (v : Word) : (decimals v).length = places := by
  have hlt : v.toNat % Nat.pow 10 places < 10 ^ places := Nat.mod_lt _ (by decide)
  have hle := (Nat.length_toDigits_le_iff (by decide) (by decide)).2 hlt
  rw [decimals, List.length_append, List.length_replicate]
  omega

theorem natOfDigits_decimals (v : Word) : natOfDigits (decimals v) = v.toNat % 10 ^ places := by
  rw [decimals, natOfDigits_append, natOfDigits_replicate, natOfDigits_toDigits, mul_zero, zero_add,
    Nat.pow_eq]

theorem format_eq (v : Word) : format v =
    if (stripped (decimals v)).isEmpty then toString (v.toNat / Nat.pow 10 places)
    else toString (v.toNat / Nat.pow 10 places) ++ "." ++ String.ofList (stripped (decimals v)) :=
  rfl

theorem toList_format (v : Word) : (format v).toList =
    Nat.toDigits 10 (v.toNat / 10 ^ places) ++ Json.pointed (stripped (decimals v)) := by
  rw [format_eq, Json.pointed]
  split
  · rw [List.append_nil, Nat.toString_eq_repr, Nat.toList_repr, Nat.pow_eq]
  · have hpoint : ".".toList = ['.'] := rfl
    rw [String.toList_append, String.toList_append, Nat.toString_eq_repr, Nat.toList_repr, hpoint,
      String.toList_ofList, Nat.pow_eq, List.append_assoc, List.singleton_append]

theorem isCanonical_format (v : Word) : IsCanonical (format v).toList
    (Nat.toDigits 10 (v.toNat / 10 ^ places)) (stripped (decimals v)) := by
  obtain ⟨n, hn⟩ := exists_stripped (decimals v)
  have hprefix : stripped (decimals v) <+: decimals v := ⟨_, hn.symm⟩
  refine ⟨toList_format v, Json.isWhole_toDigits _, ?_, ?_, getLast?_stripped _⟩
  · exact (digits_decimals v).of_sublist hprefix.sublist
  · exact length_decimals v ▸ hprefix.length_le

/-- Decimals with the zeros that are not written. -/
def filled (es : List Char) : List Char := es ++ List.replicate (places - es.length) '0'

theorem filled_stripped (v : Word) : filled (stripped (decimals v)) = decimals v := by
  obtain ⟨n, hn⟩ := exists_stripped (decimals v)
  have hlength := congrArg List.length hn
  rw [length_decimals, List.length_append, List.length_replicate] at hlength
  have hmissing : places - (stripped (decimals v)).length = n := by omega
  rw [filled, hmissing, ← hn]

theorem natOfDigits_filled (es : List Char) :
    natOfDigits (filled es) = natOfDigits es * 10 ^ (places - es.length) := by
  rw [filled, natOfDigits_append, natOfDigits_replicate, List.length_replicate, add_zero,
    Nat.pow_eq, mul_comm]

theorem digits_filled (h : Digits es) : Digits (filled es) := h.append (digits_replicate _)

theorem length_filled (h : es.length ≤ places) : (filled es).length = places := by
  rw [filled, List.length_append, List.length_replicate, Nat.add_sub_of_le h]

namespace IsCanonical

theorem accepts_iff (h : IsCanonical t ds es) : Accepts t v ↔
    v.toNat = natOfDigits ds * 10 ^ places + natOfDigits (filled es) := by
  obtain ⟨rfl, hwhole, hdecimals, hshort, -⟩ := h
  rw [natOfDigits_filled, Json.pointed]
  cases es with
  | nil =>
    rw [List.isEmpty_nil, if_pos rfl, List.append_nil,
      accepts_whole hwhole.digits hwhole.nonempty]
    simp [natOfDigits]
  | cons c es =>
    have hpow : 10 ^ places = 10 ^ (c :: es).length * 10 ^ (places - (c :: es).length) := by
      rw [← pow_add, Nat.add_sub_of_le hshort]
    rw [List.isEmpty_cons, if_neg Bool.false_ne_true,
      accepts_pointed hwhole.digits hdecimals hshort, natOfDigits_append, Nat.pow_eq, hpow, add_mul,
      mul_left_comm, mul_assoc]

theorem trim (h : IsCanonical t ds es) : Text.trim t = t := by
  have hblank {c : Char} (hc : c.isDigit = true) : Text.isBlank c = false := by
    refine Numeral.plain_char (p := fun c => c.isDigit = true → Text.isBlank c = false)
      (Numeral.isPlain_of_isDigit (.inr hc)) ?_ hc
    decide
  apply Text.trim_eq_self
  intro c hc
  rw [h.text, List.mem_append, Json.pointed] at hc
  obtain hc | hc := hc
  · exact hblank (h.whole.digits c hc)
  split at hc
  · exact absurd hc List.not_mem_nil
  · obtain rfl | hc := List.mem_cons.1 hc
    · decide
    · exact hblank (h.decimals c hc)

theorem value (h : IsCanonical t ds es) (ht : Accepts t v) :
    natOfDigits ds = v.toNat / 10 ^ places ∧ natOfDigits (filled es) = v.toNat % 10 ^ places := by
  have hlt : natOfDigits (filled es) < 10 ^ places := by
    have hlt := natOfDigits_lt (digits_filled h.decimals)
    rwa [length_filled h.short] at hlt
  rw [h.accepts_iff.1 ht]
  constructor
  · have hpos : 0 < 10 ^ places := Nat.pow_pos (by decide)
    rw [mul_comm, Nat.mul_add_div hpos, Nat.div_eq_of_lt hlt, add_zero]
  · rw [Nat.mul_add_mod', Nat.mod_eq_of_lt hlt]

/-- An amount has one canonical text. -/
theorem unique (h : IsCanonical t ds es) (h' : IsCanonical t' ds' es') (ht : Accepts t v)
    (ht' : Accepts t' v) : t = t' := by
  obtain ⟨hwhole, hdecimals⟩ := h.value ht
  obtain ⟨hwhole', hdecimals'⟩ := h'.value ht'
  have hds : ds = ds' := h.whole.eq_of_natOfDigits h'.whole (hwhole.trans hwhole'.symm)
  have hfilled : filled es = filled es' := by
    refine eq_of_natOfDigits (digits_filled h.decimals) (digits_filled h'.decimals) ?_ ?_
    · rw [length_filled h.short, length_filled h'.short]
    · rw [hdecimals, hdecimals']
  have hes : es = es' := by
    rw [← stripped_append h.last (places - es.length), ← filled, hfilled, filled,
      stripped_append h'.last]
  rw [h.text, h'.text, hds, hes]

end IsCanonical

theorem parse_format (v : Word) : parse (format v) = .ok v := by
  have hcanonical := isCanonical_format v
  rw [parse_eq_ok_iff, hcanonical.trim, hcanonical.accepts_iff, filled_stripped,
    natOfDigits_toDigits, natOfDigits_decimals, Nat.div_add_mod']

/-- What is written of an amount is canonical, and is read as the amount. It is the only canonical
text that is, and stands for all texts that are. -/
theorem format_account (v : Word) :
    parse (format v) = .ok v ∧ (∃ ds es, IsCanonical (format v).toList ds es) ∧
      (∀ s ds es, IsCanonical s.toList ds es → parse s = .ok v → s = format v) ∧
      ∀ s, parse s = .ok v → parse (format v) = parse s := by
  have hcanonical := isCanonical_format v
  have hread := parse_format v
  refine ⟨hread, ⟨_, _, hcanonical⟩, ?_, ?_⟩
  · intro s ds es h hs
    rw [parse_eq_ok_iff, h.trim] at hs
    rw [parse_eq_ok_iff, hcanonical.trim] at hread
    exact String.toList_injective (h.unique hcanonical hs hread)
  · intro s hs
    rw [hread, hs]

end Write

end Amount
end PriceOracle
