import PriceOracle.Json.Parser
import PriceOracle.Proofs.Decimal.Nearest
import PriceOracle.Proofs.Json.Layout
import PriceOracle.Proofs.Json.Quote
import PriceOracle.Proofs.Text.Utf8

/-!
# PriceOracle.Proofs.Json.Print

Values that are written and read again. The text of a value is cut into the tokens of the value
(`tokens_chars`), and from them the machine builds the value that the text stands for, its `echo`
(`parse_print`): numbers are what their texts name, and everything else comes back as it was. A
finite double is what its text names (`echo_finite`), and `null` is all that is left of any other
double.
-/

namespace PriceOracle
namespace Json

open Decimal (Kind nearest shortest)

/-- The value that the text of a number names. -/
def Number.echo (n : Number) : Json := (literal? n.text.toList).getD .null

mutual

/-- The value that the text of a value stands for. -/
def echo : Json → Json
  | .number n => n.echo
  | .torn => .null
  | .array items => .array (echoItems items)
  | .object fields => .object (echoFields fields)
  | j => j

def echoItems : List Json → List Json
  | [] => []
  | j :: rest => echo j :: echoItems rest

def echoFields : List (String × Json) → List (String × Json)
  | [] => []
  | (name, j) :: rest => (name, echo j) :: echoFields rest

end

/-- A text without quotes that names a value. -/
structure Names (cs : List Char) (j : Json) : Prop where
  plain : Plain cs
  nonempty : cs ≠ []
  literal : literal? cs = some j

section Number

/-- What is a number is no word. -/
theorem literal?_of_number? {cs : List Char} {n : Number} (h : number? cs = some n) :
    literal? cs = some (.number n) := by
  have hword : ∀ word : List Char, number? word = none → cs ≠ word := by
    rintro word hnone rfl
    rw [hnone] at h
    cases h
  rw [literal?, if_neg (hword _ rfl), if_neg (hword _ rfl), if_neg (hword _ rfl), h]
  rfl

theorem names_of_number? {cs : List Char} {n : Number} (hp : Plain cs)
    (h : number? cs = some n) : Names cs (.number n) where
  plain := hp
  nonempty := by
    rintro rfl
    have : number? [] = none := rfl
    rw [this] at h
    cases h
  literal := literal?_of_number? h

theorem text_integer (i : Int) :
    (Number.integer i).text.toList = signed (i < 0) (Nat.toDigits 10 i.natAbs) := by
  show (toString i).toList = _
  rw [Int.toString_eq_repr, Int.repr_eq_if]
  split
  · next h =>
    rw [Nat.toList_repr, decide_eq_false (by omega), signed, if_neg Bool.false_ne_true,
      show i.toNat = i.natAbs by omega]
  · next h =>
    rw [String.toList_append, Nat.toList_repr, decide_eq_true (by omega), signed, if_pos rfl,
      show (-i).toNat = i.natAbs by omega]
    rfl

theorem names_integer (i : Int) : Names (Number.integer i).text.toList
    (.number (integerLiteral (i < 0) i.natAbs)) := by
  have h := number?_whole (i < 0) (isWhole_toDigits i.natAbs)
  rw [Decimal.natOfDigits_toDigits] at h
  rw [text_integer]
  exact names_of_number? (Plain.of_digits (Decimal.digits_toDigits _)).signed h

theorem names_double {x : Float} {negative : Bool} {b : Decimal.Binary}
    (hx : Kind.of x = .finite negative b) :
    ∃ e, Wider (shortest .toEven b) e ∧ Names (Number.double x).text.toList
      (.number (.double (nearest negative e.digits e.exp))) := by
  obtain ⟨e, hwider, he⟩ := number?_layout negative (Decimal.digits_shortest .toEven b)
  refine ⟨e, hwider, ?_⟩
  have htext : (Number.double x).text.toList
      = signed negative (Decimal.layout doubleStyle (shortest .toEven b)) := by
    rw [Number.text, Decimal.renderFinite, hx]
    rw [Option.getD_some, String.toList_ofList]
    rfl
  rw [htext]
  exact names_of_number? (plain_layout _ _).signed he

theorem names_null : Names "null".toList .null where
  plain := .of_all rfl
  nonempty := by decide
  literal := rfl

theorem names_bool (b : Bool) : Names (chars (.bool b)) (.bool b) := by
  cases b
  · exact ⟨.of_all rfl, by decide, rfl⟩
  · exact ⟨.of_all rfl, by decide, rfl⟩

/-- JSON has no name for what is not finite. -/
theorem names_not_finite {x : Float} (hx : ∀ negative b, Kind.of x ≠ .finite negative b) :
    Names (Number.double x).text.toList .null := by
  have htext : (Number.double x).text = "null" := by
    rw [Number.text, Decimal.renderFinite]
    cases hk : Kind.of x with
    | finite negative b => exact absurd hk (hx negative b)
    | _ => rfl
  rw [htext]
  exact names_null

theorem names_number (n : Number) : Names n.text.toList n.echo := by
  have hsome : ∃ j, Names n.text.toList j := by
    cases n with
    | integer i => exact ⟨_, names_integer i⟩
    | double x =>
      cases hk : Kind.of x with
      | finite negative b =>
        obtain ⟨e, -, he⟩ := names_double hk
        exact ⟨_, he⟩
      | _ => exact ⟨_, names_not_finite (by simp [hk])⟩
  obtain ⟨j, hj⟩ := hsome
  rwa [Number.echo, hj.literal, Option.getD_some]

theorem echo_of_names {n : Number} {j : Json} (h : Names n.text.toList j) : n.echo = j := by
  rw [Number.echo, h.literal, Option.getD_some]

theorem echo_integer {i : Int} (hi : Number.isInteger64 i = true) :
    (Number.integer i).echo = .number (.integer i) := by
  have hliteral : integerLiteral (i < 0) i.natAbs = .integer i := by
    have habs : (if i < 0 then -(i.natAbs : Int) else i.natAbs) = i := by split <;> omega
    have hzero : (decide (i < 0) && decide (i.natAbs = 0)) = false := by
      rw [Bool.and_eq_false_imp, decide_eq_true_eq, decide_eq_false_iff_not]
      omega
    unfold integerLiteral
    simp only [hzero, decide_eq_true_eq, habs, hi, Bool.not_false, Bool.and_true, if_true]
  rw [echo_of_names (names_integer i), hliteral]

theorem Wider.value_eq {d e : Decimal.Scaled} (h : Wider d e) : e.value = d.value := by
  obtain ⟨k, hdigits, hexp⟩ := h
  rw [Decimal.Scaled.value, Decimal.Scaled.value, hdigits, hexp, Nat.pow_eq,
    zpow_sub₀ (by norm_num), zpow_natCast]
  push_cast
  field_simp

/-- The shortest digits of a finite double name it. -/
theorem echo_finite {x : Float} (hx : x.isFinite = true) :
    (Number.double x).echo = .number (.double x) := by
  rw [Binary64.isFinite_iff] at hx
  obtain ⟨e, hwider, hnames⟩ := names_double (Binary64.kind_of_finite hx)
  have haround := Decimal.around_shortest .toEven (Binary64.magnitude (Binary64.code x))
  rw [← hwider.value_eq] at haround
  rw [echo_of_names hnames, Decimal.nearest_eq hx haround]

theorem echo_not_finite {x : Float} (hx : x.isFinite = false) : (Number.double x).echo = .null := by
  rw [← Bool.not_eq_true, Binary64.isFinite_iff] at hx
  exact echo_of_names (names_not_finite (Binary64.kind_of_ne hx))

end Number

section Tokens

theorem tokens_mark {c : Char} {t : Token} (h : mark? c = some t) (rest : List Char) :
    tokens (c :: rest) = (tokens rest).map (t :: ·) := by
  have hspace : isSpace c = false := by
    by_contra hc
    simp only [isSpace, Bool.not_eq_false, Bool.or_eq_true, decide_eq_true_eq] at hc
    obtain ((rfl | rfl) | rfl) | rfl := hc <;> cases h
  have hquote : c ≠ '"' := by
    rintro rfl
    cases h
  rw [tokens, if_neg (by simp [hspace]), if_neg hquote, h]

theorem tokens_quote (s : String) (rest : List Char) :
    tokens (quote s ++ rest) = (tokens rest).map (.scalar (.string s) :: ·) := by
  have hread := readText_quote s.toList rest
  rw [quote, List.append_assoc, List.cons_append, List.singleton_append, tokens,
    if_neg (by decide), if_pos rfl]
  split
  · next h => rw [hread] at h; cases h
  · next r h =>
    rw [hread] at h
    cases h
    rw [Option.elim_some, String.ofList_toList]

theorem tokens_names {cs rest : List Char} {j : Json} (h : Names cs j) (hs : Stops isPlain rest) :
    tokens (cs ++ rest) = (tokens rest).map (.scalar j :: ·) := by
  obtain ⟨c, cs', rfl⟩ := List.exists_cons_of_ne_nil h.nonempty
  have hrest : ∀ d ∈ cs', isPlain d = true := fun d hd => h.plain d (List.mem_cons_of_mem _ hd)
  have hc := h.plain c List.mem_cons_self
  simp only [isPlain, Bool.and_eq_true, Bool.not_eq_true', bne_iff_ne, Option.isNone_iff_eq_none]
    at hc
  obtain ⟨⟨hspace, hquote⟩, hmark⟩ := hc
  rw [List.cons_append, tokens, if_neg (by simp [hspace]), if_neg hquote, hmark]
  simp only [hs.takeWhile_append hrest, hs.dropWhile_append hrest, h.literal]

mutual

/-- The tokens that the text of a value is cut into. -/
def toTokens : Json → List Token
  | .array items => .beginArray :: itemTokens items ++ [.endArray]
  | .object fields => .beginObject :: fieldTokens fields ++ [.endObject]
  | j => [.scalar (echo j)]

def itemTokens : List Json → List Token
  | [] => []
  | [j] => toTokens j
  | j :: k :: rest => toTokens j ++ .comma :: itemTokens (k :: rest)

def fieldTokens : List (String × Json) → List Token
  | [] => []
  | [(name, j)] => .scalar (.string name) :: .colon :: toTokens j
  | (name, j) :: f :: rest =>
    .scalar (.string name) :: .colon :: toTokens j ++ .comma :: fieldTokens (f :: rest)

end

theorem stops_mark {c : Char} {t : Token} (h : mark? c = some t) (rest : List Char) :
    Stops isPlain (c :: rest) := stops_cons (by simp [isPlain, h])

mutual

theorem tokens_chars (j : Json) {rest : List Char} (hs : Stops isPlain rest) :
    tokens (chars j ++ rest) = (tokens rest).map (toTokens j ++ ·) := by
  match j with
  | .null => exact tokens_names names_null hs
  | .bool b =>
    cases b
    · exact tokens_names (names_bool false) hs
    · exact tokens_names (names_bool true) hs
  | .number n => exact tokens_names (names_number n) hs
  | .string s => exact tokens_quote s rest
  | .torn => exact tokens_names names_null hs
  | .array items =>
    rw [chars, List.cons_append, List.cons_append, List.append_assoc, tokens_mark rfl,
      List.singleton_append, tokens_itemChars items (stops_mark rfl rest), tokens_mark rfl]
    simp [toTokens, Function.comp_def]
  | .object fields =>
    rw [chars, List.cons_append, List.cons_append, List.append_assoc, tokens_mark rfl,
      List.singleton_append, tokens_fieldChars fields (stops_mark rfl rest), tokens_mark rfl]
    simp [toTokens, Function.comp_def]

theorem tokens_itemChars (items : List Json) {rest : List Char} (hs : Stops isPlain rest) :
    tokens (itemChars items ++ rest) = (tokens rest).map (itemTokens items ++ ·) := by
  match items with
  | [] => simp [itemChars, itemTokens]
  | [j] => exact tokens_chars j hs
  | j :: k :: more =>
    rw [itemChars, List.append_assoc, List.cons_append, tokens_chars j (stops_mark rfl _),
      tokens_mark rfl, tokens_itemChars (k :: more) hs]
    simp [itemTokens, Function.comp_def]

theorem tokens_fieldChars (fields : List (String × Json)) {rest : List Char}
    (hs : Stops isPlain rest) :
    tokens (fieldChars fields ++ rest) = (tokens rest).map (fieldTokens fields ++ ·) := by
  match fields with
  | [] => simp [fieldChars, fieldTokens]
  | [(name, j)] =>
    rw [fieldChars, List.append_assoc, List.cons_append, tokens_quote, tokens_mark rfl,
      tokens_chars j hs]
    simp [fieldTokens, Function.comp_def]
  | (name, j) :: f :: more =>
    rw [fieldChars, List.append_assoc, List.append_assoc, List.cons_append, List.cons_append,
      tokens_quote, tokens_mark rfl, tokens_chars j (stops_mark rfl _), tokens_mark rfl,
      tokens_fieldChars (f :: more) hs]
    simp [fieldTokens, Function.comp_def]

end

end Tokens

section Run

theorem run_cons {e e' : Expect} {t : Token} (h : e.step t = some e') (ts : List Token) :
    e.run (t :: ts) = e'.run ts := by
  rw [Expect.run, h, Option.bind_some]

/-- Fields none of which is torn. -/
def named (fields : List (String × Json)) : List (Option String × Json) :=
  fields.map fun f => (some f.1, f.2)

theorem closeObject_named (fields : List (String × Json)) :
    closeObject (named fields).reverse = .object fields := by
  have h : (named fields).mapM (fun f : Option String × Json => f.1.map (·, f.2))
      = some fields := by
    induction fields with
    | nil => rfl
    | cons f rest ih =>
      rw [named, List.map_cons, List.mapM_cons, ← named, ih]
      rfl
  unfold closeObject
  rw [List.reverse_reverse]
  simp only [h]

mutual

/-- The machine takes the tokens of a value for its echo, wherever a value may stand. -/
theorem run_toTokens (j : Json) (fresh : Bool) (frames : List Frame) (ts : List Token) :
    (Expect.value fresh frames).run (toTokens j ++ ts) = (Expect.after (echo j) frames).run ts := by
  match j with
  | .null => rfl
  | .bool b => rfl
  | .number n => rfl
  | .string s => rfl
  | .torn => rfl
  | .array items =>
    rw [toTokens, List.cons_append, List.cons_append, List.append_assoc, List.cons_append,
      List.nil_append, run_cons rfl]
    cases items with
    | nil => rfl
    | cons j rest =>
      exact run_itemTokens (j :: rest) (List.cons_ne_nil _ _) true [] frames ts
  | .object fields =>
    rw [toTokens, List.cons_append, List.cons_append, List.append_assoc, List.cons_append,
      List.nil_append, run_cons rfl]
    cases fields with
    | nil => rfl
    | cons f rest =>
      exact run_fieldTokens (f :: rest) (List.cons_ne_nil _ _) true [] frames ts

theorem run_itemTokens (items : List Json) (hne : items ≠ []) (fresh : Bool) (done : List Json)
    (frames : List Frame) (ts : List Token) :
    (Expect.value fresh (.items done.reverse :: frames)).run (itemTokens items ++ .endArray :: ts)
      = (Expect.after (.array (done ++ echoItems items)) frames).run ts := by
  match items with
  | [] => exact absurd rfl hne
  | [j] =>
    rw [itemTokens, run_toTokens, run_cons rfl]
    simp [echoItems]
  | j :: k :: more =>
    rw [itemTokens, List.append_assoc, List.cons_append, run_toTokens, run_cons rfl,
      ← List.reverse_concat', run_itemTokens (k :: more) (List.cons_ne_nil _ _)]
    simp [echoItems]

theorem run_fieldTokens (fields : List (String × Json)) (hne : fields ≠ []) (fresh : Bool)
    (done : List (String × Json)) (frames : List Frame) (ts : List Token) :
    (Expect.field fresh (named done).reverse frames).run (fieldTokens fields ++ .endObject :: ts)
      = (Expect.after (.object (done ++ echoFields fields)) frames).run ts := by
  have hsnoc : ∀ (name : String) (j : Json),
      (some name, j) :: (named done).reverse = (named (done ++ [(name, j)])).reverse := by
    intro name j
    simp [named]
  match fields with
  | [] => exact absurd rfl hne
  | [(name, j)] =>
    rw [fieldTokens, List.cons_append, List.cons_append, run_cons rfl, run_cons rfl, run_toTokens,
      run_cons rfl, hsnoc, closeObject_named]
    rfl
  | (name, j) :: f :: more =>
    rw [fieldTokens, List.append_assoc, List.cons_append, List.cons_append, List.cons_append,
      run_cons rfl, run_cons rfl, run_toTokens, run_cons rfl, hsnoc,
      run_fieldTokens (f :: more) (List.cons_ne_nil _ _)]
    simp [echoFields]

end

/-- What is written is read as the value that it stands for. -/
theorem parse_print (j : Json) : parse j.print = some (echo j) := by
  have htokens := tokens_chars j stops_nil
  rw [List.append_nil, tokens, Option.map_some, List.append_nil] at htokens
  have hrun := run_toTokens j false [] []
  rw [List.append_nil] at hrun
  rw [parse, print, String.toList_ofList, parseChars, htokens, Option.bind_some, ofTokens?, hrun]
  rfl

theorem parseBytes_print (j : Json) : parseBytes (Utf8.encode j.print) = some (echo j) := by
  rw [parseBytes, Utf8.charsWith_encode]
  exact parse_print j

end Run
end Json
end PriceOracle
