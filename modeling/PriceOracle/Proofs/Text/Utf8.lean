import PriceOracle.Text.Utf8

/-!
# PriceOracle.Proofs.Text.Utf8

Text survives being written as bytes. Plain text, which makes up numerals, has one byte for each
character.

* `next_encodeChar`: the bytes of a character stand for it, whatever follows them.
* `decode_encode`, `charsWith_encode`: both readers give back what was written.
-/

namespace PriceOracle
namespace Utf8

/-- Is the character written as one byte? -/
def IsPlain (c : Char) : Prop := c.toNat < 0x80

instance (c : Char) : Decidable (IsPlain c) := inferInstanceAs (Decidable (c.toNat < 0x80))

theorem encodeChar_of_isPlain {c : Char} (h : IsPlain c) :
    String.utf8EncodeChar c = [UInt8.ofNat c.toNat] := by
  have hv : c.val.toNat ≤ 0x7f := by
    have : c.toNat < 0x80 := h
    show c.toNat ≤ 0x7f
    omega
  simp only [String.utf8EncodeChar, hv, if_true]
  rfl

theorem encode_ofList (cs : List Char) :
    encode (String.ofList cs) = cs.flatMap String.utf8EncodeChar := by
  simp [encode]

theorem encode_of_isPlain {cs : List Char} (h : ∀ c ∈ cs, IsPlain c) :
    encode (String.ofList cs) = cs.map fun c => UInt8.ofNat c.toNat := by
  rw [encode_ofList]
  induction cs with
  | nil => rfl
  | cons c cs ih =>
    rw [List.flatMap_cons, encodeChar_of_isPlain (h c List.mem_cons_self),
      ih fun d hd => h d (List.mem_cons_of_mem _ hd)]
    rfl

theorem next_of_isPlain {c : Char} (h : IsPlain c) (rest : Bytes) :
    next (UInt8.ofNat c.toNat) rest = .char c 0 := by
  have hc : c.toNat < 0x80 := h
  have hn : (UInt8.ofNat c.toNat).toNat = c.toNat := by
    rw [UInt8.toNat_ofNat']
    omega
  have hlt : UInt8.ofNat c.toNat < 0x80 := by
    rw [UInt8.lt_iff_toNat_lt, hn]
    exact hc
  simp only [next.eq_def, hlt, if_true, hn, Char.ofNat_toNat]

theorem toNat_byte {n : Nat} (h : n < 256) : (UInt8.ofNat n).toNat = n := by
  rw [UInt8.toNat_ofNat']
  exact Nat.mod_eq_of_lt h

theorem byte_lt_iff {n : Nat} (h : n < 256) {b : UInt8} : UInt8.ofNat n < b ↔ n < b.toNat := by
  rw [UInt8.lt_iff_toNat_lt, toNat_byte h]

theorem byte_le_iff {n : Nat} (h : n < 256) {b : UInt8} : UInt8.ofNat n ≤ b ↔ n ≤ b.toNat := by
  rw [UInt8.le_iff_toNat_le, toNat_byte h]

theorem le_byte_iff {n : Nat} (h : n < 256) {b : UInt8} : b ≤ UInt8.ofNat n ↔ b.toNat ≤ n := by
  rw [UInt8.le_iff_toNat_le, toNat_byte h]

theorem byte_eq_iff {n : Nat} (h : n < 256) {b : UInt8} : UInt8.ofNat n = b ↔ n = b.toNat := by
  rw [← UInt8.toNat_inj, toNat_byte h]

/-- The byte that continues a sequence with six more bits. -/
def tailByte (n : Nat) : UInt8 := UInt8.ofNat (n % 64 + 0x80)

theorem tailByte_bounds (n : Nat) : n % 64 + 0x80 < 256 := by omega

theorem continues_tailByte (n : Nat) : continues (tailByte n) = true := by
  simp only [continues, tailByte, byte_le_iff (tailByte_bounds n), le_byte_iff (tailByte_bounds n),
    UInt8.reduceToNat, Bool.and_eq_true, decide_eq_true_eq]
  omega

theorem low_tailByte (n : Nat) : low (tailByte n) = n % 64 := by
  rw [low, tailByte, toNat_byte (tailByte_bounds n)]
  omega

theorem next_two {v : Nat} (h : 0x7f < v) (h' : v ≤ 0x7ff) (rest : Bytes) :
    next (UInt8.ofNat (v / 64 % 32 + 0xc0)) (tailByte v :: rest) = .char (Char.ofNat v) 1 := by
  have hb : v / 64 % 32 + 0xc0 < 256 := by omega
  have h₁ : ¬v / 64 % 32 + 0xc0 < 0x80 := by omega
  have h₂ : ¬v / 64 % 32 + 0xc0 < 0xC2 := by omega
  have h₃ : v / 64 % 32 + 0xc0 < 0xE0 := by omega
  have hv : (v / 64 % 32 + 0xc0) % 32 * 64 + v % 64 = v := by omega
  simp only [next, byte_lt_iff hb, UInt8.reduceToNat, h₁, h₂, h₃, if_false, if_true,
    continues_tailByte, low_tailByte, toNat_byte hb, hv]

theorem second3_tailByte {v : Nat} (h : 0x7ff < v) (h' : v ≤ 0xffff)
    (valid : v < 0xd800 ∨ 0xdfff < v) :
    second3 (UInt8.ofNat (v / 4096 % 16 + 0xe0)) (tailByte (v / 64)) = true := by
  have hb : v / 4096 % 16 + 0xe0 < 256 := by omega
  have ht := tailByte_bounds (v / 64)
  simp only [second3, beq_iff_eq, byte_eq_iff hb, UInt8.reduceToNat, tailByte, byte_le_iff ht,
    le_byte_iff ht]
  split
  · simp only [Bool.and_eq_true, decide_eq_true_eq]
    omega
  · split
    · simp only [Bool.and_eq_true, decide_eq_true_eq]
      omega
    · exact continues_tailByte _

theorem next_three {v : Nat} (h : 0x7ff < v) (h' : v ≤ 0xffff)
    (valid : v < 0xd800 ∨ 0xdfff < v) (rest : Bytes) :
    next (UInt8.ofNat (v / 4096 % 16 + 0xe0)) (tailByte (v / 64) :: tailByte v :: rest)
      = .char (Char.ofNat v) 2 := by
  have hb : v / 4096 % 16 + 0xe0 < 256 := by omega
  have h₁ : ¬v / 4096 % 16 + 0xe0 < 0x80 := by omega
  have h₂ : ¬v / 4096 % 16 + 0xe0 < 0xC2 := by omega
  have h₃ : ¬v / 4096 % 16 + 0xe0 < 0xE0 := by omega
  have h₄ : v / 4096 % 16 + 0xe0 < 0xF0 := by omega
  have hv : ((v / 4096 % 16 + 0xe0) % 16 * 64 + v / 64 % 64) * 64 + v % 64 = v := by omega
  simp only [next, byte_lt_iff hb, UInt8.reduceToNat, h₁, h₂, h₃, h₄, if_false, if_true,
    second3_tailByte h h' valid, continues_tailByte, low_tailByte, toNat_byte hb, hv]

theorem second4_tailByte {v : Nat} (h : 0xffff < v) (h' : v < 0x110000) :
    second4 (UInt8.ofNat (v / 262144 % 8 + 0xf0)) (tailByte (v / 4096)) = true := by
  have hb : v / 262144 % 8 + 0xf0 < 256 := by omega
  have ht := tailByte_bounds (v / 4096)
  simp only [second4, beq_iff_eq, byte_eq_iff hb, UInt8.reduceToNat, tailByte,
    byte_le_iff ht, le_byte_iff ht]
  split
  · simp only [Bool.and_eq_true, decide_eq_true_eq]
    omega
  · split
    · simp only [Bool.and_eq_true, decide_eq_true_eq]
      omega
    · exact continues_tailByte _

theorem next_four {v : Nat} (h : 0xffff < v) (h' : v < 0x110000) (rest : Bytes) :
    next (UInt8.ofNat (v / 262144 % 8 + 0xf0))
        (tailByte (v / 4096) :: tailByte (v / 64) :: tailByte v :: rest)
      = .char (Char.ofNat v) 3 := by
  have hb : v / 262144 % 8 + 0xf0 < 256 := by omega
  have h₁ : ¬v / 262144 % 8 + 0xf0 < 0x80 := by omega
  have h₂ : ¬v / 262144 % 8 + 0xf0 < 0xC2 := by omega
  have h₃ : ¬v / 262144 % 8 + 0xf0 < 0xE0 := by omega
  have h₄ : ¬v / 262144 % 8 + 0xf0 < 0xF0 := by omega
  have h₅ : v / 262144 % 8 + 0xf0 < 0xF5 := by omega
  have hv : (((v / 262144 % 8 + 0xf0) % 8 * 64 + v / 4096 % 64) * 64 + v / 64 % 64) * 64 + v % 64
      = v := by omega
  simp only [next, byte_lt_iff hb, UInt8.reduceToNat, h₁, h₂, h₃, h₄, h₅, if_false, if_true,
    second4_tailByte h h', continues_tailByte, low_tailByte, toNat_byte hb, hv]

section Sequences

variable {c : Char}

theorem encodeChar_two (h : 0x7f < c.val.toNat) (h' : c.val.toNat ≤ 0x7ff) :
    String.utf8EncodeChar c =
      [UInt8.ofNat (c.val.toNat / 64 % 32 + 0xc0), tailByte c.val.toNat] := by
  have h₁ : ¬c.val.toNat ≤ 0x7f := by omega
  simp only [String.utf8EncodeChar, h₁, h', if_true, if_false]
  rfl

theorem encodeChar_three (h : 0x7ff < c.val.toNat) (h' : c.val.toNat ≤ 0xffff) :
    String.utf8EncodeChar c =
      [UInt8.ofNat (c.val.toNat / 4096 % 16 + 0xe0), tailByte (c.val.toNat / 64),
        tailByte c.val.toNat] := by
  have h₁ : ¬c.val.toNat ≤ 0x7f := by omega
  have h₂ : ¬c.val.toNat ≤ 0x7ff := by omega
  simp only [String.utf8EncodeChar, h₁, h₂, h', if_true, if_false]
  rfl

theorem encodeChar_four (h : 0xffff < c.val.toNat) :
    String.utf8EncodeChar c =
      [UInt8.ofNat (c.val.toNat / 262144 % 8 + 0xf0), tailByte (c.val.toNat / 4096),
        tailByte (c.val.toNat / 64), tailByte c.val.toNat] := by
  have h₁ : ¬c.val.toNat ≤ 0x7f := by omega
  have h₂ : ¬c.val.toNat ≤ 0x7ff := by omega
  have h₃ : ¬c.val.toNat ≤ 0xffff := by omega
  simp only [String.utf8EncodeChar, h₁, h₂, h₃, if_false]
  rfl

/-- Only plain characters have bytes below 0x80. -/
theorem isPlain_of_mem_encodeChar {b : UInt8} (hb : b ∈ String.utf8EncodeChar c)
    (hlt : b < 0x80) : IsPlain c := by
  apply Decidable.byContradiction
  intro hplain
  have h₁ : 0x7f < c.val.toNat := Nat.not_lt.1 hplain
  have htail (n : Nat) : ¬tailByte n < 0x80 := by
    simp only [tailByte, byte_lt_iff (tailByte_bounds n), UInt8.reduceToNat]
    omega
  have hfirst (n : Nat) (hn : 0x80 ≤ n ∧ n < 256) : ¬UInt8.ofNat n < 0x80 := by
    simp only [byte_lt_iff hn.2, UInt8.reduceToNat]
    omega
  by_cases h₂ : c.val.toNat ≤ 0x7ff
  · rw [encodeChar_two h₁ h₂] at hb
    simp only [List.mem_cons, List.not_mem_nil, or_false] at hb
    obtain rfl | rfl := hb
    · exact hfirst _ (by omega) hlt
    · exact htail _ hlt
  by_cases h₃ : c.val.toNat ≤ 0xffff
  · rw [encodeChar_three (by omega) h₃] at hb
    simp only [List.mem_cons, List.not_mem_nil, or_false] at hb
    obtain rfl | rfl | rfl := hb
    · exact hfirst _ (by omega) hlt
    · exact htail _ hlt
    · exact htail _ hlt
  · rw [encodeChar_four (by omega)] at hb
    simp only [List.mem_cons, List.not_mem_nil, or_false] at hb
    obtain rfl | rfl | rfl | rfl := hb
    · exact hfirst _ (by omega) hlt
    · exact htail _ hlt
    · exact htail _ hlt
    · exact htail _ hlt

/-- A plain byte is in the bytes of its own character only. -/
theorem mem_encodeChar_iff {b : UInt8} (hb : b < 0x80) :
    b ∈ String.utf8EncodeChar c ↔ c.toNat = b.toNat := by
  have hlt : b.toNat < 0x80 := UInt8.lt_iff_toNat_lt.1 hb
  constructor
  · intro hmem
    have hplain : IsPlain c := isPlain_of_mem_encodeChar hmem hb
    rw [encodeChar_of_isPlain hplain, List.mem_singleton] at hmem
    rw [hmem, toNat_byte (Nat.lt_trans hplain (by decide))]
  · intro hc
    have hplain : IsPlain c := by rwa [IsPlain, hc]
    rw [encodeChar_of_isPlain hplain, hc, List.mem_singleton, UInt8.ofNat_toNat]

end Sequences

/-- The bytes of a character stand for it, whatever follows them. -/
theorem next_encodeChar (c : Char) (rest : Bytes) : ∃ b tail,
    String.utf8EncodeChar c = b :: tail ∧ next b (tail ++ rest) = .char c tail.length := by
  have hc : Char.ofNat c.val.toNat = c := Char.ofNat_toNat c
  have hvalid : c.val.toNat < 0xd800 ∨ 0xdfff < c.val.toNat ∧ c.val.toNat < 0x110000 := c.valid
  by_cases h₁ : c.val.toNat ≤ 0x7f
  · have hplain : IsPlain c := Nat.lt_succ_of_le h₁
    exact ⟨_, [], encodeChar_of_isPlain hplain, next_of_isPlain hplain rest⟩
  by_cases h₂ : c.val.toNat ≤ 0x7ff
  · exact ⟨_, _, encodeChar_two (by omega) h₂,
      (next_two (by omega) h₂ rest).trans (by rw [hc]; rfl)⟩
  by_cases h₃ : c.val.toNat ≤ 0xffff
  · exact ⟨_, _, encodeChar_three (by omega) h₃,
      (next_three (by omega) h₃ (by omega) rest).trans (by rw [hc]; rfl)⟩
  · exact ⟨_, _, encodeChar_four (by omega),
      (next_four (by omega) (by omega) rest).trans (by rw [hc]; rfl)⟩

theorem encode_eq_nil {cs : List Char} : encode (String.ofList cs) = [] ↔ cs = [] := by
  rw [encode_ofList]
  cases cs with
  | nil => simp
  | cons c cs =>
    obtain ⟨b, tail, hbytes, -⟩ := next_encodeChar c []
    simp [hbytes]

/-- A condition that only plain bytes meet is one on characters, however far it reaches. -/
theorem forall_mem_take_encode {P : UInt8 → Prop} (hP : ∀ b, P b → b < 0x80) (cs : List Char)
    (n : Nat) : (∀ b ∈ (encode (String.ofList cs)).take n, P b) ↔
      ∀ c ∈ cs.take n, IsPlain c ∧ P (UInt8.ofNat c.toNat) := by
  rw [encode_ofList]
  induction cs generalizing n with
  | nil => simp
  | cons c cs ih =>
    cases n with
    | zero => simp
    | succ n =>
      rw [List.flatMap_cons, List.take_succ_cons, List.forall_mem_cons, ← ih]
      by_cases hplain : IsPlain c
      · rw [encodeChar_of_isPlain hplain, List.singleton_append, List.take_succ_cons,
          List.forall_mem_cons]
        simp only [hplain, true_and]
      · simp only [hplain, false_and, iff_false]
        intro hall
        obtain ⟨b, tail, hbytes, -⟩ := next_encodeChar c []
        have hmem : b ∈ String.utf8EncodeChar c := by simp [hbytes]
        have hb : P b := hall b (by simp [hbytes])
        exact hplain (isPlain_of_mem_encodeChar hmem (hP b hb))

theorem forall_mem_encode {P : UInt8 → Prop} (hP : ∀ b, P b → b < 0x80) (cs : List Char) :
    (∀ b ∈ encode (String.ofList cs), P b) ↔ ∀ c ∈ cs, IsPlain c ∧ P (UInt8.ofNat c.toNat) := by
  have h := forall_mem_take_encode hP cs ((encode (String.ofList cs)).length + cs.length)
  rwa [List.take_of_length_le (by omega), List.take_of_length_le (by omega)] at h

theorem take_encode_of_isPlain {cs : List Char} {n : Nat} (h : ∀ c ∈ cs.take n, IsPlain c) :
    (encode (String.ofList cs)).take n = (cs.take n).map fun c => UInt8.ofNat c.toNat := by
  rw [encode_ofList]
  induction cs generalizing n with
  | nil => simp
  | cons c cs ih =>
    cases n with
    | zero => rfl
    | succ n =>
      rw [List.take_succ_cons, List.forall_mem_cons] at h
      rw [List.flatMap_cons, encodeChar_of_isPlain h.1, List.singleton_append,
        List.take_succ_cons, List.take_succ_cons, List.map_cons, ih h.2]

theorem charsWith_encode (repair : List Char) (s : String) :
    charsWith repair (encode s) = s.toList := by
  rw [encode]
  induction s.toList with
  | nil => simp [charsWith]
  | cons c cs ih =>
    obtain ⟨b, tail, hc, hn⟩ := next_encodeChar c (cs.flatMap String.utf8EncodeChar)
    rw [List.flatMap_cons, hc, List.cons_append, charsWith, hn]
    simp only [List.drop_left, ih]

theorem decodeFrom_encode (index : Nat) (cs : List Char) :
    decodeFrom index (cs.flatMap String.utf8EncodeChar) = .ok cs := by
  induction cs generalizing index with
  | nil => simp [decodeFrom]
  | cons c cs ih =>
    obtain ⟨b, tail, hc, hn⟩ := next_encodeChar c (cs.flatMap String.utf8EncodeChar)
    rw [List.flatMap_cons, hc, List.cons_append, decodeFrom, hn]
    simp only [List.drop_left, ih]
    rfl

theorem decode_encode (s : String) : decode (encode s) = .ok s := by
  rw [decode, encode, decodeFrom_encode]
  exact congrArg Except.ok String.ofList_toList

/-! ## What is read stands there -/

section Read

variable {b c d e : UInt8} {rest : Bytes}

theorem toNat_ofNat {n : Nat} (hvalid : n < 0xd800 ∨ 0xdfff < n ∧ n < 0x110000) :
    (Char.ofNat n).val.toNat = n := by
  rw [Char.ofNat, dif_pos hvalid]
  rfl

theorem continues_iff : continues b = true ↔ 0x80 ≤ b.toNat ∧ b.toNat ≤ 0xBF := by
  simp only [continues, Bool.and_eq_true, decide_eq_true_eq, UInt8.le_iff_toNat_le,
    UInt8.reduceToNat]

theorem second3_iff : second3 b c = true ↔ (0x80 ≤ c.toNat ∧ c.toNat ≤ 0xBF) ∧
    (b.toNat = 0xE0 → 0xA0 ≤ c.toNat) ∧ (b.toNat = 0xED → c.toNat ≤ 0x9F) := by
  simp only [second3, beq_iff_eq, ← UInt8.toNat_inj, UInt8.reduceToNat]
  split
  · simp only [Bool.and_eq_true, decide_eq_true_eq, UInt8.le_iff_toNat_le, UInt8.reduceToNat]
    omega
  · split
    · simp only [Bool.and_eq_true, decide_eq_true_eq, UInt8.le_iff_toNat_le, UInt8.reduceToNat]
      omega
    · rw [continues_iff]
      omega

theorem second4_iff : second4 b c = true ↔ (0x80 ≤ c.toNat ∧ c.toNat ≤ 0xBF) ∧
    (b.toNat = 0xF0 → 0x90 ≤ c.toNat) ∧ (b.toNat = 0xF4 → c.toNat ≤ 0x8F) := by
  simp only [second4, beq_iff_eq, ← UInt8.toNat_inj, UInt8.reduceToNat]
  split
  · simp only [Bool.and_eq_true, decide_eq_true_eq, UInt8.le_iff_toNat_le, UInt8.reduceToNat]
    omega
  · split
    · simp only [Bool.and_eq_true, decide_eq_true_eq, UInt8.le_iff_toNat_le, UInt8.reduceToNat]
      omega
    · rw [continues_iff]
      omega

theorem tailByte_eq {n : Nat} (h : 0x80 ≤ c.toNat ∧ c.toNat ≤ 0xBF) (hn : n % 64 = low c) :
    tailByte n = c := by
  rw [low] at hn
  rw [tailByte, byte_eq_iff (tailByte_bounds n)]
  omega

theorem encodeChar_of_one (hb : b.toNat < 0x80) :
    String.utf8EncodeChar (Char.ofNat b.toNat) = [b] := by
  have hv : (Char.ofNat b.toNat).toNat = b.toNat := toNat_ofNat (by omega)
  have hplain : IsPlain (Char.ofNat b.toNat) := by
    rw [IsPlain, hv]
    exact hb
  rw [encodeChar_of_isPlain hplain, hv, UInt8.ofNat_toNat]

theorem encodeChar_of_two (hb : 0xC2 ≤ b.toNat ∧ b.toNat < 0xE0) (hc : continues c = true) :
    String.utf8EncodeChar (Char.ofNat (b.toNat % 32 * 64 + low c)) = [b, c] := by
  rw [continues_iff] at hc
  have hlow := low.eq_def c
  obtain ⟨v, hv⟩ : ∃ v, b.toNat % 32 * 64 + low c = v := ⟨_, rfl⟩
  have hval : (Char.ofNat v).val.toNat = v := toNat_ofNat (by omega)
  have hfirst : UInt8.ofNat (v / 64 % 32 + 0xc0) = b := (byte_eq_iff (by omega)).2 (by omega)
  rw [hv, encodeChar_two (by omega) (by omega), hval, tailByte_eq hc (by omega), hfirst]

theorem encodeChar_of_three (hb : 0xE0 ≤ b.toNat ∧ b.toNat < 0xF0) (hc : second3 b c = true)
    (hd : continues d = true) :
    String.utf8EncodeChar (Char.ofNat ((b.toNat % 16 * 64 + low c) * 64 + low d)) = [b, c, d] := by
  rw [second3_iff] at hc
  rw [continues_iff] at hd
  have hlow := low.eq_def c
  have hlow' := low.eq_def d
  obtain ⟨v, hv⟩ : ∃ v, (b.toNat % 16 * 64 + low c) * 64 + low d = v := ⟨_, rfl⟩
  have hval : (Char.ofNat v).val.toNat = v := toNat_ofNat (by omega)
  have hfirst : UInt8.ofNat (v / 4096 % 16 + 0xe0) = b := (byte_eq_iff (by omega)).2 (by omega)
  rw [hv, encodeChar_three (by omega) (by omega), hval, tailByte_eq hc.1 (by omega),
    tailByte_eq hd (by omega), hfirst]

theorem encodeChar_of_four (hb : 0xF0 ≤ b.toNat ∧ b.toNat < 0xF5) (hc : second4 b c = true)
    (hd : continues d = true) (he : continues e = true) :
    String.utf8EncodeChar
        (Char.ofNat (((b.toNat % 8 * 64 + low c) * 64 + low d) * 64 + low e)) = [b, c, d, e] := by
  rw [second4_iff] at hc
  rw [continues_iff] at hd he
  have hlow := low.eq_def c
  have hlow' := low.eq_def d
  have hlow'' := low.eq_def e
  obtain ⟨v, hv⟩ : ∃ v, ((b.toNat % 8 * 64 + low c) * 64 + low d) * 64 + low e = v := ⟨_, rfl⟩
  have hval : (Char.ofNat v).val.toNat = v := toNat_ofNat (by omega)
  have hfirst : UInt8.ofNat (v / 262144 % 8 + 0xf0) = b := (byte_eq_iff (by omega)).2 (by omega)
  rw [hv, encodeChar_four (by omega), hval, tailByte_eq hc.1 (by omega), tailByte_eq hd (by omega),
    tailByte_eq he (by omega), hfirst]

/-- A character that is read stands there in its bytes. -/
theorem encodeChar_of_next {ch : Char} {tail : Nat} (h : next b rest = .char ch tail) :
    String.utf8EncodeChar ch ++ rest.drop tail = b :: rest := by
  simp only [next, UInt8.lt_iff_toNat_lt, UInt8.reduceToNat] at h
  split at h
  · next h₁ =>
    cases h
    rw [encodeChar_of_one h₁]
    rfl
  split at h
  · cases h
  split at h
  · next h₂ h₃ =>
    split at h
    · cases h
    split at h
    · next hc =>
      cases h
      rw [encodeChar_of_two (by omega) hc]
      rfl
    · cases h
  split at h
  · next h₃ h₄ =>
    split at h
    · cases h
    split at h
    · next hc =>
      split at h
      · cases h
      split at h
      · next hd =>
        cases h
        rw [encodeChar_of_three (by omega) hc hd]
        rfl
      · cases h
    · cases h
  split at h
  · next h₄ h₅ =>
    split at h
    · cases h
    split at h
    · next hc =>
      split at h
      · cases h
      split at h
      · next hd =>
        split at h
        · cases h
        split at h
        · next he =>
          cases h
          rw [encodeChar_of_four (by omega) hc hd he]
          rfl
        · cases h
      · cases h
    · cases h
  · cases h

theorem encode_of_decodeFrom {index : Nat} {bytes : Bytes} {cs : List Char}
    (h : decodeFrom index bytes = .ok cs) : cs.flatMap String.utf8EncodeChar = bytes := by
  fun_induction decodeFrom index bytes generalizing cs with
  | case1 =>
    cases h
    rfl
  | case2 => cases h
  | case3 => cases h
  | case4 index b rest c tail hn ih =>
    cases hrest : decodeFrom (index + 1 + tail) (rest.drop tail) with
    | error e =>
      rw [hrest] at h
      cases h
    | ok cs' =>
      rw [hrest] at h
      cases h
      rw [List.flatMap_cons, ih hrest, encodeChar_of_next hn]

/-- The bytes that are text are those that a text is written as. -/
theorem decode_eq_ok_iff {bytes : Bytes} {s : String} :
    decode bytes = .ok s ↔ bytes = encode s := by
  constructor
  · intro h
    rw [decode] at h
    cases hcs : decodeFrom 0 bytes with
    | error e =>
      rw [hcs] at h
      cases h
    | ok cs =>
      rw [hcs] at h
      cases h
      rw [encode_ofList, encode_of_decodeFrom hcs]
  · intro h
    rw [h, decode_encode]

end Read

end Utf8
end PriceOracle
