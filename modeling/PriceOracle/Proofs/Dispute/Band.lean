import PriceOracle.Config.Basic
import PriceOracle.Dispute.Basic
import PriceOracle.Proofs.Decimal.Whole
import PriceOracle.Proofs.Feed.Check
import PriceOracle.Proofs.Feed.Median

/-!
# PriceOracle.Proofs.Dispute.Band

A node judges the values that it told its own miner to report. Such a value is a rounded price, and
the bounds around the price are not rounded: a history with the price endorses the value when the
value is within the bounds of the price itself (`endorsed_iff`), which it is if nothing was rounded
or the bounds leave room for rounding, but not always (`unendorsed_half`).
-/

namespace PriceOracle
namespace Dispute

open Binary64 History
open Float.Model.UnpackedFloat (Sign)
open Program (Answerer)
open Tracker (priceOf runOf granular noChain offering offered)

variable {x p g threshold : Float}

section Threshold

theorem code_one : code 1.0 = 1022 * 2 ^ 52 + 2 ^ 52 := rfl

theorem size_one : size 1.0 = 1 := by
  rw [size, code_one, value_binade]
  norm_num

theorem isFactor_one : IsFactor 1.0 :=
  ⟨by rw [code_one]; norm_num [infinite], by rw [code_one]; norm_num, rfl⟩

theorem one_mul_eq (x : Float) : 1.0 * x = x := by
  by_cases hx : code x < infinite
  · have hrounded := rounded_mul isFactor_one.finite hx
    have hsign : sign 1.0 * sign x = sign x := by
      rw [isFactor_one.positive]
      cases sign x <;> rfl
    rw [size_one, one_mul, hsign] at hrounded
    exact eq_of_code hrounded.sign_eq (hrounded.code_of_value hx)
  obtain hinfinite | hnot : code x = infinite ∨ infinite < code x := by omega
  · cases hs : sign x with
    | positive =>
      have hx : x = infinity := eq_of_code (hs.trans rfl) (hinfinite.trans rfl)
      rw [hx]
      rfl
    | negative =>
      have hx : x = -infinity := eq_of_code (hs.trans rfl) (hinfinite.trans rfl)
      rw [hx]
      rfl
  · obtain hproduct | ⟨hinfinite, -⟩ := mul_of_not_finite (x := 1.0) hx
    · exact eq_of_not_number hproduct hnot
    · omega

theorem key_zero : key 0.0 = 0 := by
  rw [key, Decimal.code_zero.1, Decimal.code_zero.2, keyOf, Nat.cast_zero]

/-- The thresholds that are allowed. -/
theorem isUnsigned_threshold (h0 : 0.0 ≤ threshold) (h1 : threshold < 1.0) :
    IsUnsigned threshold ∧ code threshold < code 1.0 := by
  obtain ⟨hzero, hnumber⟩ := number_of_le h0
  rw [le_iff_key hzero hnumber, key_zero] at h0
  have hunsigned : IsUnsigned threshold := ⟨hnumber, h0⟩
  rw [lt_iff_key hnumber isFactor_one.finite.le, hunsigned.key_eq,
    isFactor_one.isUnsigned.key_eq] at h1
  exact ⟨hunsigned, by exact_mod_cast h1⟩

theorem isFactor_below (h0 : 0.0 ≤ threshold) (h1 : threshold < 1.0) :
    IsFactor (1.0 - threshold) ∧ size (1.0 - threshold) ≤ 1 := by
  obtain ⟨hunsigned, hlt⟩ := isUnsigned_threshold h0 h1
  have hrounded := rounded_sub isFactor_one.finite isFactor_one.nonzero isFactor_one.positive
    hlt.le hunsigned.zero_or
  have hle : code (1.0 - threshold) ≤ code 1.0 :=
    hrounded.code_le_of_value (sub_le_self _ (value_nonneg _))
  have hge : 1 ≤ code (1.0 - threshold) :=
    hrounded.le_code (by norm_num [infinite]) (value_one_le_sub hlt)
  refine ⟨⟨hle.trans_lt isFactor_one.finite, Nat.one_le_iff_ne_zero.1 hge, hrounded.sign_eq⟩, ?_⟩
  rw [← size_one]
  exact strictMono_value.monotone hle

theorem isFactor_above (h0 : 0.0 ≤ threshold) (h1 : threshold < 1.0) :
    IsFactor (1.0 + threshold) ∧ 1 ≤ size (1.0 + threshold) := by
  obtain ⟨hunsigned, hlt⟩ := isUnsigned_threshold h0 h1
  have hrounded := rounded_add isFactor_one.finite isFactor_one.nonzero isFactor_one.positive
    (hlt.trans isFactor_one.finite) hunsigned.zero_or
  have hge : code 1.0 ≤ code (1.0 + threshold) :=
    hrounded.le_code isFactor_one.finite.le (le_add_of_nonneg_right (value_nonneg _))
  have hle : code (1.0 + threshold) ≤ 1023 * 2 ^ 52 + 2 ^ 52 := by
    have hsize : size threshold ≤ size 1.0 := strictMono_value.monotone hlt.le
    refine hrounded.code_le_of_value ?_
    rw [value_binade]
    rw [size_one] at hsize ⊢
    norm_num
    linarith
  refine ⟨⟨hle.trans_lt (by norm_num [infinite]), ?_, hrounded.sign_eq⟩, ?_⟩
  · exact (Nat.pos_of_ne_zero isFactor_one.nonzero |>.trans_le hge).ne'
  · rw [← size_one]
    exact strictMono_value.monotone hge

theorem mul_le_self {f : Float} (hf : IsFactor f) (hsize : size f ≤ 1) (hp : IsUnsigned p)
    (hfinite : code p < infinite) : key (p * f) ≤ key p := by
  rw [(hp.mul hf).key_eq, hp.key_eq]
  exact_mod_cast (hf.rounded_mul hfinite).code_le_of_value
    (mul_le_of_le_one_right (value_nonneg _) hsize)

theorem le_mul_self {f : Float} (hf : IsFactor f) (hsize : 1 ≤ size f) (hp : IsUnsigned p)
    (hfinite : code p < infinite) : key p ≤ key (p * f) := by
  rw [(hp.mul hf).key_eq, hp.key_eq]
  exact_mod_cast (hf.rounded_mul hfinite).le_code hfinite.le
    (le_mul_of_one_le_right (value_nonneg _) hsize)

end Threshold

section Reported

/-- The first number that does not fit 128 bits. -/
theorem code_limit : code (Float.ofNat (Nat.pow 2 128)) = 1150 * 2 ^ 52 + 2 ^ 52 := by
  have hvalue : value (1150 * 2 ^ 52 + 2 ^ 52) = (Nat.pow 2 128 : ℕ) := by
    rw [value_binade]
    norm_num
  exact (hvalue ▸ rounded_ofNat (Nat.pow 2 128)).code_of_value (by norm_num [infinite])

theorem limit_lt : code (Float.ofNat (Nat.pow 2 128)) < infinite := by
  rw [code_limit]
  norm_num [infinite]

theorem floor_half (n : ℕ) : ⌊(n : ℚ) + 1 / 2⌋₊ = n := by
  rw [Nat.floor_eq_iff (by positivity)]
  constructor <;> linarith

theorem isUnsigned_ofNat (n : ℕ) : IsUnsigned (Float.ofNat n) :=
  (rounded_ofNat n).isUnsigned (.inr rfl)

/-- The greatest double below the limit is a whole number. -/
theorem size_le (hx : code x < code (Float.ofNat (Nat.pow 2 128))) : size x + 1 ≤ 2 ^ 128 := by
  have hle : code x ≤ 1149 * 2 ^ 52 + (2 ^ 53 - 1) := by
    rw [code_limit] at hx
    omega
  have hvalue := strictMono_value.monotone hle
  rw [value_mul_add (by norm_num) (.inl (by norm_num))] at hvalue
  refine (add_le_add_left hvalue 1).trans ?_
  norm_num

/-- A granularity that is allowed, and a price that it takes to a number below the limit. -/
theorem scaled_finite (hp : IsUnsigned p) (hg : ¬ g ≤ 0.0)
    (hlt : p * g < Float.ofNat (Nat.pow 2 128)) :
    IsFactor g ∧ code p < infinite ∧ IsUnsigned (p * g) ∧
      code (p * g) < code (Float.ofNat (Nat.pow 2 128)) := by
  obtain ⟨hnumber, -⟩ := number_of_lt hlt
  rw [lt_iff_key hnumber limit_lt.le, (isUnsigned_ofNat _).key_eq] at hlt
  have hpositive (hnumber : code g ≤ infinite) : 0 < key g := by
    rwa [le_iff_key hnumber (Decimal.code_zero.1 ▸ Nat.zero_le _), key_zero, not_le] at hg
  by_cases hgfinite : code g < infinite
  · have hgunsigned : IsUnsigned g := ⟨hgfinite.le, (hpositive hgfinite.le).le⟩
    have h0 := hpositive hgfinite.le
    rw [hgunsigned.key_eq] at h0
    have hfactor := hgunsigned.isFactor hgfinite (by omega)
    have hunsigned := hp.mul hfactor
    rw [hunsigned.key_eq, Nat.cast_lt] at hlt
    refine ⟨hfactor, ?_, hunsigned, hlt⟩
    by_contra hinfinite
    have heq := (hfactor.mul_infinite (le_antisymm hp.number (not_lt.1 hinfinite))).1
    exact absurd (hlt.trans limit_lt) heq.not_lt
  · -- the product would be infinite, too
    exfalso
    obtain hnan | ⟨heq, hp0, hcode, hsign⟩ := mul_of_not_finite (x := p) hgfinite
    · omega
    · have hgunsigned : IsUnsigned g := ⟨heq.le, (hpositive heq.le).le⟩
      have hgpositive := hgunsigned.zero_or.resolve_left fun h => by
        norm_num [h, infinite] at heq
      rw [hp.zero_or.resolve_left hp0, hgpositive] at hsign
      have hunsigned : IsUnsigned (p * g) := isUnsigned_of_sign hnumber (.inr hsign)
      rw [hunsigned.key_eq, Nat.cast_lt] at hlt
      exact absurd (hlt.trans limit_lt) hcode.not_lt

/-- The value that is reported for a price, read back as a double. -/
theorem approximate_granular {feed : Feed} (hx : IsUnsigned (p * feed.granularity))
    (hlt : code (p * feed.granularity) < code (Float.ofNat (Nat.pow 2 128))) :
    approximate (granular feed p) = Float.ofNat ⌊size (p * feed.granularity) + 1 / 2⌋₊ := by
  have hsize := size_le hlt
  have hnonneg : 0 ≤ size (p * feed.granularity) := value_nonneg _
  have hfloor : ⌊size (p * feed.granularity) + 1 / 2⌋₊ < 2 ^ 128 := by
    rw [Nat.floor_lt (by linarith)]
    push_cast
    linarith
  have hrounded : Decimal.roundedWithin Tracker.greatest128 (p * feed.granularity) =
      ⌊size (p * feed.granularity) + 1 / 2⌋₊ := by
    rw [Decimal.roundedWithin_eq _ hx (hlt.trans limit_lt)]
    refine Nat.min_eq_right (Nat.le_of_lt_succ ?_)
    exact hfloor
  have hword : (Tracker.word ⌊size (p * feed.granularity) + 1 / 2⌋₊).toNat =
      ⌊size (p * feed.granularity) + 1 / 2⌋₊ := by
    rw [Tracker.word, BitVec.toNat_ofNat]
    exact Nat.mod_eq_of_lt (hfloor.trans (by norm_num))
  rw [approximate, granular, hrounded, hword]

end Reported

section Band

/-- The bounds around a single price, and the value that is reported for it. -/
def InBand (feed : Feed) (threshold price : Float) : Prop :=
  between (price * (1.0 - threshold) * feed.granularity) (approximate (granular feed price))
    (price * (1.0 + threshold) * feed.granularity) = true

variable {feed : Feed} (h0 : 0.0 ≤ threshold) (h1 : threshold < 1.0) (hp : IsUnsigned p)
  (hg : ¬ feed.granularity ≤ 0.0)
  (hlt : p * feed.granularity < Float.ofNat (Nat.pow 2 128))

include h0 h1 hp hg hlt

theorem inBand_iff : InBand feed threshold p ↔
    code (p * (1.0 - threshold) * feed.granularity) ≤
        code (Float.ofNat ⌊size (p * feed.granularity) + 1 / 2⌋₊) ∧
      code (Float.ofNat ⌊size (p * feed.granularity) + 1 / 2⌋₊) ≤
        code (p * (1.0 + threshold) * feed.granularity) := by
  obtain ⟨hunit, hfinite, hunsigned, hlt⟩ := scaled_finite hp hg hlt
  have hlow := (hp.mul (isFactor_below h0 h1).1).mul hunit
  have hhigh := (hp.mul (isFactor_above h0 h1).1).mul hunit
  have hvalue := isUnsigned_ofNat ⌊size (p * feed.granularity) + 1 / 2⌋₊
  rw [InBand, approximate_granular hunsigned hlt,
    between_iff_key hlow.number hvalue.number hhigh.number, hlow.key_eq, hvalue.key_eq,
    hhigh.key_eq, Nat.cast_le, Nat.cast_le]

/-- Nothing is rounded. -/
theorem inBand_of_whole (hwhole : ∃ n : ℕ, size (p * feed.granularity) = n) :
    InBand feed threshold p := by
  obtain ⟨hunit, hfinite, hunsigned, hlt'⟩ := scaled_finite hp hg hlt
  obtain ⟨hbelow, hle⟩ := isFactor_below h0 h1
  obtain ⟨habove, hge⟩ := isFactor_above h0 h1
  have hlow := (hp.mul hbelow).mul hunit
  have hhigh := (hp.mul habove).mul hunit
  obtain ⟨n, hn⟩ := hwhole
  have hfloor : ⌊size (p * feed.granularity) + 1 / 2⌋₊ = n := by rw [hn, floor_half]
  have hcode : code (Float.ofNat n) = code (p * feed.granularity) :=
    (hn ▸ rounded_ofNat n).code_of_value (hlt'.trans limit_lt)
  have hkeylow := hunit.key_mul_le (hp.mul hbelow).number hp.number
    (mul_le_self hbelow hle hp hfinite)
  have hkeyhigh := hunit.key_mul_le hp.number (hp.mul habove).number
    (le_mul_self habove hge hp hfinite)
  rw [hlow.key_eq, hunsigned.key_eq, Nat.cast_le] at hkeylow
  rw [hunsigned.key_eq, hhigh.key_eq, Nat.cast_le] at hkeyhigh
  rw [inBand_iff h0 h1 hp hg hlt, hfloor, hcode]
  exact ⟨hkeylow, hkeyhigh⟩

/-- The bounds leave room for rounding. -/
theorem inBand_of_room
    (hlow : size (p * (1.0 - threshold) * feed.granularity) + 1 / 2 ≤ size (p * feed.granularity))
    (hhigh : size (p * feed.granularity) + 1 / 2 ≤
      size (p * (1.0 + threshold) * feed.granularity)) : InBand feed threshold p := by
  obtain ⟨hunit, hfinite, hunsigned, hlt'⟩ := scaled_finite hp hg hlt
  have hlownumber := ((hp.mul (isFactor_below h0 h1).1).mul hunit).number
  have hrounded := rounded_ofNat ⌊size (p * feed.granularity) + 1 / 2⌋₊
  have hnonneg : 0 ≤ size (p * feed.granularity) := value_nonneg _
  rw [inBand_iff h0 h1 hp hg hlt]
  constructor
  · refine hrounded.le_code hlownumber ?_
    have := Nat.lt_floor_add_one (size (p * feed.granularity) + 1 / 2)
    rw [size] at hlow
    linarith
  · refine hrounded.code_le_of_value ((Nat.floor_le (by linarith)).trans hhigh)

end Band

section Endorsed

/-- Do the samples around an instant speak for a value? -/
def Endorsed (h : History) (q : Word) (instant delta : Int) (threshold granularity : Float) :
    Prop :=
  ∃ check, h.check (approximate q) instant delta threshold granularity = some check ∧
    check.within = true ∧ recommendsSupport (approximate q) check.low check.high = false

theorem endorsed_of_mem {h : History} {s : Sample} {delta : Int} (hs : s ∈ h.samples)
    (hdelta : 0 ≤ delta) (q : Word) (threshold granularity : Float) :
    Endorsed h q s.timestamp delta threshold granularity ↔
      (judge (h.around s.timestamp delta) (approximate q) threshold granularity).within = true := by
  unfold Endorsed
  rw [check_of_mem hs hdelta]
  constructor
  · rintro ⟨check, heq, hwithin, -⟩
    exact Option.some.inj heq ▸ hwithin
  · intro hwithin
    refine ⟨_, rfl, hwithin, ?_⟩
    rw [recommendsSupport]
    exact (congrArg (!·) hwithin).trans rfl

/-- A history endorses what is reported for one of its prices, whatever else is in it, just when
the value is within the bounds of this price. -/
theorem forall_endorsed_iff {feed : Feed} {s : Sample}
    (hscale : IsScale threshold feed.granularity) (hprice : code s.price < infinite) :
    (∀ (h : History) (delta : Int), s ∈ h.samples → 0 ≤ delta →
      Endorsed h (granular feed s.price) s.timestamp delta threshold feed.granularity) ↔
        InBand feed threshold s.price := by
  constructor
  · intro hall
    have hself : s ∈ (⟨[s]⟩ : History).samples := List.mem_singleton_self s
    have hwithin := (endorsed_of_mem hself le_rfl _ _ _).1 (hall ⟨[s]⟩ 0 hself le_rfl)
    have haround : (⟨[s]⟩ : History).around s.timestamp 0 = [s] :=
      (around_own s 0).trans (if_pos le_rfl)
    rw [haround, judge_one hprice] at hwithin
    exact hwithin
  · intro hband h delta hs hdelta
    rw [endorsed_of_mem hs hdelta]
    exact within_of_mem hscale (mem_around hs hdelta) hprice.le hband

theorem valid_of_fault? {c : Config} (hvalid : c.fault? = none) :
    0.0 ≤ c.dispute.threshold ∧ c.dispute.threshold < 1.0 ∧
      ∀ feed ∈ c.service.feeds, ¬ feed.granularity ≤ 0.0 := by
  unfold Config.fault? at hvalid
  split at hvalid
  · cases hvalid
  · split at hvalid
    · cases hvalid
    · next hthreshold =>
      rw [Bool.not_eq_true', Bool.not_eq_false, Bool.and_eq_true, decide_eq_true_iff,
        decide_eq_true_iff] at hthreshold
      refine ⟨hthreshold.1, hthreshold.2, fun feed hfeed hle => ?_⟩
      have hnone := List.findSome?_eq_none_iff.1 hvalid feed hfeed
      rw [Config.feedFault, if_pos hle] at hnone
      cases hnone

variable {χ : Type} {answerChain : Answerer Chain.Call.Answer χ} {c : Config} {feed : Feed}
  {w : World χ}

/-- A run that takes a price reports its rounded value, and the histories with this price endorse
that value just when it is within the bounds of the price. It is when the scaled price is a whole
number, and when the bounds are at least a half away from the scaled price. -/
theorem endorsed_iff (hvalid : c.fault? = none) (hfeed : feed ∈ c.service.feeds)
    (hprice : priceOf answerChain feed w = some p)
    (hrun : (runOf answerChain feed c.service.retention w).1 = .ok ())
    (hlt : p * feed.granularity < Float.ofNat (Nat.pow 2 128)) :
    (runOf answerChain feed c.service.retention w).2.store.get (Key.queryValue feed.requestId) =
        .ok (some (Quantity.encode (granular feed p))) ∧
      ((∀ (h : History) (delta : Int), ⟨w.now, p, feed.symbol⟩ ∈ h.samples → 0 ≤ delta →
          Endorsed h (granular feed p) w.now delta c.dispute.threshold feed.granularity) ↔
        InBand feed c.dispute.threshold p) ∧
      ((∃ n : ℕ, size (p * feed.granularity) = n) ∨
          size (p * (1.0 - c.dispute.threshold) * feed.granularity) + 1 / 2 ≤
              size (p * feed.granularity) ∧
            size (p * feed.granularity) + 1 / 2 ≤
              size (p * (1.0 + c.dispute.threshold) * feed.granularity) →
        InBand feed c.dispute.threshold p) := by
  obtain ⟨h0, h1, hfeeds⟩ := valid_of_fault? hvalid
  have hg := hfeeds feed hfeed
  have hp := Tracker.isUnsigned_priceOf hprice
  obtain ⟨hunit, hfinite, -, -⟩ := scaled_finite hp hg hlt
  have hscale : IsScale c.dispute.threshold feed.granularity :=
    ⟨(isFactor_below h0 h1).1, (isFactor_above h0 h1).1, hunit⟩
  refine ⟨Tracker.reported_of_ok hprice hrun, ?_, ?_⟩
  · exact forall_endorsed_iff (s := ⟨w.now, p, feed.symbol⟩) hscale hfinite
  · rintro (hwhole | ⟨hlow, hhigh⟩)
    · exact inBand_of_whole h0 h1 hp hg hlt hwhole
    · exact inBand_of_room h0 h1 hp hg hlt hlow hhigh

/-- A configuration with one feed, whose only source offers a price. -/
def modest (threshold : Float) : Config where
  service := { retention := 3600, feeds := [offered 1] }
  dispute := { threshold }

/-- One hundred is reported as it is, and endorsed. -/
theorem endorsed_hundred :
    (modest 0.01).fault? = none ∧ offered 1 ∈ (modest 0.01).service.feeds ∧
      priceOf noChain (offered 1) (offering 100.0 0) = some 100.0 ∧
      (runOf noChain (offered 1) (modest 0.01).service.retention (offering 100.0 0)).1 = .ok () ∧
      100.0 * (offered 1).granularity < Float.ofNat (Nat.pow 2 128) ∧
      ∀ (h : History) (delta : Int), ⟨0, 100.0, "ETH/USD"⟩ ∈ h.samples → 0 ≤ delta →
        Endorsed h (granular (offered 1) 100.0) 0 delta (modest 0.01).dispute.threshold
          (offered 1).granularity := by
  have hvalid : (modest 0.01).fault? = none := by decide +kernel
  have hfeed : offered 1 ∈ (modest 0.01).service.feeds := List.mem_singleton_self _
  have hlt : 100.0 * (offered 1).granularity < Float.ofNat (Nat.pow 2 128) := by decide +kernel
  obtain ⟨hprice, hrun, -⟩ := Tracker.run_offered (x := 100.0) (by decide +kernel) 3600
  obtain ⟨-, hiff, -⟩ := endorsed_iff hvalid hfeed hprice hrun hlt
  refine ⟨hvalid, hfeed, hprice, hrun, hlt, ?_⟩
  rw [Tracker.now_offering] at hiff
  refine hiff.2 ?_
  rw [InBand]
  decide +kernel

/-- One half is reported as one, which is not within a quarter of one half. -/
theorem unendorsed_half :
    (modest 0.25).fault? = none ∧ offered 1 ∈ (modest 0.25).service.feeds ∧
      priceOf noChain (offered 1) (offering 0.5 0) = some 0.5 ∧
      0.5 * (offered 1).granularity < Float.ofNat (Nat.pow 2 128) ∧
      ∃ w, runOf noChain (offered 1) (modest 0.25).service.retention (offering 0.5 0) =
          (.ok (), w) ∧
        w.store.get (Key.priceHistory 1) =
          .ok (some (History.encode ⟨[⟨0, 0.5, "ETH/USD"⟩]⟩)) ∧
        w.store.get (Key.queryValue 1) = .ok (some (Quantity.encode 1)) ∧
        ∃ check, History.check ⟨[⟨0, 0.5, "ETH/USD"⟩]⟩ (approximate 1) 0 0
            (modest 0.25).dispute.threshold (offered 1).granularity = some check ∧
          check.within = false ∧
          recommendsSupport (approximate 1) check.low check.high = true := by
  obtain ⟨hprice, hrun, hhistory⟩ := Tracker.run_offered (x := 0.5) (by decide +kernel) 3600
  have hvalue := Tracker.reported_of_ok hprice hrun
  have hgranular : granular (offered 1) 0.5 = 1 := by decide +kernel
  rw [Tracker.extend_first] at hhistory
  rw [hgranular] at hvalue
  exact ⟨by decide +kernel, List.mem_singleton_self _, hprice, by decide +kernel, _,
    Prod.ext hrun rfl, hhistory, hvalue, _, rfl, by decide +kernel, by decide +kernel⟩

end Endorsed

end Dispute
end PriceOracle
