import Mathlib.Data.List.Sort
import PriceOracle.Feed.Median

/-!
# PriceOracle.Proofs.Feed.Middle

The order of all doubles is total, and no two of them have one place in it (`rank_injective`). So
values have only one list in order (`sorted_eq_of_perm`), and their median does not depend on how
they are listed (`median_eq_of_perm`).

At most half of the values are below a middle one, and at most half above (`balanced_of_mem_middles`).
So the middle ones are where more than half of the values are (`middles_account`).
-/

namespace PriceOracle

namespace Double

variable {a b c : Double}

theorem rank_injective : Function.Injective rank := by
  intro a b h
  have ha := a.bits.toNat_lt
  have hb := b.bits.toNat_lt
  have hpow : Nat.pow 2 63 = 2 ^ 63 := rfl
  have hbits : a.bits.toNat = b.bits.toNat := by
    unfold rank at h
    rw [hpow] at h
    split at h <;> split at h <;> omega
  exact congrArg Double.mk (UInt64.toNat_inj.1 hbits)

theorem le_iff : le a b = true ↔ a.rank ≤ b.rank := decide_eq_true_iff

theorem le_total (a b : Double) : (le a b || le b a) = true := by
  rw [Bool.or_eq_true, le_iff, le_iff]
  exact Int.le_total _ _

theorem le_trans (hab : le a b = true) (hbc : le b c = true) : le a c = true :=
  le_iff.2 (Int.le_trans (le_iff.1 hab) (le_iff.1 hbc))

theorem le_antisymm (hab : le a b = true) (hba : le b a = true) : a = b :=
  rank_injective (Int.le_antisymm (le_iff.1 hab) (le_iff.1 hba))

end Double

section Middle

variable {values values' : List Double}

theorem pairwise_sorted (values : List Double) :
    (sorted values).Pairwise fun a b => Double.le a b = true := by
  refine List.pairwise_mergeSort ?_ Double.le_total values
  exact fun _ _ _ => Double.le_trans

theorem sorted_perm (values : List Double) : (sorted values).Perm values :=
  List.mergeSort_perm values Double.le

theorem sorted_eq_of_perm (h : values.Perm values') : sorted values = sorted values' :=
  List.Perm.eq_of_pairwise (fun _ _ _ _ => Double.le_antisymm) (pairwise_sorted values)
    (pairwise_sorted values') ((sorted_perm values).trans (h.trans (sorted_perm values').symm))

theorem middles_eq_of_perm (h : values.Perm values') : middles values = middles values' := by
  simp only [middles, sorted_eq_of_perm h, h.length_eq]

theorem median_eq_of_perm (h : values.Perm values') : median values = median values' := by
  rw [median, median, middles_eq_of_perm h]

/-- What is taken from values in order as their middle ones, and what as their median. -/
inductive Taken (ordered : List Double) : List Double → Option Float → Prop where
  | nothing : ordered = [] → Taken ordered [] none
  | one {x : Double} : ordered.length % 2 = 1 → ordered[ordered.length / 2]? = some x →
      Taken ordered [x] (some x.toFloat)
  | two {x y : Double} : ordered.length % 2 = 0 → ordered[ordered.length / 2 - 1]? = some x →
      ordered[ordered.length / 2]? = some y →
      Taken ordered [x, y] (some ((x.toFloat + y.toFloat) / 2.0))

theorem taken_sorted (values : List Double) :
    Taken (sorted values) (middles values) (median values) := by
  have hlength : (sorted values).length = values.length := List.length_mergeSort values
  rw [median]
  by_cases hnil : values = []
  · subst hnil
    exact .nothing (List.mergeSort_nil)
  have hpos := List.length_pos_iff.2 hnil
  obtain heven | hodd := Nat.mod_two_eq_zero_or_one values.length
  · obtain ⟨x, hx⟩ : ∃ x, (sorted values)[values.length / 2 - 1]? = some x :=
      ⟨_, List.getElem?_eq_getElem (by omega)⟩
    obtain ⟨y, hy⟩ : ∃ y, (sorted values)[values.length / 2]? = some y :=
      ⟨_, List.getElem?_eq_getElem (by omega)⟩
    have hmiddles : middles values = [x, y] := by
      obtain ⟨hltx, rfl⟩ := List.getElem?_eq_some_iff.1 hx
      obtain ⟨hlty, rfl⟩ := List.getElem?_eq_some_iff.1 hy
      have hnext : values.length / 2 - 1 + 1 = values.length / 2 := by omega
      simp only [middles, heven, if_true, Nat.ne_of_gt hpos, if_false]
      rw [List.drop_eq_getElem_cons hltx, hnext, List.drop_eq_getElem_cons hlty]
      rfl
    rw [hmiddles]
    exact .two (hlength ▸ heven) (hlength ▸ hx) (hlength ▸ hy)
  · obtain ⟨x, hx⟩ : ∃ x, (sorted values)[values.length / 2]? = some x :=
      ⟨_, List.getElem?_eq_getElem (by omega)⟩
    have hmiddles : middles values = [x] := by
      obtain ⟨hlt, rfl⟩ := List.getElem?_eq_some_iff.1 hx
      simp only [middles, hodd, Nat.one_ne_zero, if_false]
      rw [List.drop_eq_getElem_cons hlt]
      rfl
    rw [hmiddles]
    exact .one (hlength ▸ hodd) (hlength ▸ hx)

/-- Only of no values there is no median. -/
theorem median_eq_none_iff : median values = none ↔ values = [] := by
  constructor
  · intro hnone
    have htaken := taken_sorted values
    rw [hnone] at htaken
    generalize middles values = ms at htaken
    cases htaken with
    | nothing hnil => exact (hnil ▸ sorted_perm values).nil_eq.symm
  · rintro rfl
    rfl

end Middle

/-! ## Majorities -/

section Majority

variable {values : List Double} {x lo hi : Double}

/-- Is a double between two others, or one of them? -/
def Double.within (lo hi x : Double) : Bool := le lo x && le x hi

theorem Double.within_iff : within lo hi x = true ↔ lo.rank ≤ x.rank ∧ x.rank ≤ hi.rank := by
  rw [within, Bool.and_eq_true, le_iff, le_iff]

/-- How many of the values are below a double. -/
def below (x : Double) (values : List Double) : Nat := values.countP fun v => v.rank < x.rank

def above (x : Double) (values : List Double) : Nat := values.countP fun v => x.rank < v.rank

theorem below_and_above_of_sorted {front rest : List Double}
    (h : (front ++ x :: rest).Pairwise fun a b => Double.le a b = true) :
    below x (front ++ x :: rest) ≤ front.length ∧ above x (front ++ x :: rest) ≤ rest.length := by
  simp only [Double.le_iff] at h
  obtain ⟨-, hrest, hfront⟩ := List.pairwise_append.1 h
  have hbelow : below x (x :: rest) = 0 := by
    rw [below, List.countP_eq_zero, List.forall_mem_cons]
    simp only [decide_eq_true_eq, Int.not_lt]
    exact ⟨Int.le_refl _, (List.pairwise_cons.1 hrest).1⟩
  have habove : above x front = 0 := by
    rw [above, List.countP_eq_zero]
    simp only [decide_eq_true_eq, Int.not_lt]
    exact fun v hv => hfront v hv x List.mem_cons_self
  constructor
  · calc below x (front ++ x :: rest) = below x front + below x (x :: rest) := List.countP_append
      _ = below x front := by rw [hbelow, Nat.add_zero]
      _ ≤ front.length := List.countP_le_length
  · calc above x (front ++ x :: rest) = above x front + above x (x :: rest) := List.countP_append
      _ = above x rest := by rw [habove, Nat.zero_add, above, List.countP_cons]; simp [above]
      _ ≤ rest.length := List.countP_le_length

theorem Taken.exists_split {ordered middles : List Double} {median : Option Float}
    (h : Taken ordered middles median) (hx : x ∈ middles) :
    ∃ front rest, ordered = front ++ x :: rest ∧ 2 * front.length ≤ ordered.length ∧
      2 * rest.length ≤ ordered.length := by
  have hplace : ∃ p, ordered[p]? = some x ∧ 2 * p ≤ ordered.length ∧
      ordered.length ≤ 2 * (p + 1) := by
    cases h with
    | nothing => cases hx
    | one hodd h =>
      obtain rfl := List.mem_singleton.1 hx
      exact ⟨_, h, by omega, by omega⟩
    | two heven h₁ h₂ =>
      have hpos := (List.getElem?_eq_some_iff.1 h₁).1
      rw [List.mem_cons, List.mem_singleton] at hx
      obtain rfl | rfl := hx
      · exact ⟨_, h₁, by omega, by omega⟩
      · exact ⟨_, h₂, by omega, by omega⟩
  obtain ⟨p, hp, hle, hge⟩ := hplace
  obtain ⟨hlt, rfl⟩ := List.getElem?_eq_some_iff.1 hp
  refine ⟨ordered.take p, ordered.drop (p + 1), ?_, ?_, ?_⟩
  · rw [← List.drop_eq_getElem_cons hlt, List.take_append_drop]
  · rw [List.length_take_of_le hlt.le]
    exact hle
  · rw [List.length_drop]
    omega

/-- At most half of the values are below a middle one, and at most half above. -/
theorem balanced_of_mem_middles (hx : x ∈ middles values) :
    2 * below x values ≤ values.length ∧ 2 * above x values ≤ values.length := by
  have hperm := sorted_perm values
  have hsorted := pairwise_sorted values
  obtain ⟨front, rest, hsplit, hfront, hrest⟩ := (taken_sorted values).exists_split hx
  rw [hsplit] at hsorted
  obtain ⟨hbelow, habove⟩ := below_and_above_of_sorted hsorted
  rw [← hsplit] at hbelow habove
  rw [below, ← hperm.countP_eq, above, ← hperm.countP_eq, ← hperm.length_eq]
  exact ⟨(Nat.mul_le_mul_left 2 hbelow).trans hfront, (Nat.mul_le_mul_left 2 habove).trans hrest⟩

/-- Where more than half of the values are, there are the middle ones, too. -/
theorem within_of_mem_middles (hx : x ∈ middles values)
    (hmost : values.length < 2 * values.countP (Double.within lo hi)) :
    Double.within lo hi x = true := by
  obtain ⟨hbelow, habove⟩ := balanced_of_mem_middles hx
  rw [Double.within_iff]
  constructor
  · by_contra hlt
    have hle : values.countP (Double.within lo hi) ≤ above x values := by
      refine List.countP_mono_left fun v _ hv => decide_eq_true ?_
      have := (Double.within_iff.1 hv).1
      omega
    omega
  · by_contra hlt
    have hle : values.countP (Double.within lo hi) ≤ below x values := by
      refine List.countP_mono_left fun v _ hv => decide_eq_true ?_
      have := (Double.within_iff.1 hv).2
      omega
    omega

/-- More than half of the values cannot all be on one side of a middle one. -/
theorem between_of_mem_middles {right wrong : List Double} (hx : x ∈ middles values)
    (hvalues : values.Perm (right ++ wrong)) (hmost : wrong.length < right.length) :
    ∃ a ∈ right, ∃ b ∈ right, Double.within a b x = true := by
  obtain ⟨hbelow, habove⟩ := balanced_of_mem_middles hx
  have hlength := hvalues.length_eq
  rw [List.length_append] at hlength
  obtain ⟨a, ha, hax⟩ : ∃ a ∈ right, a.rank ≤ x.rank := by
    by_contra! hall
    have hright : above x right = right.length :=
      List.countP_eq_length.2 fun v hv => decide_eq_true (hall v hv)
    rw [above, hvalues.countP_eq, List.countP_append, ← above, hright] at habove
    omega
  obtain ⟨b, hb, hxb⟩ : ∃ b ∈ right, x.rank ≤ b.rank := by
    by_contra! hall
    have hright : below x right = right.length :=
      List.countP_eq_length.2 fun v hv => decide_eq_true (hall v hv)
    rw [below, hvalues.countP_eq, List.countP_append, ← below, hright] at hbelow
    omega
  exact ⟨a, ha, b, hb, Double.within_iff.2 ⟨hax, hxb⟩⟩

/-- The middle ones are taken from the values in order, however they are listed, and the median from
them. They are where more than half of the values are. The median of an odd number of values is one
of them, with at most half of them below and at most half above it, and it is between two of the
right ones as long as most are right. -/
theorem middles_account (values : List Double) :
    (∀ ordered, ordered.Perm values → ordered.Pairwise (fun a b => Double.le a b = true) →
        Taken ordered (middles values) (median values)) ∧
      (∀ values', values'.Perm values →
        middles values' = middles values ∧ median values' = median values) ∧
      (∀ lo hi, values.length < 2 * values.countP (Double.within lo hi) →
        ∀ x ∈ middles values, Double.within lo hi x = true) ∧
      (values.length % 2 = 1 → ∃ x ∈ values, median values = some x.toFloat ∧
        2 * below x values ≤ values.length ∧ 2 * above x values ≤ values.length ∧
        ∀ right wrong, values.Perm (right ++ wrong) → wrong.length < right.length →
          ∃ a ∈ right, ∃ b ∈ right, Double.within a b x = true) := by
  refine ⟨fun ordered hperm hordered => ?_,
    fun values' h => ⟨middles_eq_of_perm h, median_eq_of_perm h⟩,
    fun lo hi hmost x hx => within_of_mem_middles hx hmost, fun hodd => ?_⟩
  · have heq : ordered = sorted values :=
      List.Perm.eq_of_pairwise (fun _ _ _ _ => Double.le_antisymm) hordered
        (pairwise_sorted values) (hperm.trans (sorted_perm values).symm)
    rw [heq]
    exact taken_sorted values
  · have htaken := taken_sorted values
    have hlength := (sorted_perm values).length_eq
    generalize hmiddles : middles values = ms at htaken
    generalize hmedian : median values = m at htaken
    cases htaken with
    | nothing hnil =>
      rw [hnil] at hlength
      rw [← hlength] at hodd
      cases hodd
    | two heven => omega
    | @one x _ hx =>
      have hmem : x ∈ middles values := by simp [hmiddles]
      obtain ⟨hbelow, habove⟩ := balanced_of_mem_middles hmem
      refine ⟨x, (sorted_perm values).mem_iff.1 (List.mem_of_getElem? hx), rfl, hbelow, habove,
        fun right wrong hvalues hmost => between_of_mem_middles hmem hvalues hmost⟩

end Majority

end PriceOracle
