import PriceOracle.Proofs.Binary64.Unsigned
import PriceOracle.Proofs.Decimal.Nearest
import PriceOracle.Proofs.Feed.Run

/-!
# PriceOracle.Proofs.Feed.Median

Prices and their medians. A price is finite and not below zero; the median of prices is a price, or
half the sum of two of them, which is not below zero either but may be infinite.
-/

namespace PriceOracle

open Binary64

namespace Price

theorem isPrice_iff (x : Float) : isPrice x = true ↔ code x < infinite ∧ IsUnsigned x := by
  obtain ⟨hcode, hsign⟩ : code 0.0 = 0 ∧ sign 0.0 = .positive := Decimal.code_zero
  have hkey : key 0.0 = 0 := by rw [key, hcode, hsign, keyOf, Nat.cast_zero]
  have hlt (hfinite : code x < infinite) : ¬ x < 0.0 ↔ 0 ≤ key x := by
    rw [lt_iff_key hfinite.le (hcode ▸ Nat.zero_le _), hkey, not_lt]
  rw [isPrice_eq_true_iff, isFinite_iff]
  constructor
  · rintro ⟨hfinite, hneg⟩
    exact ⟨hfinite, hfinite.le, (hlt hfinite).1 hneg⟩
  · rintro ⟨hfinite, hx⟩
    exact ⟨hfinite, (hlt hfinite).2 hx.nonneg⟩

end Price

namespace Tracker

open Program (Answerer)

variable {χ : Type} {answerChain : Answerer Chain.Call.Answer χ} {feed : Feed} {w : World χ}
  {prices : List Float} {price : Float}

theorem toFloat_ofFloat {x : Float} (hx : code x ≤ infinite) : (Double.ofFloat x).toFloat = x :=
  ofBits_toBits hx

theorem mem_of_mem_middles {d : Double} {values : List Double} (hd : d ∈ middles values) :
    d ∈ values := by
  refine (List.mergeSort_perm values Double.le).mem_iff.1 ?_
  simp only [middles] at hd
  split at hd
  · exact List.mem_of_mem_drop (List.mem_of_mem_take hd)
  · exact List.mem_of_mem_drop (List.mem_of_mem_take hd)

/-- The middle ones of prices are prices. -/
theorem isPrice_of_mem_middles {d : Double} (hprices : ∀ x ∈ prices, Price.isPrice x = true)
    (hd : d ∈ middles (prices.map Double.ofFloat)) : Price.isPrice d.toFloat = true := by
  obtain ⟨x, hx, rfl⟩ := List.mem_map.1 (mem_of_mem_middles hd)
  have hprice := hprices x hx
  rwa [toFloat_ofFloat ((Price.isPrice_iff x).1 hprice).1.le]

theorem isFactor_two : IsFactor 2.0 := ⟨by decide, by decide, rfl⟩

theorem isUnsigned_median (hprices : ∀ x ∈ prices, Price.isPrice x = true)
    (hmedian : medianOf prices = some price) : IsUnsigned price := by
  have hmiddle {d : Double} (hd : d ∈ middles (prices.map Double.ofFloat)) :=
    (Price.isPrice_iff _).1 (isPrice_of_mem_middles hprices hd)
  rw [medianOf, median] at hmedian
  split at hmedian
  · next d heq =>
    cases hmedian
    exact (hmiddle (heq ▸ List.mem_singleton_self d)).2
  · next d e heq =>
    cases hmedian
    obtain ⟨hdfinite, hd⟩ := hmiddle (d := d) (by simp [heq])
    obtain ⟨hefinite, he⟩ := hmiddle (d := e) (by simp [heq])
    exact (hd.add hdfinite he hefinite).div isFactor_two
  · cases hmedian

theorem isUnsigned_priceOf (hprice : priceOf answerChain feed w = some price) :
    IsUnsigned price :=
  isUnsigned_median (fun _ hx => isPrice_of_mem_found hx) hprice

/-- The run of a feed of one source in a world that offers a price. -/
theorem run_offered {x : Float} (hx : Price.isPrice x = true) (retention : Nat) :
    priceOf noChain (offered 1) (offering x 0) = some x ∧
      (runOf noChain (offered 1) retention (offering x 0)).1 = .ok () ∧
      (runOf noChain (offered 1) retention (offering x 0)).2.store.get (Key.priceHistory 1) =
        .ok (some (extend ⟨0, x, "ETH/USD"⟩ (cutoff 0 retention) .empty).encode) := by
  have hfound : found noChain (offered 1).sources (offering x 0) = [x] :=
    found_offering hx 1 0
  have hprice : priceOf noChain (offered 1) (offering x 0) = some x := by
    rw [priceOf, hfound, medianOf_one, toFloat_ofFloat ((Price.isPrice_iff x).1 hx).1.le]
  have hchange : changeOf (offered 1) retention (offering x 0).now x none =
      .ok (extend ⟨0, x, "ETH/USD"⟩ (cutoff 0 retention) .empty).encode := by
    rw [now_offering]
    rfl
  have hrun := runOf_of_taken hprice rfl hchange
  exact ⟨hprice, hrun.1, hrun.2.1⟩

end Tracker
end PriceOracle
