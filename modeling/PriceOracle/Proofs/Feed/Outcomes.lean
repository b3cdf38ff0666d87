import Mathlib.Data.List.ReduceOption
import PriceOracle.Proofs.Feed.Run
import PriceOracle.Proofs.Steady

/-!
# PriceOracle.Proofs.Feed.Outcomes

What asking the sources of a feed comes to, source by source: a price or a failure. Only the prices
are found (`found_eq`). Where each site keeps to one document, an outcome depends on the source
alone, and not on what was asked before (`outcomes_of_settled`).
-/

namespace PriceOracle
namespace Tracker

open Node Node.Action
open Program (Answerer)

variable {χ : Type} {answerChain : Answerer Chain.Call.Answer χ} {w : World χ}
  {documents : String → Except Fetch.Error Bytes}

/-- What comes of sources that are asked one after another. -/
def outcomes (answerChain : Answerer Chain.Call.Answer χ) :
    List Source → World χ → List (Option Float)
  | [], _ => []
  | source :: rest, w =>
    let (price, w) := (priceAt source).outcome.run (World.answer answerChain) w
    price.toOption.getD none :: outcomes answerChain rest w

theorem outcomes_cons {source : Source} {rest : List Source} {price : Option Float} {w' : World χ}
    (h : (priceAt source).outcome.run (World.answer answerChain) w = (.ok price, w')) :
    outcomes answerChain (source :: rest) w = price :: outcomes answerChain rest w' := by
  rw [outcomes, h]
  rfl

theorem found_eq (answerChain : Answerer Chain.Call.Answer χ) (sources : List Source)
    (w : World χ) :
    found answerChain sources w = (outcomes answerChain sources w).reduceOption := by
  suffices hrun : ∃ w', (prices sources).outcome.run (World.answer answerChain) w =
      (.ok (outcomes answerChain sources w).reduceOption, w') by
    obtain ⟨w', hrun⟩ := hrun
    rw [found, hrun]
    rfl
  induction sources generalizing w with
  | nil => exact ⟨w, rfl⟩
  | cons source rest ih =>
    obtain ⟨price, web, hprice, -⟩ := run_priceAt answerChain source w
    obtain ⟨w', hrest⟩ := ih { w with web }
    refine ⟨w', ?_⟩
    rw [prices, run_andThen, hprice]
    simp only
    rw [run_andThen, hrest, outcomes_cons hprice]
    cases price <;> rfl

/-! ## Sites that do not change -/

/-- Each site keeps to one document, or to one failure. -/
def Settled (documents : String → Except Fetch.Error Bytes) (w : World χ) : Prop :=
  ∀ url hits, (Site.fetch ⟨(w.siteAt url).script, hits⟩ w.patience).1 = documents url

theorem Settled.fetch (h : Settled documents w) (url : String) :
    Settled documents (World.answer answerChain (.fetch url) w).2 := by
  intro url' hits
  rw [World.script_fetch]
  exact h url' hits

/-- The documents of a world as it is now. -/
def documentsOf (w : World χ) (url : String) : Except Fetch.Error Bytes :=
  ((w.siteAt url).fetch w.patience).1

theorem settled_of_short (hweb : ∀ url, (w.siteAt url).script.length ≤ 1) :
    Settled (documentsOf w) w :=
  fun url hits => World.fetch_of_short (hweb url) hits _ w.patience

theorem exists_error_of_transport {attempt : Nat → Fetch.Attempt}
    (h : ∀ n, (attempt n).outcome = .transport) (done spent left : Nat) (last : Fetch.Last) :
    ∃ e, (Fetch.runFrom attempt done spent left last).result = .error e := by
  fun_induction Fetch.runFrom attempt done spent left last with
  | case1 done spent last => exact ⟨.timeout last, rfl⟩
  | case2 done spent left last hleft a result hstop =>
    rw [show a.outcome = .transport from h done] at hstop
    cases hstop
  | case3 done spent left last hleft a pause last' hretry hpause rest ih => exact ih

/-- The price at a source whose document is known. -/
def priceFrom (documents : String → Except Fetch.Error Bytes) (source : Source) : Option Float :=
  match documents source.url with
  | .ok document => priceIn source.path document
  | .error _ => none

theorem run_priceAt_of_settled (h : Settled documents w) (source : Source) :
    (priceAt source).outcome.run (World.answer answerChain) w =
      (.ok (priceFrom documents source), (World.answer answerChain (.fetch source.url) w).2) := by
  have hreply : (World.answer answerChain (.fetch source.url) w).1 = documents source.url :=
    h source.url _
  rw [priceAt, run_andThen, run_question, hreply, priceFrom]
  cases documents source.url <;> rfl

theorem outcomes_of_settled (h : Settled documents w) (sources : List Source) :
    outcomes answerChain sources w = sources.map (priceFrom documents) := by
  induction sources generalizing w with
  | nil => rfl
  | cons source rest ih =>
    rw [outcomes_cons (run_priceAt_of_settled h source), ih (h.fetch source.url)]
    rfl

theorem found_of_settled (h : Settled documents w) (sources : List Source) :
    found answerChain sources w = sources.filterMap (priceFrom documents) := by
  rw [found_eq, outcomes_of_settled h, List.reduceOption, List.filterMap_map]
  rfl

end Tracker
end PriceOracle
