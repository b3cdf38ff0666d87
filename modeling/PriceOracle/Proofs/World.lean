import PriceOracle.Proofs.Node
import PriceOracle.Proofs.Proxy.Local
import PriceOracle.World

/-!
# PriceOracle.Proofs.World

What comes of an access to the store, whoever asks for it.

* `answer_of_open`: a store that is open answers every access, and stays open.
* `store_answer_of_closed`, `store_answer_of_isReading`: what leaves the store as it is.
-/

namespace PriceOracle
namespace World

open Node
open Program (Exchange)
open Proxy (Local)

variable {χ : Type} {answerChain : Program.Answerer Chain.Call.Answer χ}

/-- The answer to an access is that of an open store. -/
def Heard : Exchange Reply → Prop
  | ⟨.get _, r⟩ => ∃ value, r = .ok value
  | ⟨.put _ _, r⟩ => r = .ok ()
  | ⟨.update _ change, r⟩ =>
    r = .ok () ∨ ∃ current e, change current = .error e ∧ r = .error (.store e)
  | _ => True

theorem store_answer_of_closed {w : World χ} (h : w.store.cell = none) (op : Ask) :
    (World.answer answerChain op w).2.store = w.store := by
  cases op with
  | put key value => simp only [World.answer, Local.put, h]
  | update key change => simp only [World.answer, Local.update, Local.get, h]
  | _ => rfl

theorem cell_answer (w : World χ) (op : Ask) :
    (World.answer answerChain op w).2.store.cell = w.store.cell := by
  cases hc : w.store.cell with
  | none => rw [store_answer_of_closed hc, hc]
  | some handle =>
    have hput : ∀ key value, (w.store.put key value).2.cell = some handle := by
      intro key value
      simp only [Local.put, hc]
    cases op with
    | put key value => exact hput key value
    | update key change =>
      simp only [World.answer, Local.update]
      split
      · exact hc
      · split
        · exact hc
        · exact hput _ _
    | _ => exact hc

theorem answer_of_open {w : World χ} (h : w.store.records?.isSome) (op : Ask) :
    (World.answer answerChain op w).2.store.records?.isSome ∧
      Heard ⟨op, (World.answer answerChain op w).1⟩ := by
  obtain ⟨records, hr⟩ := Option.isSome_iff_exists.1 h
  have hput : ∀ key value, (w.store.put key value).1 = .ok () ∧
      (w.store.put key value).2.records?.isSome := by
    intro key value
    obtain ⟨hok, hput⟩ := Local.put_of_records hr key value
    exact ⟨hok, by rw [hput]; rfl⟩
  cases op with
  | get key =>
    refine ⟨h, records.get? key, ?_⟩
    simp only [World.answer, Local.get_of_records hr]
    rfl
  | put key value =>
    refine ⟨(hput key value).2, ?_⟩
    simp only [Heard, World.answer, (hput key value).1]
    rfl
  | update key change =>
    have hupdate := Local.update_of_get (Local.get_of_records hr key) change
    cases hchange : change (records.get? key) with
    | error e =>
      simp only [World.answer, hupdate, hchange]
      exact ⟨h, .inr ⟨_, e, hchange, rfl⟩⟩
    | ok value =>
      simp only [World.answer, hupdate, hchange]
      exact ⟨(hput key value).2, .inl rfl⟩
  | _ => exact ⟨h, trivial⟩

/-- Reading leaves the store as it is, and so does what is asked of the chain. -/
theorem store_answer_of_isReading (w : World χ) {op : Ask}
    (hop : IsReading op ∨ ∃ call, op = .chain call) :
    (World.answer answerChain op w).2.store = w.store := by
  cases op with
  | put | update =>
    obtain hread | ⟨call, hcall⟩ := hop
    · cases hread
    · cases hcall
  | _ => rfl

end World
end PriceOracle
