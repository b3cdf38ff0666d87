import PriceOracle.Mining.Gate
import PriceOracle.Proofs.Node

/-!
# PriceOracle.Proofs.Mining.Gate

What a look at the gate and the round asks. It asks for records only, and `says_readRound` tells
what the three records were when it has found a round.
-/

namespace PriceOracle
namespace Mining

open Node Node.Action Chain
open Program (Exchange Says Reaches)

theorem asks_checkGate : Asks IsGet checkGate := by
  refine (asks_getWord ⟨_, rfl⟩).bind fun code => ?_
  cases code with
  | none => exact asks_throw _
  | some code =>
    simp only
    cases closedBy code with
    | none => exact asks_pure _
    | some gate => exact asks_throw _

theorem asks_readRound : Asks IsGet readRound := by
  refine (asks_get ⟨_, rfl⟩).bind fun raw => ?_
  cases raw with
  | none => exact asks_pure _
  | some raw =>
    simp only
    split
    · exact asks_throw _
    · refine (asks_getWord ⟨_, rfl⟩).bind fun requestId => ?_
      refine (asks_getWord ⟨_, rfl⟩).bind fun difficulty => ?_
      cases requestId <;> cases difficulty <;> try exact asks_pure _
      simp only
      cases narrow? _ with
      | none => exact asks_throw _
      | some id => exact asks_pure _

theorem asks_look : Asks IsGet look := asks_checkGate.bind fun _ => asks_readRound

/-- A round was found: these were the records. -/
theorem says_readRound {log : List (Exchange Reply)} {round : Round} :
    Says readRound.outcome log (.ok (some round)) ↔
      ∃ raw rawId rawDifficulty id, raw.length = 32 ∧
        Quantity.decode Key.currentRequestId rawId = .ok id ∧
        Quantity.decode Key.currentDifficulty rawDifficulty = .ok round.difficulty ∧
        narrow? id = some round.requestId ∧ round.challenge = Word.ofBytes raw ∧
        log = [⟨.get Key.currentChallenge, .ok (some raw)⟩,
          ⟨.get Key.currentRequestId, .ok (some rawId)⟩,
          ⟨.get Key.currentDifficulty, .ok (some rawDifficulty)⟩] := by
  constructor
  · intro h
    obtain ⟨l₁, l₂, found, rfl, h₁, h₂⟩ := says_andThen.1 h
    rw [says_get] at h₁
    subst h₁
    cases found with
    | none => cases (Program.says_done.1 h₂).2
    | some raw =>
      simp only at h₂
      split at h₂
      · cases (Program.says_done.1 h₂).2
      · next hlength =>
        obtain ⟨l₃, l₄, id?, rfl, h₃, h₄⟩ := says_andThen.1 h₂
        obtain ⟨l₅, l₆, difficulty?, rfl, h₅, h₆⟩ := says_andThen.1 h₄
        obtain ⟨rawId?, rfl, hid⟩ := says_getWord.1 h₃
        obtain ⟨rawDifficulty?, rfl, hdiff⟩ := says_getWord.1 h₅
        match rawId?, id?, rawDifficulty?, difficulty?, hid, hdiff, h₆ with
        | some rawId, some id, some rawDifficulty, some difficulty, hid, hdiff, h₆ =>
          simp only at h₆
          split at h₆
          · cases (Program.says_done.1 h₆).2
          · next narrow hn =>
            obtain ⟨rfl, hround⟩ := Program.says_done.1 h₆
            cases hround
            exact ⟨raw, rawId, rawDifficulty, id, Decidable.not_not.1 hlength, hid, hdiff, hn, rfl,
              rfl⟩
        | none, none, _, _, _, _, h₆ => cases (Program.says_done.1 h₆).2
        | some _, some _, none, none, _, _, h₆ => cases (Program.says_done.1 h₆).2
  · rintro ⟨raw, rawId, rawDifficulty, id, hlength, hid, hdiff, hn, hchallenge, rfl⟩
    obtain ⟨challenge, requestId, difficulty⟩ := round
    subst hchallenge
    refine says_andThen.2 ⟨[_], [_, _], some raw, rfl, says_get.2 rfl, ?_⟩
    simp only [hlength, ne_eq, not_true_eq_false, if_false]
    refine says_andThen.2 ⟨[_], [_], some id, rfl, says_getWord.2 ⟨some rawId, rfl, hid⟩, ?_⟩
    refine says_andThen.2 ⟨[_], [], some difficulty, rfl,
      says_getWord.2 ⟨some rawDifficulty, rfl, hdiff⟩, ?_⟩
    simp only [hn]
    exact .done _

end Mining
end PriceOracle
