import PriceOracle.Proofs.Calendar
import PriceOracle.Proofs.Chain.Ledger
import PriceOracle.Proofs.Dispute.Scan
import PriceOracle.World

/-!
# PriceOracle.Proofs.Dispute.Submissions

The five submissions of a round, as they are found window by window.

* `isSigned64_time`: whatever is answered, their times are signed numbers of 64 bits.
* `Agrees`: the result is that of one pass over all logs up to the block, the newest first; the
  windows go down from the block, next to each other.
* `submissionsOf_agrees`: it is so for every chain that serves the search.
* `serves_ledger`: a chain in memory that can be reached serves it, when its logs make sense.
-/

namespace PriceOracle
namespace Dispute

open Node Node.Action Chain
open Program (Exchange Says Answerer)

/-! ## Windows that go down -/

namespace Descends

variable {high : Nat} {windows : List (Nat × Nat)}

theorem exists_cons (h : Descends high windows) : ∃ low rest, windows = (low, high) :: rest := by
  cases h with
  | last => exact ⟨_, _, rfl⟩
  | more => exact ⟨_, _, rfl⟩

theorem le (h : Descends high windows) : ∀ w ∈ windows, w.2 ≤ high := by
  induction h with
  | last high =>
    intro w hw
    exact Nat.le_of_eq (congrArg Prod.snd (List.mem_singleton.1 hw))
  | @more high windows hpos _ ih =>
    intro w hw
    obtain rfl | hw := List.mem_cons.1 hw
    · exact Nat.le_refl _
    · have := ih w hw
      omega

theorem contiguous (h : Descends high windows) : ∀ i above below, windows[i]? = some above →
    windows[i + 1]? = some below → below.2 + 1 = above.1 := by
  induction h with
  | last => intro i above below _ hbelow; cases hbelow
  | @more high windows hpos hrest ih =>
    intro i above below habove hbelow
    cases i with
    | zero =>
      obtain ⟨low, rest, rfl⟩ := hrest.exists_cons
      cases habove
      cases hbelow
      show high - (windowWidth - 1) - 1 + 1 = high - (windowWidth - 1)
      omega
    | succ i => exact ih i above below habove hbelow

theorem disjoint (h : Descends high windows) :
    windows.Pairwise fun above below => below.2 < above.1 := by
  induction h with
  | last => exact List.pairwise_singleton _ _
  | @more high windows hpos hrest ih =>
    refine List.pairwise_cons.2 ⟨fun w hw => ?_, ih⟩
    have := hrest.le w hw
    omega

theorem narrow (h : Descends high windows) : ∀ w ∈ windows, w.1 ≤ w.2 ∧ w.2 < w.1 + 100 := by
  have hwidth : ∀ high : Nat, high - (windowWidth - 1) ≤ high ∧
      high < high - (windowWidth - 1) + 100 := by
    intro high
    simp only [windowWidth]
    omega
  induction h with
  | last high =>
    intro w hw
    rw [List.mem_singleton.1 hw]
    exact hwidth high
  | @more high windows _ _ ih =>
    intro w hw
    obtain rfl | hw := List.mem_cons.1 hw
    · exact hwidth high
    · exact ih w hw

end Descends

/-! ## Times of submissions -/

/-- The times that slots are filled with are signed numbers of 64 bits. -/
def Timed (slots : List Slot) : Prop := ∀ s ∈ slots, ∀ time ∈ s.time, Calendar.IsSigned64 time

section Timed

variable {log : List (Exchange Reply)} {slots filled : List Slot}

theorem Timed.fill {time : Int} (h : Timed slots) (htime : Calendar.IsSigned64 time)
    (miner : Address) : Timed (Slot.fill miner time slots) := by
  induction slots with
  | nil => exact h
  | cons s rest ih =>
    obtain ⟨hs, hrest⟩ := List.forall_mem_cons.1 h
    rw [Slot.fill]
    split
    · exact List.forall_mem_cons.2 ⟨fun t ht => Option.some.inj ht ▸ htime, hrest⟩
    · exact List.forall_mem_cons.2 ⟨hs, ih hrest⟩

theorem isSigned64_blockTime {block : Nat} {time : Int}
    (h : Says (blockTime block).outcome log (.ok time)) : Calendar.IsSigned64 time := by
  obtain ⟨_, _, seconds, -, -, h⟩ := says_andThen.1 h
  obtain ⟨-, htime⟩ := Program.says_done.1 h
  rw [Except.ok.inj htime]
  exact Calendar.isSigned64_signed64 seconds

theorem Timed.fillFrom {logs : List Log} (h : Timed slots)
    (hsaid : Says (Dispute.fillFrom logs slots).outcome log (.ok filled)) : Timed filled := by
  induction logs generalizing slots log with
  | nil =>
    obtain ⟨-, hsame⟩ := Program.says_done.1 hsaid
    cases hsame
    exact h
  | cons next rest ih =>
    rw [Dispute.fillFrom] at hsaid
    obtain ⟨_, _, miner, -, -, hsaid⟩ := says_andThen.1 hsaid
    split at hsaid
    · obtain ⟨_, _, time, -, htime, hsaid⟩ := says_andThen.1 hsaid
      exact ih (h.fill (isSigned64_blockTime htime) miner) hsaid
    · exact ih h hsaid

theorem Timed.scan {high : Nat} (h : Timed slots)
    (hsaid : Says (Dispute.scan high slots).outcome log (.ok filled)) : Timed filled := by
  induction high using Nat.strongRecOn generalizing slots log with
  | ind high ih =>
    rw [Dispute.scan] at hsaid
    obtain ⟨_, _, logs, -, -, hsaid⟩ := says_andThen.1 hsaid
    obtain ⟨_, _, window, -, hwindow, hsaid⟩ := says_andThen.1 hsaid
    have hwindow : Timed window := h.fillFrom hwindow
    split at hsaid
    · obtain ⟨-, hsame⟩ := Program.says_done.1 hsaid
      cases hsame
      exact hwindow
    · split at hsaid
      · obtain ⟨-, hfailed⟩ := Program.says_done.1 hsaid
        cases hfailed
      · exact ih _ (by omega) hwindow hsaid

/-- Whatever is answered, the submissions are of instants of 64 bits. -/
theorem isSigned64_time {requestId timestamp : Word} {block : Nat}
    {submissions : List Submission}
    (hsaid : Says (submissionsOf requestId timestamp block).outcome log (.ok submissions)) :
    ∀ x ∈ submissions, Calendar.IsSigned64 x.time := by
  obtain ⟨_, _, values, -, -, hsaid⟩ := says_andThen.1 hsaid
  obtain ⟨_, _, miners, -, -, hsaid⟩ := says_andThen.1 hsaid
  split at hsaid
  · obtain ⟨-, hfailed⟩ := Program.says_done.1 hsaid
    cases hfailed
  · obtain ⟨_, _, slots, -, hslots, hsaid⟩ := says_andThen.1 hsaid
    obtain ⟨-, hsame⟩ := Program.says_done.1 hsaid
    cases hsame
    intro x hx
    obtain ⟨s, hs, rfl⟩ := List.mem_map.1 hx
    show Calendar.IsSigned64 (s.time.getD 0)
    cases htime : s.time with
    | none => exact ⟨by decide, by decide⟩
    | some time =>
      refine Timed.scan ?_ hslots s hs time htime
      intro opened hopened _ hno
      obtain ⟨_, -, rfl⟩ := List.mem_map.1 hopened
      cases hno

end Timed

/-! ## Slots of a round -/

namespace Known

variable (known : Known)

/-- The slots of a round, all of them open. -/
def slots : List Slot :=
  (known.miners.zip known.values).toList.map fun (miner, value) => ⟨miner, value, none⟩

/-- The logs of a miner up to a block, the newest first. -/
def logsOf (block : Nat) (miner : Address) : List Log :=
  (newest known.logs block).filter (isBy miner)

theorem slots_open : ∀ s ∈ known.slots, s.time = none := by
  intro s hs
  obtain ⟨_, -, rfl⟩ := List.mem_map.1 hs
  rfl

theorem getElem?_slots {p : Nat} (hp : p < reporters) :
    known.slots[p]? = some ⟨known.miners[p], known.values[p], none⟩ := by
  simp [slots, hp]

theorem map_miner_slots : known.slots.map (·.miner) = known.miners.toList := by
  have hlength : known.miners.toList.length ≤ known.values.toList.length := by simp
  simpa [slots, Function.comp_def] using List.map_fst_zip hlength

theorem countP_slots (miner : Address) :
    known.slots.countP (·.miner = miner) = known.miners.toList.count miner := by
  rw [← map_miner_slots, List.count, List.countP_map]
  rfl

theorem rank_slots (p : Nat) (miner : Address) :
    rank known.slots p miner = (known.miners.toList.take p).count miner := by
  rw [← map_miner_slots, ← List.map_take, List.count, List.countP_map]
  rfl

end Known

/-- What the search for the submissions of a round comes to, when it begins in a block. -/
structure Agrees (known : Known) (block : Nat) (result : Except Failure (List Submission))
    (windows : List (Nat × Nat)) : Prop where
  /-- The result is that of one pass over all logs up to the block. -/
  onePass : result = (verdict (pass known.times (newest known.logs block) known.slots)).map
    (·.map Slot.submission)
  /-- The search succeeds when each miner has as many logs as slots. -/
  succeeds : (∃ submissions, result = .ok submissions) ↔
    ∀ miner, known.miners.toList.count miner ≤ (known.logsOf block miner).length
  /-- A slot that is preceded by `n` slots of its miner has the time of the miner's log number `n`,
  counted from the newest one, which is number zero. -/
  submissions : ∀ submissions, result = .ok submissions → submissions.length = reporters ∧
    ∀ (p : Nat) (hp : p < reporters), ∃ log,
      (known.logsOf block known.miners[p])[(known.miners.toList.take p).count known.miners[p]]?
        = some log ∧
      submissions[p]? = some
        ⟨known.miners[p], known.values[p], Calendar.signed64 (known.times log.block)⟩
  /-- Otherwise the search ends after the window that starts at block zero. -/
  fails : (¬∃ submissions, result = .ok submissions) → ∃ missing top,
    result = .error (.nonsense (.unresolved missing)) ∧ windows.getLast? = some (0, top)
  starts : ∃ low rest, windows = (low, block) :: rest
  contiguous : ∀ i above below, windows[i]? = some above → windows[i + 1]? = some below →
    below.2 + 1 = above.1
  /-- Each window is below all windows before it. -/
  disjoint : windows.Pairwise fun above below => below.2 < above.1
  narrow : ∀ w ∈ windows, w.1 ≤ w.2 ∧ w.2 < w.1 + 100

section Agrees

variable {σ : Type} {answer : Answerer Reply σ} {good : σ → Prop} {requestId timestamp : Word}
  {known : Known}

theorem submissionsOf_yields (serves : Serves answer good requestId timestamp known)
    (real : (0 : Address) ∉ known.miners) (block : Nat) {s : σ} (hs : good s) :
    ∃ s' windows, Descends block windows ∧
      Yields answer (submissionsOf requestId timestamp block) s
        ((verdict (pass known.times (newest known.logs block) known.slots)).map
          (·.map Slot.submission)) s' windows ∧
      (Slot.missing (pass known.times (newest known.logs block) known.slots) ≠ 0 →
        ∃ top, windows.getLast? = some (0, top)) := by
  obtain ⟨s₁, hs₁, hvalues⟩ := serves.values.yields hs
  obtain ⟨s₂, hs₂, hminers⟩ := serves.miners.yields hs₁
  obtain ⟨s₃, windows, hdescends, hscan, hlast⟩ := scan_yields serves block known.slots hs₂
  refine ⟨s₃, windows, hdescends, ?_, hlast⟩
  refine hvalues.bind (hminers.bind (v := windows) ?_)
  rw [if_neg (by simpa using real)]
  exact hscan.map _

theorem submission_of_filled {logs : List Log} {p : Nat} (hp : p < reporters)
    (hfilled : Slot.missing (pass known.times logs known.slots) = 0) :
    ∃ log, (logs.filter (isBy known.miners[p]))[(known.miners.toList.take p).count known.miners[p]]?
        = some log ∧
      ((pass known.times logs known.slots).map Slot.submission)[p]? = some
        ⟨known.miners[p], known.values[p], Calendar.signed64 (known.times log.block)⟩ := by
  have hset := getElem?_pass known.times logs known.slots_open (known.getElem?_slots hp)
  rw [Known.rank_slots] at hset
  have htime := missing_eq_zero.1 hfilled _ (List.mem_of_getElem? hset)
  obtain ⟨log, hlog⟩ := Option.ne_none_iff_exists'.1 (mt Option.map_eq_none_iff.2 htime)
  refine ⟨log, hlog, ?_⟩
  rw [List.getElem?_map, hset, hlog, Option.map_some, Option.map_some, Slot.submission,
    Option.getD_some, timeOf]

/-- The submissions are found just when one pass over all logs finds them, and they are the same. -/
theorem submissionsOf_agrees (serves : Serves answer good requestId timestamp known)
    (real : (0 : Address) ∉ known.miners) (block : Nat) {s : σ} (hs : good s) :
    Agrees known block ((submissionsOf requestId timestamp block).outcome.run answer s).1
      (((submissionsOf requestId timestamp block).outcome.transcript answer s).filterMap
        window?) := by
  obtain ⟨s', windows, hdescends, hyields, hlast⟩ := submissionsOf_yields serves real block hs
  have hmissing := missing_pass_eq_zero_iff known.times (newest known.logs block) known.slots_open
  rw [hyields.run, hyields.windows]
  dsimp only
  refine ⟨rfl, ?succeeds, ?submissions, ?fails, hdescends.exists_cons, hdescends.contiguous,
    hdescends.disjoint, hdescends.narrow⟩
  case succeeds =>
    simp only [map_verdict_eq_ok, exists_and_left, exists_eq', and_true]
    rw [hmissing]
    simp only [Known.countP_slots, Known.logsOf]
  case submissions =>
    intro submissions hok
    obtain ⟨hfilled, rfl⟩ := map_verdict_eq_ok.1 hok
    refine ⟨?_, fun p hp => submission_of_filled hp hfilled⟩
    rw [List.length_map, length_pass]
    simp [Known.slots]
  case fails =>
    intro hnot
    have hopen : Slot.missing (pass known.times (newest known.logs block) known.slots) ≠ 0 :=
      fun h => hnot ⟨_, map_verdict_eq_ok.2 ⟨h, rfl⟩⟩
    obtain ⟨top, htop⟩ := hlast hopen
    refine ⟨Slot.missing (pass known.times (newest known.logs block) known.slots), top, ?_, htop⟩
    rw [verdict, if_neg hopen]
    rfl

end Agrees

/-! ## The chain in memory -/

section Ledger

variable (l : Ledger)

/-- The chain of a world has not changed, apart from the searches that it has noted. -/
def Kept (w : World Ledger) : Prop := ∃ searches, w.chain = { l with searches }

theorem kept_self (w : World Ledger) : Kept w.chain w := ⟨w.chain.searches, rfl⟩

variable {l}

theorem Kept.query {w : World Ledger} (h : Kept l w) (q : Query) :
    (World.answer Ledger.answer (.chain (.query q)) w).1 = l.read q ∧
      Kept l (World.answer Ledger.answer (.chain (.query q)) w).2 := by
  obtain ⟨searches, hw⟩ := h
  constructor
  · show w.chain.read q = l.read q
    rw [hw]
    cases q <;> rfl
  · show ∃ searches, w.chain.noteSearch q = { l with searches }
    rw [hw]
    cases q <;> exact ⟨_, rfl⟩

theorem answers_of_read {q : Query} {x : q.Answer} (h : l.read q = .ok x) :
    Answers (World.answer Ledger.answer) (Kept l) q x :=
  fun _ hw => ⟨(hw.query q).1.trans h, (hw.query q).2⟩

/-- What the chain knows about the solutions of a round. -/
def knownOf (l : Ledger) (requestId timestamp : Word) : Known :=
  let reports := (l.reports.get? (requestId, timestamp)).getD Reports.none
  { logs := l.logsIn .nonceSubmitted 0 none
    times := fun block => (l.blockTimes.get? block).getD 0
    values := reports.values
    miners := reports.miners }

/-- A chain in memory serves the search for every round, when it can be reached, and its logs of
solutions are about miners and are in blocks whose times it knows. -/
theorem serves_ledger (reachable : l.unreachable = false)
    (solver : ∀ log, (.nonceSubmitted, log) ∈ l.logs → ∃ miner, solverOf log = .ok miner)
    (timed : ∀ log, (.nonceSubmitted, log) ∈ l.logs → (l.blockTimes.get? log.block).isSome)
    (requestId timestamp : Word) :
    Serves (World.answer Ledger.answer) (Kept l) requestId timestamp
      (knownOf l requestId timestamp) where
  ascending := l.logsIn_ascending .nonceSubmitted 0 none
  solver log hlog := solver log ((l.mem_logsIn .nonceSubmitted).1 hlog)
  window low high := by
    refine answers_of_read ?_
    rw [Ledger.read, reachable]
    exact congrArg Except.ok (l.logsIn_eq_filter .nonceSubmitted low high)
  time log hlog := by
    obtain ⟨time, htime⟩ := Option.isSome_iff_exists.1
      (timed log ((l.mem_logsIn .nonceSubmitted).1 hlog))
    refine answers_of_read ?_
    rw [Ledger.read, reachable]
    simp [Ledger.lookUp, knownOf, htime, Ledger.found]
  values := answers_of_read (by rw [Ledger.read, reachable]; rfl)
  miners := answers_of_read (by rw [Ledger.read, reachable]; rfl)

/-- A chain on which one miner has three slots and as many logs, and another one two. -/
def twoMiners : Ledger where
  blockTimes := [(20, 1000), (110, 2000), (120, 3000), (200, 4000), (230, 5000)]
  reports := [((1, 2), ⟨#v[10, 11, 12, 13, 14], #v[1, 2, 1, 2, 1]⟩)]
  logs := [(.nonceSubmitted, ⟨20, [0, 1], []⟩), (.nonceSubmitted, ⟨110, [0, 2], []⟩),
    (.nonceSubmitted, ⟨120, [0, 1], []⟩), (.nonceSubmitted, ⟨200, [0, 2], []⟩),
    (.nonceSubmitted, ⟨230, [0, 1], []⟩)]

def twoMinersWorld : World Ledger := ⟨twoMiners, ⟨.empty, none⟩, [], 0, 0, 0⟩

theorem knownOf_twoMiners : (knownOf twoMiners 1 2).logs = twoMiners.logs.map (·.2) :=
  List.mergeSort_of_pairwise (by decide)

theorem serves_twoMiners :
    Serves (World.answer Ledger.answer) (Kept twoMiners) 1 2 (knownOf twoMiners 1 2) := by
  have hlogs : ∀ log, (.nonceSubmitted, log) ∈ twoMiners.logs →
      (∃ miner, solverOf log = .ok miner) ∧ (twoMiners.blockTimes.get? log.block).isSome := by
    intro log hlog
    simp only [twoMiners, List.mem_cons, Prod.mk.injEq, true_and, List.not_mem_nil,
      or_false] at hlog
    obtain rfl | rfl | rfl | rfl | rfl := hlog <;> exact ⟨⟨_, rfl⟩, rfl⟩
  exact serves_ledger rfl (fun log h => (hlogs log h).1) (fun log h => (hlogs log h).2) 1 2

/-- All five submissions are found on that chain. -/
theorem submissionsOf_twoMiners :
    ∃ submissions, ((submissionsOf 1 2 240).outcome.run (World.answer Ledger.answer)
      twoMinersWorld).1 = .ok submissions := by
  have hminers : (knownOf twoMiners 1 2).miners.toList = [1, 2, 1, 2, 1] := rfl
  have hreal : (0 : Address) ∉ (knownOf twoMiners 1 2).miners := by
    rw [← Vector.mem_toList_iff, hminers]
    decide
  have agrees := submissionsOf_agrees serves_twoMiners hreal 240 (kept_self twoMinersWorld)
  refine agrees.succeeds.2 fun miner => ?_
  rw [Known.logsOf, newest, knownOf_twoMiners, hminers]
  by_cases hfirst : 1#160 = miner
  · subst hfirst
    decide
  · by_cases hsecond : 2#160 = miner
    · subst hsecond
      decide
    · have hnone : List.count miner [1, 2, 1, 2, 1] = 0 := by
        simp [hfirst, hsecond]
      exact hnone ▸ Nat.zero_le _

end Ledger

end Dispute
end PriceOracle
