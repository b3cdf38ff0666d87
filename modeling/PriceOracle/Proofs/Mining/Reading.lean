import PriceOracle.Feed.Tracker
import PriceOracle.Proofs.Mining.Gate
import PriceOracle.Proofs.Proxy.Local
import PriceOracle.Proofs.Store.Quantity
import PriceOracle.World

/-!
# PriceOracle.Proofs.Mining.Reading

What a reader makes of rounds that are being written. The tracker writes the three records of a
round one after another, and the reader reads them one after another, each in the order in which
they stand in the round; nothing keeps the two apart. The clock is the number of records written so
far: after `m` of them, the store shows the challenge of round `(m + 2) / 3`, the request of round
`(m + 1) / 3` and the difficulty of round `m / 3`, counted from one.

* `writing_step`, `shows_put`: how the clock goes on while the tracker works.
* `seen_step`: a reader has read its records at times that do not go back.
* `reads_iff`: the rounds that are read are those put together from three rounds that were reported,
  none of them taken from a round later than the one after that of a record read after it.
-/

namespace PriceOracle
namespace Mining

open Node Node.Action Chain
open Program (Exchange Says Reaches)

/-- A chain that reports rounds one after another. -/
def reportNext : Program.Answerer Call.Answer (List Round)
  | .query .currentRound, round :: rest => (.ok round, rest)
  | .query _, rest => (.error (.unavailable "no round"), rest)
  | .send _, rest => (.error (.unavailable "no round"), rest)

/-- A tracker that writes rounds and a reader, and the store between them. -/
structure Traffic where
  world : World (List Round)
  tracker : Program Reply (Except Failure Unit)
  reader : Program Reply (Except Failure (Option Round))

namespace Traffic

/-- One access to the store or the chain, or a new beginning. -/
inductive Step : Traffic → Traffic → Prop where
  | write (t : Traffic) :
      Step t { t with
        tracker := (t.tracker.step (World.answer reportNext) t.world).1
        world := (t.tracker.step (World.answer reportNext) t.world).2 }
  | writeAgain {t : Traffic} {result : Except Failure Unit} : t.tracker = .done result →
      Step t { t with tracker := Tracker.writeRound.outcome }
  | read (t : Traffic) :
      Step t { t with
        reader := (t.reader.step (World.answer reportNext) t.world).1
        world := (t.reader.step (World.answer reportNext) t.world).2 }
  | readAgain {t : Traffic} {result : Except Failure (Option Round)} : t.reader = .done result →
      Step t { t with reader := readRound.outcome }

inductive Steps : Traffic → Traffic → Prop where
  | refl (t : Traffic) : Steps t t
  | snoc {t t' t'' : Traffic} : Steps t t' → Step t' t'' → Steps t t''

theorem Steps.trans {t t' t'' : Traffic} (h₁ : Steps t t') (h₂ : Steps t' t'') : Steps t t'' := by
  induction h₂ with
  | refl => exact h₁
  | snoc _ step ih => exact .snoc ih step

theorem Steps.single {t t' : Traffic} (step : Step t t') : Steps t t' := .snoc (.refl t) step

end Traffic

/-- A store is open, and no round was written yet. -/
structure Fresh (rounds : List Round) (w : World (List Round)) : Prop where
  reports : w.chain = rounds
  empty : ∃ records, w.store.records? = some records ∧
    records.get? Key.currentChallenge = none ∧ records.get? Key.currentRequestId = none ∧
    records.get? Key.currentDifficulty = none

/-- Tracker and reader are about to begin. -/
def Traffic.start (w : World (List Round)) : Traffic :=
  ⟨w, Tracker.writeRound.outcome, readRound.outcome⟩

/-- The last of the first `n` rounds. -/
def latest (rounds : List Round) : Nat → Option Round
  | 0 => none
  | n + 1 => rounds[n]?

/-- The store after `m` records of rounds were written. -/
structure Shows (rounds : List Round) (m : Nat) (records : Store.Records) : Prop where
  challenge : records.get? Key.currentChallenge
    = (latest rounds ((m + 2) / 3)).map (·.challenge.toBytes)
  requestId : records.get? Key.currentRequestId
    = (latest rounds ((m + 1) / 3)).map fun r => Quantity.encode (Tracker.word r.requestId)
  difficulty : records.get? Key.currentDifficulty
    = (latest rounds (m / 3)).map fun r => Quantity.encode r.difficulty

/-- What is left of the writing of a round, after some of its records. -/
def writeChallenge (round : Round) : Action Unit := do
  put Key.currentChallenge round.challenge.toBytes
  putWord Key.currentRequestId (Tracker.word round.requestId)
  putWord Key.currentDifficulty round.difficulty

def writeRequestId (round : Round) : Action Unit := do
  putWord Key.currentRequestId (Tracker.word round.requestId)
  putWord Key.currentDifficulty round.difficulty

def writeDifficulty (round : Round) : Action Unit := putWord Key.currentDifficulty round.difficulty

/-- The tracker has written `m` records. -/
inductive Writing (rounds : List Round) :
    Nat → List Round → Program Reply (Except Failure Unit) → Prop where
  | asking (k : Nat) : Writing rounds (3 * k) (rounds.drop k) Tracker.writeRound.outcome
  | done (k : Nat) (result : Except Failure Unit) :
      Writing rounds (3 * k) (rounds.drop k) (.done result)
  | first {k : Nat} {round : Round} : rounds[k]? = some round →
      Writing rounds (3 * k) (rounds.drop (k + 1)) (writeChallenge round).outcome
  | second {k : Nat} {round : Round} : rounds[k]? = some round →
      Writing rounds (3 * k + 1) (rounds.drop (k + 1)) (writeRequestId round).outcome
  | third {k : Nat} {round : Round} : rounds[k]? = some round →
      Writing rounds (3 * k + 2) (rounds.drop (k + 1)) (writeDifficulty round).outcome

section Writing

variable {rounds : List Round} {m k : Nat} {records : Store.Records} {round : Round}

theorem shows_challenge (h : Shows rounds (3 * k) records) (hr : rounds[k]? = some round) :
    Shows rounds (3 * k + 1) (records.put Key.currentChallenge round.challenge.toBytes) := by
  have h₁ : (3 * k + 1 + 2) / 3 = k + 1 := by omega
  have h₂ : (3 * k + 1 + 1) / 3 = (3 * k + 1) / 3 := by omega
  have h₃ : (3 * k + 1) / 3 = 3 * k / 3 := by omega
  constructor
  · rw [Table.get?_put_self, h₁, latest, hr]
    rfl
  · rw [Table.get?_put_of_ne _ _ (by decide), h₂, h.requestId]
  · rw [Table.get?_put_of_ne _ _ (by decide), h₃, h.difficulty]

theorem shows_requestId (h : Shows rounds (3 * k + 1) records) (hr : rounds[k]? = some round) :
    Shows rounds (3 * k + 2) (records.put Key.currentRequestId
      (Quantity.encode (Tracker.word round.requestId))) := by
  have h₁ : (3 * k + 2 + 2) / 3 = (3 * k + 1 + 2) / 3 := by omega
  have h₂ : (3 * k + 2 + 1) / 3 = k + 1 := by omega
  have h₃ : (3 * k + 2) / 3 = (3 * k + 1) / 3 := by omega
  constructor
  · rw [Table.get?_put_of_ne _ _ (by decide), h₁, h.challenge]
  · rw [Table.get?_put_self, h₂, latest, hr]
    rfl
  · rw [Table.get?_put_of_ne _ _ (by decide), h₃, h.difficulty]

theorem shows_difficulty (h : Shows rounds (3 * k + 2) records) (hr : rounds[k]? = some round) :
    Shows rounds (3 * (k + 1)) (records.put Key.currentDifficulty
      (Quantity.encode round.difficulty)) := by
  have h₁ : (3 * (k + 1) + 2) / 3 = (3 * k + 2 + 2) / 3 := by omega
  have h₂ : (3 * (k + 1) + 1) / 3 = (3 * k + 2 + 1) / 3 := by omega
  have h₃ : 3 * (k + 1) / 3 = k + 1 := by omega
  constructor
  · rw [Table.get?_put_of_ne _ _ (by decide), h₁, h.challenge]
  · rw [Table.get?_put_of_ne _ _ (by decide), h₂, h.requestId]
  · rw [Table.get?_put_self, h₃, latest, hr]
    rfl

/-- The tracker has written `m` records, and the store shows them. -/
structure Tracks (rounds : List Round) (t : Traffic) (m : Nat) : Prop where
  writing : Writing rounds m t.world.chain t.tracker
  shows : ∃ records, t.world.store.records? = some records ∧ Shows rounds m records

def Traffic.write (t : Traffic) : Traffic :=
  { t with
    tracker := (t.tracker.step (World.answer reportNext) t.world).1
    world := (t.tracker.step (World.answer reportNext) t.world).2 }

theorem answer_put {w : World (List Round)} (hr : w.store.records? = some records) (key : String)
    (value : Bytes) : (World.answer reportNext (.put key value) w).1 = .ok () :=
  congrArg World.stored (Proxy.Local.put_of_records hr key value).1

theorem step_put {w : World (List Round)} (hr : w.store.records? = some records) (key : String)
    (value : Bytes) (f : Unit → Action Unit) :
    (put key value >>= f).outcome.step (World.answer reportNext) w
      = ((f ()).outcome, { w with store := (w.store.put key value).2 }) := by
  rw [outcome_bind, outcome_put, Program.bind_ask, Program.step, answer_put hr]
  rfl

theorem tracks_put {t : Traffic} {n : Nat} {key : String} {value : Bytes} {f : Unit → Action Unit}
    (ht : t.tracker = (put key value >>= f).outcome)
    (hr : t.world.store.records? = some records)
    (hw : Writing rounds n t.world.chain (f ()).outcome)
    (hs : Shows rounds n (records.put key value)) : Tracks rounds t.write n := by
  obtain ⟨world, tracker, reader⟩ := t
  subst ht
  rw [Traffic.write, step_put hr]
  exact ⟨hw, _, (Proxy.Local.put_of_records hr key value).2, hs⟩

theorem step_report {w : World (List Round)} {rest : List Round} (hc : w.chain = round :: rest) :
    Tracker.writeRound.outcome.step (World.answer reportNext) w
      = ((writeChallenge round).outcome, { w with chain := rest }) := by
  obtain ⟨chain, store, web, patience, clock, birth⟩ := w
  subst hc
  rfl

theorem step_silence {w : World (List Round)} (hc : w.chain = []) :
    Tracker.writeRound.outcome.step (World.answer reportNext) w
      = (.done (.error (.unavailable "no round")), w) := by
  obtain ⟨chain, store, web, patience, clock, birth⟩ := w
  subst hc
  rfl

theorem tracks_ask {t : Traffic} (ht : t.tracker = Tracker.writeRound.outcome)
    (hc : t.world.chain = rounds.drop k) (hr : t.world.store.records? = some records)
    (hs : Shows rounds (3 * k) records) :
    Tracks rounds t.write (3 * k) ∧ ∀ round, rounds[k]? = some round →
      t.write.tracker = (writeChallenge round).outcome ∧
        t.write.world.chain = rounds.drop (k + 1) := by
  obtain ⟨world, tracker, reader⟩ := t
  simp only at ht hc hr
  subst ht
  cases hround : rounds[k]? with
  | none =>
    have hdrop : rounds.drop k = [] := List.drop_eq_nil_iff.2 (List.getElem?_eq_none_iff.1 hround)
    rw [Traffic.write, step_silence (hc.trans hdrop)]
    exact ⟨⟨hc ▸ .done k _, records, hr, hs⟩, nofun⟩
  | some round =>
    obtain ⟨hk, rfl⟩ := List.getElem?_eq_some_iff.1 hround
    rw [Traffic.write, step_report (hc.trans (List.drop_eq_getElem_cons hk))]
    refine ⟨⟨.first hround, records, hr, hs⟩, fun other hother => ?_⟩
    rw [Option.some.inj hother]
    exact ⟨rfl, rfl⟩

theorem tracks_last {t : Traffic} (ht : t.tracker = (writeDifficulty round).outcome)
    (hround : rounds[k]? = some round) (hc : t.world.chain = rounds.drop (k + 1))
    (hr : t.world.store.records? = some records) (hs : Shows rounds (3 * k + 2) records) :
    Tracks rounds t.write (3 * (k + 1)) ∧ t.write.tracker = .done (.ok ()) := by
  obtain ⟨world, tracker, reader⟩ := t
  simp only at ht hc hr
  subst ht
  have hstep : (writeDifficulty round).outcome.step (World.answer reportNext) world
      = (.done (.ok ()), { world with
          store := (world.store.put Key.currentDifficulty
            (Quantity.encode round.difficulty)).2 }) := by
    rw [writeDifficulty, putWord, outcome_put, Program.step, answer_put hr]
    rfl
  rw [Traffic.write, hstep]
  exact ⟨⟨hc ▸ .done (k + 1) _, _, (Proxy.Local.put_of_records hr _ _).2,
    shows_difficulty hs hround⟩, rfl⟩

/-- The tracker's clock never goes back. Each record takes it one step further. -/
theorem tracks_write {t : Traffic} (h : Tracks rounds t m) :
    ∃ m', m ≤ m' ∧ Tracks rounds t.write m' := by
  obtain ⟨writing, records, hr, shows⟩ := h
  generalize htracker : t.tracker = tracker at writing
  generalize hchain : t.world.chain = chain at writing
  cases writing with
  | asking k => exact ⟨_, Nat.le_refl _, (tracks_ask htracker hchain hr shows).1⟩
  | done k result =>
    refine ⟨_, Nat.le_refl _, ?_, records, ?_, shows⟩
    · have still : Writing rounds (3 * k) t.world.chain (.done result) := hchain ▸ .done k result
      rw [Traffic.write, htracker]
      exact still
    · rw [Traffic.write, htracker]
      exact hr
  | first hround =>
    exact ⟨_, Nat.le_succ _, tracks_put htracker hr (hchain ▸ .second hround)
      (shows_challenge shows hround)⟩
  | second hround =>
    exact ⟨_, Nat.le_succ _, tracks_put htracker hr (hchain ▸ .third hround)
      (shows_requestId shows hround)⟩
  | third hround =>
    exact ⟨_, Nat.le_succ _, (tracks_last htracker hround hchain hr shows).1⟩

theorem exists_write {t : Traffic} (h : Tracks rounds t m) (hm : m < 3 * rounds.length) :
    ∃ t', Traffic.Steps t t' ∧ t'.reader = t.reader ∧ Tracks rounds t' (m + 1) := by
  have ask : ∀ {k : Nat} {t : Traffic}, k < rounds.length → Tracks rounds t (3 * k) →
      t.tracker = Tracker.writeRound.outcome → t.world.chain = rounds.drop k →
      ∃ t', Traffic.Steps t t' ∧ t'.reader = t.reader ∧ Tracks rounds t' (3 * k + 1) := by
    intro k t hk h htracker hchain
    obtain ⟨-, records, hr, shows⟩ := h
    have hround : rounds[k]? = some rounds[k] := List.getElem?_eq_getElem hk
    obtain ⟨h', next⟩ := tracks_ask htracker hchain hr shows
    obtain ⟨htracker', hchain'⟩ := next _ hround
    obtain ⟨-, records', hr', shows'⟩ := h'
    exact ⟨t.write.write, .snoc (.single (.write t)) (.write t.write), rfl,
      tracks_put htracker' hr' (hchain' ▸ .second hround) (shows_challenge shows' hround)⟩
  have again := h
  obtain ⟨writing, records, hr, shows⟩ := h
  generalize htracker : t.tracker = tracker at writing
  generalize hchain : t.world.chain = chain at writing
  cases writing with
  | asking k => exact ask (by omega) again htracker hchain
  | done k result =>
    obtain ⟨t', steps, hreader, h'⟩ := ask (t := { t with tracker := Tracker.writeRound.outcome })
      (by omega) ⟨hchain ▸ .asking k, records, hr, shows⟩ rfl hchain
    exact ⟨t', (Traffic.Steps.single (.writeAgain htracker)).trans steps, hreader, h'⟩
  | first hround =>
    exact ⟨t.write, .single (.write t), rfl, tracks_put htracker hr (hchain ▸ .second hround)
      (shows_challenge shows hround)⟩
  | second hround =>
    exact ⟨t.write, .single (.write t), rfl, tracks_put htracker hr (hchain ▸ .third hround)
      (shows_requestId shows hround)⟩
  | third hround =>
    exact ⟨t.write, .single (.write t), rfl, (tracks_last htracker hround hchain hr shows).1⟩

/-- The tracker can write up to any time that is still to come. -/
theorem exists_writes {t : Traffic} (h : Tracks rounds t m) {n : Nat} (hmn : m ≤ n)
    (hn : n ≤ 3 * rounds.length) :
    ∃ t', Traffic.Steps t t' ∧ t'.reader = t.reader ∧ Tracks rounds t' n := by
  induction hmn with
  | refl => exact ⟨t, .refl t, rfl, h⟩
  | @step n hmn ih =>
    obtain ⟨t', steps, hreader, h'⟩ := ih (by omega)
    obtain ⟨t'', steps', hreader', h''⟩ := exists_write h' (by omega)
    exact ⟨t'', steps.trans steps', hreader'.trans hreader, h''⟩

end Writing

/-! ## The reader -/

/-- What a reader has read by the time `m`, the latest first, at times that do not go back. -/
inductive Seen (rounds : List Round) : Nat → List (Exchange Reply) → Prop where
  | nothing (m : Nat) : Seen rounds m []
  | record {m m' n : Nat} {earlier : List (Exchange Reply)} {records : Store.Records}
      {key : String} : Seen rounds m earlier → m ≤ m' → m' ≤ n → Shows rounds m' records →
      Seen rounds n (⟨.get key, .ok (records.get? key)⟩ :: earlier)

theorem Seen.later {rounds : List Round} {m n : Nat} {log : List (Exchange Reply)}
    (h : Seen rounds m log) (hmn : m ≤ n) : Seen rounds n log := by
  cases h with
  | nothing => exact .nothing n
  | record earlier h₁ h₂ shows => exact .record earlier h₁ (Nat.le_trans h₂ hmn) shows

/-- Tracker and reader at work: what was written, and what was read of it. -/
structure Consistent (rounds : List Round) (t : Traffic) (m : Nat) : Prop where
  tracks : Tracks rounds t m
  reads : ∃ log, Reaches readRound.outcome log.reverse t.reader ∧ Seen rounds m log

theorem consistent_start {rounds : List Round} {w : World (List Round)} (h : Fresh rounds w) :
    Consistent rounds (.start w) 0 := by
  obtain ⟨reports, records, hr, challenge, requestId, difficulty⟩ := h
  exact ⟨⟨reports ▸ .asking 0, records, hr, challenge, requestId, difficulty⟩, [], .refl _,
    .nothing 0⟩

theorem consistent_read {rounds : List Round} {t : Traffic} {m : Nat} (h : Consistent rounds t m) :
    Consistent rounds { t with
      reader := (t.reader.step (World.answer reportNext) t.world).1
      world := (t.reader.step (World.answer reportNext) t.world).2 } m := by
  obtain ⟨tracks, log, reaches, seen⟩ := h
  obtain ⟨world, tracker, reader⟩ := t
  cases reader with
  | done result => exact ⟨tracks, log, reaches, seen⟩
  | ask op next =>
    obtain ⟨key, rfl⟩ := asks_readRound _ _ _ reaches
    obtain ⟨writing, records, hr, shows⟩ := tracks
    have hget : (World.answer reportNext (.get key) world).1 = .ok (records.get? key) :=
      congrArg World.stored (Proxy.Local.get_of_records hr key)
    refine ⟨⟨writing, records, hr, shows⟩, ⟨.get key, .ok (records.get? key)⟩ :: log, ?_,
      .record seen (Nat.le_refl m) (Nat.le_refl m) shows⟩
    rw [Program.step, hget, List.reverse_cons]
    exact reaches.snoc _

theorem consistent_step {rounds : List Round} {t t' : Traffic} {m : Nat}
    (h : Consistent rounds t m) (step : Traffic.Step t t') :
    ∃ m', Consistent rounds t' m' := by
  cases step with
  | write =>
    obtain ⟨m', hm, tracks⟩ := tracks_write h.tracks
    obtain ⟨log, reaches, seen⟩ := h.reads
    exact ⟨m', tracks, log, reaches, seen.later hm⟩
  | writeAgain htracker =>
    obtain ⟨⟨writing, shows⟩, reads⟩ := h
    rw [htracker] at writing
    generalize hchain : t.world.chain = chain at writing
    cases writing with
    | done k => exact ⟨_, ⟨hchain ▸ .asking k, shows⟩, reads⟩
  | read => exact ⟨m, consistent_read h⟩
  | readAgain => exact ⟨m, ⟨h.tracks.writing, h.tracks.shows⟩, [], .refl _, .nothing m⟩

theorem consistent_steps {rounds : List Round} {w : World (List Round)} {t : Traffic}
    (h : Fresh rounds w) (steps : Traffic.Steps (.start w) t) : ∃ m, Consistent rounds t m := by
  induction steps with
  | refl => exact ⟨0, consistent_start h⟩
  | snoc _ step ih =>
    obtain ⟨m, consistent⟩ := ih
    exact consistent_step consistent step

/-! ## What is read -/

/-- A round put together from rounds that were reported. -/
inductive Mixed (rounds : List Round) : Round → Prop where
  | mk {i j k : Nat} {a b c : Round} : rounds[i]? = some a → rounds[j]? = some b →
      rounds[k]? = some c → i ≤ j + 1 → i ≤ k + 1 → j ≤ k + 1 →
      Mixed rounds ⟨a.challenge, b.requestId, c.difficulty⟩

theorem exists_of_latest {rounds : List Round} {n : Nat} {round : Round}
    (h : latest rounds n = some round) : ∃ i, n = i + 1 ∧ rounds[i]? = some round := by
  cases n with
  | zero => cases h
  | succ i => exact ⟨i, rfl, h⟩

theorem narrow?_word {n : Nat} (hn : n < Nat.pow 2 64) : narrow? (Tracker.word n) = some n := by
  have hword : (Tracker.word n).toNat = n := by
    rw [Nat.pow_eq] at hn
    rw [Tracker.word, BitVec.toNat_ofNat]
    omega
  rw [narrow?, hword, if_pos hn]

/-- A record that was seen is one that was shown, at a time not later than those of the records seen
after it. -/
theorem seen_record {rounds : List Round} {n : Nat} {log : List (Exchange Reply)} {key : String}
    {raw : Bytes} (h : Seen rounds n (⟨.get key, .ok (some raw)⟩ :: log)) :
    ∃ m records, m ≤ n ∧ Shows rounds m records ∧ records.get? key = some raw ∧
      Seen rounds m log := by
  generalize hlog : (⟨.get key, .ok (some raw)⟩ :: log : List (Exchange Reply)) = full at h
  cases h with
  | nothing => cases hlog
  | @record m m' _ earlier records key' seen h₁ h₂ shows =>
    injection hlog with hx hrest
    injection hx with hop hreply
    injection hop with hkey
    subst hkey hrest
    injection hreply with hraw
    exact ⟨m', records, h₂, shows, hraw.symm, seen.later h₁⟩

theorem mixed_of_seen {rounds : List Round} (h64 : ∀ r ∈ rounds, r.requestId < Nat.pow 2 64)
    {n : Nat} {log : List (Exchange Reply)} {round : Round}
    (said : Says readRound.outcome log.reverse (.ok (some round))) (seen : Seen rounds n log) :
    Mixed rounds round := by
  obtain ⟨raw, rawId, rawDifficulty, id, -, hid, hdifficulty, hnarrow, hchallenge, hlog⟩ :=
    says_readRound.1 said
  rw [List.reverse_eq_iff] at hlog
  subst hlog
  obtain ⟨m₃, records₃, -, shows₃, hraw₃, seen⟩ := seen_record seen
  obtain ⟨m₂, records₂, h₂, shows₂, hraw₂, seen⟩ := seen_record seen
  obtain ⟨m₁, records₁, h₁, shows₁, hraw₁, -⟩ := seen_record seen
  rw [shows₁.challenge] at hraw₁
  rw [shows₂.requestId] at hraw₂
  rw [shows₃.difficulty] at hraw₃
  obtain ⟨a, ha, rfl⟩ := Option.map_eq_some_iff.1 hraw₁
  obtain ⟨b, hb, rfl⟩ := Option.map_eq_some_iff.1 hraw₂
  obtain ⟨c, hc, rfl⟩ := Option.map_eq_some_iff.1 hraw₃
  obtain ⟨i, hi, ha⟩ := exists_of_latest ha
  obtain ⟨j, hj, hb⟩ := exists_of_latest hb
  obtain ⟨k, hk, hc⟩ := exists_of_latest hc
  rw [Quantity.decode_encode] at hid hdifficulty
  cases hid
  rw [narrow?_word (h64 b (List.mem_of_getElem? hb))] at hnarrow
  have mixed := Mixed.mk ha hb hc (by omega) (by omega) (by omega)
  obtain ⟨challenge, requestId, difficulty⟩ := round
  cases hdifficulty
  cases hnarrow
  rw [show challenge = a.challenge from hchallenge.trans (Word.ofBytes_toBytes _)]
  exact mixed

theorem exists_read {rounds : List Round} {t : Traffic} {m : Nat} {key : String} {raw : Bytes}
    {rest : List (Exchange Reply)} {result : Except Failure (Option Round)}
    (h : Tracks rounds t m) (said : Says t.reader (⟨.get key, .ok (some raw)⟩ :: rest) result)
    (hraw : ∀ records, Shows rounds m records → records.get? key = some raw) :
    ∃ t', Traffic.Steps t t' ∧ Tracks rounds t' m ∧ Says t'.reader rest result := by
  obtain ⟨writing, records, hr, shows⟩ := h
  obtain ⟨world, tracker, reader⟩ := t
  cases said with
  | @ask _ next _ _ r said =>
    have hget : (World.answer reportNext (.get key) world).1 = .ok (some raw) :=
      congrArg World.stored ((Proxy.Local.get_of_records hr key).trans
        (congrArg Except.ok (hraw records shows)))
    refine ⟨_, .single (.read _), ⟨writing, records, hr, shows⟩, ?_⟩
    rw [Program.step, hget]
    exact said

/-- Every round that is put together so can be read. -/
theorem exists_reading {rounds : List Round} (h64 : ∀ r ∈ rounds, r.requestId < Nat.pow 2 64)
    {w : World (List Round)} (fresh : Fresh rounds w) {round : Round}
    (mixed : Mixed rounds round) :
    ∃ t, Traffic.Steps (.start w) t ∧ t.reader = .done (.ok (some round)) := by
  obtain @⟨i, j, k, a, b, c, ha, hb, hc, hij, hik, hjk⟩ := mixed
  have hi := (List.getElem?_eq_some_iff.1 ha).1
  have hj := (List.getElem?_eq_some_iff.1 hb).1
  have hk := (List.getElem?_eq_some_iff.1 hc).1
  have said : Says readRound.outcome
      [⟨.get Key.currentChallenge, .ok (some a.challenge.toBytes)⟩,
        ⟨.get Key.currentRequestId, .ok (some (Quantity.encode (Tracker.word b.requestId)))⟩,
        ⟨.get Key.currentDifficulty, .ok (some (Quantity.encode c.difficulty))⟩]
      (.ok (some ⟨a.challenge, b.requestId, c.difficulty⟩)) :=
    says_readRound.2 ⟨_, _, _, _, Word.length_toBytes _, Quantity.decode_encode _ _,
      Quantity.decode_encode _ _, narrow?_word (h64 b (List.mem_of_getElem? hb)),
      (Word.ofBytes_toBytes _).symm, rfl⟩
  -- Each record is read when it was just written, or at once when it is there already.
  obtain ⟨t₁, steps₁, hreader₁, tracks₁⟩ := exists_writes (n := 3 * i + 1)
    (consistent_start fresh).tracks (by omega) (by omega)
  have hreader₁ : t₁.reader = readRound.outcome := hreader₁
  obtain ⟨t₂, steps₂, tracks₂, said₂⟩ := exists_read tracks₁ (hreader₁ ▸ said)
    fun records shows => by
      rw [shows.challenge, show (3 * i + 1 + 2) / 3 = i + 1 by omega, latest, ha]
      rfl
  obtain ⟨t₃, steps₃, hreader₃, tracks₃⟩ := exists_writes (n := max (3 * i + 1) (3 * j + 2))
    tracks₂ (by omega) (by omega)
  obtain ⟨t₄, steps₄, tracks₄, said₄⟩ := exists_read tracks₃ (hreader₃ ▸ said₂)
    fun records shows => by
      rw [shows.requestId, show (max (3 * i + 1) (3 * j + 2) + 1) / 3 = j + 1 by omega, latest, hb]
      rfl
  obtain ⟨t₅, steps₅, hreader₅, tracks₅⟩ := exists_writes
    (n := max (max (3 * i + 1) (3 * j + 2)) (3 * k + 3)) tracks₄ (by omega) (by omega)
  obtain ⟨t₆, steps₆, tracks₆, said₆⟩ := exists_read tracks₅ (hreader₅ ▸ said₄)
    fun records shows => by
      rw [shows.difficulty, show max (max (3 * i + 1) (3 * j + 2)) (3 * k + 3) / 3 = k + 1 by omega,
        latest, hc]
      rfl
  exact ⟨t₆, ((((steps₁.trans steps₂).trans steps₃).trans steps₄).trans steps₅).trans steps₆,
    Program.eq_done_of_says_nil said₆⟩

/-- What can be read of the rounds that are reported one after another. -/
theorem reads_iff {rounds : List Round} (h64 : ∀ r ∈ rounds, r.requestId < Nat.pow 2 64)
    {w : World (List Round)} (fresh : Fresh rounds w) {round : Round} :
    (∃ t, Traffic.Steps (.start w) t ∧ t.reader = .done (.ok (some round))) ↔
      Mixed rounds round := by
  constructor
  · rintro ⟨t, steps, hreader⟩
    obtain ⟨m, -, log, reaches, seen⟩ := consistent_steps fresh steps
    rw [hreader] at reaches
    exact mixed_of_seen h64 (Program.says_iff_reaches.2 reaches) seen
  · exact exists_reading h64 fresh

/-- A reader never finds anything but a reported round just when every round that can be put
together from three of them is one of them. -/
theorem reads_reported_iff {rounds : List Round} (h64 : ∀ r ∈ rounds, r.requestId < Nat.pow 2 64)
    {w : World (List Round)} (fresh : Fresh rounds w) :
    (∀ t, Traffic.Steps (.start w) t →
        ∀ round, t.reader = .done (.ok (some round)) → round ∈ rounds) ↔
      ∀ (i j k : Nat) (a b c : Round), rounds[i]? = some a → rounds[j]? = some b →
        rounds[k]? = some c → i ≤ j + 1 → i ≤ k + 1 → j ≤ k + 1 →
        (⟨a.challenge, b.requestId, c.difficulty⟩ : Round) ∈ rounds := by
  constructor
  · intro always i j k a b c ha hb hc hij hik hjk
    obtain ⟨t, steps, hreader⟩ := exists_reading h64 fresh (.mk ha hb hc hij hik hjk)
    exact always t steps _ hreader
  · intro closed t steps round hreader
    obtain @⟨i, j, k, a, b, c, ha, hb, hc, hij, hik, hjk⟩ :=
      (reads_iff h64 fresh).1 ⟨t, steps, hreader⟩
    exact closed i j k a b c ha hb hc hij hik hjk

def emptyStore : Proxy.Local := ⟨⟨[(["store"], .store [] true)]⟩, some ⟨["store"], true⟩⟩

theorem fresh_empty (rounds : List Round) :
    Fresh rounds ⟨rounds, emptyStore, [], 0, 0, 0⟩ := ⟨rfl, [], rfl, rfl, rfl, rfl⟩

/-- A round that is reported twice is all that is read. -/
theorem reads_reported_of_repeated :
    Fresh [⟨5, 1, 2⟩, ⟨5, 1, 2⟩] ⟨[⟨5, 1, 2⟩, ⟨5, 1, 2⟩], emptyStore, [], 0, 0, 0⟩ ∧
      ∀ t, Traffic.Steps (.start ⟨[⟨5, 1, 2⟩, ⟨5, 1, 2⟩], emptyStore, [], 0, 0, 0⟩) t →
        ∀ round, t.reader = .done (.ok (some round)) →
          round ∈ [(⟨5, 1, 2⟩ : Round), ⟨5, 1, 2⟩] := by
  have fresh := fresh_empty [⟨5, 1, 2⟩, ⟨5, 1, 2⟩]
  refine ⟨fresh, (reads_reported_iff (by decide) fresh).2 ?_⟩
  intro i j k a b c ha hb hc _ _ _
  have same : ∀ r ∈ [(⟨5, 1, 2⟩ : Round), ⟨5, 1, 2⟩], r = ⟨5, 1, 2⟩ := by decide
  rw [same a (List.mem_of_getElem? ha), same b (List.mem_of_getElem? hb),
    same c (List.mem_of_getElem? hc)]
  exact List.mem_cons_self

/-- A reader may find the challenge of a new round with the request of the one before. -/
theorem exists_torn_read :
    ∃ t, Traffic.Steps (.start ⟨[⟨5, 1, 2⟩, ⟨6, 2, 3⟩], emptyStore, [], 0, 0, 0⟩) t ∧
      t.reader = .done (.ok (some ⟨6, 1, 2⟩)) ∧
      (⟨6, 1, 2⟩ : Round) ∉ [(⟨5, 1, 2⟩ : Round), ⟨6, 2, 3⟩] := by
  have first : [(⟨5, 1, 2⟩ : Round), ⟨6, 2, 3⟩][0]? = some ⟨5, 1, 2⟩ := rfl
  have second : [(⟨5, 1, 2⟩ : Round), ⟨6, 2, 3⟩][1]? = some ⟨6, 2, 3⟩ := rfl
  obtain ⟨t, steps, hreader⟩ := exists_reading (by decide) (fresh_empty _)
    (.mk second first first (by decide) (by decide) (by decide))
  exact ⟨t, steps, hreader, by decide⟩

end Mining
end PriceOracle
