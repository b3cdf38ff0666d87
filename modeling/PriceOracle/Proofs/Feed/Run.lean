import PriceOracle.Feed.Tracker
import PriceOracle.Proofs.Feed.Price
import PriceOracle.Proofs.Json.Print
import PriceOracle.Proofs.Node
import PriceOracle.Proofs.Proxy.Local
import PriceOracle.Proofs.Store.Key
import PriceOracle.World

/-!
# PriceOracle.Proofs.Feed.Run

A run of a feed's tracker. It asks the sources, which changes nothing but the web (`run_prices`),
and finds prices only (`isPrice_of_mem_found`). With their median it writes the history and then the
value to report, unless the record of the history refuses the sample (`runOf_of_taken`,
`runOf_of_refused`, `runOf_of_none`).
-/

namespace PriceOracle
namespace Tracker

open Node Node.Action
open Program (Answerer)

variable {χ : Type} {answerChain : Answerer Chain.Call.Answer χ} {feed : Feed} {retention : Nat}
  {w : World χ}

/-- The prices that a run finds at sources. -/
def found (answerChain : Answerer Chain.Call.Answer χ) (sources : List Source) (w : World χ) :
    List Float :=
  ((prices sources).outcome.run (World.answer answerChain) w).1.toOption.getD []

/-- The price that a run takes. -/
def priceOf (answerChain : Answerer Chain.Call.Answer χ) (feed : Feed) (w : World χ) :
    Option Float := medianOf (found answerChain feed.sources w)

/-- How a run ends, and the world after it. -/
def runOf (answerChain : Answerer Chain.Call.Answer χ) (feed : Feed) (retention : Nat)
    (w : World χ) : Except Failure Unit × World χ :=
  (writePrice feed retention).outcome.run (World.answer answerChain) w

theorem run_question (answer : Answerer Reply (World χ)) (op : Ask) (w : World χ) :
    (ask op).outcome.run answer w = (.ok (answer op w).1, (answer op w).2) := rfl

theorem run_pure {α : Type} (answer : Answerer Reply (World χ)) (a : α) (w : World χ) :
    (pure a : Action α).outcome.run answer w = (.ok a, w) := rfl

theorem isPrice_of_priceIn {path : List String} {document : Bytes} {x : Float}
    (h : priceIn path document = some x) : Price.isPrice x = true := by
  obtain ⟨text, -, h⟩ := Option.bind_eq_some_iff.1 h
  obtain ⟨json, -, h⟩ := Option.bind_eq_some_iff.1 h
  cases hextract : Price.extract json path with
  | ok y =>
    rw [hextract] at h
    cases h
    exact Price.isPrice_of_extract hextract
  | error fault =>
    rw [hextract] at h
    cases h

/-- Asking a source changes nothing but the web. -/
theorem run_priceAt (answerChain : Answerer Chain.Call.Answer χ) (source : Source)
    (w : World χ) : ∃ price web,
    (priceAt source).outcome.run (World.answer answerChain) w = (.ok price, { w with web }) ∧
      ∀ x, price = some x → Price.isPrice x = true := by
  obtain ⟨r, web, hfetch⟩ : ∃ r web,
      World.answer answerChain (.fetch source.url) w = (r, { w with web }) := ⟨_, _, rfl⟩
  unfold priceAt
  rw [run_andThen, run_question, hfetch]
  cases r with
  | ok document =>
    exact ⟨priceIn source.path document, web, rfl, fun x => isPrice_of_priceIn⟩
  | error e => exact ⟨none, web, rfl, fun x h => by cases h⟩

theorem run_prices (answerChain : Answerer Chain.Call.Answer χ) (sources : List Source)
    (w : World χ) : ∃ web,
    (prices sources).outcome.run (World.answer answerChain) w =
        (.ok (found answerChain sources w), { w with web }) ∧
      ∀ x ∈ found answerChain sources w, Price.isPrice x = true := by
  suffices h : ∃ list web, (prices sources).outcome.run (World.answer answerChain) w =
      (.ok list, { w with web }) ∧ ∀ x ∈ list, Price.isPrice x = true by
    obtain ⟨list, web, hrun, hlist⟩ := h
    have hfound : found answerChain sources w = list := by
      rw [found, hrun]
      rfl
    exact ⟨web, hfound ▸ hrun, hfound ▸ hlist⟩
  induction sources generalizing w with
  | nil => exact ⟨[], w.web, rfl, fun x hx => absurd hx List.not_mem_nil⟩
  | cons source rest ih =>
    obtain ⟨price, web, hprice, hvalid⟩ := run_priceAt answerChain source w
    obtain ⟨others, web', hothers, hall⟩ := ih { w with web }
    refine ⟨price.toList ++ others, web', ?_, ?_⟩
    · rw [prices, run_andThen, hprice]
      simp only
      rw [run_andThen, hothers]
      rfl
    · intro x hx
      rw [List.mem_append, Option.mem_toList] at hx
      exact hx.elim (hvalid x) (hall x)

/-- Whatever the sources answer, only prices are found. -/
theorem isPrice_of_mem_found {x : Float} {sources : List Source}
    (hx : x ∈ found answerChain sources w) : Price.isPrice x = true :=
  let ⟨_, _, hall⟩ := run_prices answerChain sources w
  hall x hx

/-- What is left of a run that has a price. -/
def writeSample (feed : Feed) (retention : Nat) (price : Float) : Action Unit := do
  let time ← now
  let key := Key.priceHistory feed.requestId
  update key (extendRecord key ⟨time, price, feed.symbol⟩ (cutoff time retention))
  putWord (Key.queryValue feed.requestId) (granular feed price)

theorem outcome_writePrice (feed : Feed) (retention : Nat) :
    writePrice feed retention = prices feed.sources >>= fun list =>
      match medianOf list with
      | none => throw (.noPrice feed.symbol)
      | some price => writeSample feed retention price := rfl

/-- The change that a run makes in the record of its history. -/
def changeOf (feed : Feed) (retention : Nat) (time : Int) (price : Float) :
    Option Bytes → Except Store.Error Bytes :=
  extendRecord (Key.priceHistory feed.requestId) ⟨time, price, feed.symbol⟩
    (cutoff time retention)

theorem key_ne (requestId : Nat) : Key.queryValue requestId ≠ Key.priceHistory requestId := by
  intro h
  have hrecord := @Key.Record.key_inj (.queryValue requestId) (.priceHistory requestId)
  cases hrecord.1 h

theorem run_update (key : String) (change : Option Bytes → Except Store.Error Bytes) (w : World χ) :
    (update key change).outcome.run (World.answer answerChain) w =
      ((World.stored (w.store.update key change).1).mapError Failure.ofProxy,
        { w with store := (w.store.update key change).2 }) := rfl

theorem run_put (key : String) (value : Bytes) (w : World χ) :
    (put key value).outcome.run (World.answer answerChain) w =
      ((World.stored (w.store.put key value).1).mapError Failure.ofProxy,
        { w with store := (w.store.put key value).2 }) := rfl

/-- Writing a sample fails when the record refuses it, and writes both records otherwise. -/
theorem run_writeSample (answerChain : Answerer Chain.Call.Answer χ) (feed : Feed)
    (retention : Nat) {w : World χ} (price : Float) {record : Option Bytes}
    (hget : w.store.get (Key.priceHistory feed.requestId) = .ok record) :
    match changeOf feed retention w.now price record with
    | .error e =>
      (writeSample feed retention price).outcome.run (World.answer answerChain) w =
        (.error (.store e), w)
    | .ok value => ∃ store,
      (writeSample feed retention price).outcome.run (World.answer answerChain) w =
        (.ok (), { w with store }) ∧
      store.get (Key.priceHistory feed.requestId) = .ok (some value) ∧
      store.get (Key.queryValue feed.requestId) =
        .ok (some (Quantity.encode (granular feed price))) := by
  have hupdate := Proxy.Local.update_of_get hget (changeOf feed retention w.now price)
  unfold writeSample
  rw [run_andThen, now, run_question]
  simp only [World.answer]
  rw [run_andThen, run_update]
  simp only [changeOf] at hupdate ⊢
  rw [hupdate]
  cases hchange : extendRecord (Key.priceHistory feed.requestId) ⟨w.now, price, feed.symbol⟩
      (cutoff w.now retention) record with
  | error e => rfl
  | ok value =>
    obtain ⟨-, hput, -⟩ := Proxy.Local.put_of_get hget (Key.priceHistory feed.requestId) value
    obtain ⟨hok, hvalue, hhistory⟩ := Proxy.Local.put_of_get hput (Key.queryValue feed.requestId)
      (Quantity.encode (granular feed price))
    rw [if_neg (key_ne feed.requestId)] at hhistory
    refine ⟨_, ?_, hhistory, hvalue⟩
    show (putWord (Key.queryValue feed.requestId) (granular feed price)).outcome.run
      (World.answer answerChain) { w with
        store := (w.store.put (Key.priceHistory feed.requestId) value).2 } = _
    rw [putWord, run_put, hok]
    rfl

theorem runOf_eq (answerChain : Answerer Chain.Call.Answer χ) (feed : Feed)
    (retention : Nat) (w : World χ) :
    ∃ web, runOf answerChain feed retention w =
      match priceOf answerChain feed w with
      | none => (.error (.noPrice feed.symbol), { w with web })
      | some price =>
        (writeSample feed retention price).outcome.run (World.answer answerChain)
          { w with web } := by
  obtain ⟨web, hprices, -⟩ := run_prices answerChain feed.sources w
  refine ⟨web, ?_⟩
  rw [runOf, outcome_writePrice, run_andThen, hprices]
  simp only [priceOf]
  cases medianOf (found answerChain feed.sources w) with
  | none => rfl
  | some price => rfl

/-- A run without a price fails and writes nothing. -/
theorem runOf_of_none (hprice : priceOf answerChain feed w = none) :
    (runOf answerChain feed retention w).1 = .error (.noPrice feed.symbol) ∧
      (runOf answerChain feed retention w).2.store = w.store := by
  obtain ⟨web, hrun⟩ := runOf_eq answerChain feed retention w
  rw [hrun, hprice]
  exact ⟨rfl, rfl⟩

/-- A run with a price fails when the record of the history refuses the sample. -/
theorem runOf_of_refused {price : Float} {record : Option Bytes} {e : Store.Error}
    (hprice : priceOf answerChain feed w = some price)
    (hget : w.store.get (Key.priceHistory feed.requestId) = .ok record)
    (hchange : changeOf feed retention w.now price record = .error e) :
    (runOf answerChain feed retention w).1 = .error (.store e) ∧
      (runOf answerChain feed retention w).2.store = w.store := by
  obtain ⟨web, hrun⟩ := runOf_eq answerChain feed retention w
  have hget' : ({ w with web } : World χ).store.get (Key.priceHistory feed.requestId) =
    .ok record := hget
  have h := run_writeSample answerChain feed retention price hget'
  have hchange' : changeOf feed retention ({ w with web } : World χ).now price record =
    .error e := hchange
  rw [hchange'] at h
  rw [hrun, hprice]
  simp only [h]
  exact ⟨trivial, trivial⟩

/-- A run with a price writes the history and the value to report. -/
theorem runOf_of_taken {price : Float} {record : Option Bytes} {value : Bytes}
    (hprice : priceOf answerChain feed w = some price)
    (hget : w.store.get (Key.priceHistory feed.requestId) = .ok record)
    (hchange : changeOf feed retention w.now price record = .ok value) :
    (runOf answerChain feed retention w).1 = .ok () ∧
      (runOf answerChain feed retention w).2.store.get (Key.priceHistory feed.requestId) =
        .ok (some value) ∧
      (runOf answerChain feed retention w).2.store.get (Key.queryValue feed.requestId) =
        .ok (some (Quantity.encode (granular feed price))) := by
  obtain ⟨web, hrun⟩ := runOf_eq answerChain feed retention w
  have hget' : ({ w with web } : World χ).store.get (Key.priceHistory feed.requestId) =
    .ok record := hget
  have h := run_writeSample answerChain feed retention price hget'
  have hchange' : changeOf feed retention ({ w with web } : World χ).now price record =
    .ok value := hchange
  rw [hchange'] at h
  obtain ⟨store, hwrite, hhistory, hvalue⟩ := h
  rw [hrun, hprice]
  simp only [hwrite]
  exact ⟨trivial, hhistory, hvalue⟩

/-! ## How runs end -/

/-- The history that a record stands for. Where nothing is stored, there are no samples. -/
def historyOf : Option Bytes → Option History
  | none => some .empty
  | some raw => History.decode? raw

theorem changeOf_of_history {time : Int} {price : Float} {record : Option Bytes} {h : History}
    (hrecord : historyOf record = some h) :
    changeOf feed retention time price record =
      .ok (extend ⟨time, price, feed.symbol⟩ (cutoff time retention) h).encode := by
  cases record with
  | none =>
    cases hrecord
    rfl
  | some raw =>
    have hraw : History.decode? raw = some h := hrecord
    rw [changeOf, extendRecord, hraw]

/-- A run that finds a history records what it makes of it. -/
theorem get_runOf {price : Float} {record : Option Bytes} {h : History}
    (hprice : priceOf answerChain feed w = some price)
    (hget : w.store.get (Key.priceHistory feed.requestId) = .ok record)
    (hrecord : historyOf record = some h) :
    (runOf answerChain feed retention w).2.store.get (Key.priceHistory feed.requestId) =
      .ok (some (extend ⟨w.now, price, feed.symbol⟩ (cutoff w.now retention) h).encode) :=
  (runOf_of_taken hprice hget (changeOf_of_history hrecord)).2.1

theorem changeOf_of_malformed {time : Int} {price : Float} {record : Option Bytes}
    (hrecord : historyOf record = none) :
    changeOf feed retention time price record =
      .error (.malformed (Key.priceHistory feed.requestId) .unreadable) := by
  cases record with
  | none => cases hrecord
  | some raw =>
    have hraw : History.decode? raw = none := hrecord
    rw [changeOf, extendRecord, hraw]

/-- Without access to the store a run fails. -/
theorem runOf_of_error {price : Float} {e : Store.Error}
    (hprice : priceOf answerChain feed w = some price)
    (hget : w.store.get (Key.priceHistory feed.requestId) = .error e) :
    (runOf answerChain feed retention w).1 = .error (.store e) := by
  obtain ⟨web, hrun⟩ := runOf_eq answerChain feed retention w
  have hupdate (change : Option Bytes → Except Store.Error Bytes) :
      w.store.update (Key.priceHistory feed.requestId) change = (.error e, w.store) := by
    simp only [Proxy.Local.update, hget]
  rw [hrun, hprice]
  simp only [writeSample]
  rw [run_andThen, now, run_question]
  simp only [World.answer]
  rw [run_andThen, run_update]
  simp only [hupdate]
  rfl

/-- A run ends well just when it has a price and the stored history can be read. -/
theorem runOf_eq_ok_iff : (runOf answerChain feed retention w).1 = .ok () ↔
    ∃ price record h, priceOf answerChain feed w = some price ∧
      w.store.get (Key.priceHistory feed.requestId) = .ok record ∧ historyOf record = some h := by
  constructor
  · intro hrun
    cases hprice : priceOf answerChain feed w with
    | none =>
      rw [(runOf_of_none hprice).1] at hrun
      cases hrun
    | some price =>
      cases hget : w.store.get (Key.priceHistory feed.requestId) with
      | error e =>
        rw [runOf_of_error hprice hget] at hrun
        cases hrun
      | ok record =>
        cases hrecord : historyOf record with
        | none =>
          rw [(runOf_of_refused hprice hget (changeOf_of_malformed hrecord)).1] at hrun
          cases hrun
        | some h => exact ⟨price, record, h, rfl, rfl, hrecord⟩
  · rintro ⟨price, record, h, hprice, hget, hrecord⟩
    exact (runOf_of_taken hprice hget (changeOf_of_history hrecord)).1

/-- A run that ends well has written the value to report. -/
theorem reported_of_ok {price : Float} (hprice : priceOf answerChain feed w = some price)
    (hrun : (runOf answerChain feed retention w).1 = .ok ()) :
    (runOf answerChain feed retention w).2.store.get (Key.queryValue feed.requestId) =
      .ok (some (Quantity.encode (granular feed price))) := by
  obtain ⟨_, record, h, -, hget, hrecord⟩ := runOf_eq_ok_iff.1 hrun
  exact (runOf_of_taken hprice hget (changeOf_of_history hrecord)).2.2

section Answering

/-- The text of a price is read as this price. -/
theorem priceIn_print {x : Float} (hx : Price.isPrice x = true) :
    priceIn [] (Utf8.encode (Json.number (.double x)).print) = some x := by
  have hfinite : x.isFinite = true := (Price.isPrice_eq_true_iff.1 hx).1
  have hecho : Json.echo (.number (.double x)) = .number (.double x) := Json.echo_finite hfinite
  have hsound : Json.parseSound (Json.number (.double x)).print = some (.number (.double x)) := by
    rw [Json.parseSound, Json.parse_print, hecho]
    simp only [Json.sound, Json.soundWithin, hfinite, if_true, Json.canonical]
  rw [priceIn, Utf8.decode_encode]
  show (do
    let json ← Json.parseSound (Json.number (.double x)).print
    (Price.extract json []).toOption) = _
  rw [hsound]
  show (Price.ofJson (.number (.double x))).toOption = some x
  rw [Price.ofJson_eq_ok_iff.2 ⟨rfl, hx⟩]
  rfl

/-- A site that always answers with one document. -/
theorem fetch_always (document : Bytes) (hits patience : Nat) (hp : patience ≠ 0) :
    (Site.mk [.body document] hits).fetch patience =
      (.ok document, ⟨[.body document], hits + 1⟩) := by
  have hattempt : (fun n =>
      (⟨(Site.mk [.body document] hits).reply (hits + n), 0⟩ : Fetch.Attempt)) =
      fun _ => ⟨.body document, 0⟩ := by
    funext n
    cases hits + n <;> rfl
  have hrun : Fetch.within (fun _ => ⟨.body document, 0⟩) patience = ⟨.ok document, 1, 0⟩ := by
    rw [Fetch.within, Fetch.runFrom, if_neg hp]
    rfl
  rw [Site.fetch, hattempt, hrun]

/-- A chain that is out of reach. -/
def noChain : Answerer Chain.Call.Answer Unit
  | .query _, u => (.error (.unavailable "no chain"), u)
  | .send _, u => (.error (.unavailable "no chain"), u)

/-- A world with an empty store, in which every source at one place has the same price. -/
def offering (x : Float) (hits : Nat) : World Unit where
  chain := ()
  store := ⟨⟨[(["store"], .store [] true)]⟩, some ⟨["store"], true⟩⟩
  web := [("price", ⟨[.body (Utf8.encode (Json.number (.double x)).print)], hits⟩)]
  patience := 1
  clock := 0
  birth := 0

@[simp] theorem now_offering (x : Float) (hits : Nat) : (offering x hits).now = 0 := by
  simp [World.now, offering]

/-- A source in such a world. -/
def offer : Source := ⟨"price", []⟩

theorem run_prices_offering {x : Float} (hx : Price.isPrice x = true) (n hits : Nat) :
    (prices (List.replicate n offer)).outcome.run (World.answer noChain) (offering x hits) =
      (.ok (List.replicate n x), offering x (hits + n)) := by
  induction n generalizing hits with
  | zero => rfl
  | succ n ih =>
    have hfetch : World.answer noChain (.fetch offer.url) (offering x hits) =
        (.ok (Utf8.encode (Json.number (.double x)).print), offering x (hits + 1)) := by
      have h := fetch_always (Utf8.encode (Json.number (.double x)).print) hits 1 (by decide)
      show ((((offering x hits).siteAt "price").fetch 1).1, { offering x hits with
        web := (offering x hits).web.put "price"
          (((offering x hits).siteAt "price").fetch 1).2 }) = _
      rw [show (offering x hits).siteAt "price" =
        ⟨[.body (Utf8.encode (Json.number (.double x)).print)], hits⟩ from rfl, h]
      rfl
    have hprice : (priceAt offer).outcome.run (World.answer noChain) (offering x hits) =
        (.ok (some x), offering x (hits + 1)) := by
      unfold priceAt
      rw [run_andThen, run_question, hfetch]
      simp only
      rw [run_pure, show offer.path = [] from rfl, priceIn_print hx]
    rw [List.replicate_succ, prices, run_andThen, hprice]
    simp only
    rw [run_andThen, ih]
    simp only
    rw [run_pure, Option.toList_some, List.singleton_append, Nat.add_right_comm, Nat.add_assoc]
    rfl

theorem found_offering {x : Float} (hx : Price.isPrice x = true) (n hits : Nat) :
    found noChain (List.replicate n offer) (offering x hits) = List.replicate n x := by
  rw [found, run_prices_offering hx]
  rfl

theorem sorted_replicate (n : Nat) (d : Double) :
    sorted (List.replicate n d) = List.replicate n d :=
  List.perm_replicate.1 (List.mergeSort_perm _ _)

theorem medianOf_one (x : Float) : medianOf [x] = some (Double.ofFloat x).toFloat := by
  have h := sorted_replicate 1 (Double.ofFloat x)
  rw [List.replicate_one] at h
  simp [medianOf, median, middles, h]

theorem medianOf_two (x : Float) :
    medianOf [x, x] =
      some (((Double.ofFloat x).toFloat + (Double.ofFloat x).toFloat) / 2.0) := by
  have h := sorted_replicate 2 (Double.ofFloat x)
  simp only [List.replicate_succ, List.replicate_zero] at h
  simp [medianOf, median, middles, h]

/-- A feed of a number of sources at one place. -/
def offered (n : Nat) : Feed := ⟨1, "ETH/USD", 1.0, List.replicate n offer⟩

/-- The first sample is kept. -/
theorem extend_first (price : Float) (symbol : String) :
    extend ⟨0, price, symbol⟩ (cutoff 0 3600) .empty = ⟨[⟨0, price, symbol⟩]⟩ := by
  have hcutoff : cutoff 0 3600 = -3600 := by decide
  simp [hcutoff, extend, History.record?, History.admits, History.empty, History.prune]

end Answering

end Tracker
end PriceOracle
