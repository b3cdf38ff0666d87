import PriceOracle.Chain.Contract
import PriceOracle.Dispute.Basic
import PriceOracle.Proofs.Word

/-!
# PriceOracle.Proofs.Dispute.Opening

What the log of a new dispute says. The ids are the second and the third topic; the data begins with
the word of the time and the word of the miner, whose address is in its low 20 bytes. What else is
in the log does not matter (`ofLog_eq_ok_iff`), and only logs that are too short are refused
(`ofLog_eq_error_iff`). The log that the contract leaves is laid out like this (`ofLog_emitted`).
-/

namespace PriceOracle

/-- A log as it is kept, with topics of 32 bytes. -/
def Chain.Log.ofBytes (block : Nat) (topics : List (Vector UInt8 32)) (data : Bytes) : Log :=
  ⟨block, topics.map fun t => Word.ofBytes t.toList, data⟩

namespace Dispute
namespace Opening

open Chain

/-- The topics and the data say, each in its place, what the opening is. -/
structure IsSaid (topics : List (Vector UInt8 32)) (data : Bytes) (o : Opening) : Prop where
  topics : ∃ first disputeId requestId more, topics = first :: disputeId :: requestId :: more ∧
    IsBigEndian 32 disputeId.toList o.disputeId.toNat ∧
    IsBigEndian 32 requestId.toList o.requestId.toNat
  data : ∃ time front miner rest, data = time ++ (front ++ (miner ++ rest)) ∧
    IsBigEndian 32 time o.timestamp.toNat ∧ front.length = 12 ∧
    IsBigEndian 20 miner o.miner.toNat

/-- The log that the contract leaves when the dispute is opened. The ids are indexed. -/
def emitted (o : Opening) (block : Nat) : Log :=
  ⟨block, [(Contract.event .newDispute).topic, o.disputeId, o.requestId],
    Abi.encode [.word o.timestamp, .word o.miner.toWord]⟩

section Data

variable {data time front miner rest : Bytes}

theorem append_words (data : Bytes) : data =
    data.take 32 ++ ((data.drop 32).take 12 ++ ((data.drop 44).take 20 ++ data.drop 64)) := by
  have htail (n m : Nat) : (data.drop n).take m ++ data.drop (n + m) = data.drop n := by
    rw [← List.drop_drop, List.take_append_drop]
  rw [htail 44 20, htail 32 12, List.take_append_drop]

theorem ofLog_append (block : Nat) (first disputeId requestId : Word) (more : List Word)
    (htime : time.length = 32) (hfront : front.length = 12) (hminer : miner.length = 20) :
    ofLog ⟨block, first :: disputeId :: requestId :: more, time ++ (front ++ (miner ++ rest))⟩ =
      .ok ⟨disputeId, requestId, Word.ofBytes time, Address.ofBytes miner⟩ := by
  have hlength : ¬(time ++ (front ++ (miner ++ rest))).length < 64 := by
    simp only [List.length_append, htime, hfront, hminer]
    omega
  have hplace : (time ++ front).length = 44 := by rw [List.length_append, htime, hfront]
  have hword : (time ++ (front ++ (miner ++ rest))).take 32 = time := by
    rw [← htime, List.take_left]
  have haddress : ((time ++ (front ++ (miner ++ rest))).drop 44).take 20 = miner := by
    rw [← List.append_assoc, ← hplace, List.drop_left, ← hminer, List.take_left]
  simp only [ofLog, if_neg hlength, hword, haddress]

end Data

variable {o : Opening} {log : Log} {block : Nat} {topics : List (Vector UInt8 32)} {data : Bytes}
  {what : Nonsense}

theorem ofLog_eq_error_iff : ofLog log = .error what ↔
    log.topics.length < 3 ∧ what = .disputeTopics log.topics.length ∨
      3 ≤ log.topics.length ∧ log.data.length < 64 ∧ what = .disputeData log.data.length := by
  obtain ⟨block, topics, data⟩ := log
  match topics with
  | [] | [_] | [_, _] => simp [ofLog, eq_comm]
  | _ :: _ :: _ :: more =>
    by_cases hdata : data.length < 64
    · simp [ofLog, hdata, eq_comm]
    · simp [ofLog, hdata]

theorem ofLog_eq_ok_iff : ofLog (.ofBytes block topics data) = .ok o ↔ IsSaid topics data o := by
  constructor
  · intro h
    match topics with
    | [] | [_] | [_, _] => cases h
    | first :: disputeId :: requestId :: more =>
      simp only [Log.ofBytes, List.map_cons, ofLog] at h
      split at h
      · cases h
      · next hdata =>
        cases h
        have hlength (n m : Nat) (h : n + m ≤ 64) : ((data.drop n).take m).length = m := by
          rw [List.length_take, List.length_drop]
          omega
        have htopic (t : Vector UInt8 32) : t.toList.length = 32 := by simp
        refine ⟨⟨first, disputeId, requestId, more, rfl, ?_, ?_⟩,
          ⟨_, _, _, _, append_words data, ?_, hlength 32 12 (by decide), ?_⟩⟩
        · exact (Word.ofBytes_eq_iff (htopic disputeId)).1 rfl
        · exact (Word.ofBytes_eq_iff (htopic requestId)).1 rfl
        · exact (Word.ofBytes_eq_iff (hlength 0 32 (by decide))).1 rfl
        · exact (Address.ofBytes_eq_iff (hlength 44 20 (by decide))).1 rfl
  · rintro ⟨⟨first, disputeId, requestId, more, rfl, hdispute, hrequest⟩,
      ⟨time, front, miner, rest, rfl, htime, hfront, hminer⟩⟩
    rw [Log.ofBytes, List.map_cons, List.map_cons, List.map_cons,
      ofLog_append _ _ _ _ _ htime.length hfront hminer.length,
      (Word.ofBytes_eq_iff hdispute.length).2 hdispute,
      (Word.ofBytes_eq_iff hrequest.length).2 hrequest, (Word.ofBytes_eq_iff htime.length).2 htime,
      (Address.ofBytes_eq_iff hminer.length).2 hminer]

theorem ofLog_emitted (o : Opening) (block : Nat) : ofLog (o.emitted block) = .ok o := by
  have hdata : Abi.encode [.word o.timestamp, .word o.miner.toWord] =
      o.timestamp.toBytes ++ (List.replicate 12 0 ++ (o.miner.toBytes ++ [])) := by
    rw [← List.append_assoc (List.replicate 12 0), ← Address.toBytes_toWord]
    simp only [Abi.encode, Abi.heads, Abi.Argument.head, Abi.Argument.tail, List.flatMap_cons,
      List.flatMap_nil, List.append_nil]
  rw [emitted, hdata, ofLog_append _ _ _ _ _ o.timestamp.length_toBytes List.length_replicate
    o.miner.length_toBytes, Word.ofBytes_toBytes, Address.ofBytes_toBytes]

/-- A log is read as an opening just when it says so, whatever the first topic, the topics after
the third, the bytes in front of the address and the bytes behind it are. Every log that the
contract leaves for a dispute is read as the opening of it. Refused are the logs with fewer than
three topics or 64 bytes, and they alone. -/
theorem opening_account :
    (∀ block topics data o, ofLog (.ofBytes block topics data) = .ok o ↔ IsSaid topics data o) ∧
      (∀ (o : Opening) (block : Nat), ofLog (o.emitted block) = .ok o) ∧
      ∀ log what, ofLog log = .error what ↔
        log.topics.length < 3 ∧ what = .disputeTopics log.topics.length ∨
          3 ≤ log.topics.length ∧ log.data.length < 64 ∧ what = .disputeData log.data.length :=
  ⟨fun _ _ _ _ => ofLog_eq_ok_iff, ofLog_emitted, fun _ _ => ofLog_eq_error_iff⟩

end Opening
end Dispute
end PriceOracle
