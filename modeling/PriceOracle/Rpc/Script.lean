import PriceOracle.Rpc.Session

/-!
# PriceOracle.Rpc.Script

A chain node that answers from a list: by the method that is asked for, or, when a function of a
contract is called, by what the function is called by. It remembers what it was asked.
-/

namespace PriceOracle
namespace Rpc

structure Script where
  /-- The answers, by name; `none` is an error. -/
  answers : Table String (Option Json)
  /-- The questions so far, the latest first. -/
  asked : List Ask

namespace Script

/-- What a question is answered by. -/
def name : Ask → String
  | .call _ data => "eth_call:" ++ Hex.encode (data.take 4)
  | ask => ask.method

def answer : Program.Answerer Reply Script
  | ask, s => (((s.answers.get? (name ask)).bind id), { s with asked := ask :: s.asked })

/-- Answer a call of the chain in a session. -/
def answerChain (session : Session) : Program.Answerer Chain.Call.Answer Script
  | call, s => (session.answer call).run answer s

/-- Has the node been asked for a method? -/
def wasAsked (method : String) (s : Script) : Bool := s.asked.any (·.method = method)

end Script
end Rpc
end PriceOracle
