import PriceOracle.Config.Basic
import PriceOracle.Rpc.Client
import PriceOracle.Url.Basic

/-!
# PriceOracle.Rpc.Session

The start of a session with a node: the settings have to make sense, and the node has to answer.
-/

namespace PriceOracle
namespace Rpc

structure Session where
  signer : Signer
  contract : Address
  deriving Repr, DecidableEq

namespace Session

def account (s : Session) : Address := s.signer.account

inductive Fault where
  | privateKey
  | contract (text : String)
  | url (text : String)
  /-- The node does not answer. -/
  | unreachable (node : String)
  deriving Repr, DecidableEq

def Fault.message : Fault → String
  | .privateKey => "parse private key (set ETH_PRIVATE_KEY)"
  | .contract text => "parse contract address " ++ Text.quoted text
  | .url text => "parse node url " ++ Text.quoted text
  | .unreachable node => "connect to " ++ node

/-- The session that some settings ask for. -/
def ofConfig (c : Config) : Except Fault Session :=
  match PrivateKey.ofHex? c.privateKey, Address.ofText? c.contract with
  | none, _ => .error .privateKey
  | some _, none => .error (.contract c.contract)
  | some key, some contract =>
    match Url.ofString? c.nodeUrl with
    | some _ => .ok ⟨.ofKey key, contract⟩
    | none => .error (.url c.nodeUrl)

/-- Begin a session, and see whether the node answers. -/
def start (c : Config) : Program Reply (Except Fault Session) := do
  match ofConfig c with
  | .error fault => return .error fault
  | .ok session =>
    match (← Client.put .latestBlock).bind (quantity? 64) with
    | some _ => return .ok session
    | none => return .error (.unreachable c.nodeUrl)

def answer (s : Session) (call : Chain.Call) : Program Reply call.Answer :=
  Client.answer s.signer s.contract call

end Session
end Rpc
end PriceOracle
