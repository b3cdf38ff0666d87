import PriceOracle.Proxy.Message
import PriceOracle.Store.Error

/-!
# PriceOracle.Proxy.Error

What can go wrong between a client and a store, be it in the same process or behind a connection.
-/

namespace PriceOracle
namespace Proxy

/-- Why a reply makes no sense to the client. -/
inductive Confusion where
  /-- It is no response at all. -/
  | unparsable (text : String)
  /-- It answers another kind of request. -/
  | unexpected (response : Response)
  /-- The value for a key is no hexadecimal text. -/
  | badHex (key : String) (fault : Hex.Fault)
  deriving Repr, DecidableEq

/-- How both sides complain about a value that is no hexadecimal text. -/
def badHexMessage (key : String) (fault : Hex.Fault) : String :=
  s!"bad hex value for {key}: {fault.message}"

def Confusion.message : Confusion → String
  | .unparsable text => "not a response - " ++ text
  | .unexpected response => "unexpected response: " ++ response.describe
  | .badHex key fault => badHexMessage key fault

inductive Error where
  | store (error : Store.Error)
  /-- The connection failed. -/
  | transport
  | protocol (confusion : Confusion)
  /-- The other side says what went wrong there. -/
  | remote (message : String)
  | disconnected
  deriving Repr, DecidableEq

def Error.message : Error → String
  | .store error => error.message
  | .transport => "WebSocket error: the connection failed"
  | .protocol confusion => "Malformed proxy message: " ++ confusion.message
  | .remote message => "Remote data service error: " ++ message
  | .disconnected => "Remote data service connection is closed"

end Proxy
end PriceOracle
