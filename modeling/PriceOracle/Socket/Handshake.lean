import PriceOracle.Hash.Sha1
import PriceOracle.Http.Message
import PriceOracle.Text.Base64

/-!
# PriceOracle.Socket.Handshake

How a connection becomes a socket: the client sends a key, and the server shows that it knows what
to make of it.
-/

namespace PriceOracle
namespace Socket

/-- What every key is joined with. -/
def badge : String := "258EAFA5-E914-47DA-95CA-C5AB0DC85B11"

/-- What a server makes of a key. -/
def accept (key : String) : String := Base64.encode (Sha1.hash (Utf8.encode (key ++ badge)))

def invitation (e : Http.Endpoint) (key : String) : Http.Request :=
  ⟨"GET", e,
    [("Connection", "Upgrade"), ("Upgrade", "websocket"), ("Sec-WebSocket-Version", "13"),
      ("Sec-WebSocket-Key", key)], []⟩

/-- The key of a client that asks for a socket. -/
def key? (h : Http.Head) : Option String :=
  if h.first.startsWith "GET " && (h.field "upgrade").any (·.toLower = "websocket") &&
      h.field "sec-websocket-version" = some "13" then h.field "sec-websocket-key"
  else none

def welcome (key : String) : Bytes :=
  Utf8.encode ("HTTP/1.1 101 Switching Protocols\r\n" ++ Http.Request.line "Connection" "Upgrade" ++
    Http.Request.line "Upgrade" "websocket" ++
    Http.Request.line "Sec-WebSocket-Accept" (accept key) ++ "\r\n")

/-- Does the answer to a key open a socket? -/
def isWelcome (key : String) (h : Http.Head) : Bool :=
  h.code? = some 101 && h.field "sec-websocket-accept" = some (accept key)

end Socket
end PriceOracle
