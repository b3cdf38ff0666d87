import PriceOracle.Hash.Sha256

/-!
# PriceOracle.Hash.Hmac

HMAC with SHA-256: a message is hashed twice behind two forms of a key that fills a block.
-/

namespace PriceOracle
namespace Hmac

/-- A key as long as a block. Keys that are longer are hashed first. -/
def fill (key : Bytes) : Bytes :=
  let key := if key.length ≤ Block.size then key else Sha256.hash key
  key ++ List.replicate (Block.size - key.length) 0

def tag (key message : Bytes) : Bytes :=
  let key := fill key
  Sha256.hash (key.map (· ^^^ 0x5C) ++ Sha256.hash (key.map (· ^^^ 0x36) ++ message))

end Hmac
end PriceOracle
