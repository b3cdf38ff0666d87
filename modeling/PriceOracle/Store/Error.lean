import PriceOracle.Text.Numeral

/-!
# PriceOracle.Store.Error

What can go wrong with a store of records.
-/

namespace PriceOracle
namespace Store

/-- Why a record does not say what its key promises. -/
inductive Fault where
  /-- It is no text. -/
  | text (fault : Utf8.Fault)
  /-- No digits. -/
  | empty
  | numeral (fault : Numeral.Fault)
  /-- It is no list of samples. -/
  | unreadable
  | refused
  deriving Repr, DecidableEq

def Fault.message : Fault → String
  | .text fault => fault.message
  | .empty => "empty number"
  | .numeral fault => fault.message
  | .unreadable => "not a list of samples"
  | .refused => "refused"

inductive Error where
  | closed
  | malformed (key : String) (fault : Fault)
  /-- The path holds something else than a free store: a folder, another file, or a store that is
  open already. -/
  | occupied
  /-- There is no way to the path: one of the folders above it is a file. -/
  | unreachable
  deriving Repr, DecidableEq

def Error.message : Error → String
  | .closed => "Store is closed"
  | .malformed key fault => s!"Malformed record under {key}: {fault.message}"
  | .occupied => "Database error: the path does not hold a free store"
  | .unreachable => "IO error: the path cannot be reached"

end Store
end PriceOracle
