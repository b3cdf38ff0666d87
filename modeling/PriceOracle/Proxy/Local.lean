import PriceOracle.Store.Disk

/-!
# PriceOracle.Proxy.Local

The store as the tasks of one process share it. Nobody holds the store itself: every access goes
through one cell, which may be empty, and is one step that no other access comes between.
-/

namespace PriceOracle
namespace Proxy

open Store (Handle Disk)

structure Local where
  disk : Disk
  cell : Option Handle

namespace Local

def get (key : String) (l : Local) : Except Store.Error (Option Bytes) :=
  match l.cell with
  | some h => l.disk.get h key
  | none => .error .closed

def put (key : String) (value : Bytes) (l : Local) : Except Store.Error Unit × Local :=
  match l.cell with
  | some h =>
    let (result, disk) := l.disk.put h key value
    (result, { l with disk })
  | none => (.error .closed, l)

/-- Write what `change` makes of a record, or nothing if it refuses. -/
def update (key : String) (change : Option Bytes → Except Store.Error Bytes) (l : Local) :
    Except Store.Error Unit × Local :=
  match l.get key with
  | .error e => (.error e, l)
  | .ok current =>
    match change current with
    | .error e => (.error e, l)
    | .ok value => l.put key value

def close (l : Local) : Local :=
  match l.cell with
  | some h => ⟨(l.disk.close h).2, none⟩
  | none => l

/-- Put a store into the cell in the place of the one before. -/
def install (h : Handle) (l : Local) : Local := { l.close with cell := some h }

def isOpen (l : Local) : Bool := l.cell.isSome

/-- Open a store and put it into the cell. -/
def openAt (open? : Disk → Except Store.Error Handle × Disk) (l : Local) :
    Except Store.Error Unit × Local :=
  match open? l.disk with
  | (.ok h, disk) => (.ok (), install h { l with disk })
  | (.error e, disk) => (.error e, { l with disk })

end Local
end Proxy
end PriceOracle
