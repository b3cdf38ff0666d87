import PriceOracle.Store.Error
import PriceOracle.Store.Key
import PriceOracle.Store.Path
import PriceOracle.Table

/-!
# PriceOracle.Store.Disk

Stores in files. A store is open through at most one handle, and its file knows whether that is
so. `migrate` opens a store for a fresh run: it copies the costs of the latest submissions out, takes
the file away, and puts the costs into a new one.
-/

namespace PriceOracle
namespace Store

abbrev Records := Table String Bytes

/-- The names on the way to an entry, from the folder where all ways start. Folders around that
one are named by points. -/
abbrev Place := List String

inductive Entry where
  | folder
  /-- A file that is no store. -/
  | other
  | store (records : Records) (held : Bool)

structure Disk where
  entries : Table Place Entry

/-- An access to a store, which may have been given up. -/
structure Handle where
  place : Place
  isOpen : Bool
  deriving Repr, DecidableEq

namespace Disk

def empty : Disk := ⟨[]⟩

def entry? (d : Disk) (place : Place) : Option Entry := d.entries.get? place

def set (d : Disk) (place : Place) (e : Entry) : Disk := ⟨d.entries.put place e⟩

def placeAround (place : Place) : Place :=
  if place.all (· = around) then around :: place else place.dropLast

/-- Is a folder at the place? All ways start in one. -/
def isFolder (d : Disk) (place : Place) : Bool :=
  place.all (· = around) ||
    match d.entry? place with
    | some .folder => true
    | _ => false

/-- Where a step leads to. No step leads out of what is no folder. -/
def follow (d : Disk) (place : Place) (step : Step) : Option Place :=
  if d.isFolder place then
    match step with
    | .down name => if Path.isLegal name then some (place ++ [name]) else none
    | .up => some (placeAround place)
  else none

/-- Where a way leads to. At its end there may be nothing yet. -/
def locate (d : Disk) (steps : List Step) : Option Place :=
  if Path.fits steps then steps.foldlM d.follow [] else none

/-- Make a folder at the end of a way, unless there is one. -/
def addFolder (d : Disk) (steps : List Step) : Option Disk :=
  match d.locate steps with
  | none => none
  | some place =>
    if d.isFolder place then some d
    else
      match d.entry? place with
      | none => some (d.set place .folder)
      | some _ => none

/-- Make folders until there is one that cannot be made. Could all of them be made? -/
def addFolders : List (List Step) → Disk → Bool × Disk
  | [], d => (true, d)
  | steps :: rest, d =>
    match d.addFolder steps with
    | none => (false, d)
    | some d => addFolders rest d

/-- Make the folders above the end of a way. -/
def addAbove (path : Path) (d : Disk) : Bool × Disk :=
  if Path.fits path.steps.dropLast then addFolders path.above d else (false, d)

/-- Open the store at the end of a way, a new one if nothing is there. -/
def openStore (path : Path) (d : Disk) : Except Error Handle × Disk :=
  match d.addAbove path with
  | (false, d) => (.error .unreachable, d)
  | (true, d) =>
    match if path.endsInFolder then none else d.locate path.steps with
    | none => (.error .occupied, d)
    | some place =>
      if d.isFolder place then (.error .occupied, d)
      else
        match d.entry? place with
        | none => (.ok ⟨place, true⟩, d.set place (.store [] true))
        | some (.store records false) => (.ok ⟨place, true⟩, d.set place (.store records true))
        | some _ => (.error .occupied, d)

/-- The records that a handle gives access to. -/
def records? (h : Handle) (d : Disk) : Option Records :=
  if h.isOpen then
    match d.entry? h.place with
    | some (.store records _) => some records
    | _ => none
  else none

def get (h : Handle) (key : String) (d : Disk) : Except Error (Option Bytes) :=
  match d.records? h with
  | some records => .ok (records.get? key)
  | none => .error .closed

def put (h : Handle) (key : String) (value : Bytes) (d : Disk) : Except Error Unit × Disk :=
  match d.records? h with
  | some records => (.ok (), d.set h.place (.store (records.put key value) true))
  | none => (.error .closed, d)

/-- Give up an access. Nothing happens if it is given up already. -/
def close (h : Handle) (d : Disk) : Handle × Disk :=
  match d.records? h with
  | some records => (⟨h.place, false⟩, d.set h.place (.store records false))
  | none => (⟨h.place, false⟩, d)

/-- Take away what is at the end of a way, a folder with all that is in it. -/
def remove (path : Path) (d : Disk) : Disk :=
  match d.locate path.steps with
  | none => d
  | some place =>
    if d.isFolder place then ⟨d.entries.filter fun p => !place.isPrefixOf p.1⟩
    else if path.endsInFolder then d
    else ⟨d.entries.erase place⟩

/-- The costs in some slots, as far as they are not empty. -/
def costs (h : Handle) (d : Disk) : (slots : List Nat) → Except Error (List (Nat × Bytes))
  | [] => .ok []
  | slot :: rest =>
    match d.get h (Key.gasCost slot) with
    | .error e => .error e
    | .ok found =>
      match d.costs h rest with
      | .error e => .error e
      | .ok others =>
        .ok (((found.filter fun value => !value.isEmpty).toList.map (slot, ·)) ++ others)

def putCosts (h : Handle) : List (Nat × Bytes) → Disk → Except Error Unit × Disk
  | [], d => (.ok (), d)
  | (slot, value) :: rest, d =>
    match d.put h (Key.gasCost slot) value with
    | (.error e, d) => (.error e, d)
    | (.ok (), d) => putCosts h rest d

/-- Open a store for a fresh run. The file is made anew, and only the costs in the numbered slots are
put back into it. -/
def migrate (path : Path) (d : Disk) : Except Error Handle × Disk :=
  match d.openStore path with
  | (.error e, d) => (.error e, d)
  | (.ok old, d) =>
    match d.costs old (List.range Key.gasCostSlots) with
    | .error e => (.error e, (d.close old).2)
    | .ok costs =>
      match ((d.close old).2.remove path).openStore path with
      | (.error e, d) => (.error e, d)
      | (.ok h, d) =>
        match d.putCosts h costs with
        | (.error e, d) => (.error e, (d.close h).2)
        | (.ok (), d) => (.ok h, d)

/-- Put a file at the end of a way. An empty one is an empty store. -/
def writeFile (path : Path) (content : Bytes) (d : Disk) : Disk :=
  match d.locate path.steps with
  | some place => d.set place (if content.isEmpty then .store [] false else .other)
  | none => d

def makeFolder (path : Path) (d : Disk) : Disk :=
  (addFolders (path.above ++ [path.steps]) d).2

def holds (path : Path) (d : Disk) : Bool :=
  match d.locate path.steps with
  | none => false
  | some place => d.isFolder place || (!path.endsInFolder && (d.entry? place).isSome)

end Disk
end Store
end PriceOracle
