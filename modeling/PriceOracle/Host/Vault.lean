import PriceOracle.Config.Reading
import PriceOracle.Proxy.Local
import PriceOracle.Store.Archive
import Std.Sync.Mutex

/-!
# PriceOracle.Host.Vault

The store in the file system. While it is open, its file is locked, and every change is written to
it at once.
-/

namespace PriceOracle
namespace Host

open Proxy (Local)
open Store (Entry Records)

/-- What stands at a path, as a document. -/
def document (path : String) : IO Config.Document := do
  match ← (IO.FS.realPath path).toBaseIO with
  | .error _ => return .missing
  | .ok place =>
    match ← (IO.FS.readBinFile place).toBaseIO with
    | .ok content => return .file content.toList
    | .error _ => return .folder

structure Vault where
  path : String
  /-- The file, as long as it is locked. -/
  file : IO.Ref (Option IO.FS.Handle)
  state : Std.Mutex Local

namespace Vault

/-- The folder of a path, if it names one. -/
def folder? (path : String) : Option String :=
  match (Store.Path.ofString path).steps.dropLast with
  | [] => none
  | steps =>
    let names := "/".intercalate (steps.map Store.Step.text)
    some (if path.startsWith "/" then "/" ++ names else names)

/-- What stands at a path, and its file if that could be locked. -/
def find (path : String) : IO (Option Entry × Option IO.FS.Handle) := do
  match ← (IO.FS.realPath path).toBaseIO with
  | .error _ => return (none, none)
  | .ok place =>
    if ← place.isDir then return (some .folder, none)
    match ← (IO.FS.Handle.mk place .readWrite).toBaseIO with
    | .error _ => return (some .other, none)
    | .ok file =>
      if ← file.tryLock then
        let content ← file.readBinToEnd
        return (some (Store.Archive.entry content.toList), some file)
      else return (some (.store [] true), none)

/-- The folder of the store, and the store in it, on a disk with nothing else. -/
def shelf : Store.Place := ["shelf"]

def onShelf : Store.Path := "shelf/store"

/-- The disk with what stands where the store should be. No path leads through a file. -/
def diskWith (isBlocked : Bool) (entry : Option Entry) : Store.Disk :=
  if isBlocked then ⟨[(shelf, .other)]⟩
  else ⟨(shelf, .folder) :: (entry.map (shelf ++ ["store"], ·)).toList⟩

/-- A store that nobody here has opened yet. -/
def atPath (path : String) : IO Vault := do
  let made ← ((folder? path).forM fun folder => IO.FS.createDirAll folder : IO Unit).toBaseIO
  let (entry, file) ← find path
  let entry := if (Store.Path.ofString path).endsInFolder then some .folder else entry
  return ⟨path, ← IO.mkRef file, ← Std.Mutex.new ⟨diskWith (!made.isOk) entry, none⟩⟩

def nowhere : IO Vault := return ⟨"", ← IO.mkRef none, ← Std.Mutex.new ⟨.empty, none⟩⟩

def held? (l : Local) : Option Records := l.cell.bind l.disk.records?

/-- The file, locked. It is made if there is none. -/
def lockedFile (v : Vault) : IO IO.FS.Handle := do
  match ← v.file.get with
  | some file => return file
  | none =>
    let file ← IO.FS.Handle.mk v.path .writeNew
    file.lock
    v.file.set (some file)
    return file

def save (v : Vault) (records : Records) : IO Unit := do
  let file ← v.lockedFile
  file.rewind
  file.truncate
  file.write ⟨(Store.Archive.encode records).toArray⟩
  file.flush

def release (v : Vault) : IO Unit := do
  match ← v.file.get with
  | some file =>
    file.unlock
    v.file.set none
  | none => return ()

def look {α : Type} (v : Vault) (f : Local → α) : IO α :=
  v.state.atomically do return f (← get)

/-- Change the store, and its file with it. -/
def change {α : Type} (v : Vault) (f : Local → α × Local) : IO α :=
  v.state.atomically do
    let before ← get
    let (a, after) := f before
    match held? after with
    | some records =>
      if held? before ≠ some records then v.save records
    | none =>
      if (held? before).isSome then v.release
    set after
    return a

end Vault
end Host
end PriceOracle
