import PriceOracle.Proofs.Store.Migration

/-!
# PriceOracle.Proofs.Store.Session

Stores in use. A `Session` opens files under names, and puts, gets, closes and drops through these
handles. What it has done is a list of deeds, the latest first, and says what there is to know:
which handle is open on which file (`handle`), and what is recorded in each file under each key
(`recorded`): the value that was put last, through whatever handle, or what the last migration kept.

* `Lawful`: what a command does and answers, by the deeds before it.
* `Reflects`: the handles and the disk are as the deeds say, and no two handles are open on a file.
* `Session.faithful`: every command of every session is lawful, and touches no file but its own.
-/

namespace PriceOracle
namespace Store

/-- How a store is opened: with all its records, or with those that outlive a migration. -/
inductive Opening where
  | plain
  | migration
  deriving Repr, DecidableEq

inductive Command where
  | take (how : Opening) (name : String) (path : Path)
  | put (name key : String) (value : Bytes)
  | get (name key : String)
  | close (name : String)
  | drop (name : String)

inductive Answer where
  | done
  | found (value : Option Bytes)
  | failed (e : Error)
  /-- There is no handle of that name. -/
  | unknown
  deriving Repr, DecidableEq

/-- Nothing was done. -/
def Answer.fails : Answer → Bool
  | .failed _ => true
  | .unknown => true
  | _ => false

inductive Deed where
  | took (how : Opening) (name : String) (file : Place)
  | put (file : Place) (key : String) (value : Bytes)
  | closed (name : String)
  | dropped (name : String)

namespace Opening

def openAt : Opening → Path → Disk → Except Error Handle × Disk
  | .plain => Disk.openStore
  | .migration => Disk.migrate

/-- What is found under a key after an opening. -/
def value (how : Opening) (key : String) (before : Option Bytes) : Option Bytes :=
  match how with
  | .plain => before
  | .migration => outlives key before

theorem opens (how : Opening) (path : Path) (d : Disk) :
    Disk.Opens how.value path d (how.openAt path d) := by
  cases how with
  | plain => exact Disk.opens_openStore path d
  | migration => exact Disk.opens_migrate path d

end Opening

namespace Deed

/-- The handle of a name, if there is one, and the file that it is open on. -/
def handle (name : String) : List Deed → Option (Option Place)
  | [] => none
  | .took _ n file :: ds => if n = name then some (some file) else handle name ds
  | .put .. :: ds => handle name ds
  | .closed n :: ds => if n = name then some none else handle name ds
  | .dropped n :: ds => if n = name then none else handle name ds

/-- The value under a key of a file, of which `before` is known from earlier. -/
def recorded (before : Option Bytes) (file : Place) (key : String) : List Deed → Option Bytes
  | [] => before
  | .took how _ f :: ds =>
    if f = file then how.value key (recorded before file key ds) else recorded before file key ds
  | .put f k value :: ds =>
    if f = file ∧ k = key then some value else recorded before file key ds
  | .closed _ :: ds => recorded before file key ds
  | .dropped _ :: ds => recorded before file key ds

end Deed

open Deed (handle recorded)

/-- What a command answers and does after some deeds. `target` tells which file a path names, and
`before` what was in the files at the start. -/
inductive Lawful (before : Place → String → Option Bytes) (target : Path → Except Error Place)
    (ds : List Deed) : Command → Answer → List Deed → Prop where
  | astray {how : Opening} {name : String} {path : Path} {e : Error} :
      target path = .error e → Lawful before target ds (.take how name path) (.failed e) ds
  | held {how : Opening} {name other : String} {path : Path} {file : Place} :
      target path = .ok file → handle other ds = some (some file) →
      Lawful before target ds (.take how name path) (.failed .occupied) ds
  | took {how : Opening} {name : String} {path : Path} {file : Place} :
      target path = .ok file → (∀ other, handle other ds ≠ some (some file)) →
      Lawful before target ds (.take how name path) .done (.took how name file :: ds)
  | got {name key : String} {file : Place} : handle name ds = some (some file) →
      Lawful before target ds (.get name key) (.found (recorded (before file key) file key ds)) ds
  | put {name key : String} {value : Bytes} {file : Place} : handle name ds = some (some file) →
      Lawful before target ds (.put name key value) .done (.put file key value :: ds)
  | getClosed {name key : String} : handle name ds = some none →
      Lawful before target ds (.get name key) (.failed .closed) ds
  | putClosed {name key : String} {value : Bytes} : handle name ds = some none →
      Lawful before target ds (.put name key value) (.failed .closed) ds
  | closed {name : String} {file : Option Place} : handle name ds = some file →
      Lawful before target ds (.close name) .done (.closed name :: ds)
  | dropped {name : String} {file : Option Place} : handle name ds = some file →
      Lawful before target ds (.drop name) .done (.dropped name :: ds)
  | getUnknown {name key : String} : handle name ds = none →
      Lawful before target ds (.get name key) .unknown ds
  | putUnknown {name key : String} {value : Bytes} : handle name ds = none →
      Lawful before target ds (.put name key value) .unknown ds
  | closeUnknown {name : String} : handle name ds = none →
      Lawful before target ds (.close name) .unknown ds
  | dropUnknown {name : String} : handle name ds = none →
      Lawful before target ds (.drop name) .unknown ds

structure Session where
  handles : Table String Handle
  disk : Disk

namespace Session

def answer : Except Error Unit → Answer
  | .ok _ => .done
  | .error e => .failed e

/-- The disk after the handle of a name was dropped, if there was one. -/
def without (name : String) (s : Session) (d : Disk) : Disk :=
  match s.handles.get? name with
  | some old => (d.close old).2
  | none => d

def step (s : Session) : Command → Answer × Session
  | .take how name path =>
    match how.openAt path s.disk with
    | (.error e, disk) => (.failed e, { s with disk })
    -- the handle that had the name is dropped when the new one is there
    | (.ok h, disk) => (.done, ⟨s.handles.put name h, s.without name disk⟩)
  | .put name key value =>
    match s.handles.get? name with
    | none => (.unknown, s)
    | some h =>
      let (result, disk) := s.disk.put h key value
      (answer result, { s with disk })
  | .get name key =>
    match s.handles.get? name with
    | none => (.unknown, s)
    | some h =>
      match s.disk.get h key with
      | .ok value => (.found value, s)
      | .error e => (.failed e, s)
  | .close name =>
    match s.handles.get? name with
    | none => (.unknown, s)
    | some h =>
      let (h, disk) := s.disk.close h
      (.done, ⟨s.handles.put name h, disk⟩)
  | .drop name =>
    match s.handles.get? name with
    | none => (.unknown, s)
    | some _ => (.done, ⟨s.handles.erase name, s.without name s.disk⟩)

/-- The file that a command is about. -/
def fileOf (s : Session) : Command → Option Place
  | .take _ _ path => (s.disk.target path).toOption
  | .put name _ _ => (s.handles.get? name).map (·.place)
  | .get name _ => (s.handles.get? name).map (·.place)
  | .close name => (s.handles.get? name).map (·.place)
  | .drop name => (s.handles.get? name).map (·.place)

/-- No folder has to be made for a command. -/
def isReady (s : Session) : Command → Bool
  | .take _ _ path => (s.disk.locate path.steps).isSome
  | _ => true

end Session

/-- The handles and the stores are as the deeds say. -/
structure Reflects (before : Place → String → Option Bytes) (ds : List Deed) (s : Session) :
    Prop where
  handles : ∀ name, handle name ds
    = (s.handles.get? name).map fun h => if h.isOpen then some h.place else none
  records : ∀ file key, s.disk.find file key = recorded (before file key) file key ds
  /-- At most one handle is open on a file. -/
  single : ∀ a b file, handle a ds = some (some file) → handle b ds = some (some file) → a = b
  held : ∀ file, (∃ name, handle name ds = some (some file)) ↔
    ∃ records, s.disk.stored? file = some (records, true)

namespace Reflects

variable {before : Place → String → Option Bytes} {ds : List Deed} {s : Session}
  {name : String} {file : Place}

theorem of_get? (hr : Reflects before ds s) {h : Handle} (hh : s.handles.get? name = some h) :
    handle name ds = some (if h.isOpen then some h.place else none) := by
  rw [hr.handles, hh]
  rfl

theorem unknown (hr : Reflects before ds s) (hh : s.handles.get? name = none) :
    handle name ds = none := by
  rw [hr.handles, hh]
  rfl

/-- The store behind an open handle. -/
theorem stored (hr : Reflects before ds s) {h : Handle} (hh : s.handles.get? name = some h)
    (hopen : h.isOpen = true) :
    handle name ds = some (some h.place) ∧
      ∃ records, s.disk.stored? h.place = some (records, true) := by
  have hn := hr.of_get? hh
  rw [if_pos hopen] at hn
  exact ⟨hn, (hr.held h.place).1 ⟨name, hn⟩⟩

/-- Folders are nothing that the deeds tell of. -/
theorem of_stored? (hr : Reflects before ds s) {d : Disk} (hd : d.stored? = s.disk.stored?) :
    Reflects before ds { s with disk := d } where
  handles := hr.handles
  records := by
    intro file key
    rw [← hr.records, Disk.find, Disk.find, hd]
  single := hr.single
  held := by
    intro file
    rw [hr.held, hd]

theorem put (hr : Reflects before ds s) {h : Handle} (hh : s.handles.get? name = some h)
    (hopen : h.isOpen = true) {records : Records}
    (hs : s.disk.stored? h.place = some (records, true)) (key : String) (value : Bytes) :
    Reflects before (.put h.place key value :: ds)
      { s with disk := s.disk.set h.place (.store (records.put key value) true) } where
  handles := hr.handles
  records := by
    intro file key'
    have hrecords := hr.records file key'
    rw [Disk.find_set, recorded]
    by_cases hf : h.place = file
    · subst hf
      rw [Disk.find, hs, Option.bind_some] at hrecords
      rw [if_pos rfl, Table.get?_put, hrecords]
      simp
    · rw [if_neg hf, if_neg fun hc => hf hc.1, hrecords]
  single := hr.single
  held := by
    intro file
    rw [Disk.stored?_set]
    by_cases hf : h.place = file
    · subst hf
      exact ⟨fun _ => ⟨_, if_pos rfl⟩, fun _ => ⟨name, (hr.stored hh hopen).1⟩⟩
    · rw [if_neg hf]
      exact hr.held file

/-- What is left of a store when a handle is given up: all but the mark. -/
theorem stored?_close (hr : Reflects before ds s) {h : Handle}
    (hh : s.handles.get? name = some h) (d : Disk) (file : Place) :
    (d.close h).2.stored? file
      = if handle name ds = some (some file) then (d.stored? file).map fun s => (s.1, false)
        else d.stored? file := by
  rw [Disk.stored?_close, hr.of_get? hh]
  cases h.isOpen <;> simp

/-- A handle is given up, and with it the file, if it was open. -/
theorem release (hr : Reflects before ds s) {h : Handle} (hh : s.handles.get? name = some h)
    {ds' : List Deed} {handles : Table String Handle}
    (hhandles : ∀ n, handle n ds' = (handles.get? n).map fun h => if h.isOpen then some h.place
      else none)
    (hother : ∀ n, n ≠ name → handle n ds' = handle n ds)
    (hgone : ∀ file, handle name ds' ≠ some (some file))
    (hrecorded : ∀ before file key, recorded before file key ds' = recorded before file key ds) :
    Reflects before ds' ⟨handles, (s.disk.close h).2⟩ where
  handles := hhandles
  records := by
    intro file key
    rw [Disk.find_close, hr.records, hrecorded]
  single := by
    intro a b file ha hb
    have hne : ∀ n, handle n ds' = some (some file) → handle n ds = some (some file) := by
      intro n hn
      rwa [← hother n fun he => hgone file (he ▸ hn)]
    exact hr.single a b file (hne a ha) (hne b hb)
  held := by
    intro file
    rw [hr.stored?_close hh]
    split
    · next hn =>
      -- the only handle on the file was this one
      constructor
      · rintro ⟨n, hn'⟩
        have hname : n ≠ name := fun he => hgone file (he ▸ hn')
        rw [hother n hname] at hn'
        exact absurd (hr.single n name file hn' hn) hname
      · rintro ⟨records, hs⟩
        obtain ⟨r, -, hr⟩ := Option.map_eq_some_iff.1 hs
        cases hr
    · next hn =>
      rw [← hr.held]
      constructor
      · rintro ⟨n, hn'⟩
        exact ⟨n, (hother n fun he => hgone file (he ▸ hn')) ▸ hn'⟩
      · rintro ⟨n, hn'⟩
        have hname : n ≠ name := by
          rintro rfl
          exact hn hn'
        exact ⟨n, (hother n hname).trans hn'⟩

theorem stored?_without (hr : Reflects before ds s) (d : Disk) (file : Place) :
    (s.without name d).stored? file
      = if handle name ds = some (some file) then (d.stored? file).map fun s => (s.1, false)
        else d.stored? file := by
  unfold Session.without
  cases hh : s.handles.get? name with
  | none => rw [hr.unknown hh, if_neg nofun]
  | some h => exact hr.stored?_close hh d file

theorem find_without (hr : Reflects before ds s) (d : Disk) (file : Place) (key : String) :
    (s.without name d).find file key = d.find file key := by
  rw [Disk.find, hr.stored?_without, Disk.find]
  split
  · cases d.stored? file <;> rfl
  · rfl

theorem handle_took_other {how : Opening} {other : String} {q : Place} (hq : file ≠ q)
    (h : handle other (.took how name file :: ds) = some (some q)) :
    other ≠ name ∧ handle other ds = some (some q) := by
  rw [handle] at h
  split at h
  · cases h
    exact absurd rfl hq
  · next hne => exact ⟨Ne.symm hne, h⟩

theorem eq_of_handle_took {how : Opening} {other : String}
    (hfree : ∀ other, handle other ds ≠ some (some file))
    (h : handle other (.took how name file :: ds) = some (some file)) : other = name := by
  rw [handle] at h
  split at h
  · next he => exact he.symm
  · exact absurd h (hfree other)

/-- When a free file is taken, the mark is on it, and it is gone from the file that the name was
open on before. -/
theorem held_took (hr : Reflects before ds s) {how : Opening} {d : Disk} {records : Records}
    (hfree : ∀ other, handle other ds ≠ some (some file))
    (hd : ∀ q, d.stored? q = if file = q then some (records, true) else s.disk.stored? q)
    (q : Place) :
    (∃ n, handle n (.took how name file :: ds) = some (some q)) ↔
      ∃ records, (s.without name d).stored? q = some (records, true) := by
  rw [hr.stored?_without, hd]
  by_cases hq : file = q
  · subst hq
    rw [if_neg (hfree name), if_pos rfl]
    exact ⟨fun _ => ⟨_, rfl⟩, fun _ => ⟨name, if_pos rfl⟩⟩
  · rw [if_neg hq]
    split
    · next hn =>
      constructor
      · rintro ⟨n, hn'⟩
        obtain ⟨hname, hn''⟩ := handle_took_other hq hn'
        exact absurd (hr.single n name q hn'' hn) hname
      · rintro ⟨r, hs⟩
        obtain ⟨r, -, hr⟩ := Option.map_eq_some_iff.1 hs
        cases hr
    · next hn =>
      rw [← hr.held]
      constructor
      · rintro ⟨n, hn'⟩
        exact ⟨n, (handle_took_other hq hn').2⟩
      · rintro ⟨n, hn'⟩
        have hname : name ≠ n := by
          rintro rfl
          exact hn hn'
        exact ⟨n, (if_neg hname).trans hn'⟩

/-- A free file is taken. -/
theorem took (hr : Reflects before ds s) {how : Opening} {d : Disk} (records : Records)
    (hfree : ∀ other, handle other ds ≠ some (some file))
    (hd : ∀ q, d.stored? q = if file = q then some (records, true) else s.disk.stored? q)
    (hrecords : ∀ key, records.get? key
      = how.value key (recorded (before file key) file key ds)) :
    Reflects before (.took how name file :: ds)
      ⟨s.handles.put name ⟨file, true⟩, s.without name d⟩ where
  handles := by
    intro n
    rw [handle, Table.get?_put]
    split
    · rfl
    · exact hr.handles n
  records := by
    intro q key
    have hrecorded := hr.records q key
    rw [hr.find_without, Disk.find, hd, recorded]
    by_cases hq : file = q
    · subst hq
      rw [if_pos rfl, if_pos rfl]
      exact hrecords key
    · rw [if_neg hq, if_neg hq]
      exact hrecorded
  single := by
    intro a b q ha hb
    by_cases hq : file = q
    · subst hq
      rw [eq_of_handle_took hfree ha, eq_of_handle_took hfree hb]
    · exact hr.single a b q (handle_took_other hq ha).2 (handle_took_other hq hb).2
  held := hr.held_took hfree hd

end Reflects

/-- A command does what it should after the deeds `ds`, and leaves those of `ds'`. -/
structure FaithfulStep (before : Place → String → Option Bytes) (s : Session) (ds : List Deed)
    (c : Command) (ds' : List Deed) : Prop where
  lawful : Lawful before s.disk.target ds c (s.step c).1 ds'
  reflects : Reflects before ds' (s.step c).2
  /-- No other file is touched. -/
  frame : ∀ file, s.fileOf c ≠ some file →
    ∀ key, (s.step c).2.disk.find file key = s.disk.find file key
  /-- A command that fails changes neither a handle nor a store, and makes at most folders. -/
  unchanged : (s.step c).1.fails = true →
    (s.step c).2.handles = s.handles ∧ (s.step c).2.disk.stored? = s.disk.stored? ∧
      (s.isReady c = true → (s.step c).2 = s)

section Step

variable {before : Place → String → Option Bytes} {ds : List Deed} {s : Session}

/-- A step that changes nothing. -/
theorem FaithfulStep.still {c : Command} {a : Answer} (hr : Reflects before ds s)
    (hstep : s.step c = (a, s)) (hl : Lawful before s.disk.target ds c a ds) :
    FaithfulStep before s ds c ds := by
  constructor
  · rwa [hstep]
  · rwa [hstep]
  · intro file _ key
    rw [hstep]
  · intro _
    rw [hstep]
    exact ⟨rfl, rfl, fun _ => rfl⟩

/-- An opening that fails. Folders may have been made for it. -/
theorem FaithfulStep.refused {how : Opening} {name : String} {path : Path} {e : Error}
    (hr : Reflects before ds s)
    (hopen : how.openAt path s.disk = (.error e, (s.disk.addAbove path).2))
    (hl : Lawful before s.disk.target ds (.take how name path) (.failed e) ds) :
    FaithfulStep before s ds (.take how name path) ds := by
  have hstep : s.step (.take how name path)
      = (.failed e, { s with disk := (s.disk.addAbove path).2 }) := by
    rw [Session.step, hopen]
  have hsame := Disk.stored?_addAbove path s.disk
  constructor
  · rwa [hstep]
  · rw [hstep]
    exact hr.of_stored? hsame
  · intro file _ key
    rw [hstep, Disk.find, Disk.find, hsame]
  · intro _
    rw [hstep]
    refine ⟨rfl, hsame, fun hready => ?_⟩
    rw [Disk.addAbove_of_locate hready]

/-- A step that does what it was asked for. -/
theorem FaithfulStep.done {c : Command} {a : Answer} {s' : Session} {ds' : List Deed}
    (hstep : s.step c = (a, s')) (ha : a.fails = false)
    (hl : Lawful before s.disk.target ds c a ds') (hr : Reflects before ds' s')
    (hframe : ∀ file, s.fileOf c ≠ some file →
      ∀ key, s'.disk.find file key = s.disk.find file key) :
    FaithfulStep before s ds c ds' := by
  constructor
  · rwa [hstep]
  · rwa [hstep]
  · rwa [hstep]
  · rw [hstep, ha]
    exact nofun

/-- An opening of a free file. -/
theorem FaithfulStep.take {how : Opening} {name : String} {path : Path} {file : Place}
    {records : Records} {d : Disk} (hr : Reflects before ds s) (ht : s.disk.target path = .ok file)
    (hopen : how.openAt path s.disk = (.ok ⟨file, true⟩, d))
    (hd : ∀ q, d.stored? q = if file = q then some (records, true) else s.disk.stored? q)
    (hfree : ∀ other, handle other ds ≠ some (some file))
    (hrecords : ∀ key, records.get? key = how.value key (s.disk.find file key)) :
    FaithfulStep before s ds (.take how name path) (.took how name file :: ds) := by
  have hstep : s.step (.take how name path)
      = (.done, ⟨s.handles.put name ⟨file, true⟩, s.without name d⟩) := by
    rw [Session.step, hopen]
  refine .done hstep rfl (.took ht hfree) (hr.took records hfree hd fun key => ?_) ?_
  · rw [hrecords, hr.records]
  · intro q hq key
    have hne : file ≠ q := by
      rintro rfl
      exact hq (by rw [Session.fileOf, ht]; rfl)
    rw [hr.find_without, Disk.find, hd, if_neg hne, Disk.find]

theorem faithfulStep_take (hr : Reflects before ds s) (how : Opening) (name : String)
    (path : Path) : ∃ ds', FaithfulStep before s ds (.take how name path) ds' := by
  have hopens := how.opens path s.disk
  generalize hopen : how.openAt path s.disk = r at hopens
  cases hopens with
  | astray ht => exact ⟨ds, .refused hr hopen (.astray ht)⟩
  | @held file records ht hs =>
    obtain ⟨other, ho⟩ := (hr.held file).2 ⟨records, hs⟩
    exact ⟨ds, .refused hr hopen (.held ht ho)⟩
  | @taken file records d ht hfree _ hframe hentry hrecords =>
    have free : ∀ other, handle other ds ≠ some (some file) := by
      intro other ho
      obtain ⟨r, hs⟩ := (hr.held file).1 ⟨other, ho⟩
      exact hfree r hs
    refine ⟨_, .take hr ht hopen (fun q => ?_) free hrecords⟩
    by_cases hq : file = q
    · rw [if_pos hq, ← hq, Disk.stored?_eq_some, hentry]
    · rw [if_neg hq, Disk.stored?_congr (hframe q (Ne.symm hq)), Disk.stored?_addAbove]

theorem faithfulStep_put (hr : Reflects before ds s) (name key : String) (value : Bytes) :
    ∃ ds', FaithfulStep before s ds (.put name key value) ds' := by
  cases hh : s.handles.get? name with
  | none => exact ⟨ds, .still hr (by rw [Session.step, hh]) (.putUnknown (hr.unknown hh))⟩
  | some h =>
    cases hopen : h.isOpen with
    | false =>
      have hn := hr.of_get? hh
      rw [hopen, if_neg Bool.false_ne_true] at hn
      refine ⟨ds, .still hr ?_ (.putClosed hn)⟩
      rw [Session.step, hh]
      simp only [Disk.put_of_closed hopen]
      rfl
    | true =>
      obtain ⟨hn, records, hs⟩ := hr.stored hh hopen
      have hstep : s.step (.put name key value) = (.done, { s with
          disk := s.disk.set h.place (.store (records.put key value) true) }) := by
        rw [Session.step, hh]
        simp only [Disk.put_of_stored hopen hs]
        rfl
      refine ⟨_, .done hstep rfl (.put hn) (hr.put hh hopen hs key value) ?_⟩
      intro file hfile key'
      have hne : h.place ≠ file := by
        rintro rfl
        exact hfile (by rw [Session.fileOf, hh]; rfl)
      rw [Disk.find_set, if_neg hne]

theorem faithfulStep_get (hr : Reflects before ds s) (name key : String) :
    ∃ ds', FaithfulStep before s ds (.get name key) ds' := by
  cases hh : s.handles.get? name with
  | none => exact ⟨ds, .still hr (by rw [Session.step, hh]) (.getUnknown (hr.unknown hh))⟩
  | some h =>
    cases hopen : h.isOpen with
    | false =>
      have hn := hr.of_get? hh
      rw [hopen, if_neg Bool.false_ne_true] at hn
      refine ⟨ds, .still hr ?_ (.getClosed hn)⟩
      rw [Session.step, hh]
      simp only [Disk.get_of_closed hopen]
    | true =>
      obtain ⟨hn, records, hs⟩ := hr.stored hh hopen
      have hfound : records.get? key = recorded (before h.place key) h.place key ds := by
        rw [← hr.records, Disk.find, hs, Option.bind_some]
      refine ⟨ds, .still hr ?_ (.got hn)⟩
      rw [Session.step, hh]
      simp only [Disk.get_of_stored hopen hs, hfound]

theorem faithfulStep_close (hr : Reflects before ds s) (name : String) :
    ∃ ds', FaithfulStep before s ds (.close name) ds' := by
  cases hh : s.handles.get? name with
  | none => exact ⟨ds, .still hr (by rw [Session.step, hh]) (.closeUnknown (hr.unknown hh))⟩
  | some h =>
    have hclosed : s.disk.close h = (⟨h.place, false⟩, (s.disk.close h).2) := by
      unfold Disk.close
      split <;> rfl
    have hstep : s.step (.close name)
        = (.done, ⟨s.handles.put name ⟨h.place, false⟩, (s.disk.close h).2⟩) := by
      rw [Session.step, hh]
      simp only
      rw [hclosed]
    refine ⟨_, .done hstep rfl (.closed (hr.of_get? hh)) (hr.release hh ?_ ?_ ?_ ?_) ?_⟩
    · intro n
      rw [handle, Table.get?_put]
      split
      · rfl
      · exact hr.handles n
    · intro n hn
      rw [handle, if_neg (Ne.symm hn)]
    · intro file hgone
      rw [handle, if_pos rfl] at hgone
      cases hgone
    · exact fun _ _ _ => rfl
    · exact fun file _ key => Disk.find_close h s.disk file key

theorem faithfulStep_drop (hr : Reflects before ds s) (name : String) :
    ∃ ds', FaithfulStep before s ds (.drop name) ds' := by
  cases hh : s.handles.get? name with
  | none => exact ⟨ds, .still hr (by rw [Session.step, hh]) (.dropUnknown (hr.unknown hh))⟩
  | some h =>
    have hstep : s.step (.drop name) = (.done, ⟨s.handles.erase name, (s.disk.close h).2⟩) := by
      rw [Session.step, hh]
      simp only [Session.without, hh]
    refine ⟨_, .done hstep rfl (.dropped (hr.of_get? hh)) (hr.release hh ?_ ?_ ?_ ?_) ?_⟩
    · intro n
      rw [handle, Table.get?_erase]
      split
      · rfl
      · exact hr.handles n
    · intro n hn
      rw [handle, if_neg (Ne.symm hn)]
    · intro file hgone
      rw [handle, if_pos rfl] at hgone
      cases hgone
    · exact fun _ _ _ => rfl
    · exact fun file _ key => Disk.find_close h s.disk file key

theorem faithfulStep (hr : Reflects before ds s) (c : Command) :
    ∃ ds', FaithfulStep before s ds c ds' := by
  cases c with
  | take how name path => exact faithfulStep_take hr how name path
  | put name key value => exact faithfulStep_put hr name key value
  | get name key => exact faithfulStep_get hr name key
  | close name => exact faithfulStep_close hr name
  | drop name => exact faithfulStep_drop hr name

end Step

/-- One command after another does what it should. -/
inductive Faithful (before : Place → String → Option Bytes) :
    Session → List Deed → List Command → Prop where
  | nil {s : Session} {ds : List Deed} : Faithful before s ds []
  | cons {s : Session} {ds ds' : List Deed} {c : Command} {cs : List Command} :
      FaithfulStep before s ds c ds' → Faithful before (s.step c).2 ds' cs →
      Faithful before s ds (c :: cs)

theorem Reflects.all_faithful {before : Place → String → Option Bytes} {ds : List Deed}
    {s : Session} (hr : Reflects before ds s) (cs : List Command) : Faithful before s ds cs := by
  induction cs generalizing s ds with
  | nil => exact .nil
  | cons c cs ih =>
    obtain ⟨ds', hstep⟩ := faithfulStep hr c
    exact .cons hstep (ih hstep.reflects)

theorem reflects_start {d : Disk} (free : ∀ file records, d.stored? file ≠ some (records, true)) :
    Reflects d.find [] ⟨[], d⟩ where
  handles := fun _ => rfl
  records := fun _ _ => rfl
  single := fun _ _ _ ha => nomatch ha
  held := by
    intro file
    constructor
    · rintro ⟨_, hn⟩
      cases hn
    · rintro ⟨records, hs⟩
      exact absurd hs (free file records)

/-- Stores are maps, one for each file, with at most one open handle for each: on a disk without an
open store every sequence of commands does what it should. -/
theorem Session.faithful {d : Disk} (free : ∀ file records, d.stored? file ≠ some (records, true))
    (cs : List Command) : Faithful d.find ⟨[], d⟩ [] cs :=
  (reflects_start free).all_faithful cs

/-- A store from an earlier run, closed. -/
def leftover : Disk := ⟨[(["s"], .store [("gas_cost_0", [1]), ("k", [2])] false)]⟩

/-- The store is held while it is opened a second time, and migrated after it was closed. -/
theorem faithful_leftover : (∀ file records, leftover.stored? file ≠ some (records, true)) ∧
    Faithful leftover.find ⟨[], leftover⟩ []
      [.take .plain "a" ⟨[.down "s"], false⟩, .put "a" "k" [], .take .plain "b" ⟨[.down "s"], false⟩,
        .close "a", .take .migration "b" ⟨[.down "s"], false⟩, .get "b" "gas_cost_0",
        .get "b" "k", .get "a" "k"] := by
  have free : ∀ file records, leftover.stored? file ≠ some (records, true) := by
    intro file records h
    rw [Disk.stored?, Disk.entry?, leftover, Table.get?] at h
    split at h
    · next he =>
      split at he <;> cases he
      cases h
    · cases h
  exact ⟨free, Session.faithful free _⟩

end Store
end PriceOracle
