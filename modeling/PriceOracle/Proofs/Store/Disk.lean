import PriceOracle.Store.Disk

/-!
# PriceOracle.Proofs.Store.Disk

The stores on a disk. `stored?` is the store in a file with the mark whether it is held, and
`target` is the file that a path names for an opening, folders made on the way included. `Opens` says
what an opening comes to: it reaches a free store or none at all and takes it, with what is to be
left in it, or it fails and at most makes folders.

* `entry?_addAbove`: folders on the way take the place of nothing.
* `Leads.of_frame`: a way that has been gone can be gone again, whatever becomes of the file at its
  end.
* `opens_openStore`: an opening finds all records.
-/

namespace PriceOracle
namespace Store

/-- Is the record one of the numbered costs? -/
def isCost (key : String) : Prop := ∃ slot < Key.gasCostSlots, key = Key.gasCost slot

instance (key : String) : Decidable (isCost key) :=
  decidable_of_iff (∃ slot : Fin Key.gasCostSlots, key = Key.gasCost slot)
    ⟨fun ⟨slot, h⟩ => ⟨slot.1, slot.2, h⟩, fun ⟨slot, hlt, h⟩ => ⟨⟨slot, hlt⟩, h⟩⟩

/-- What a migration makes of the value under a key. -/
def outlives (key : String) (value : Option Bytes) : Option Bytes :=
  if isCost key then value.filter fun v => !v.isEmpty else none

namespace Disk

variable {d : Disk} {place : Place} {path : Path}

/-- The store in a file, and whether it is held. -/
def stored? (d : Disk) (place : Place) : Option (Records × Bool) :=
  match d.entry? place with
  | some (.store records held) => some (records, held)
  | _ => none

theorem stored?_congr {d' : Disk} (h : d'.entry? place = d.entry? place) :
    d'.stored? place = d.stored? place := by
  rw [stored?, h, stored?]

theorem entry?_set (d : Disk) (place other : Place) (e : Entry) :
    entry? (d.set place e) other = if place = other then some e else d.entry? other :=
  Table.get?_put ..

@[simp] theorem entry?_set_self (d : Disk) (place : Place) (e : Entry) :
    entry? (d.set place e) place = some e := by rw [entry?_set, if_pos rfl]

theorem entry?_set_of_ne (d : Disk) {other : Place} (e : Entry) (h : other ≠ place) :
    entry? (d.set place e) other = d.entry? other := by rw [entry?_set, if_neg (Ne.symm h)]

theorem stored?_set (d : Disk) (place other : Place) (records : Records) (held : Bool) :
    (d.set place (.store records held)).stored? other
      = if place = other then some (records, held) else d.stored? other := by
  rw [stored?, entry?_set]
  by_cases h : place = other
  · rw [if_pos h, if_pos h]
  · rw [if_neg h, if_neg h, stored?]

/-- A name leads to a place in the folder where all ways start. -/
theorem locate_down {name : String} (hlegal : Path.isLegal name = true)
    (hfits : Path.fits [.down name] = true) (d : Disk) : d.locate [.down name] = some [name] := by
  simp [locate, follow, isFolder, hfits, hlegal]

section Folders

theorem entry?_addFolder {steps : List Step} {d' : Disk} (h : d.addFolder steps = some d')
    (q : Place) :
    d'.entry? q = d.entry? q ∨ d.entry? q = none ∧ d'.entry? q = some .folder := by
  unfold addFolder at h
  split at h
  · cases h
  split at h
  · cases h
    exact .inl rfl
  split at h
  · next place _ _ _ hfree =>
    cases h
    rw [entry?_set]
    by_cases hq : place = q
    · exact .inr ⟨hq ▸ hfree, if_pos hq⟩
    · exact .inl (if_neg hq)
  · cases h

theorem entry?_addFolders (ways : List (List Step)) (d : Disk) (q : Place) :
    entry? (addFolders ways d).2 q = d.entry? q ∨
      d.entry? q = none ∧ entry? (addFolders ways d).2 q = some .folder := by
  induction ways generalizing d with
  | nil => exact .inl rfl
  | cons steps rest ih =>
    rw [addFolders]
    cases h : d.addFolder steps with
    | none => exact .inl rfl
    | some d' =>
      simp only
      obtain hd | ⟨hnone, hd⟩ := entry?_addFolder h q
      · rw [← hd]
        exact ih d'
      · obtain hr | ⟨hr, -⟩ := ih d'
        · exact .inr ⟨hnone, hr.trans hd⟩
        · rw [hd] at hr
          cases hr

theorem entry?_addAbove (path : Path) (d : Disk) (q : Place) :
    entry? (d.addAbove path).2 q = d.entry? q ∨
      d.entry? q = none ∧ entry? (d.addAbove path).2 q = some .folder := by
  unfold addAbove
  split
  · exact entry?_addFolders _ d q
  · exact .inl rfl

theorem stored?_addAbove (path : Path) (d : Disk) : (d.addAbove path).2.stored? = d.stored? := by
  funext q
  obtain h | ⟨hnone, h⟩ := entry?_addAbove path d q
  · rw [stored?, h, stored?]
  · rw [stored?, h, stored?, hnone]

end Folders

/-- The file that a path names for an opening. There may be nothing in it yet. -/
def target (d : Disk) (path : Path) : Except Error Place :=
  match d.addAbove path with
  | (false, _) => .error .unreachable
  | (true, d) =>
    match if path.endsInFolder then none else d.locate path.steps with
    | none => .error .occupied
    | some place =>
      if d.isFolder place then .error .occupied
      else
        match d.entry? place with
        | none => .ok place
        | some (.store _ _) => .ok place
        | some _ => .error .occupied

section Handles

variable {h : Handle} {records : Records} {held : Bool}

theorem records?_eq (h : Handle) (d : Disk) :
    d.records? h = if h.isOpen then (d.stored? h.place).map (·.1) else none := by
  rw [records?, stored?]
  cases d.entry? h.place with
  | none => rfl
  | some entry => cases entry <;> rfl

theorem records?_of_closed (hh : h.isOpen = false) : d.records? h = none := by
  rw [records?_eq, hh, if_neg Bool.false_ne_true]

theorem records?_of_stored (hh : h.isOpen = true) (hs : d.stored? h.place = some (records, held)) :
    d.records? h = some records := by
  rw [records?_eq, hh, hs, if_pos rfl, Option.map_some]

theorem get_of_stored (hh : h.isOpen = true) (hs : d.stored? h.place = some (records, held))
    (key : String) : d.get h key = .ok (records.get? key) := by
  rw [get, records?_of_stored hh hs]

theorem get_of_closed (hh : h.isOpen = false) (key : String) : d.get h key = .error .closed := by
  rw [get, records?_of_closed hh]

theorem put_of_stored (hh : h.isOpen = true) (hs : d.stored? h.place = some (records, held))
    (key : String) (value : Bytes) :
    d.put h key value = (.ok (), d.set h.place (.store (records.put key value) true)) := by
  rw [put, records?_of_stored hh hs]

theorem put_of_closed (hh : h.isOpen = false) (key : String) (value : Bytes) :
    d.put h key value = (.error .closed, d) := by
  rw [put, records?_of_closed hh]

theorem close_of_stored (hh : h.isOpen = true) (hs : d.stored? h.place = some (records, held)) :
    d.close h = (⟨h.place, false⟩, d.set h.place (.store records false)) := by
  rw [close, records?_of_stored hh hs]

theorem close_of_closed (hh : h.isOpen = false) : d.close h = (⟨h.place, false⟩, d) := by
  rw [close, records?_of_closed hh]

theorem stored?_close (h : Handle) (d : Disk) (file : Place) :
    (d.close h).2.stored? file
      = if h.isOpen = true ∧ h.place = file then (d.stored? file).map fun s => (s.1, false)
        else d.stored? file := by
  by_cases hh : h.isOpen = true
  · cases hs : d.stored? h.place with
    | none =>
      have hnone : d.records? h = none := by
        rw [records?_eq, hh, hs, if_pos rfl, Option.map_none]
      rw [close, hnone]
      by_cases hf : h.place = file
      · rw [if_pos ⟨hh, hf⟩, ← hf, hs]
        rfl
      · rw [if_neg fun hc => hf hc.2]
    | some s =>
      rw [close_of_stored hh hs, stored?_set]
      by_cases hf : h.place = file
      · rw [if_pos hf, if_pos ⟨hh, hf⟩, ← hf, hs]
        rfl
      · rw [if_neg hf, if_neg fun hc => hf hc.2]
  · rw [close_of_closed (by simpa using hh), if_neg fun hc => hh hc.1]

end Handles

/-- The value under a key in the store of a file. -/
def find (d : Disk) (file : Place) (key : String) : Option Bytes :=
  (d.stored? file).bind fun s => s.1.get? key

theorem find_set (d : Disk) (place file : Place) (records : Records) (held : Bool) (key : String) :
    (d.set place (.store records held)).find file key
      = if place = file then records.get? key else d.find file key := by
  rw [find, stored?_set, find]
  split <;> rfl

theorem find_close (h : Handle) (d : Disk) (file : Place) (key : String) :
    (d.close h).2.find file key = d.find file key := by
  rw [find, stored?_close, find]
  split
  · cases d.stored? file <;> rfl
  · rfl

section Way

theorem addFolder_of_isFolder {steps : List Step} (hl : d.locate steps = some place)
    (hf : d.isFolder place = true) : d.addFolder steps = some d := by
  rw [addFolder, hl]
  simp only [hf, if_true]

theorem addFolders_of_isFolder {ways : List (List Step)}
    (h : ∀ steps ∈ ways, ∃ place, d.locate steps = some place ∧ d.isFolder place = true) :
    addFolders ways d = (true, d) := by
  induction ways with
  | nil => rfl
  | cons steps rest ih =>
    obtain ⟨place, hl, hf⟩ := h steps List.mem_cons_self
    rw [addFolders, addFolder_of_isFolder hl hf]
    exact ih fun s hs => h s (List.mem_cons_of_mem _ hs)

theorem size_le_foldl (steps : List Step) (size : Nat) :
    size ≤ steps.foldl (fun size step => size + step.text.utf8ByteSize + 1) size := by
  induction steps generalizing size with
  | nil => exact Nat.le_refl _
  | cons step rest ih =>
    have hstep : size ≤ size + step.text.utf8ByteSize + 1 := by omega
    exact Nat.le_trans hstep (ih _)

theorem fits_of_append {front back : List Step} (h : Path.fits (front ++ back) = true) :
    Path.fits front = true := by
  simp only [Path.fits, decide_eq_true_eq, List.foldl_append] at h ⊢
  exact Nat.le_trans (size_le_foldl back _) h

/-- A way that can be gone leads through folders. -/
theorem locate_front {front back : List Step} (hne : back ≠ [])
    (h : (d.locate (front ++ back)).isSome = true) :
    ∃ place, d.locate front = some place ∧ d.isFolder place = true := by
  unfold locate at h ⊢
  split at h
  · next hfits =>
    obtain ⟨step, rest, rfl⟩ := List.exists_cons_of_ne_nil hne
    rw [if_pos (fits_of_append hfits)]
    rw [List.foldlM_append] at h
    cases hfront : front.foldlM d.follow [] with
    | none => simp [hfront] at h
    | some place =>
      refine ⟨place, rfl, ?_⟩
      cases hfolder : d.isFolder place with
      | true => rfl
      | false => simp [hfront, follow, hfolder] at h
  · cases h

/-- Nothing is made on a way that is there. -/
theorem addAbove_of_locate (h : (d.locate path.steps).isSome = true) :
    d.addAbove path = (true, d) := by
  by_cases hnil : path.steps = []
  · have habove : path.above = [] := by rw [Path.above, hnil]; rfl
    rw [addAbove, hnil, habove]
    rfl
  have hfits : Path.fits path.steps.dropLast = true := by
    unfold locate at h
    split at h
    · next hf => exact fits_of_append (List.dropLast_concat_getLast hnil ▸ hf)
    · cases h
  rw [addAbove, if_pos hfits]
  refine addFolders_of_isFolder fun steps hsteps => ?_
  obtain ⟨n, hn, rfl⟩ := List.mem_map.1 hsteps
  rw [List.mem_range] at hn
  refine locate_front (show path.steps.drop (n + 1) ≠ [] from ?_) ?_
  · rw [ne_eq, List.drop_eq_nil_iff]
    omega
  · rwa [List.take_append_drop]

end Way

section Leads

/-- The way to a file is there, with all folders above it. -/
structure Leads (d : Disk) (path : Path) (place : Place) : Prop where
  located : d.locate path.steps = some place
  isFile : path.endsInFolder = false
  noFolder : d.isFolder place = false

theorem locate_congr {d' : Disk} (h : d'.isFolder = d.isFolder) : d'.locate = d.locate := by
  funext steps
  have hfollow : d'.follow = d.follow := by
    funext q step
    simp only [follow, h]
  rw [locate, locate, hfollow]

/-- What becomes of the file at its end does not matter to a way. -/
theorem Leads.of_frame {d' : Disk} (h : Leads d path place)
    (hframe : ∀ q, q ≠ place → d'.entry? q = d.entry? q)
    (hplace : d'.entry? place ≠ some .folder) : Leads d' path place := by
  have hfolder : d'.isFolder = d.isFolder := by
    funext q
    by_cases hq : q = place
    · subst hq
      rw [h.noFolder]
      have hno := h.noFolder
      rw [isFolder, Bool.or_eq_false_iff] at hno ⊢
      refine ⟨hno.1, ?_⟩
      split
      · next heq => exact absurd heq hplace
      · rfl
    · rw [isFolder, isFolder, hframe q hq]
  exact ⟨locate_congr hfolder ▸ h.located, h.isFile, hfolder ▸ h.noFolder⟩

theorem Leads.set (h : Leads d path place) (records : Records) (held : Bool) :
    Leads (d.set place (.store records held)) path place :=
  h.of_frame (fun _ hq => entry?_set_of_ne d _ hq) (by simp)

theorem Leads.addAbove (h : Leads d path place) : d.addAbove path = (true, d) :=
  addAbove_of_locate (by rw [h.located]; rfl)

theorem Leads.target {records : Records} {held : Bool} (h : Leads d path place)
    (he : d.entry? place = some (.store records held)) : d.target path = .ok place := by
  simp only [Disk.target, h.addAbove, h.isFile, h.located, h.noFolder, he, Bool.false_eq_true,
    if_false]

theorem leads_of_target (h : d.target path = .ok place) :
    Leads (d.addAbove path).2 path place ∧
      ∀ entry, entry? (d.addAbove path).2 place = some entry →
        ∃ records held, entry = .store records held := by
  unfold Disk.target at h
  split at h
  · cases h
  next made hmade =>
  rw [hmade]
  split at h
  · cases h
  next q hq =>
  split at h
  · cases h
  next hfolder =>
  have leads : Leads made path q := by
    split at hq
    · cases hq
    · next hend => exact ⟨hq, by simpa using hend, by simpa using hfolder⟩
  split at h
  · next he =>
    cases h
    exact ⟨leads, fun entry hentry => by rw [he] at hentry; cases hentry⟩
  · next records held he =>
    cases h
    exact ⟨leads, fun entry hentry => ⟨records, held, Option.some.inj (hentry.symm.trans he)⟩⟩
  · cases h

theorem Leads.openStore (h : Leads d path place) :
    d.openStore path =
      match d.entry? place with
      | none => (.ok ⟨place, true⟩, d.set place (.store [] true))
      | some (.store records false) => (.ok ⟨place, true⟩, d.set place (.store records true))
      | some _ => (.error .occupied, d) := by
  rcases he : d.entry? place with _ | _ | _ | ⟨_, _ | _⟩ <;>
    simp only [Disk.openStore, h.addAbove, h.isFile, h.located, h.noFolder, he,
      Bool.false_eq_true, if_false]

theorem openStore_of_error {e : Error} (h : d.target path = .error e) :
    d.openStore path = (.error e, (d.addAbove path).2) := by
  unfold Disk.target at h
  unfold Disk.openStore
  generalize d.addAbove path = way at h ⊢
  obtain ⟨_ | _, made⟩ := way
  · cases h
    rfl
  simp only at h ⊢
  cases hway : (if path.endsInFolder then none else made.locate path.steps) with
  | none =>
    rw [hway] at h
    cases h
    rfl
  | some place =>
    simp only [hway] at h ⊢
    split at h
    · next hfolder =>
      cases h
      rw [if_pos hfolder]
    · next hfolder =>
      rw [if_neg hfolder]
      cases hentry : made.entry? place with
      | none => simp [hentry] at h
      | some entry =>
        cases entry with
        | store records held => simp [hentry] at h
        | _ =>
          simp only [hentry] at h ⊢
          cases h
          rfl

theorem openStore_of_target (h : d.target path = .ok place) :
    d.openStore path = (d.addAbove path).2.openStore path := by
  have made : d.addAbove path = (true, (d.addAbove path).2) := by
    unfold Disk.target at h
    split at h
    · cases h
    · next heq => rw [heq]
  conv => lhs; rw [Disk.openStore, made]
  conv => rhs; rw [Disk.openStore, (leads_of_target h).1.addAbove]

end Leads

/-- What an opening comes to. `value` tells what is found under a key of a store that was taken. -/
inductive Opens (value : String → Option Bytes → Option Bytes) (path : Path) (d : Disk) :
    Except Error Handle × Disk → Prop where
  | astray {e : Error} : d.target path = .error e →
      Opens value path d (.error e, (d.addAbove path).2)
  | held {place : Place} {records : Records} : d.target path = .ok place →
      d.stored? place = some (records, true) →
      Opens value path d (.error .occupied, (d.addAbove path).2)
  | taken {place : Place} {records : Records} {d' : Disk} : d.target path = .ok place →
      (∀ records, d.stored? place ≠ some (records, true)) → Leads d' path place →
      (∀ q, q ≠ place → d'.entry? q = entry? (d.addAbove path).2 q) →
      d'.entry? place = some (.store records true) →
      (∀ key, records.get? key = value key (d.find place key)) →
      Opens value path d (.ok ⟨place, true⟩, d')

theorem stored?_eq_some {records : Records} {held : Bool} :
    d.stored? place = some (records, held) ↔ d.entry? place = some (.store records held) := by
  unfold stored?
  rcases d.entry? place with _ | _ | _ | ⟨_, _⟩ <;> simp

/-- All records are found in a store that is opened. -/
theorem opens_openStore (path : Path) (d : Disk) :
    Opens (fun _ found => found) path d (d.openStore path) := by
  cases ht : d.target path with
  | error e =>
    rw [openStore_of_error ht]
    exact .astray ht
  | ok place =>
    obtain ⟨leads, hentry⟩ := leads_of_target ht
    have hsame := stored?_addAbove path d
    rw [openStore_of_target ht, leads.openStore]
    have taken : ∀ records, d.find place = Table.get? records →
        (∀ r, d.stored? place ≠ some (r, true)) →
        Opens (fun _ found => found) path d
          (.ok ⟨place, true⟩, (d.addAbove path).2.set place (.store records true)) := by
      intro records hfind hfree
      refine .taken ht hfree (leads.set records true) (fun q hq => entry?_set_of_ne _ _ hq)
        (entry?_set_self ..) fun key => ?_
      rw [hfind]
    cases he : entry? (d.addAbove path).2 place with
    | none =>
      have hnone : d.stored? place = none := by rw [← hsame, stored?, he]
      refine taken [] ?_ fun r hr => ?_
      · funext key
        rw [find, hnone]
        rfl
      · rw [hnone] at hr
        cases hr
    | some entry =>
      obtain ⟨records, held, rfl⟩ := hentry entry he
      have hstored : d.stored? place = some (records, held) := by
        rw [← hsame, stored?_eq_some, he]
      cases held with
      | true => exact .held ht hstored
      | false =>
        refine taken records ?_ fun r hr => ?_
        · funext key
          rw [find, hstored]
          rfl
        · rw [hstored] at hr
          cases hr

end Disk
end Store
end PriceOracle
