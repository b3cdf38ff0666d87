import PriceOracle.Proofs.Store.Disk

/-!
# PriceOracle.Proofs.Store.Migration

A store that is opened for a fresh run. Of its records the non-empty costs in the numbered slots are
copied out, the file is taken away, and they are put into a new one.

* `get?_restored`: what is put back is what `outlives` says, whatever was in the file.
* `opens_migrate`: a migration is an opening after which just this is found.
* `migrate_account`: what a migration does to the disk, when it goes well and when it fails.
-/

namespace PriceOracle
namespace Store

theorem isCost_iff {key : String} :
    isCost key ↔ ∃ slot ∈ List.range Key.gasCostSlots, key = Key.gasCost slot := by
  simp only [isCost, List.mem_range]

theorem outlives_none (key : String) : outlives key none = none := ite_self none

@[simp] theorem outlives_outlives (key : String) (value : Option Bytes) :
    outlives key (outlives key value) = outlives key value := by
  unfold outlives
  split
  · rw [Option.filter_filter]
    simp
  · rfl

namespace Disk

variable {d d' : Disk} {place : Place} {path : Path} {h : Handle} {records : Records} {held : Bool}

/-- The non-empty costs in some slots of a store. -/
def costsIn (records : Records) (slots : List Nat) : List (Nat × Bytes) :=
  slots.flatMap fun slot =>
    ((records.get? (Key.gasCost slot)).filter fun value => !value.isEmpty).toList.map (slot, ·)

theorem costs_of_stored (hh : h.isOpen = true) (hs : d.stored? h.place = some (records, held))
    (slots : List Nat) : d.costs h slots = .ok (costsIn records slots) := by
  induction slots with
  | nil => rfl
  | cons slot rest ih =>
    rw [costs, get_of_stored hh hs, ih]
    rfl

/-- Records with some costs put into them, one after another. -/
def restored (costs : List (Nat × Bytes)) (records : Records) : Records :=
  records.putAll (costs.map fun cost => (Key.gasCost cost.1, cost.2))

theorem putCosts_of_stored (hh : h.isOpen = true) (costs : List (Nat × Bytes))
    (hs : d.stored? h.place = some (records, true)) :
    ∃ d', d.putCosts h costs = (.ok (), d') ∧ (∀ q, q ≠ h.place → d'.entry? q = d.entry? q) ∧
      d'.stored? h.place = some (restored costs records, true) := by
  induction costs generalizing d records with
  | nil => exact ⟨d, rfl, fun _ _ => rfl, hs⟩
  | cons cost rest ih =>
    obtain ⟨slot, value⟩ := cost
    rw [putCosts, put_of_stored hh hs]
    obtain ⟨d', hput, hframe, hs'⟩ := ih (d := d.set h.place
      (.store (records.put (Key.gasCost slot) value) true)) (by rw [stored?_set, if_pos rfl])
    refine ⟨d', hput, fun q hq => ?_, hs'⟩
    rw [hframe q hq, entry?_set_of_ne _ _ hq]

/-- A later slot of the same number would hold the same cost, so no order matters. -/
theorem get?_restored_costsIn (records onto : Records) (slots : List Nat) (key : String) :
    (restored (costsIn records slots) onto).get? key
      = if ∃ slot ∈ slots, key = Key.gasCost slot then
          ((records.get? key).filter fun value => !value.isEmpty).or (onto.get? key)
        else onto.get? key := by
  induction slots generalizing onto with
  | nil => simp [costsIn, restored, Table.putAll]
  | cons slot rest ih =>
    have hmem : (∃ s ∈ slot :: rest, key = Key.gasCost s) ↔
        key = Key.gasCost slot ∨ ∃ s ∈ rest, key = Key.gasCost s := by
      simp only [List.mem_cons, exists_eq_or_imp]
    simp only [hmem]
    cases hcost : (records.get? (Key.gasCost slot)).filter fun value => !value.isEmpty with
    | none =>
      have hsplit : costsIn records (slot :: rest) = costsIn records rest := by
        simp [costsIn, hcost]
      rw [hsplit, ih]
      by_cases hkey : key = Key.gasCost slot
      · subst hkey
        simp [hcost]
      · simp only [hkey, false_or]
    | some value =>
      have hsplit : costsIn records (slot :: rest) = (slot, value) :: costsIn records rest := by
        simp [costsIn, hcost]
      have hput : restored (costsIn records (slot :: rest)) onto
          = restored (costsIn records rest) (onto.put (Key.gasCost slot) value) := by
        rw [hsplit]
        rfl
      rw [hput, ih]
      by_cases hkey : key = Key.gasCost slot
      · subst hkey
        simp [hcost]
      · simp only [hkey, false_or, Table.get?_put_of_ne _ _ (Ne.symm hkey)]

theorem get?_restored (records : Records) (key : String) :
    (restored (costsIn records (List.range Key.gasCostSlots)) []).get? key
      = outlives key (records.get? key) := by
  rw [get?_restored_costsIn, outlives]
  simp only [isCost_iff, Table.get?_nil, Option.or_none]

theorem Leads.remove (h : Leads d path place) : d.remove path = ⟨d.entries.erase place⟩ := by
  simp only [Disk.remove, h.located, h.noFolder, h.isFile, Bool.false_eq_true, if_false]

theorem Leads.entry?_remove (h : Leads d path place) (q : Place) :
    entry? (d.remove path) q = if place = q then none else d.entry? q := by
  rw [h.remove]
  exact Table.get?_erase ..

/-- The part of a migration that comes when the store is open: nothing in it can fail. -/
theorem Leads.renew (leads : Leads d path place) (hs : d.stored? place = some (records, true)) :
    ∃ d', Leads d' path place ∧ (∀ q, q ≠ place → d'.entry? q = d.entry? q) ∧
      d'.stored? place
        = some (restored (costsIn records (List.range Key.gasCostSlots)) [], true) ∧
      ∀ from' : Disk, from'.openStore path = (.ok ⟨place, true⟩, d) →
        from'.migrate path = (.ok ⟨place, true⟩, d') := by
  have hclose := close_of_stored (h := ⟨place, true⟩) rfl hs
  -- closed
  have leads₁ := leads.set records false
  -- taken away
  have hremove := leads₁.entry?_remove
  have leads₂ : Leads ((d.set place (.store records false)).remove path) path place := by
    refine leads₁.of_frame (fun q hq => ?_) ?_
    · rw [hremove, if_neg (Ne.symm hq)]
    · rw [hremove, if_pos rfl]
      nofun
  -- made anew
  have hopen := leads₂.openStore
  rw [hremove, if_pos rfl] at hopen
  obtain ⟨d', hput, hframe, hs'⟩ := putCosts_of_stored (h := ⟨place, true⟩) rfl
    (costsIn records (List.range Key.gasCostSlots))
    (d := ((d.set place (.store records false)).remove path).set place (.store [] true))
    (by rw [stored?_set, if_pos rfl])
  have hframe' : ∀ q, q ≠ place → d'.entry? q = d.entry? q := by
    intro q hq
    rw [hframe q hq, entry?_set_of_ne _ _ hq, hremove, if_neg (Ne.symm hq),
      entry?_set_of_ne _ _ hq]
  refine ⟨d', leads.of_frame hframe' ?_, hframe', hs', fun start hstart => ?_⟩
  · rw [stored?_eq_some.1 hs']
    nofun
  · simp only [migrate, hstart, costs_of_stored (h := ⟨place, true⟩) rfl hs, hclose, hopen, hput]

/-- Just what outlives a migration is found after one. -/
theorem opens_migrate (path : Path) (d : Disk) : Opens outlives path d (d.migrate path) := by
  have hopens := opens_openStore path d
  generalize hopen : d.openStore path = r at hopens
  cases hopens with
  | astray ht =>
    rw [migrate, hopen]
    exact .astray ht
  | held ht hs =>
    rw [migrate, hopen]
    exact .held ht hs
  | @taken place records d₁ ht hfree leads hframe hentry hfound =>
    obtain ⟨d', leads', hframe', hs', hmigrate⟩ := leads.renew (stored?_eq_some.2 hentry)
    rw [hmigrate d hopen]
    refine .taken ht hfree leads' ?_ (stored?_eq_some.1 hs') fun key => ?_
    · intro q hq
      rw [hframe' q hq, hframe q hq]
    · rw [get?_restored, hfound]

section Account

variable {value : String → Option Bytes → Option Bytes} {e : Error}

/-- Nothing that was there is lost when an opening fails. -/
theorem Opens.error (ho : Opens value path d (.error e, d')) :
    (d.target path = .error e ∨ e = .occupied ∧
      ∃ place records, d.target path = .ok place ∧ d.stored? place = some (records, true)) ∧
    ∀ q entry, d.entry? q = some entry → d'.entry? q = some entry := by
  have kept : ∀ q entry, d.entry? q = some entry →
      entry? (d.addAbove path).2 q = some entry := by
    intro q entry hentry
    obtain hsame | ⟨hnone, -⟩ := entry?_addAbove path d q
    · rw [hsame, hentry]
    · rw [hnone] at hentry
      cases hentry
  cases ho with
  | astray ht => exact ⟨.inl ht, kept⟩
  | held ht hs => exact ⟨.inr ⟨rfl, _, _, ht, hs⟩, kept⟩

theorem Opens.ok (ho : Opens value path d (.ok h, d')) :
    h.isOpen = true ∧ d.target path = .ok h.place ∧
    (∀ key, d'.get h key = .ok (value key (d.find h.place key))) ∧
    ∀ q, q ≠ h.place → d'.entry? q = d.entry? q ∨
      d.entry? q = none ∧ d'.entry? q = some .folder := by
  cases ho with
  | @taken place records _ ht _ _ hframe hentry hfound =>
    refine ⟨rfl, ht, fun key => ?_, fun q hq => ?_⟩
    · rw [get_of_stored rfl (stored?_eq_some.2 hentry), hfound]
    · rw [hframe q hq]
      exact entry?_addAbove path d q

/-- A free file can be opened. -/
theorem Opens.isOk_iff {r : Except Error Handle × Disk} (ho : Opens value path d r) :
    (∃ h d', r = (.ok h, d')) ↔
      ∃ place, d.target path = .ok place ∧ ∀ records, d.stored? place ≠ some (records, true) := by
  cases ho with
  | astray ht => simp [ht]
  | held ht hs =>
    rw [ht]
    simp [hs]
  | taken ht hfree =>
    exact ⟨fun _ => ⟨_, ht, hfree⟩, fun _ => ⟨_, _, rfl⟩⟩

/-- After it was closed, a file that was opened can be opened again, and nothing has to be made on
the way. -/
theorem Opens.after_close {value' : String → Option Bytes → Option Bytes}
    (ho : Opens value path d (.ok h, d')) {r : Except Error Handle × Disk}
    (ho' : Opens value' path (d'.close h).2 r) :
    ∃ d'', r = (.ok h, d'') ∧
      (∀ key, d''.get h key = .ok (value' key (value key (d.find h.place key)))) ∧
      ∀ q, q ≠ h.place → d''.entry? q = d'.entry? q := by
  cases ho with
  | @taken place records _ _ _ leads _ hentry hfound =>
    have hs := stored?_eq_some.2 hentry
    rw [close_of_stored rfl hs] at ho'
    have leads' := leads.set records false
    have hplace := entry?_set_self d' place (.store records false)
    have ht := leads'.target hplace
    obtain ⟨h, d'', rfl⟩ := ho'.isOk_iff.2
      ⟨place, ht, fun r hr => by rw [stored?_eq_some.2 hplace] at hr; cases hr⟩
    cases ho' with
    | taken ht' _ _ hframe' hentry' hfound' =>
      rw [ht] at ht'
      cases ht'
      refine ⟨d'', rfl, fun key => ?_, fun q hq => ?_⟩
      · rw [get_of_stored rfl (stored?_eq_some.2 hentry'), hfound', find_set, if_pos rfl, hfound]
      · rw [hframe' q hq, leads'.addAbove, entry?_set_of_ne _ _ hq]

end Account

/-- What a migration does. When it goes well, just the non-empty costs of the file are found, under
their keys, and a second one finds the same and changes no other file. It goes well for every file
that is free, a new one included. Otherwise the path leads to no store or the store is held, and
all that was on the disk is still there. -/
theorem migrate_account (path : Path) (d : Disk) :
    (∀ h d', d.migrate path = (.ok h, d') →
      h.isOpen = true ∧ d.target path = .ok h.place ∧
      (∀ key, d'.get h key = .ok (outlives key (d.find h.place key))) ∧
      (∀ q, q ≠ h.place → d'.entry? q = d.entry? q ∨
        d.entry? q = none ∧ d'.entry? q = some .folder) ∧
      ∃ d'', (d'.close h).2.migrate path = (.ok h, d'') ∧ (∀ key, d''.get h key = d'.get h key) ∧
        ∀ q, q ≠ h.place → d''.entry? q = d'.entry? q) ∧
    ((∃ h d', d.migrate path = (.ok h, d')) ↔
      ∃ place, d.target path = .ok place ∧ ∀ records, d.stored? place ≠ some (records, true)) ∧
    (∀ place, d.target path = .ok place → d.entry? place = none →
      ∃ h d', d.migrate path = (.ok h, d') ∧ ∀ key, d'.get h key = .ok none) ∧
    ∀ e d', d.migrate path = (.error e, d') →
      (d.target path = .error e ∨ e = .occupied ∧
        ∃ place records, d.target path = .ok place ∧ d.stored? place = some (records, true)) ∧
      ∀ q entry, d.entry? q = some entry → d'.entry? q = some entry := by
  have hopens := opens_migrate path d
  refine ⟨fun h d' hd => ?_, hopens.isOk_iff, fun place ht hnone => ?_, fun e d' hd => ?_⟩
  · rw [hd] at hopens
    obtain ⟨hopen, ht, hget, hframe⟩ := hopens.ok
    obtain ⟨d'', hagain, hget', hframe'⟩ := hopens.after_close (opens_migrate path _)
    refine ⟨hopen, ht, hget, hframe, d'', hagain, fun key => ?_, hframe'⟩
    rw [hget', hget, outlives_outlives]
  · have hstored : d.stored? place = none := by rw [stored?, hnone]
    have hfree : ∀ records, d.stored? place ≠ some (records, true) := by simp [hstored]
    obtain ⟨h, d', hd⟩ := hopens.isOk_iff.2 ⟨place, ht, hfree⟩
    rw [hd] at hopens
    obtain ⟨-, ht', hget, -⟩ := hopens.ok
    rw [ht] at ht'
    cases ht'
    refine ⟨h, d', hd, fun key => ?_⟩
    rw [hget, find, hstored, Option.bind_none, outlives_none]
  · rw [hd] at hopens
    exact hopens.error

end Disk
end Store
end PriceOracle
