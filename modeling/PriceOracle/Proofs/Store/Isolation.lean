import Mathlib.Data.List.Induction
import PriceOracle.Proofs.Store.Disk
import PriceOracle.Proofs.Store.Key

/-!
# PriceOracle.Proofs.Store.Isolation

Records do not get into each other's way. No two of them have one key, so that what is read under
the key of a record is the last value that was put there through a handle of the same store, and
what is put under other keys or into other stores does not matter.

* `get_put`: one value is put, and any record is read.
* `get_putAll`: many values are put one after another.
* `isolation_account`: the same for the records of the node, whose keys are all different.
-/

namespace PriceOracle
namespace Store

open Key (Record)

namespace Disk

variable {d : Disk} {h h' : Handle} {key key' : String} {value : Bytes}

/-- The handles give access to one store. -/
def Share (d : Disk) (h h' : Handle) : Prop :=
  (d.records? h).isSome = true ∧ h'.isOpen = true ∧ h'.place = h.place

instance (d : Disk) (h h' : Handle) : Decidable (d.Share h h') :=
  inferInstanceAs (Decidable (_ ∧ _))

theorem not_share_of_none (hr : d.records? h = none) : ¬d.Share h h' := by
  rintro ⟨hsome, -⟩
  rw [hr] at hsome
  cases hsome

/-- Both handles find the store. -/
theorem Share.records?_eq (hshare : d.Share h h') : d.records? h' = d.records? h := by
  obtain ⟨hsome, hopen, hplace⟩ := hshare
  rw [Disk.records?_eq] at hsome
  split at hsome
  · next hh => rw [Disk.records?_eq, Disk.records?_eq, if_pos hopen, if_pos hh, hplace]
  · cases hsome

theorem records?_put (d : Disk) (h h' : Handle) (key : String) (value : Bytes) :
    (d.put h key value).2.records? h' =
      if d.Share h h' then (d.records? h').map (·.put key value) else d.records? h' := by
  rw [put]
  cases hr : d.records? h with
  | none => rw [if_neg (not_share_of_none hr)]
  | some records =>
    have hshare : d.Share h h' ↔ h'.isOpen = true ∧ h'.place = h.place := by
      rw [Share, hr, Option.isSome_some]
      exact and_iff_right rfl
    rw [records?_eq, stored?_set]
    by_cases hopen : h'.isOpen = true
    · by_cases hplace : h'.place = h.place
      · have hs := hshare.2 ⟨hopen, hplace⟩
        rw [if_pos hopen, if_pos hplace.symm, if_pos hs, hs.records?_eq, hr]
        rfl
      · rw [if_neg (Ne.symm hplace), if_neg fun hs => hplace (hshare.1 hs).2, records?_eq]
    · rw [if_neg hopen, if_neg fun hs => hopen (hshare.1 hs).1, records?_eq, if_neg hopen]

/-- What is put under a key is read under it, and only there. -/
theorem get_put (d : Disk) (h h' : Handle) (key key' : String) (value : Bytes) :
    (d.put h key value).2.get h' key' =
      if d.Share h h' ∧ key = key' then .ok (some value) else d.get h' key' := by
  rw [get, records?_put, get]
  by_cases hshare : d.Share h h'
  · obtain ⟨records, hr⟩ := Option.isSome_iff_exists.1 hshare.1
    rw [if_pos hshare, hshare.records?_eq, hr, Option.map_some]
    simp only [Table.get?_put, hshare, true_and]
    split <;> rfl
  · rw [if_neg hshare, if_neg fun h => hshare h.1]

/-- What is put somewhere gives and takes no access to a store. -/
theorem share_put (d : Disk) (h g g' : Handle) (key : String) (value : Bytes) :
    (d.put h key value).2.Share g g' ↔ d.Share g g' := by
  unfold Share
  rw [records?_put]
  split <;> simp

/-- A value that is put under the key of a record. -/
structure Writing where
  handle : Handle
  record : Record
  value : Bytes

/-- Put values one after another. -/
def putAll (d : Disk) (ws : List Writing) : Disk :=
  ws.foldl (fun d w => (d.put w.handle w.record.key w.value).2) d

theorem putAll_snoc (d : Disk) (ws : List Writing) (w : Writing) :
    d.putAll (ws ++ [w]) = ((d.putAll ws).put w.handle w.record.key w.value).2 := by
  rw [putAll, List.foldl_append]
  rfl

theorem share_putAll (d : Disk) (ws : List Writing) (h h' : Handle) :
    (d.putAll ws).Share h h' ↔ d.Share h h' := by
  induction ws using List.reverseRecOn with
  | nil => rfl
  | append_singleton ws w ih => rw [putAll_snoc, share_put, ih]

/-- The values of a record that are put into the store of a handle. -/
def writings (d : Disk) (h : Handle) (r : Record) (ws : List Writing) : List Bytes :=
  (ws.filter fun w => d.Share w.handle h ∧ w.record = r).map (·.value)

theorem get_putAll (d : Disk) (ws : List Writing) (h : Handle) (r : Record) :
    (d.putAll ws).get h r.key =
      match (d.writings h r ws).getLast? with
      | some value => .ok (some value)
      | none => d.get h r.key := by
  induction ws using List.reverseRecOn with
  | nil => rfl
  | append_singleton ws w ih =>
    rw [putAll_snoc, get_put, ih]
    simp only [share_putAll, Record.key_inj, writings, List.filter_append, List.map_append]
    by_cases hw : d.Share w.handle h ∧ w.record = r
    · simp [hw]
    · simp [hw]

/-- The keys of two records are the same only if the records are, the numbered ones included. So a
value that is put under the key of a record is read there through all handles of that store, and all
other records stay, through all handles of all stores. After many such puts each record has the last
value that was put there, or stays if there was none. -/
theorem isolation_account :
    (∀ r r' : Record, r.key = r'.key ↔ r = r') ∧
      (∀ (d : Disk) (h h' : Handle) (r r' : Record) (value : Bytes),
        (d.put h r.key value).2.get h' r'.key =
          if d.Share h h' ∧ r = r' then .ok (some value) else d.get h' r'.key) ∧
      ∀ (d : Disk) (ws : List Writing) (h : Handle) (r : Record),
        (d.putAll ws).get h r.key =
          match (d.writings h r ws).getLast? with
          | some value => .ok (some value)
          | none => d.get h r.key := by
  refine ⟨fun _ _ => Record.key_inj, fun d h h' r r' value => ?_, get_putAll⟩
  simp only [get_put, Record.key_inj]

end Disk

end Store
end PriceOracle
