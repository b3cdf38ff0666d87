import PriceOracle.Proxy.Local

/-!
# PriceOracle.Proofs.Proxy.Local

The records behind the cell. While a store is in it, getting and putting are those of a table.
-/

namespace PriceOracle
namespace Proxy
namespace Local

open Store (Records)

/-- The records of the store in the cell, if one is open there. -/
def records? (l : Local) : Option Records := l.cell.bind fun h => l.disk.records? h

variable {l : Local} {records : Records}

theorem get_of_records (h : l.records? = some records) (key : String) :
    l.get key = .ok (records.get? key) := by
  obtain ⟨handle, hc, hr⟩ := Option.bind_eq_some_iff.1 h
  simp only [get, hc, Store.Disk.get, hr]

theorem put_of_records (h : l.records? = some records) (key : String) (value : Bytes) :
    (l.put key value).1 = .ok () ∧ (l.put key value).2.records? = some (records.put key value) := by
  obtain ⟨handle, hc, hr⟩ := Option.bind_eq_some_iff.1 h
  have hopen : handle.isOpen = true := by
    unfold Store.Disk.records? at hr
    split at hr
    · assumption
    · cases hr
  have hput : l.put key value
      = (.ok (), { l with
          disk := l.disk.set handle.place (.store (records.put key value) true) }) := by
    simp only [put, hc, Store.Disk.put, hr]
  rw [hput]
  refine ⟨rfl, ?_⟩
  simp only [records?, hc, Option.bind_some, Store.Disk.records?, hopen, Store.Disk.entry?,
    Store.Disk.set, Table.get?_put_self, if_true]

theorem records_of_get {key : String} {record : Option Bytes} (h : l.get key = .ok record) :
    ∃ records, l.records? = some records ∧ records.get? key = record := by
  cases hc : l.cell with
  | none => simp [get, hc] at h
  | some handle =>
    cases hr : l.disk.records? handle with
    | none => simp [get, hc, Store.Disk.get, hr] at h
    | some records =>
      have hrecords : l.records? = some records := by rw [records?, hc, Option.bind_some, hr]
      refine ⟨records, hrecords, ?_⟩
      rw [get_of_records hrecords] at h
      exact Except.ok.inj h

/-- A store that answers takes every record. -/
theorem put_of_get {key : String} {record : Option Bytes} (h : l.get key = .ok record)
    (other : String) (value : Bytes) :
    (l.put other value).1 = .ok () ∧ (l.put other value).2.get other = .ok (some value) ∧
      (l.put other value).2.get key = .ok (if other = key then some value else record) := by
  obtain ⟨records, hrecords, hrecord⟩ := records_of_get h
  obtain ⟨hok, hput⟩ := put_of_records hrecords other value
  refine ⟨hok, ?_, ?_⟩
  · rw [get_of_records hput, Table.get?_put_self]
  · rw [get_of_records hput, Table.get?_put, hrecord]

theorem update_of_get {key : String} {record : Option Bytes} (h : l.get key = .ok record)
    (change : Option Bytes → Except Store.Error Bytes) :
    l.update key change =
      match change record with
      | .ok value => (.ok (), (l.put key value).2)
      | .error e => (.error e, l) := by
  unfold update
  simp only [h]
  cases hchange : change record with
  | error e => rfl
  | ok value => exact Prod.ext (put_of_get h key value).1 rfl

end Local
end Proxy
end PriceOracle
