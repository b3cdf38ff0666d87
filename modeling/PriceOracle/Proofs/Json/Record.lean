import Mathlib.Data.List.Basic
import PriceOracle.Json.Record

/-!
# PriceOracle.Proofs.Json.Record

How a record may be spelled: as an object with its fields in any order and others among them, or as
an array of their values in order (`Spells`). `record?_iff` and `tagged?_iff` say that these are all
the values that a record, or a record of a kind, is read from.
-/

namespace PriceOracle
namespace Json

section Fields

variable {name tag : String} {j : Json} {fields : List (String × Json)}

/-- The fields of one name. -/
def ofName (name : String) (fields : List (String × Json)) : List (String × Json) :=
  fields.filter (·.1 = name)

theorem occurrences_eq (name : String) (fields : List (String × Json)) :
    occurrences name fields = (ofName name fields).length := List.countP_eq_length_filter

theorem lookup_eq (name : String) (fields : List (String × Json)) :
    lookup name fields = (ofName name fields).head?.map (·.2) := by
  induction fields with
  | nil => rfl
  | cons f rest ih =>
    obtain ⟨n, k⟩ := f
    by_cases hn : n = name
    · simp [lookup, ofName, hn]
    · rw [lookup, if_neg hn, ih, ofName, ofName, List.filter_cons_of_neg (by simpa using hn)]

theorem lookup_eq_none_iff : lookup name fields = none ↔ ofName name fields = [] := by
  rw [lookup_eq, Option.map_eq_none_iff, List.head?_eq_none_iff]

theorem lookup_eq_none_iff_forall : lookup name fields = none ↔ ∀ f ∈ fields, f.1 ≠ name := by
  rw [lookup_eq_none_iff, ofName, List.filter_eq_nil_iff]
  simp only [decide_eq_true_eq, ne_eq]

/-- The field that is looked up is the first one of its name. -/
theorem lookup_eq_some_iff_append : lookup name fields = some j ↔
    ∃ front back, fields = front ++ (name, j) :: back ∧ ∀ f ∈ front, f.1 ≠ name := by
  rw [lookup_eq, ofName, List.head?_filter, Option.map_eq_some_iff]
  constructor
  · rintro ⟨⟨n, k⟩, hfind, rfl⟩
    obtain ⟨hn, front, back, hfields, hfront⟩ := List.find?_eq_some_iff_append.1 hfind
    obtain rfl : n = name := of_decide_eq_true hn
    exact ⟨front, back, hfields, fun f hf => by simpa using hfront f hf⟩
  · rintro ⟨front, back, hfields, hfront⟩
    have hne : ∀ f ∈ front, (!decide (f.1 = name)) = true := fun f hf => by simpa using hfront f hf
    exact ⟨(name, j), List.find?_eq_some_iff_append.2
      ⟨decide_eq_true rfl, front, back, hfields, hne⟩, rfl⟩

/-- A field that stands in an object at most once. -/
theorem lookup_eq_some_iff (honce : occurrences name fields ≤ 1) :
    lookup name fields = some j ↔ ofName name fields = [(name, j)] := by
  have hname : ∀ f ∈ ofName name fields, f.1 = name :=
    fun f hf => of_decide_eq_true (List.mem_filter.1 hf).2
  rw [occurrences_eq] at honce
  rw [lookup_eq]
  match hf : ofName name fields with
  | [] => simp
  | [f] =>
    rw [hf] at hname
    obtain ⟨n, k⟩ := f
    have hn : n = name := hname (n, k) List.mem_cons_self
    simp [hn]
  | f :: g :: rest =>
    rw [hf, List.length_cons, List.length_cons] at honce
    omega

theorem ofName_filter_ne (hne : name ≠ tag) :
    ofName name (fields.filter (·.1 ≠ tag)) = ofName name fields := by
  rw [ofName, ofName, List.filter_filter]
  refine List.filter_congr fun f _ => ?_
  by_cases hf : f.1 = name
  · simp [hf, hne]
  · simp [hf]

end Fields

/-- Does a value spell a record? An object does with each of the fields once, in any order and with
others among them, and an array of their values in order. -/
def Spells (fields : List (String × Json)) : Json → Prop
  | .object all => ∀ f ∈ fields, ofName f.1 all = [f]
  | .array items => items = fields.map (·.2)
  | _ => False

section Record

variable {j : Json} {fields all : List (String × Json)}

theorem objectRecord?_eq_some {names : List String} {r : Record} :
    objectRecord? names all = some r ↔
      (∀ name ∈ names, occurrences name all ≤ 1) ∧ r = ⟨names.map (lookup · all), true⟩ := by
  unfold objectRecord?
  simp only [List.all_eq_true, decide_eq_true_eq]
  split
  · next honce =>
    exact ⟨fun h => ⟨honce, (Option.some.inj h).symm⟩, fun h => congrArg some h.2.symm⟩
  · next honce => exact ⟨nofun, fun h => absurd h.1 honce⟩

/-- The fields of an object are found just when each of them stands there once. -/
theorem objectRecord?_iff : (∃ b, objectRecord? (fields.map (·.1)) all =
      some ⟨fields.map fun f => some f.2, b⟩) ↔ ∀ f ∈ fields, ofName f.1 all = [f] := by
  simp only [objectRecord?_eq_some, List.forall_mem_map, List.map_map, Record.mk.injEq,
    exists_and_left, exists_eq, and_true, List.map_inj_left, Function.comp_apply]
  constructor
  · rintro ⟨honce, hlookup⟩ f hf
    exact (lookup_eq_some_iff (honce f hf)).1 (hlookup f hf).symm
  · intro hnamed
    have honce : ∀ f ∈ fields, occurrences f.1 all ≤ 1 := by
      intro f hf
      rw [occurrences_eq, hnamed f hf]
      exact Nat.le_refl 1
    exact ⟨honce, fun f hf => ((lookup_eq_some_iff (honce f hf)).2 (hnamed f hf)).symm⟩

/-- The values of an array are found just when they are all there. -/
theorem arrayRecord?_iff {items : List Json} : (∃ b, arrayRecord? (fields.map (·.1)) items =
      some ⟨fields.map fun f => some f.2, b⟩) ↔ items = fields.map (·.2) := by
  have hmap : (fields.map fun f => some f.2) = (fields.map (·.2)).map some :=
    (List.map_map (g := some)).symm
  rw [arrayRecord?, List.length_map]
  constructor
  · rintro ⟨b, h⟩
    split at h
    · simp only [Option.some.injEq, Record.mk.injEq] at h
      have hvalues := h.1
      -- no value is missing, since the last ones would be
      have hnone : fields.length - items.length = 0 := by
        by_contra hpos
        have hmem : (none : Option Json) ∈ fields.map fun f => some f.2 := by
          rw [← hvalues]
          exact List.mem_append_right _ (List.mem_replicate.2 ⟨hpos, rfl⟩)
        obtain ⟨f, -, hf⟩ := List.mem_map.1 hmem
        cases hf
      rw [hnone, List.replicate_zero, List.append_nil, hmap] at hvalues
      exact List.map_injective_iff.2 (fun _ _ => Option.some.inj) hvalues
    · cases h
  · rintro rfl
    refine ⟨false, ?_⟩
    rw [List.length_map, if_pos (Nat.le_refl _), Nat.sub_self, List.replicate_zero,
      List.append_nil, hmap]

theorem record?_iff : (∃ b, record? (fields.map (·.1)) j =
      some ⟨fields.map fun f => some f.2, b⟩) ↔ Spells fields j := by
  cases j with
  | object all => exact objectRecord?_iff
  | array items => exact arrayRecord?_iff
  | _ => simp [record?, Spells]

/-- A field that is missing in an object. -/
theorem record?_missing_iff {name : String} : record? [name] j = some ⟨[none], true⟩ ↔
    ∃ all, j = .object all ∧ ofName name all = [] := by
  cases j with
  | object all =>
    rw [record?, objectRecord?_eq_some]
    simp only [List.mem_singleton, forall_eq, List.map_cons, List.map_nil, Record.mk.injEq,
      List.cons.injEq, and_true, object.injEq, exists_eq_left', eq_comm (a := none),
      lookup_eq_none_iff, and_iff_right_iff_imp]
    intro hmissing
    rw [occurrences_eq, hmissing]
    exact Nat.zero_le 1
  | array items => simp [record?, arrayRecord?]
  | _ => simp [record?]

theorem isBare_iff : isBare j = true ↔ Spells [] j := by
  cases j <;> simp [isBare, Spells]

theorem tagged?_object {tag kind : String} {body : Json} :
    tagged? tag (.object all) = some (kind, body) ↔ (Json.object all).sound = true ∧
      ofName tag all = [(tag, .string kind)] ∧ body = .object (all.filter (·.1 ≠ tag)) := by
  unfold tagged?
  cases (Json.object all).sound with
  | false => simp
  | true =>
    by_cases honce : occurrences tag all = 1
    · rw [← lookup_eq_some_iff (Nat.le_of_eq honce)]
      simp only [honce, Bool.not_true, Bool.false_eq_true, if_false, if_true, true_and]
      cases lookup tag all with
      | none => simp
      | some value => cases value <;> simp [eq_comm]
    · have hnamed : ofName tag all ≠ [(tag, .string kind)] := by
        intro h
        rw [occurrences_eq, h] at honce
        exact honce rfl
      simp [honce, hnamed]

theorem tagged?_array {tag kind : String} {items : List Json} {body : Json} :
    tagged? tag (.array items) = some (kind, body) ↔ (Json.array items).sound = true ∧
      ∃ rest, items = .string kind :: rest ∧ body = .array rest := by
  unfold tagged?
  cases (Json.array items).sound with
  | false => simp
  | true =>
    match items with
    | [] => simp
    | first :: rest => cases first <;> simp [eq_comm]

/-- A record of a kind is spelled like one with the tag in front of its fields. -/
theorem tagged?_iff {tag kind : String} (htag : ∀ f ∈ fields, f.1 ≠ tag) :
    (∃ body, tagged? tag j = some (kind, body) ∧ Spells fields body) ↔
      j.sound = true ∧ Spells ((tag, .string kind) :: fields) j := by
  cases j with
  | object all =>
    have hfields : Spells fields (.object (all.filter (·.1 ≠ tag))) ↔
        ∀ f ∈ fields, ofName f.1 all = [f] :=
      forall₂_congr fun f hf => by rw [ofName_filter_ne (htag f hf)]
    simp only [tagged?_object, and_assoc, exists_and_left, exists_eq_left, hfields]
    rw [Spells, List.forall_mem_cons]
  | array items =>
    simp only [tagged?_array, and_assoc, exists_and_left]
    simp [Spells]
  | _ => simp [tagged?, Spells]

end Record
end Json
end PriceOracle
