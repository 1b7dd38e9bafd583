import IntentGate.Proofs.FiniteNumeral
import IntentGate.Proofs.FiniteMap

set_option autoImplicit false

namespace IntentGate.Json

-- Numbers are words or finite, and each object lists its keys once, in ascending order.
inductive Value.Proper : Value → Prop where
  | null : Proper .null
  | bool (b : Bool) : Proper (.bool b)
  | int (n : Int) (low : -2 ^ 63 ≤ n) (high : n < 2 ^ 64) : Proper (.number (.int n))
  | float (x : Float) (finite : x.isFinite = true) : Proper (.number (.float x))
  | text (s : String) : Proper (.text s)
  | list (items : List Value) (each : ∀ v ∈ items, Proper v) : Proper (.list items)
  | object (fields : Fields) (ascending : Keyed.Ascending fields) (each : ∀ f ∈ fields, Proper f.2) :
      Proper (.object fields)

structure Datum where
  value : Value
  proper : value.Proper

structure Record extends Table Value where
  each : ∀ f ∈ rows, f.2.Proper

def Record.datum (record : Record) : Datum := ⟨.object record.rows, .object record.rows record.ascending record.each⟩

theorem sorted_items_eq (items : List Value) : sortedItems items = items.map Value.sorted := by
  induction items with
  | nil => rfl
  | cons v rest ih => rw [sortedItems, ih, List.map_cons]

theorem sorted_fields_eq (fields : Fields) : sortedFields fields = fields.map fun f => (f.1, f.2.sorted) := by
  induction fields with
  | nil => rfl
  | cons f rest ih => rw [sortedFields, ih, List.map_cons]

theorem proper_sorted (v : Value) (proper : v.Proper) : v.sorted = v := by
  induction proper with
  | list items each ih =>
      have same : items.map Value.sorted = items.map id := List.map_congr_left ih
      rw [Value.sorted, sorted_items_eq, same, List.map_id]
  | object fields ascending each ih =>
      have same : (fields.map fun f => (f.1, f.2.sorted)) = fields.map id :=
        List.map_congr_left fun f member => congrArg (Prod.mk f.1) (ih f member)
      rw [Value.sorted, sorted_fields_eq, same, List.map_id, Keyed.of_list_ascending fields ascending]
  | _ => rfl

theorem list_proper_iff (items : List Value) : (Value.list items).Proper ↔ ∀ v ∈ items, v.Proper := by
  constructor
  · rintro (_ | _ | _ | _ | _ | ⟨_, each⟩)
    exact each
  · exact .list items

theorem object_proper_iff (fields : Fields) :
    (Value.object fields).Proper ↔ Keyed.Ascending fields ∧ ∀ f ∈ fields, f.2.Proper := by
  constructor
  · rintro (_ | _ | _ | _ | _ | _ | ⟨_, ascending, each⟩)
    exact ⟨ascending, each⟩
  · rintro ⟨ascending, each⟩
    exact .object fields ascending each

theorem fields_ascending (fields : Fields) (proper : (Value.object fields).Proper) : Keyed.Ascending fields :=
  ((object_proper_iff fields).mp proper).1

theorem get_proper (fields : Fields) (proper : (Value.object fields).Proper) (key : String) (v : Value)
    (found : Keyed.get? fields key = some v) : v.Proper :=
  ((object_proper_iff fields).mp proper).2 (key, v) (Keyed.mem_of_get fields key v found)

namespace Record

def ofProper (fields : Fields) (proper : (Value.object fields).Proper) : Record where
  rows := fields
  ascending := fields_ascending fields proper
  each := ((object_proper_iff fields).mp proper).2

theorem proper (record : Record) : (Value.object record.rows).Proper := record.datum.proper

theorem get_proper (record : Record) (key : String) (v : Value) (found : Keyed.get? record.rows key = some v) :
    v.Proper :=
  record.each (key, v) (Keyed.mem_of_get record.rows key v found)

end Record

theorem get_sorted_fields (fields : Fields) (key : String) :
    Keyed.get? (sortedFields fields) key = (Keyed.get? fields key).map Value.sorted := by
  induction fields with
  | nil => rfl
  | cons f rest ih =>
      obtain ⟨k, v⟩ := f
      rw [sortedFields, Keyed.get_cons, Keyed.get_cons, ih]
      split <;> rfl

theorem sorted_object (fields : Fields) (distinct : (fields.map (·.1)).Nodup) :
    ∃ entries, (Value.object fields).sorted = .object entries ∧ Keyed.Ascending entries ∧
      ∀ key, Keyed.get? entries key = (Keyed.get? fields key).map Value.sorted := by
  refine ⟨Keyed.ofList (sortedFields fields), by rw [Value.sorted], Keyed.ascending_of_list _, fun key => ?_⟩
  have sameKeys : (sortedFields fields).map (·.1) = fields.map (·.1) := by
    rw [sorted_fields_eq, List.map_map]
    rfl
  rw [Keyed.get_of_list _ (sameKeys ▸ distinct), get_sorted_fields]

theorem of_float_sorted (x : Float) (finite : x.isFinite = true) :
    (Value.ofFloat x).sorted = .number (.float x) := by
  rw [Value.ofFloat, if_pos finite]
  rfl

end IntentGate.Json
