import IntentGate.Json.Printer

set_option autoImplicit false

namespace IntentGate.Json

mutual

inductive Prints : Value → List Char → Prop where
  | null : Prints .null ['n', 'u', 'l', 'l']
  | yes : Prints (.bool true) ['t', 'r', 'u', 'e']
  | no : Prints (.bool false) ['f', 'a', 'l', 's', 'e']
  | number (n : Number) : Prints (.number n) n.write
  | text (s : String) : Prints (.text s) (writeText s)
  | list (items : List Value) (written : List (List Char)) (each : PrintsItems items written) :
      Prints (.list items) ('[' :: ([','].intercalate written ++ [']']))
  | object (fields : Fields) (written : List (List Char)) (each : PrintsFields fields written) :
      Prints (.object fields) ('\x7b' :: ([','].intercalate written ++ ['\x7d']))

inductive PrintsItems : List Value → List (List Char) → Prop where
  | nil : PrintsItems [] []
  | cons (v : Value) (cs : List Char) (first : Prints v cs) (rest : List Value) (written : List (List Char))
      (later : PrintsItems rest written) : PrintsItems (v :: rest) (cs :: written)

inductive PrintsFields : Fields → List (List Char) → Prop where
  | nil : PrintsFields [] []
  | cons (key : String) (v : Value) (cs : List Char) (first : Prints v cs) (rest : Fields)
      (written : List (List Char)) (later : PrintsFields rest written) :
      PrintsFields ((key, v) :: rest) ((writeText key ++ ':' :: cs) :: written)

end

def writtenField (f : String × Value) : List Char := writeText f.1 ++ ':' :: f.2.write

theorem write_items_later (items : List Value) :
    writeItems false items = (items.map Value.write).flatMap (',' :: ·) ++ [']'] := by
  induction items with
  | nil => rfl
  | cons v rest ih => simp [writeItems, ih]

theorem write_fields_later (fields : Fields) :
    writeFields false fields = (fields.map writtenField).flatMap (',' :: ·) ++ ['\x7d'] := by
  induction fields with
  | nil => rfl
  | cons f rest ih => simp [writeFields, ih, writtenField]

theorem intercalate_comma (first : List Char) (later : List (List Char)) :
    [','].intercalate (first :: later) = first ++ later.flatMap (',' :: ·) := by
  induction later generalizing first with
  | nil => simp
  | cons second rest ih =>
      rw [List.intercalate_cons_cons, ih, List.flatMap_cons]
      simp

theorem write_items_eq (items : List Value) :
    writeItems true items = [','].intercalate (items.map Value.write) ++ [']'] := by
  cases items with
  | nil => rfl
  | cons v rest =>
      rw [writeItems, write_items_later, List.map_cons, intercalate_comma]
      simp

theorem write_fields_eq (fields : Fields) :
    writeFields true fields = [','].intercalate (fields.map writtenField) ++ ['\x7d'] := by
  cases fields with
  | nil => rfl
  | cons f rest =>
      rw [writeFields, write_fields_later, List.map_cons, intercalate_comma, writtenField]
      simp

mutual

theorem prints_iff (v : Value) (cs : List Char) : Prints v cs ↔ cs = v.write := by
  match v with
  | .null | .bool true | .bool false | .number _ | .text _ =>
      constructor
      · rintro ⟨⟩
        rfl
      · rintro rfl
        constructor
  | .list items =>
      rw [Value.write, write_items_eq]
      constructor
      · rintro (_ | _ | _ | _ | _ | ⟨_, written, each⟩)
        rw [(prints_items_iff items written).mp each]
      · rintro rfl
        exact .list items _ ((prints_items_iff items _).mpr rfl)
  | .object fields =>
      rw [Value.write, write_fields_eq]
      constructor
      · rintro (_ | _ | _ | _ | _ | _ | ⟨_, written, each⟩)
        rw [(prints_fields_iff fields written).mp each]
      · rintro rfl
        exact .object fields _ ((prints_fields_iff fields _).mpr rfl)

theorem prints_items_iff (items : List Value) (written : List (List Char)) :
    PrintsItems items written ↔ written = items.map Value.write := by
  match items with
  | [] =>
      constructor
      · rintro ⟨⟩
        rfl
      · rintro rfl
        exact .nil
  | v :: rest =>
      constructor
      · rintro (_ | ⟨_, cs, first, _, others, later⟩)
        rw [(prints_iff v cs).mp first, (prints_items_iff rest others).mp later, List.map_cons]
      · rintro rfl
        exact .cons v _ ((prints_iff v _).mpr rfl) rest _ ((prints_items_iff rest _).mpr rfl)

theorem prints_fields_iff (fields : Fields) (written : List (List Char)) :
    PrintsFields fields written ↔ written = fields.map writtenField := by
  match fields with
  | [] =>
      constructor
      · rintro ⟨⟩
        rfl
      · rintro rfl
        exact .nil
  | (key, v) :: rest =>
      constructor
      · rintro (_ | ⟨_, _, cs, first, _, others, later⟩)
        rw [(prints_iff v cs).mp first, (prints_fields_iff rest others).mp later, List.map_cons, writtenField]
      · rintro rfl
        exact .cons key v _ ((prints_iff v _).mpr rfl) rest _ ((prints_fields_iff rest _).mpr rfl)

end

end IntentGate.Json
