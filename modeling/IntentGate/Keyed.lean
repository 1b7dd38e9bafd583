set_option autoImplicit false

namespace IntentGate

abbrev Keyed (α : Type) := List (String × α)

namespace Keyed

variable {α : Type}

def insert (key : String) (value : α) : Keyed α → Keyed α
  | [] => [(key, value)]
  | (k, v) :: rest =>
    if key < k then (key, value) :: (k, v) :: rest
    else if key = k then (key, value) :: rest
    else (k, v) :: insert key value rest

def insertAll (entries : List (String × α)) (map : Keyed α) : Keyed α :=
  entries.foldl (fun map e => insert e.1 e.2 map) map

def ofList (entries : List (String × α)) : Keyed α := insertAll entries []

def get? (map : Keyed α) (key : String) : Option α := List.lookup key map

def Ascending (map : Keyed α) : Prop := map.Pairwise fun a b => a.1 < b.1

instance (map : Keyed α) : Decidable (Ascending map) := inferInstanceAs (Decidable (map.Pairwise _))

theorem get_insert_self (key : String) (value : α) (map : Keyed α) :
    (insert key value map).get? key = some value := by
  induction map with
  | nil => simp [insert, get?]
  | cons entry rest ih =>
    obtain ⟨k, v⟩ := entry
    unfold insert
    split
    · simp [get?]
    · split
      · simp [get?]
      · next notLess different =>
        have : (key == k) = false := by simpa using different
        simpa [get?, List.lookup_cons, this] using ih

theorem get_insert_of_ne {key other : String} (value : α) (map : Keyed α) (different : other ≠ key) :
    (insert key value map).get? other = map.get? other := by
  have unlike : (other == key) = false := by simpa using different
  induction map with
  | nil => simp [insert, get?, List.lookup_cons, unlike]
  | cons entry rest ih =>
    obtain ⟨k, v⟩ := entry
    unfold insert
    split
    · simp [get?, List.lookup_cons, unlike]
    · split
      · next same => subst same; simp [get?, List.lookup_cons, unlike]
      · simp only [get?, List.lookup_cons] at ih ⊢
        rw [ih]

theorem mem_insert {key : String} {value : α} {map : Keyed α} {entry : String × α}
    (member : entry ∈ insert key value map) : entry = (key, value) ∨ entry ∈ map := by
  induction map with
  | nil => simpa [insert] using member
  | cons head rest ih =>
    obtain ⟨k, v⟩ := head
    unfold insert at member
    split at member
    · simpa using member
    · split at member
      · simp only [List.mem_cons] at member ⊢
        exact member.imp_right .inr
      · rcases List.mem_cons.1 member with same | deeper
        · exact .inr (same ▸ List.mem_cons_self)
        · exact (ih deeper).imp_right (List.mem_cons_of_mem _)

theorem ascending_insert (key : String) (value : α) (map : Keyed α) (ascending : Ascending map) :
    Ascending (insert key value map) := by
  induction map with
  | nil => simp [insert, Ascending]
  | cons entry rest ih =>
    obtain ⟨k, v⟩ := entry
    obtain ⟨above, ascendingRest⟩ := List.pairwise_cons.1 ascending
    unfold insert
    split
    · next less =>
      refine List.pairwise_cons.2 ⟨fun e member => ?_, ascending⟩
      rcases List.mem_cons.1 member with rfl | deeper
      · exact less
      · exact String.lt_trans less (above e deeper)
    · split
      · next same => subst same; exact List.pairwise_cons.2 ⟨above, ascendingRest⟩
      · next notLess different =>
        refine List.pairwise_cons.2 ⟨fun e member => ?_, ih ascendingRest⟩
        rcases mem_insert member with rfl | old
        · exact Std.lt_of_le_of_ne (Std.not_lt.1 notLess) (Ne.symm different)
        · exact above e old

theorem ascending_of_list (entries : List (String × α)) : Ascending (ofList entries) := by
  suffices keeps : ∀ map : Keyed α, Ascending map → Ascending (insertAll entries map) from
    keeps [] List.Pairwise.nil
  induction entries with
  | nil => exact fun _ ascending => ascending
  | cons entry rest ih => exact fun map ascending => ih _ (ascending_insert _ _ _ ascending)

end Keyed

-- A finite map. The keys ascend, so that equal maps have equal rows.
structure Table (α : Type) where
  rows : Keyed α
  ascending : Keyed.Ascending rows := by decide
deriving DecidableEq

namespace Table

variable {α : Type}

def empty : Table α := ⟨[], List.Pairwise.nil⟩

@[simp]
theorem empty_rows : (empty : Table α).rows = [] := rfl

def ofList (entries : List (String × α)) : Table α := ⟨.ofList entries, Keyed.ascending_of_list entries⟩

def get? (table : Table α) (key : String) : Option α := table.rows.get? key

def insert (key : String) (value : α) (table : Table α) : Table α :=
  ⟨table.rows.insert key value, Keyed.ascending_insert key value table.rows table.ascending⟩

end Table

end IntentGate
