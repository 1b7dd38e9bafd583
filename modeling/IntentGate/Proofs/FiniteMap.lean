import IntentGate.Keyed

set_option autoImplicit false

namespace IntentGate

variable {α : Type}

namespace Keyed

theorem get_nil (key : String) : get? ([] : Keyed α) key = none := rfl

theorem get_cons (key k : String) (v : α) (rest : Keyed α) :
    get? ((k, v) :: rest) key = if key = k then some v else get? rest key := by
  unfold get?
  rw [List.lookup_cons]
  by_cases same : key = k
  · simp [same]
  · have unlike : (key == k) = false := beq_eq_false_iff_ne.mpr same
    simp only [unlike, same, if_false]

theorem get_append (left right : Keyed α) (key : String) :
    get? (left ++ right) key = (get? left key).or (get? right key) := List.lookup_append

theorem get_insert (key k : String) (v : α) (map : Keyed α) :
    get? (insert k v map) key = if key = k then some v else get? map key := by
  by_cases same : key = k
  · rw [if_pos same, same, get_insert_self]
  · rw [if_neg same, get_insert_of_ne v map same]

theorem get_eq_none_iff (map : Keyed α) (key : String) : get? map key = none ↔ ∀ e ∈ map, e.1 ≠ key := by
  induction map with
  | nil => simp [get_nil]
  | cons entry rest ih =>
      obtain ⟨k, v⟩ := entry
      rw [get_cons]
      by_cases same : key = k
      · simp [same]
      · simp [same, ih, Ne.symm same]

theorem get_unlisted (map : Keyed α) (key : String) (unlisted : key ∉ map.map (·.1)) : get? map key = none := by
  rw [get_eq_none_iff]
  rintro e member rfl
  exact unlisted (List.mem_map_of_mem member)

theorem mem_of_get (map : Keyed α) (key : String) (v : α) (found : get? map key = some v) : (key, v) ∈ map := by
  induction map with
  | nil => cases found
  | cons entry rest ih =>
      obtain ⟨k, w⟩ := entry
      rw [get_cons] at found
      split at found
      · rename_i same
        cases found
        rw [same]
        exact List.mem_cons_self
      · exact List.mem_cons_of_mem _ (ih found)

theorem ascending_distinct (map : Keyed α) (ascending : Ascending map) : (map.map (·.1)).Nodup := by
  unfold Ascending at ascending
  unfold List.Nodup
  rw [List.pairwise_map]
  refine ascending.imp ?_
  intro a b less same
  rw [same] at less
  exact String.lt_irrefl b.1 less

theorem get_of_mem (map : Keyed α) (distinct : (map.map (·.1)).Nodup) (key : String) (v : α) (member : (key, v) ∈ map) :
    get? map key = some v := by
  induction map with
  | nil => cases member
  | cons entry rest ih =>
      obtain ⟨fresh, distinctRest⟩ := List.nodup_cons.mp distinct
      rw [get_cons]
      rcases List.mem_cons.mp member with rfl | later
      · rw [if_pos rfl]
      · have other : key ≠ entry.1 := fun same => fresh (List.mem_map.mpr ⟨(key, v), later, same⟩)
        rw [if_neg other, ih distinctRest later]

theorem get_below (map : Keyed α) (key : String) (above : ∀ e ∈ map, key < e.1) : get? map key = none := by
  rw [get_eq_none_iff]
  intro e member same
  have less := above e member
  rw [same] at less
  exact String.lt_irrefl key less

theorem head_least (k k' : String) (v v' : α) (rest : Keyed α) (ascends : Ascending ((k', v') :: rest))
    (found : get? ((k', v') :: rest) k = some v) : ¬ k < k' := by
  intro less
  obtain ⟨above, -⟩ := List.pairwise_cons.mp ascends
  have absent := get_below ((k', v') :: rest) k
    (List.forall_mem_cons.mpr ⟨less, fun e member => String.lt_trans less (above e member)⟩)
  cases absent.symm.trans found

theorem ext_ascending (first second : Keyed α) (firstAscends : Ascending first) (secondAscends : Ascending second)
    (same : ∀ key, get? first key = get? second key) : first = second := by
  induction first generalizing second with
  | nil =>
      cases second with
      | nil => rfl
      | cons entry rest =>
          have found := same entry.1
          rw [get_nil, get_cons, if_pos rfl] at found
          cases found
  | cons entry rest ih =>
      obtain ⟨k, v⟩ := entry
      obtain ⟨above, restAscends⟩ := List.pairwise_cons.mp firstAscends
      cases second with
      | nil =>
          have found := same k
          rw [get_nil, get_cons, if_pos rfl] at found
          cases found
      | cons other others =>
          obtain ⟨k', v'⟩ := other
          obtain ⟨above', othersAscend⟩ := List.pairwise_cons.mp secondAscends
          have keys : k = k' := by
            have notBelow : ¬ k < k' := head_least k k' v v' others secondAscends
              (by rw [← same k, get_cons, if_pos rfl])
            have notAbove : ¬ k' < k := head_least k' k v' v rest firstAscends
              (by rw [same k', get_cons, if_pos rfl])
            exact Std.le_antisymm (Std.not_lt.mp notAbove) (Std.not_lt.mp notBelow)
          subst keys
          have values := same k
          rw [get_cons, get_cons, if_pos rfl, if_pos rfl] at values
          cases values
          have tails : rest = others := by
            refine ih others restAscends othersAscend fun key => ?_
            by_cases here : key = k
            · rw [here, get_below rest k above, get_below others k above']
            · have skipped := same key
              rwa [get_cons, get_cons, if_neg here, if_neg here] at skipped
          rw [tails]

theorem get_insert_all (entries : List (String × α)) (distinct : (entries.map (·.1)).Nodup) (map : Keyed α)
    (key : String) : get? (insertAll entries map) key = (get? entries key).or (get? map key) := by
  induction entries generalizing map with
  | nil => rfl
  | cons entry rest ih =>
      obtain ⟨k, v⟩ := entry
      obtain ⟨fresh, distinctRest⟩ := List.nodup_cons.mp distinct
      change get? (insertAll rest (insert k v map)) key = _
      rw [ih distinctRest, get_insert, get_cons]
      by_cases same : key = k
      · have absent : get? rest key = none := get_unlisted rest key (same ▸ fresh)
        rw [if_pos same, if_pos same, absent]
        rfl
      · rw [if_neg same, if_neg same]

theorem mem_of_insert_all (entries : List (String × α)) (map : Keyed α) (e : String × α)
    (member : e ∈ insertAll entries map) : e ∈ entries ∨ e ∈ map := by
  induction entries generalizing map with
  | nil => exact .inr member
  | cons entry rest ih =>
      rcases ih (insert entry.1 entry.2 map) member with later | inserted
      · exact .inl (List.mem_cons_of_mem _ later)
      · rcases mem_insert inserted with rfl | old
        · exact .inl List.mem_cons_self
        · exact .inr old

theorem mem_of_list (entries : List (String × α)) (e : String × α) (member : e ∈ ofList entries) : e ∈ entries := by
  rcases mem_of_insert_all entries [] e member with listed | nothing
  · exact listed
  · cases nothing

theorem get_of_list (entries : List (String × α)) (distinct : (entries.map (·.1)).Nodup) (key : String) :
    get? (ofList entries) key = get? entries key := by
  rw [ofList, get_insert_all entries distinct, get_nil, Option.or_none]

theorem of_list_ascending (map : Keyed α) (ascending : Ascending map) : ofList map = map :=
  ext_ascending _ _ (ascending_of_list map) ascending (get_of_list map (ascending_distinct map ascending))

end Keyed

namespace Table

theorem get_eq_iff_mem (table : Table α) (key : String) (v : α) : table.get? key = some v ↔ (key, v) ∈ table.rows :=
  ⟨Keyed.mem_of_get _ _ _,
    Keyed.get_of_mem _ (Keyed.ascending_distinct _ table.ascending) _ _⟩

theorem ext_rows (first second : Table α) (same : first.rows = second.rows) : first = second := by
  cases first
  cases second
  cases same
  rfl

theorem of_list_rows (table : Table α) : ofList table.rows = table :=
  ext_rows _ table (Keyed.of_list_ascending table.rows table.ascending)

theorem ext_get (first second : Table α) (same : ∀ key, first.get? key = second.get? key) : first = second :=
  ext_rows first second (Keyed.ext_ascending _ _ first.ascending second.ascending same)

theorem get_singleton (key k : String) (v : α) : (ofList [(k, v)]).get? key = if key = k then some v else none :=
  Keyed.get_cons key k v []

theorem get_insert (table : Table α) (key k : String) (v : α) :
    (table.insert k v).get? key = if key = k then some v else table.get? key := Keyed.get_insert key k v table.rows

end Table

end IntentGate
