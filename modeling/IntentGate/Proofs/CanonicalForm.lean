import IntentGate.Message.Canonical
import IntentGate.Message.Wire
import IntentGate.Proofs.FieldForms
import IntentGate.Proofs.FirstFault
import IntentGate.Proofs.Sequencing

set_option autoImplicit false

namespace IntentGate.Canonical

open Json Shape

variable {α β : Type}

theorem refine_ascending (rule : String → Value → Option Value) (fields : Fields)
    (ascending : Keyed.Ascending fields) : Keyed.Ascending (refine rule fields) := by
  refine List.Pairwise.filterMap _ ?_ ascending
  intro a b less a' first b' second
  obtain ⟨v, _, rfl⟩ := Option.map_eq_some_iff.mp first
  obtain ⟨w, _, rfl⟩ := Option.map_eq_some_iff.mp second
  exact less

theorem get_refine (rule : String → Value → Option Value) (fields : Fields) (distinct : (fields.map (·.1)).Nodup)
    (key : String) : Keyed.get? (refine rule fields) key = (Keyed.get? fields key).bind (rule key) := by
  induction fields with
  | nil => rfl
  | cons f rest ih =>
      obtain ⟨k, v⟩ := f
      obtain ⟨fresh, distinctRest⟩ := List.nodup_cons.mp distinct
      have tail := ih distinctRest
      unfold refine at tail ⊢
      rw [List.filterMap_cons, Keyed.get_cons]
      by_cases same : key = k
      · subst same
        rw [Keyed.get_unlisted rest key fresh] at tail
        cases ruled : rule key v with
        | none => simpa [ruled] using tail
        | some w => simp [ruled, Keyed.get_cons]
      · cases ruled : rule k v with
        | none => simpa [ruled, same] using tail
        | some w => simpa [ruled, same, Keyed.get_cons] using tail

-- `shown` are the members as the form sees them, with keys renamed or defaults put in.
theorem record_form (fields : List (Field Value α)) (members shown : Fields)
    (proper : (Value.object members).Proper) (ascending : Keyed.Ascending shown)
    (rule : String → Value → Option Value) (parts : List (String × Option Value)) (names : List String)
    (listed : parts.map (·.1) = names) (distinct : names.Nodup)
    (named : ∀ key ∈ names, fields.any (·.answers key) = true)
    (beside : ∀ key, key ∉ names →
      Keyed.get? shown key = if fields.any (·.answers key) then none else Keyed.get? members key)
    (passed : ∀ key, key ∉ names → ∀ v, rule key v = some v)
    (known : ∀ p ∈ parts, p.2.map Value.sorted = (Keyed.get? shown p.1).bind (rule p.1)) :
    (Value.object (present parts ++ Keyed.insertAll (unclaimed fields members) [])).sorted =
      .object (refine rule shown) := by
  subst listed
  have extra := get_extra fields members (fields_ascending members proper)
  have apart (key : String) (member : key ∈ parts.map (·.1)) :
      Keyed.get? (Keyed.insertAll (unclaimed fields members) []) key = none := by
    rw [extra, if_pos (named key member)]
  obtain ⟨entries, sorted, entriesAscend, found⟩ :=
    written_object parts _ distinct (extra_ascends fields members) apart
  rw [sorted]
  -- The keys of both ascend, so that they need only be compared key by key.
  refine congrArg Value.object (Keyed.ext_ascending _ _ entriesAscend (refine_ascending rule shown ascending) ?_)
  intro key
  rw [found, get_refine rule shown (Keyed.ascending_distinct shown ascending)]
  cases part : Keyed.get? parts key with
  | some value => exact known (key, value) (Keyed.mem_of_get parts key value part)
  | none =>
      have unlisted : key ∉ parts.map (·.1) := by
        intro member
        obtain ⟨p, listed, rfl⟩ := List.mem_map.mp member
        exact (Keyed.get_eq_none_iff parts p.1).mp part p listed rfl
      rw [beside key unlisted, Option.getD_none, extra]
      cases claimed : fields.any (·.answers key) with
      | true => rfl
      | false =>
          rw [if_neg Bool.false_ne_true]
          cases given : Keyed.get? members key with
          | none => rfl
          | some v =>
              have same := proper_sorted v (get_proper members proper key v given)
              rw [Option.map_some, same, Option.bind_some, passed key unlisted v]

theorem optional_form (read : Value → Except Fault β) (write : β → Value) (form : Value → Value)
    (given : Option Value) (x : Option β) (obtained : Obtained (optionOf read) none given x)
    (same : ∀ v a, given = some v → read v = .ok a → (write a).sorted = form v) :
    (x.map write).map Value.sorted = given.bind (unlessNull form) := by
  cases obtained with
  | absent => rfl
  | given v x read_ok =>
      rcases option_of_ok read v x read_ok with ⟨rfl, rfl⟩ | ⟨nonnull, a, result, rfl⟩
      · rfl
      · rw [Option.map_some, Option.map_some, same v a rfl result, Option.bind_some]
        cases v with
        | null => exact absurd rfl nonnull
        | _ => rfl

theorem required_form (given : Option Value) (s : String) (obtained : Obtained textOf "" given s)
    (there : given ≠ none) : given = some (.text s) := by
  cases obtained with
  | absent => exact absurd rfl there
  | given v s read_ok =>
      cases v <;> cases read_ok
      rfl

theorem read_float_finite (v : Value) (proper : v.Proper) (x : Float) (read : Source.float v = .ok x) :
    x.isFinite = true := by
  cases proper with
  | int n low high =>
      cases read
      exact float_of_int_finite n low high
  | float y finite =>
      cases read
      exact finite
  | _ => cases read

theorem confidence_form (v : Value) (proper : v.Proper) (x : Float) (read : Source.float v = .ok x) :
    (Value.ofFloat x).sorted = confidence v := by
  rw [of_float_sorted x (read_float_finite v proper x read)]
  cases proper with
  | int | float =>
      cases read
      rfl
  | _ => cases read

theorem values_form (v : Value) (proper : v.Proper) (l : List Value) (read : listOf JsonSource.value v = .ok l) :
    (Value.list l).sorted = v := by
  cases v with
  | list items =>
      have kept : items.mapM (m := Except Fault) (JsonSource.value (δ := Value)) = .ok items := by
        change items.mapM (m := Except Fault) pure = pure items
        exact List.mapM_pure.trans (by simp)
      have whole : listOf JsonSource.value (Value.list items) = .ok items := by
        simp only [listOf, Source.list, bind, Except.bind, kept]
        rfl
      rw [whole] at read
      cases read
      exact proper_sorted _ proper
  | _ => cases read

theorem label_form (v : Value) (label : Label) (read : readLabel v = .ok label) : label.written.sorted = v := by
  cases v <;> cases read <;> rfl

theorem flag_form (v : Value) (b : Bool) (read : Source.bool v = .ok b) : (Value.bool b).sorted = v := by
  cases v <;> cases read
  rfl

theorem items_form (read : Value → Except Fault β) (write : β → Value) (form : Value → Value)
    (items : List Value) (l : List β) (same : ∀ v ∈ items, ∀ b, read v = .ok b → (write b).sorted = form v)
    (read_all : items.mapM read = .ok l) : sortedItems (l.map write) = items.map form := by
  have related := (map_m_ok_iff read items l).mp read_all
  clear read_all
  induction related with
  | nil => rfl
  | @cons v b rest tail first others ih =>
      have tailForm := ih fun w member => same w (List.mem_cons_of_mem v member)
      rw [List.map_cons, List.map_cons, sortedItems, same v List.mem_cons_self b first, tailForm]

theorem list_form (read : Value → Except Fault β) (write : β → Value) (form : Value → Value) (v : Value)
    (proper : v.Proper) (same : ∀ w b, w.Proper → read w = .ok b → (write b).sorted = form w) (l : List β)
    (read_all : listOf read v = .ok l) : (Value.list (l.map write)).sorted = onItems form v := by
  obtain ⟨items, rfl, result⟩ := list_of_ok read v l read_all
  have each := (list_proper_iff items).mp proper
  rw [Value.sorted, items_form read write form items l (fun w member b => same w b (each w member)) result]
  rfl

end IntentGate.Canonical
