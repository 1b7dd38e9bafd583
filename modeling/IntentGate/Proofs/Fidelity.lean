import IntentGate.Proofs.DefaultedRecord
import IntentGate.Shape.Choice

set_option autoImplicit false

namespace IntentGate.Shape

open Json

variable {α β γ : Type}

def AllFinite (floats : List Float) : Prop := ∀ x ∈ floats, x.isFinite = true

-- Reading gives `b` or nothing at all, and that depends on the floats alone.
def Faithful (read : Value → Except Fault β) (v : Value) (floats : List Float) (b : β) : Prop :=
  ∀ x, read v = .ok x ↔ AllFinite floats ∧ x = b

theorem all_finite_append (first second : List Float) : AllFinite (first ++ second) ↔ AllFinite first ∧ AllFinite second :=
  List.forall_mem_append

theorem all_finite_nil : AllFinite [] := by
  intro x member
  cases member

theorem float_faithful (x : Float) : Faithful Source.float (Value.ofFloat x).sorted [x] x := by
  intro y
  unfold Value.ofFloat AllFinite
  rw [List.forall_mem_singleton]
  split
  · rename_i finite
    have read : Source.float (Value.number (.float x)).sorted = .ok x := rfl
    rw [read, and_iff_right finite, Except.ok.injEq]
    exact eq_comm
  · rename_i infinite
    constructor
    · intro read
      cases read
    · rintro ⟨finite, -⟩
      exact absurd finite infinite

theorem floatless_faithful (read : Value → Except Fault β) (v : Value) (b : β) (restored : read v = .ok b) :
    Faithful read v [] b := by
  intro x
  rw [restored, and_iff_right all_finite_nil, Except.ok.injEq]
  exact eq_comm

theorem text_faithful (s : String) : Faithful textOf (Value.text s).sorted [] s := floatless_faithful _ _ s rfl

theorem flag_faithful (b : Bool) : Faithful Source.bool (Value.bool b).sorted [] b := floatless_faithful _ _ b rfl

theorem label_faithful (label : Option String) : Faithful (optionOf textOf) (Value.ofOption .text label).sorted [] label := by
  cases label with
  | none => exact floatless_faithful _ _ none rfl
  | some s => exact floatless_faithful _ _ (some s) rfl

theorem map_m_faithful {δ : Type} (read : δ → Except Fault β) (write : β → δ) (floats : β → List Float) (l : List β)
    (each : ∀ b ∈ l, ∀ x, read (write b) = .ok x ↔ AllFinite (floats b) ∧ x = b) (found : List β) :
    (l.map write).mapM read = .ok found ↔ AllFinite (l.flatMap floats) ∧ found = l := by
  induction l generalizing found with
  | nil =>
      have done : [].mapM read = .ok [] := rfl
      rw [List.map_nil, done, List.flatMap_nil, and_iff_right all_finite_nil, Except.ok.injEq]
      exact eq_comm
  | cons b rest ih =>
      obtain ⟨first, later⟩ := List.forall_mem_cons.mp each
      rw [List.map_cons, List.mapM_cons, List.flatMap_cons, all_finite_append, bind_ok_iff]
      constructor
      · rintro ⟨x, here, read_rest⟩
        obtain ⟨tail, others, last⟩ := (bind_ok_iff _ _ _).mp read_rest
        obtain ⟨finite, rfl⟩ := (first x).mp here
        obtain ⟨finiteToo, rfl⟩ := (ih later tail).mp others
        cases last
        exact ⟨⟨finite, finiteToo⟩, rfl⟩
      · rintro ⟨⟨finite, finiteToo⟩, rfl⟩
        have others := (ih later rest).mpr ⟨finiteToo, rfl⟩
        exact ⟨b, (first b).mpr ⟨finite, rfl⟩, (bind_ok_iff _ _ _).mpr ⟨rest, others, rfl⟩⟩

section Containers

variable (read : Value → Except Fault β) (write : β → Value) (floats : β → List Float)

theorem list_faithful (l : List β) (each : ∀ b ∈ l, Faithful read (write b).sorted (floats b) b) :
    Faithful (listOf read) (Value.list (l.map write)).sorted (l.flatMap floats) l := by
  intro found
  have opened : listOf read (Value.list (l.map write)).sorted = (l.map fun b => (write b).sorted).mapM read := by
    rw [Value.sorted, sorted_items_eq, List.map_map]
    change ((l.map fun b => (write b).sorted).mapM read >>= pure) = _
    rw [bind_pure]
  rw [opened]
  exact map_m_faithful read (fun b => (write b).sorted) floats l each found

theorem floatless_list_faithful (l : List β) (each : ∀ b ∈ l, Faithful read (write b).sorted [] b) :
    Faithful (listOf read) (Value.list (l.map write)).sorted [] l := by
  have whole := list_faithful read write (fun _ => []) l each
  rwa [List.flatMap_eq_nil_iff.mpr fun _ _ => rfl] at whole

theorem map_sorted (map : Table β) :
    (Value.object (map.rows.map fun e => (e.1, write e.2))).sorted =
      .object (map.rows.map fun e => (e.1, (write e.2).sorted)) := by
  rw [Value.sorted, sorted_fields_eq, List.map_map]
  exact congrArg Value.object (Keyed.of_list_ascending _ (List.pairwise_map.mpr map.ascending))

theorem map_faithful (map : Table β)
    (each : ∀ e ∈ map.rows, Faithful read (write e.2).sorted (floats e.2) e.2) :
    Faithful (mapOf read) (Value.object (map.rows.map fun e => (e.1, write e.2))).sorted
      (map.rows.flatMap fun e => floats e.2) map := by
  intro found
  have entries := map_m_faithful (fun m : String × Value => do return (m.1, ← read m.2))
    (fun e : String × β => (e.1, (write e.2).sorted)) (fun e => floats e.2) map.rows fun e member x => by
      rw [bind_ok_iff]
      constructor
      · rintro ⟨b, here, stored⟩
        obtain ⟨finite, rfl⟩ := (each e member b).mp here
        cases stored
        exact ⟨finite, rfl⟩
      · rintro ⟨finite, rfl⟩
        exact ⟨_, (each x member x.2).mpr ⟨finite, rfl⟩, rfl⟩
  have opened : mapOf read (.object (map.rows.map fun e => (e.1, (write e.2).sorted))) =
      ((map.rows.map fun e => (e.1, (write e.2).sorted)).mapM fun m => do return (m.1, ← read m.2)) >>= fun entries =>
        .ok (Table.ofList entries) := rfl
  rw [map_sorted write map, opened, bind_ok_iff]
  simp only [entries]
  constructor
  · rintro ⟨_, ⟨finite, rfl⟩, gathered⟩
    rw [Table.of_list_rows] at gathered
    exact ⟨finite, (Except.ok.inj gathered).symm⟩
  · rintro ⟨finite, rfl⟩
    exact ⟨_, ⟨finite, rfl⟩, by rw [Table.of_list_rows]⟩

end Containers

theorem obtained_some_iff (read : Value → Except Fault β) (default : β) (v : Value) (x : β) :
    Obtained read default (some v) x ↔ read v = .ok x := by
  constructor
  · rintro ⟨_, _, read_ok⟩
    exact read_ok
  · exact .given v x

theorem fill_faithful {need : Need} {name : String} {read : Value → Except Fault β} {set : β → α → α}
    {fields : List (Field Value α)} {members : Fields} {a b : α} {v : Value} {floats : List Float} {x : β} (default : β)
    (unset : set default a = a) (given : Keyed.get? members name = some v) (faithful : Faithful read v floats x) :
    fill (field need name read set :: fields) members a = some b ↔
      AllFinite floats ∧ fill fields members (set x a) = some b := by
  rw [fill_named_iff need name read set fields members default a b unset, given]
  simp only [obtained_some_iff, faithful _]
  constructor
  · rintro ⟨_, ⟨finite, rfl⟩, filled⟩
    exact ⟨finite, filled⟩
  · rintro ⟨finite, filled⟩
    exact ⟨x, ⟨finite, rfl⟩, filled⟩

def pairFields (first second : String) (readFirst : Value → Except Fault β) (readSecond : Value → Except Fault γ) :
    List (Field Value (β × γ)) :=
  [field .required first readFirst fun x p => (x, p.2), field .required second readSecond fun x p => (p.1, x)]

section Pair

variable (first second : String) (different : first ≠ second) (readFirst : Value → Except Fault β)
  (readSecond : Value → Except Fault γ) (v w : Value) (floats floatsToo : List Float) (b : β) (c : γ)
  (here : Faithful readFirst v.sorted floats b) (there : Faithful readSecond w.sorted floatsToo c)

include different

theorem pair_independent : (pairFields first second readFirst readSecond).Pairwise Independent :=
  List.pairwise_pair.mpr (fields_independent _ _ _ _ _ _ _ _ different fun _ _ _ => rfl)

include here there

theorem pair_faithful (start : β × γ) :
    Faithful (readPlain "" (pairFields first second readFirst readSecond) start)
      (Value.object [(first, v), (second, w)]).sorted (floats ++ floatsToo) (b, c) := by
  intro p
  have distinct : ([(first, v), (second, w)].map (·.1)).Nodup := by simpa using different
  obtain ⟨members, sorted, ascending, found⟩ := sorted_object _ distinct
  have unrepeated : Unrepeated (pairFields first second readFirst readSecond) members := by
    simp only [Unrepeated, pairFields, List.forall_mem_cons, List.not_mem_nil, false_implies, implies_true, and_true,
      field_unrepeated _ _ _ _ members ascending]
  have one : Keyed.get? members first = some v.sorted := by
    rw [found, Keyed.get_cons, if_pos rfl]
    rfl
  have two : Keyed.get? members second = some w.sorted := by
    rw [found, Keyed.get_cons, if_neg different.symm, Keyed.get_cons, if_pos rfl]
    rfl
  have complete : Complete (pairFields first second readFirst readSecond) members := by
    simp only [Complete, pairFields, List.forall_mem_cons, List.not_mem_nil, false_implies, implies_true, and_true,
      field_given, one, two]
    simp
  rw [sorted, read_plain_iff "" _ start members (pair_independent first second different readFirst readSecond),
    and_iff_right unrepeated, and_iff_right complete, all_finite_append, and_assoc]
  refine (fill_faithful start.1 rfl one here).trans (and_congr_right fun _ => ?_)
  refine (fill_faithful start.2 rfl two there).trans (and_congr_right fun _ => ?_)
  exact Option.some_inj.trans eq_comm

end Pair

theorem make_faithful (read : Value → Except Fault β) (make : β → α) (v : Value) (floats : List Float) (b : β)
    (faithful : Faithful read v floats b) : Faithful (fun v => do return make (← read v)) v floats (make b) := by
  intro x
  rw [bind_ok_iff]
  constructor
  · rintro ⟨c, here, made⟩
    obtain ⟨finite, rfl⟩ := (faithful c).mp here
    exact ⟨finite, (Except.ok.inj made).symm⟩
  · rintro ⟨finite, rfl⟩
    exact ⟨b, (faithful b).mpr ⟨finite, rfl⟩, rfl⟩

theorem record_variant_faithful (type name : String) (fields : List (Field Value β)) (start : β) (make : β → α)
    (members : Fields) (floats : List Float) (b : β)
    (faithful : Faithful (readPlain "" fields start) (Value.object members).sorted floats b) :
    Faithful (fun v => (recordVariant type name fields start make).read (some v)) (Value.object members).sorted floats
      (make b) := by
  have whole := make_faithful _ make _ _ _ faithful
  rw [Value.sorted] at whole ⊢
  exact whole

section Choice

variable (variants : List (Variant Value α)) (name : String)

theorem bare_faithful (a : α) (chosen : variants.find? (·.name = name) = some (bare name a)) :
    Faithful (readChoice variants) (Value.text name).sorted [] a := by
  have read : readChoice variants (Value.text name).sorted = .ok a := by
    have choice : JsonSource.chosen (Value.text name) = .ok { name, payload := none, close := none } := rfl
    simp only [readChoice, Value.sorted, choice, bind, Except.bind, chosen]
    rfl
  exact floatless_faithful _ _ a read

theorem tagged_faithful (variant : Variant Value α) (v : Value) (floats : List Float) (a : α)
    (chosen : variants.find? (·.name = name) = some variant)
    (faithful : Faithful (fun v => variant.read (some v)) v.sorted floats a) :
    Faithful (readChoice variants) (Value.object [(name, v)]).sorted floats a := by
  have read : readChoice variants (Value.object [(name, v)]).sorted = variant.read (some v.sorted) := by
    have choice : JsonSource.chosen (Value.object [(name, v)]).sorted =
        .ok { name, payload := some v.sorted, close := none } := by
      rw [Value.sorted]
      rfl
    simp only [readChoice, choice, bind, Except.bind, chosen]
    cases variant.read (some v.sorted) <;> rfl
  intro x
  rw [read]
  exact faithful x

end Choice

end IntentGate.Shape
