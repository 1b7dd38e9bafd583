import IntentGate.Gate.Error
import IntentGate.Proofs.DeclarationForm
import IntentGate.Proofs.FiniteMap
import IntentGate.Proofs.FirstFault
import IntentGate.Requirement.Index
import Mathlib.Data.Set.Card

set_option autoImplicit false

namespace IntentGate.RequirementIndex

open Json

def Requires (properties v : Value) : Prop :=
  ∃ fields, properties = .object fields ∧ Keyed.get? fields "require_entities" = some v

def properties : Value → List (String × Value)
  | .object declarations => declarations
  | _ => []

def allProperties (schema : DomainSchema) : List (String × Value) := schema.intents.flatMap properties

def Declares (described : List (String × Value)) (intent : String) (v : Value) : Prop :=
  ∃ d ∈ described, d.1 = intent ∧ Requires d.2 v

-- Nothing that follows requires entities of the intent again, though it may well name it.
def DeclaresLast (described : List (String × Value)) (intent : String) (v : Value) : Prop :=
  ∃ earlier properties later, described = earlier ++ (intent, properties) :: later ∧ Requires properties v ∧
    ∀ other, ¬ Declares later intent other

def SoundIntent (d : String × Value) : Prop :=
  ∀ v, Requires d.2 v → ∃ items, v = .list items ∧ ∀ item ∈ items, WellFormed item

def SoundEntry (entry : Value) : Prop :=
  (∃ name, entry = .text name) ∨ ∃ declarations, entry = .object declarations ∧ ∀ d ∈ declarations, SoundIntent d

inductive FaultyIntent : String × Value → DeclarationFault → Prop where
  | notList (intent : String) (properties v : Value) (required : Requires properties v)
      (other : ∀ items, v ≠ .list items) : FaultyIntent (intent, properties) (.notList intent v)
  | item (intent : String) (properties : Value) (items : List Value) (fault : DeclarationFault)
      (required : Requires properties (.list items)) (first : FirstFault WellFormed Malformed items fault) :
      FaultyIntent (intent, properties) fault

inductive FaultyEntry : Value → DeclarationFault → Prop where
  | neither (v : Value) (notText : ∀ s, v ≠ .text s) (notObject : ∀ fields, v ≠ .object fields) :
      FaultyEntry v (.notIntent v)
  | intent (declarations : Fields) (fault : DeclarationFault)
      (first : FirstFault SoundIntent FaultyIntent declarations fault) : FaultyEntry (.object declarations) fault

theorem declared_some_iff (properties v : Value) : declared? properties = some v ↔ Requires properties v := by
  cases properties <;> simp [declared?, Requires]

theorem declared_none_iff (properties : Value) : declared? properties = none ↔ ∀ v, ¬ Requires properties v := by
  simp [← declared_some_iff, Option.eq_none_iff_forall_ne_some]

theorem requires_unique (properties v w : Value) (first : Requires properties v) (second : Requires properties w) :
    v = w := by
  rw [← declared_some_iff] at first second
  exact Option.some.inj (first.symm.trans second)

inductive Adds (index : RequirementIndex) (intent : String) (properties : Value) : RequirementIndex → Prop where
  | nothing (unrequired : ∀ v, ¬ Requires properties v) : Adds index intent properties index
  | entry (items : List Value) (required : List Requirement) (listed : Requires properties (.list items))
      (each : items.mapM Requirement.normalize = .ok required) :
      Adds index intent properties (index.insert intent required)

theorem add_intent_unrequired (index : RequirementIndex) (intent : String) (properties : Value)
    (unrequired : ∀ v, ¬ Requires properties v) : index.addIntent (intent, properties) = .ok index := by
  simp only [addIntent, (declared_none_iff properties).mpr unrequired]
  rfl

theorem add_intent_list (index : RequirementIndex) (intent : String) (properties : Value) (items : List Value)
    (listed : Requires properties (.list items)) :
    index.addIntent (intent, properties) = (items.mapM Requirement.normalize).map (index.insert intent) := by
  simp only [addIntent, (declared_some_iff properties _).mpr listed]
  cases items.mapM Requirement.normalize <;> rfl

theorem add_intent_other (index : RequirementIndex) (intent : String) (properties v : Value)
    (required : Requires properties v) (other : ∀ items, v ≠ .list items) :
    index.addIntent (intent, properties) = .error (.notList intent v) := by
  simp only [addIntent, (declared_some_iff properties v).mpr required]
  cases v with
  | list items => exact absurd rfl (other items)
  | _ => rfl

theorem required_cases (properties : Value) :
    (∀ v, ¬ Requires properties v) ∨ (∃ items, Requires properties (.list items)) ∨
      ∃ v, Requires properties v ∧ ∀ items, v ≠ .list items := by
  cases found : declared? properties with
  | none => exact .inl ((declared_none_iff properties).mp found)
  | some v =>
      rw [declared_some_iff] at found
      by_cases listed : ∃ items, v = .list items
      · obtain ⟨items, rfl⟩ := listed
        exact .inr (.inl ⟨items, found⟩)
      · exact .inr (.inr ⟨v, found, not_exists.mp listed⟩)

theorem add_intent_ok_iff (index next : RequirementIndex) (intent : String) (properties : Value) :
    index.addIntent (intent, properties) = .ok next ↔ Adds index intent properties next := by
  constructor
  · intro added
    rcases required_cases properties with unrequired | ⟨items, listed⟩ | ⟨v, required, other⟩
    · rw [add_intent_unrequired index intent properties unrequired] at added
      cases added
      exact .nothing unrequired
    · rw [add_intent_list index intent properties items listed, map_ok_iff] at added
      obtain ⟨required, each, rfl⟩ := added
      exact .entry items required listed each
    · rw [add_intent_other index intent properties v required other] at added
      cases added
  · intro adds
    cases adds with
    | nothing unrequired => exact add_intent_unrequired index intent properties unrequired
    | entry items required listed each =>
        rw [add_intent_list index intent properties items listed, each, Except.map]

theorem add_intent_passes_iff (index : RequirementIndex) (d : String × Value) :
    (∃ next, index.addIntent d = .ok next) ↔ SoundIntent d := by
  obtain ⟨intent, properties⟩ := d
  have listedSound (items : List Value) := map_m_passes_iff Requirement.normalize normalize_passes_iff items
  simp only [add_intent_ok_iff]
  constructor
  · rintro ⟨next, adds⟩ v found
    cases adds with
    | nothing unrequired => exact absurd found (unrequired v)
    | entry items required listed each =>
        exact ⟨items, requires_unique properties v _ found listed, (listedSound items).mp ⟨required, each⟩⟩
  · intro sound
    rcases required_cases properties with unrequired | ⟨items, listed⟩ | ⟨v, required, other⟩
    · exact ⟨index, .nothing unrequired⟩
    · obtain ⟨_, same, wellFormed⟩ := sound _ listed
      cases same
      obtain ⟨required, each⟩ := (listedSound items).mpr wellFormed
      exact ⟨_, .entry items required listed each⟩
    · obtain ⟨items, same, -⟩ := sound v required
      exact absurd same (other items)

theorem add_intent_error_iff (index : RequirementIndex) (d : String × Value) (fault : DeclarationFault) :
    index.addIntent d = .error fault ↔ FaultyIntent d fault := by
  obtain ⟨intent, properties⟩ := d
  have listedFaulty (items : List Value) :=
    map_m_error_iff Requirement.normalize normalize_passes_iff normalize_error_iff items fault
  constructor
  · intro failed
    rcases required_cases properties with unrequired | ⟨items, listed⟩ | ⟨v, required, other⟩
    · rw [add_intent_unrequired index intent properties unrequired] at failed
      cases failed
    · rw [add_intent_list index intent properties items listed, map_failed_iff, listedFaulty] at failed
      exact .item intent properties items fault listed failed
    · rw [add_intent_other index intent properties v required other] at failed
      cases failed
      exact .notList intent properties v required other
  · intro faulty
    cases faulty with
    | notList _ _ v required other => exact add_intent_other index intent properties v required other
    | item _ _ items _ listed first =>
        rw [add_intent_list index intent properties items listed, map_failed_iff, listedFaulty]
        exact first

theorem add_entry_passes_iff (index : RequirementIndex) (entry : Value) :
    (∃ next, index.addEntry entry = .ok next) ↔ SoundEntry entry := by
  cases entry with
  | text name => exact ⟨fun _ => .inl ⟨name, rfl⟩, fun _ => ⟨index, rfl⟩⟩
  | object declarations =>
      have sound := fold_passes_iff addIntent add_intent_passes_iff declarations index
      simp only [SoundEntry, reduceCtorEq, exists_false, false_or, Value.object.injEq, exists_eq_left']
      exact sound
  | _ => simp [addEntry, SoundEntry]

theorem add_entry_error_iff (index : RequirementIndex) (entry : Value) (fault : DeclarationFault) :
    index.addEntry entry = .error fault ↔ FaultyEntry entry fault := by
  have folded (declarations : Fields) :=
    fold_error_iff addIntent add_intent_passes_iff add_intent_error_iff declarations index fault
  constructor
  · intro failed
    cases entry with
    | text name => cases failed
    | object declarations => exact .intent declarations fault ((folded declarations).mp failed)
    | _ =>
        cases failed
        exact .neither _ (fun s same => Value.noConfusion same) fun fields same => Value.noConfusion same
  · intro faulty
    cases faulty with
    | neither _ notText notObject =>
        cases entry with
        | text s => exact absurd rfl (notText s)
        | object fields => exact absurd rfl (notObject fields)
        | _ => rfl
    | intent declarations _ first => exact (folded declarations).mpr first

theorem build_passes_iff (schema : DomainSchema) :
    (∃ index, build schema = .ok index) ↔ ∀ entry ∈ schema.intents, SoundEntry entry :=
  fold_passes_iff addEntry add_entry_passes_iff schema.intents {}

theorem build_error_iff (schema : DomainSchema) (fault : DeclarationFault) :
    build schema = .error fault ↔ FirstFault SoundEntry FaultyEntry schema.intents fault :=
  fold_error_iff addEntry add_entry_passes_iff add_entry_error_iff schema.intents {} fault

theorem add_entries_ok (entries : List Value) (index last : RequirementIndex)
    (added : entries.foldlM addEntry index = .ok last) : (entries.flatMap properties).foldlM addIntent index = .ok last := by
  induction entries generalizing index with
  | nil => exact added
  | cons entry rest ih =>
      obtain ⟨next, here, later⟩ := (bind_ok_iff _ _ _).mp added
      have first : (properties entry).foldlM addIntent index = .ok next := by
        cases entry with
        | text name => exact here
        | object declarations => exact here
        | _ => cases here
      rw [List.flatMap_cons, List.foldlM_append, bind_ok_iff]
      exact ⟨next, first, ih next later⟩

theorem declares_append_iff (described : List (String × Value)) (d : String × Value) (intent : String) (v : Value) :
    Declares (described ++ [d]) intent v ↔ Declares described intent v ∨ (d.1 = intent ∧ Requires d.2 v) := by
  simp only [Declares, List.mem_append, List.mem_singleton, or_and_right, exists_or, exists_eq_left]

theorem declares_last_append_iff (described : List (String × Value)) (d : String × Value) (intent : String) (v : Value) :
    DeclaresLast (described ++ [d]) intent v ↔
      (d.1 = intent ∧ Requires d.2 v) ∨
        (¬ (d.1 = intent ∧ ∃ w, Requires d.2 w) ∧ DeclaresLast described intent v) := by
  constructor
  · rintro ⟨earlier, properties, later, same, required, nothing⟩
    rcases List.eq_nil_or_concat later with rfl | ⟨others, last, rfl⟩
    · obtain ⟨-, ends⟩ := List.append_inj' same rfl
      cases ends
      exact .inl ⟨rfl, required⟩
    · rw [List.concat_eq_append, ← List.cons_append, ← List.append_assoc] at same
      obtain ⟨rfl, ends⟩ := List.append_inj' same rfl
      cases ends
      simp only [List.concat_eq_append, declares_append_iff, not_or] at nothing
      exact .inr ⟨fun ⟨named, w, again⟩ => (nothing w).2 ⟨named, again⟩, earlier, properties, others, rfl, required,
        fun other => (nothing other).1⟩
  · rintro (⟨rfl, required⟩ | ⟨silent, earlier, properties, later, rfl, required, nothing⟩)
    · exact ⟨described, d.2, [], rfl, required, by simp [Declares]⟩
    · refine ⟨earlier, properties, later ++ [d], by simp, required, fun other => ?_⟩
      rw [declares_append_iff, not_or]
      exact ⟨nothing other, fun ⟨named, again⟩ => silent ⟨named, other, again⟩⟩

inductive Gathers : List (String × Value) → RequirementIndex → Prop where
  | nil : Gathers [] {}
  | append (described : List (String × Value)) (intent : String) (properties : Value) (index next : RequirementIndex)
      (gathered : Gathers described index) (adds : Adds index intent properties next) :
      Gathers (described ++ [(intent, properties)]) next

theorem fold_gathers (described : List (String × Value)) (index : RequirementIndex)
    (folded : described.foldlM addIntent {} = .ok index) : Gathers described index := by
  induction described using List.reverseRecOn generalizing index with
  | nil =>
      cases folded
      exact .nil
  | append_singleton earlier d ih =>
      obtain ⟨previous, before, added⟩ := (fold_append_ok_iff addIntent earlier d {} index).mp folded
      exact .append earlier d.1 d.2 previous index (ih previous before)
        ((add_intent_ok_iff previous index d.1 d.2).mp added)

theorem build_gathers (schema : DomainSchema) (index : RequirementIndex) (built : build schema = .ok index) :
    Gathers (allProperties schema) index :=
  fold_gathers _ index (add_entries_ok schema.intents {} index built)

theorem required_insert (index : RequirementIndex) (intent other : String) (required : List Requirement) :
    (index.insert intent required).required? other = if other = intent then some required else index.required? other :=
  Table.get_insert index.entries other intent required

theorem gathers_none_iff (described : List (String × Value)) (index : RequirementIndex)
    (gathers : Gathers described index) (intent : String) :
    index.required? intent = none ↔ ∀ v, ¬ Declares described intent v := by
  induction gathers with
  | nil => simp [required?, Table.get?, Keyed.get_nil, Declares]
  | append described named properties index next _ adds ih =>
      simp only [declares_append_iff, not_or, forall_and, ← ih]
      cases adds with
      | nothing unrequired => simp [unrequired]
      | entry items required listed each =>
          rw [required_insert]
          by_cases same : intent = named
          · subst same
            simp only [if_true, reduceCtorEq, true_and, false_iff, not_and]
            intro _ nothing
            exact nothing _ listed
          · simp [same, Ne.symm same]

theorem gathers_some_iff (described : List (String × Value)) (index : RequirementIndex)
    (gathers : Gathers described index) (intent : String) (required : List Requirement) :
    index.required? intent = some required ↔
      ∃ items, DeclaresLast described intent (.list items) ∧ items.mapM Requirement.normalize = .ok required := by
  induction gathers with
  | nil => simp [required?, Table.get?, Keyed.get_nil, DeclaresLast]
  | append described named properties index next _ adds ih =>
      -- The last of the intents decides if it requires entities of this one, and otherwise those before it do.
      simp only [declares_last_append_iff]
      cases adds with
      | nothing unrequired => simp [unrequired, ih]
      | entry items added listed each =>
          rw [required_insert]
          by_cases same : intent = named
          · subst same
            simp only [if_true, true_and, Option.some.injEq]
            constructor
            · rintro rfl
              exact ⟨items, .inl listed, each⟩
            · rintro ⟨others, found | ⟨silent, -⟩, eachOther⟩
              · cases requires_unique properties _ _ listed found
                exact Except.ok.inj (each.symm.trans eachOther)
              · exact absurd ⟨_, listed⟩ silent
          · simp [same, Ne.symm same, ih]

theorem gathers_size (described : List (String × Value)) (index : RequirementIndex)
    (gathers : Gathers described index) : index.size = {intent | ∃ v, Declares described intent v}.ncard := by
  have names : {intent | ∃ v, Declares described intent v} = ↑(index.entries.rows.map (·.1)).toFinset := by
    ext intent
    have absent := gathers_none_iff described index gathers intent
    rw [required?, Table.get?, Keyed.get_eq_none_iff] at absent
    simpa using (not_congr absent).symm
  have distinct := Keyed.ascending_distinct index.entries.rows index.entries.ascending
  rw [names, Set.ncard_coe_finset, List.toFinset_card_of_nodup distinct, List.length_map, size]

theorem build_exact (schema : DomainSchema) :
    ((∃ index, build schema = .ok index) ↔ ∀ entry ∈ schema.intents, SoundEntry entry) ∧
    (∀ index, build schema = .ok index →
      (∀ intent, index.required? intent = none ↔ ∀ v, ¬ Declares (allProperties schema) intent v) ∧
      (∀ intent required, index.required? intent = some required ↔
        ∃ items, DeclaresLast (allProperties schema) intent (.list items) ∧
          List.Forall₂ (fun item r => Requirement.normalize item = .ok r) items required) ∧
      index.size = {intent | ∃ v, Declares (allProperties schema) intent v}.ncard) ∧
    ∀ e, (build schema).mapError (GateError.configuration ∘ .declaration) = .error e ↔
      ∃ fault, FirstFault SoundEntry FaultyEntry schema.intents fault ∧ e = .configuration (.declaration fault) := by
  refine ⟨build_passes_iff schema, fun index built => ?_, fun e => ?_⟩
  · have gathers := build_gathers schema index built
    simp only [← map_m_ok_iff]
    exact ⟨gathers_none_iff _ index gathers, gathers_some_iff _ index gathers, gathers_size _ index gathers⟩
  · rw [map_error_error_iff]
    exact exists_congr fun fault => and_congr (build_error_iff schema fault) eq_comm

theorem build_exact_travel :
    let pizza : Value := .object [("group", .number (.int 2)), ("note", .null), ("type", .text "pizza")]
    let requiring (items : List Value) : Value := .object [("require_entities", .list items)]
    let schema : DomainSchema :=
      { intents := [.text "greet", .object [("book", requiring [.text "city"]), ("deny", .null)],
          .object [("bye", requiring []), ("book", requiring [.text "date", pizza])],
          .object [("book", .object [("use_entities", .bool true)])], .text "book"] }
    let index : RequirementIndex :=
      { entries := .ofList [("book", [{ entity := "date" }, { entity := "pizza", group := some "2" }]), ("bye", [])] }
    let malformed : DomainSchema :=
      { intents := [.text "greet", .object [("book", requiring [.text "city", .text " ", .null])], .null] }
    build schema = .ok index ∧ (∀ v, ¬ Declares (allProperties schema) "deny" v) ∧
      (∃ items, DeclaresLast (allProperties schema) "book" (.list items) ∧
        List.Forall₂ (fun item r => Requirement.normalize item = .ok r) items
          [{ entity := "date" }, { entity := "pizza", group := some "2" }]) ∧
      {intent | ∃ v, Declares (allProperties schema) intent v}.ncard = 2 ∧
      FirstFault SoundEntry FaultyEntry malformed.intents .emptyType := by
  intro pizza requiring schema index malformed
  have built : build schema = .ok index := (to_option_some_iff _ _).mp (by decide +kernel)
  have failed : (build malformed).mapError (GateError.configuration ∘ .declaration) =
      .error (.configuration (.declaration .emptyType)) := by with_unfolding_all rfl
  have silent : index.required? "deny" = none := by decide +kernel
  have booked : index.required? "book" = some [{ entity := "date" }, { entity := "pizza", group := some "2" }] := by
    decide +kernel
  obtain ⟨absent, declared, size⟩ := (build_exact schema).2.1 index built
  obtain ⟨fault, first, same⟩ := ((build_exact malformed).2.2 _).mp failed
  cases same
  exact ⟨built, (absent "deny").mp silent, (declared "book" _).mp booked, size.symm, first⟩

end IntentGate.RequirementIndex
