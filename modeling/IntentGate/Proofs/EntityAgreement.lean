import IntentGate.Proofs.FiniteMap
import IntentGate.Requirement.Check

set_option autoImplicit false

namespace IntentGate

def projections (predicted : List Entity) : List Requirement := predicted.map .ofEntity

-- Equality of sets: neither order nor repetition matters on either side.
def SameEntities (required : List Requirement) (predicted : List Entity) : Prop :=
  ∀ r, r ∈ required ↔ r ∈ projections predicted

theorem same_label_iff (required : Option String) (predicted : Option Label) :
    Requirement.sameLabel required predicted = true ↔ predicted.map Label.show = required := by
  cases required <;> cases predicted <;> simp [Requirement.sameLabel, eq_comm]

theorem accepts_iff (r : Requirement) (e : Entity) : r.accepts e = true ↔ Requirement.ofEntity e = r := by
  cases r with
  | mk entity role group =>
      simp only [Requirement.accepts, Requirement.ofEntity, Bool.and_eq_true, decide_eq_true_eq,
        same_label_iff, Requirement.mk.injEq, and_assoc]
      rw [eq_comm]

theorem mem_missing_iff (required : List Requirement) (predicted : List Entity) (r : Requirement) :
    r ∈ EntityCheck.missingOf required predicted ↔ r ∈ required ∧ r ∉ projections predicted := by
  simp [EntityCheck.missingOf, projections, ← accepts_iff]

theorem mem_extra_iff (required : List Requirement) (predicted : List Entity) (r : Requirement) :
    r ∈ EntityCheck.extraOf required predicted ↔ r ∈ projections predicted ∧ r ∉ required := by
  simp only [EntityCheck.extraOf, projections, List.mem_map, List.mem_filter]
  constructor
  · rintro ⟨e, ⟨member, unclaimed⟩, rfl⟩
    refine ⟨⟨e, member, rfl⟩, fun claimed => ?_⟩
    have accepted := (accepts_iff (Requirement.ofEntity e) e).mpr rfl
    simp only [Bool.not_eq_true', List.any_eq_false] at unclaimed
    exact unclaimed _ claimed accepted
  · rintro ⟨⟨e, member, rfl⟩, absent⟩
    refine ⟨e, ⟨member, ?_⟩, rfl⟩
    simp only [Bool.not_eq_true', List.any_eq_false]
    intro r claimed accepted
    rw [(accepts_iff r e).mp accepted] at absent
    exact absent claimed

theorem missing_of_eq (required : List Requirement) (predicted : List Entity) :
    EntityCheck.missingOf required predicted = required.filter fun r => r ∉ projections predicted := by
  refine List.filter_congr fun r _ => ?_
  rw [Bool.eq_iff_iff]
  simp [projections, ← accepts_iff]

theorem extra_of_eq (required : List Requirement) (predicted : List Entity) :
    EntityCheck.extraOf required predicted = (projections predicted).filter fun r => r ∉ required := by
  rw [EntityCheck.extraOf, projections, List.filter_map]
  refine congrArg _ (List.filter_congr fun e _ => ?_)
  rw [Bool.eq_iff_iff]
  simpa [accepts_iff] using List.forall_mem_ne

theorem nothing_differs_iff (required : List Requirement) (predicted : List Entity) :
    EntityCheck.missingOf required predicted = [] ∧ EntityCheck.extraOf required predicted = [] ↔
      SameEntities required predicted := by
  simp only [List.eq_nil_iff_forall_not_mem, mem_missing_iff, mem_extra_iff, SameEntities, not_and, Decidable.not_not]
  constructor
  · intro agrees r
    exact ⟨agrees.1 r, agrees.2 r⟩
  · intro same
    exact ⟨fun r => (same r).mp, fun r => (same r).mpr⟩

theorem compare_same (required : List Requirement) (predicted : List Entity) (same : SameEntities required predicted) :
    EntityCheck.compare required predicted = .satisfied := by
  obtain ⟨nothingMissing, nothingExtra⟩ := (nothing_differs_iff required predicted).mpr same
  simp [EntityCheck.compare, nothingMissing, nothingExtra]

theorem compare_different (required : List Requirement) (predicted : List Entity)
    (different : ¬ SameEntities required predicted) :
    EntityCheck.compare required predicted =
      .unsatisfied (required.filter fun r => r ∉ projections predicted)
        ((projections predicted).filter fun r => r ∉ required) := by
  rw [← missing_of_eq, ← extra_of_eq]
  apply if_neg
  simpa only [Bool.and_eq_true, List.isEmpty_iff, nothing_differs_iff] using different

theorem compare_satisfied_iff (required : List Requirement) (predicted : List Entity) :
    EntityCheck.compare required predicted = .satisfied ↔ SameEntities required predicted := by
  by_cases same : SameEntities required predicted
  · simp [compare_same required predicted same, same]
  · simp [compare_different required predicted same, same]

theorem required_some_iff (index : RequirementIndex) (intent : String) (required : List Requirement) :
    index.required? intent = some required ↔ (intent, required) ∈ index.entries.rows :=
  Table.get_eq_iff_mem index.entries intent required

theorem required_none_iff (index : RequirementIndex) (intent : String) :
    index.required? intent = none ↔ ∀ required, (intent, required) ∉ index.entries.rows := by
  simp only [Option.eq_none_iff_forall_ne_some, ne_eq, required_some_iff]

theorem of_entry (index : RequirementIndex) (intent : String) (predicted : List Entity) (required : List Requirement)
    (entry : (intent, required) ∈ index.entries.rows) :
    EntityCheck.of index intent predicted = EntityCheck.compare required predicted := by
  simp only [EntityCheck.of, (required_some_iff index intent required).mpr entry]

theorem of_unconstrained_iff (index : RequirementIndex) (intent : String) (predicted : List Entity) :
    EntityCheck.of index intent predicted = .unconstrained ↔ ∀ required, (intent, required) ∉ index.entries.rows := by
  rw [← required_none_iff]
  cases entry : index.required? intent with
  | none => simp only [EntityCheck.of, entry]
  | some required =>
      rw [of_entry index intent predicted required ((required_some_iff index intent required).mp entry)]
      by_cases same : SameEntities required predicted
      · simp [compare_same required predicted same]
      · simp [compare_different required predicted same]

-- Entries that require the same, in whatever order and however often. No entry is not an empty one.
structure SameEntry (index other : RequirementIndex) (intent : String) : Prop where
  kept : ∀ required, (intent, required) ∈ index.entries.rows →
    ∃ others, (intent, others) ∈ other.entries.rows ∧ ∀ r, r ∈ others ↔ r ∈ required
  absent : (∀ required, (intent, required) ∉ index.entries.rows) → ∀ others, (intent, others) ∉ other.entries.rows

theorem same_entities_congr (required others : List Requirement) (predicted mentioned : List Entity)
    (sameRequired : ∀ r, r ∈ others ↔ r ∈ required) (samePredicted : ∀ e, e ∈ mentioned ↔ e ∈ predicted) :
    SameEntities others mentioned ↔ SameEntities required predicted := by
  have sameProjections (r : Requirement) : r ∈ projections mentioned ↔ r ∈ projections predicted := by
    simp only [projections, List.mem_map, samePredicted]
  simp only [SameEntities, sameRequired, sameProjections]

theorem compare_is_satisfied_iff (required : List Requirement) (predicted : List Entity) :
    (EntityCheck.compare required predicted).isSatisfied = true ↔ SameEntities required predicted := by
  by_cases same : SameEntities required predicted
  · simp [compare_same required predicted same, EntityCheck.isSatisfied, same]
  · simp [compare_different required predicted same, EntityCheck.isSatisfied, same]

theorem is_satisfied_same (index other : RequirementIndex) (intent : String) (predicted mentioned : List Entity)
    (sameEntry : SameEntry index other intent) (samePredicted : ∀ e, e ∈ mentioned ↔ e ∈ predicted) :
    (EntityCheck.of other intent mentioned).isSatisfied = (EntityCheck.of index intent predicted).isSatisfied := by
  by_cases entry : ∃ required, (intent, required) ∈ index.entries.rows
  · obtain ⟨required, listed⟩ := entry
    obtain ⟨others, alsoListed, sameRequired⟩ := sameEntry.kept required listed
    rw [of_entry index intent predicted required listed, of_entry other intent mentioned others alsoListed,
      Bool.eq_iff_iff, compare_is_satisfied_iff, compare_is_satisfied_iff]
    exact same_entities_congr required others predicted mentioned sameRequired samePredicted
  · have unlisted := not_exists.mp entry
    rw [(of_unconstrained_iff index intent predicted).mpr unlisted,
      (of_unconstrained_iff other intent mentioned).mpr (sameEntry.absent unlisted)]

theorem entity_check_exact (index : RequirementIndex) (intent : String) (predicted : List Entity) :
    (EntityCheck.of index intent predicted = .unconstrained ↔ ∀ required, (intent, required) ∉ index.entries.rows) ∧
    (∀ required, (intent, required) ∈ index.entries.rows →
      let missing := required.filter fun r => r ∉ predicted.map Requirement.ofEntity
      let extra := (predicted.map Requirement.ofEntity).filter fun r => r ∉ required
      (EntityCheck.of index intent predicted = .satisfied ↔
        ∀ r, r ∈ required ↔ r ∈ predicted.map Requirement.ofEntity) ∧
      ((¬ ∀ r, r ∈ required ↔ r ∈ predicted.map Requirement.ofEntity) →
        EntityCheck.of index intent predicted = .unsatisfied missing extra ∧ ¬ (missing = [] ∧ extra = [])) ∧
      ∀ r ∈ missing, r ∉ extra) ∧
    ∀ other mentioned, SameEntry index other intent → (∀ e, e ∈ mentioned ↔ e ∈ predicted) →
      (EntityCheck.of other intent mentioned).isSatisfied = (EntityCheck.of index intent predicted).isSatisfied := by
  refine ⟨of_unconstrained_iff index intent predicted, fun required entry => ?_,
    fun other mentioned => is_satisfied_same index other intent predicted mentioned⟩
  intro missing extra
  rw [of_entry index intent predicted required entry]
  refine ⟨compare_satisfied_iff required predicted, fun different => ⟨?_, ?_⟩, ?_⟩
  · exact compare_different required predicted different
  · intro nothing
    have agrees := nothing_differs_iff required predicted
    rw [missing_of_eq, extra_of_eq] at agrees
    exact different (agrees.mp nothing)
  · intro r lacking surplus
    have claimed : r ∈ required := (List.mem_filter.mp lacking).1
    simp [extra, claimed] at surplus

theorem entity_check_exact_booking :
    let departure : Requirement := { entity := "city", role := some "departure" }
    let second : Requirement := { entity := "pizza", group := some "2" }
    let date : Requirement := { entity := "date" }
    let index : RequirementIndex := { entries := .ofList [("book", [departure, second, departure])] }
    let shuffled : RequirementIndex := { entries := .ofList [("book", [second, departure])] }
    let pizza : Entity := { kind := "pizza", group := some (.number (.int 2)) }
    let city : Entity := { kind := "city", role := some (.text "departure") }
    EntityCheck.of index "book" [pizza, { kind := "date" }, { kind := "date" }] =
        .unsatisfied [departure, departure] [date, date] ∧
      EntityCheck.of index "book" [pizza, city] = .satisfied ∧
      (EntityCheck.of shuffled "book" [city, pizza, city]).isSatisfied = true := by
  intro departure second date index shuffled pizza city
  have entry : ("book", [departure, second, departure]) ∈ index.entries.rows := List.mem_cons_self
  obtain ⟨-, differs, -⟩ := entity_check_exact index "book" [pizza, { kind := "date" }, { kind := "date" }]
  obtain ⟨-, agrees, stable⟩ := entity_check_exact index "book" [pizza, city]
  have different : ¬ ∀ r, r ∈ [departure, second, departure] ↔
      r ∈ [pizza, { kind := "date" }, { kind := "date" }].map Requirement.ofEntity := by
    intro same
    exact absurd ((same departure).mp List.mem_cons_self) (by decide +kernel)
  have projected : [pizza, city].map Requirement.ofEntity = [second, departure] := by decide +kernel
  have satisfied : EntityCheck.of index "book" [pizza, city] = .satisfied := by
    refine (agrees _ entry).1.mpr fun r => ?_
    rw [projected]
    simp [or_comm]
  have sameEntry : SameEntry index shuffled "book" := by
    refine ⟨fun required listed => ?_, fun unlisted => absurd entry (unlisted _)⟩
    obtain rfl : required = [departure, second, departure] := congrArg Prod.snd (List.mem_singleton.mp listed)
    refine ⟨[second, departure], List.mem_cons_self, fun r => ?_⟩
    simp [or_comm]
  refine ⟨?_, satisfied, ?_⟩
  · rw [((differs _ entry).2.1 different).1]
    decide +kernel
  · rw [stable shuffled [city, pizza, city] sameEntry fun e => by simp [or_comm], satisfied]
    rfl

end IntentGate
