import IntentGate.Proofs.EntityAgreement
import IntentGate.Proofs.Evaluation

set_option autoImplicit false

namespace IntentGate

-- All that the gate looks at in a message. An absent confidence in the ranking is as good as a certain one, an
-- absent list as good as an empty one, and a label is no more than its text.
structure View where
  final : Bool
  intent : Option (String × Option Float)
  ranking : List (String × Float)
  entities : List Requirement

def Message.view (m : Message) : View where
  final := m.isFinal.getD false
  intent := m.intent.map fun i => (i.name, i.confidence)
  ranking := (m.ranking.getD []).map fun r => (r.name, r.confidence.getD 1)
  entities := projections (m.entities.getD [])

-- The excluded intents count as a set and the custom thresholds as a map. The method and the threshold that is not
-- evaluated are free.
structure RejectionConfig.Alike (first second : RejectionConfig) : Prop where
  enabled : first.enabled = second.enabled
  forceFinal : first.forceFinal = second.forceFinal
  requireEntities : first.requireEntities = second.requireEntities
  default : first.thresholds.default = second.thresholds.default
  ambiguity : first.thresholds.ambiguity = second.thresholds.ambiguity
  custom : ∀ intent, first.thresholds.custom.get? intent = second.thresholds.custom.get? intent
  excluded : ∀ intent, intent ∈ first.excluded ↔ intent ∈ second.excluded

theorem weights_of_pairs (ranking : List RankedIntent) (excluded : List String) :
    (ranking.filter fun r => r.name ∉ excluded).map (·.weight) =
      ((ranking.map fun r => (r.name, r.weight)).filter fun pair => pair.1 ∉ excluded).map Prod.snd := by
  induction ranking with
  | nil => rfl
  | cons r rest ih =>
      by_cases out : r.name ∈ excluded
      · simpa [out] using ih
      · simpa [out] using ih

theorem confidence_delta_alike (first second : List RankedIntent) (out out' : List String)
    (pairs : (first.map fun r => (r.name, r.weight)) = second.map fun r => (r.name, r.weight))
    (members : ∀ name, name ∈ out ↔ name ∈ out') : confidenceDelta first out = confidenceDelta second out' := by
  have weights : (first.filter fun r => r.name ∉ out).map (·.weight) =
      (second.filter fun r => r.name ∉ out').map (·.weight) := by
    rw [weights_of_pairs, weights_of_pairs, pairs]
    simp only [members]
  unfold confidenceDelta
  rw [weights]

theorem threshold_check_alike (first second : RejectionConfig) (alike : first.Alike second) (intent : String)
    (confidence : Float) (ranking ranking' : List RankedIntent)
    (pairs : (ranking.map fun r => (r.name, r.weight)) = ranking'.map fun r => (r.name, r.weight)) :
    ThresholdCheck.of first intent confidence ranking = ThresholdCheck.of second intent confidence ranking' := by
  have threshold : first.thresholdFor intent = second.thresholdFor intent := by
    unfold RejectionConfig.thresholdFor
    rw [alike.custom intent, alike.default]
  have delta := confidence_delta_alike ranking ranking' first.excluded second.excluded pairs alike.excluded
  unfold ThresholdCheck.of
  rw [threshold, delta, alike.ambiguity]

theorem compare_alike (required : List Requirement) (first second : List Entity)
    (same : projections first = projections second) :
    EntityCheck.compare required first = EntityCheck.compare required second := by
  unfold EntityCheck.compare
  rw [missing_of_eq, missing_of_eq, extra_of_eq, extra_of_eq, same]

theorem entity_check_alike (index : RequirementIndex) (intent : String) (first second : List Entity)
    (same : projections first = projections second) :
    EntityCheck.of index intent first = EntityCheck.of index intent second := by
  unfold EntityCheck.of
  cases index.required? intent with
  | none => rfl
  | some required => exact compare_alike required first second same

theorem predicted_alike (first second : Message) (same : first.view = second.view) (intent : Intent)
    (predicted : first.intent = some intent) :
    ∃ other, second.intent = some other ∧ other.name = intent.name ∧ other.confidence = intent.confidence := by
  have pairs : first.intent.map (fun i => (i.name, i.confidence)) =
      second.intent.map fun i => (i.name, i.confidence) := congrArg View.intent same
  rw [predicted, Option.map_some] at pairs
  obtain ⟨other, found, pair⟩ := Option.map_eq_some_iff.mp pairs.symm
  exact ⟨other, found, congrArg Prod.fst pair, congrArg Prod.snd pair⟩

theorem unpredicted_alike (first second : Message) (same : first.view = second.view) (absent : first.intent = none) :
    second.intent = none := by
  have pairs : first.intent.map (fun i => (i.name, i.confidence)) =
      second.intent.map fun i => (i.name, i.confidence) := congrArg View.intent same
  rw [absent, Option.map_none] at pairs
  exact Option.map_eq_none_iff.mp pairs.symm

namespace Gate

variable {first second : RejectionConfig} {index : Option RequirementIndex} {message other : Message}

theorem judge_alike (alike : first.Alike second) (same : message.view = other.view) (intent : String)
    (confidence : Float) :
    judge { config := first, index } message intent confidence =
      judge { config := second, index } other intent confidence := by
  have thresholds := threshold_check_alike first second alike intent confidence message.candidates other.candidates
    (congrArg View.ranking same)
  have entities := entity_check_alike (index.getD {}) intent message.mentions other.mentions
    (congrArg View.entities same)
  unfold judge thresholdReason entityReason
  dsimp only
  rw [thresholds, entities, alike.requireEntities]

theorem final_alike (same : message.view = other.view) (final : message.isFinal = some true) :
    other.isFinal = some true := by
  have wants : message.wantsFinal = other.wantsFinal := congrArg View.final same
  rw [← wants_final_iff, ← wants]
  exact (wants_final_iff message).mpr final

theorem examines_alike (alike : first.Alike second) (same : message.view = other.view)
    (examined : Examines { config := first, index } message) : Examines { config := second, index } other := by
  refine ⟨alike.enabled ▸ examined.enabled, fun forced => examined.unforced ?_⟩
  exact ⟨alike.forceFinal.trans forced.1, final_alike same.symm forced.2⟩

theorem settles_alike (alike : first.Alike second) (same : message.view = other.view)
    (result : Except GateError Verdict) (settled : Settles { config := first, index } message result) :
    Settles { config := second, index } other result := by
  cases settled with
  | disabled off => exact .disabled (alike.enabled ▸ off)
  | forcedFinal on forces final =>
      exact .forcedFinal (alike.enabled ▸ on) (alike.forceFinal ▸ forces) (final_alike same final)
  | unpredicted examined absent =>
      exact .unpredicted (examines_alike alike same examined) (unpredicted_alike message other same absent)
  | excluded examined intent predicted listed =>
      obtain ⟨found, predicted, name, -⟩ := predicted_alike message other same intent predicted
      rw [← name] at listed ⊢
      exact .excluded (examines_alike alike same examined) found predicted ((alike.excluded _).mp listed)
  | unscored examined intent predicted allowed absent =>
      obtain ⟨found, predicted, name, scored⟩ := predicted_alike message other same intent predicted
      rw [← name] at allowed
      exact .unscored (examines_alike alike same examined) found predicted (fun out => allowed ((alike.excluded _).mpr out))
        (scored.trans absent)
  | judged examined intent confidence predicted allowed scored =>
      obtain ⟨found, predicted, name, confident⟩ := predicted_alike message other same intent predicted
      rw [judge_alike alike same, ← name]
      rw [← name] at allowed
      exact .judged (examines_alike alike same examined) found confidence predicted
        (fun out => allowed ((alike.excluded _).mpr out)) (confident.trans scored)

theorem evaluate_noninterference (index : Option RequirementIndex) (first second : RejectionConfig)
    (message other : Message) (alike : first.Alike second) (same : message.view = other.view) :
    evaluate { config := first, index } message = evaluate { config := second, index } other := by
  have settled := evaluate_settles { config := first, index } message
  exact (evaluate_of_settles _ other _ (settles_alike alike same _ settled)).symm

theorem evaluate_noninterference_restyled :
    let plain : RejectionConfig := { excluded := ["nlu_fallback", "chat"] }
    let restyled : RejectionConfig :=
      { thresholds := { unexpectedSlot := some 0.5 }, method := "Drop", excluded := ["chat", "nlu_fallback", "chat"] }
    let index : RequirementIndex :=
      { entries := .ofList [("book", [{ entity := "seats", group := some "2" }, { entity := "city" }])] }
    let message : Message :=
      { intent := some { name := "book", confidence := some 1 }
        ranking := some [{ name := "book" }, { name := "chat", confidence := some 1 }]
        entities := some [{ kind := "seats", group := some (.number (.int 2)) }] }
    let other : Message :=
      { text := "two seats"
        intent := some { name := "book", confidence := some 1, requireEntities := some [], extra := [("id", .null)] }
        ranking := some [{ name := "book", confidence := some 1 }, { name := "chat", extra := [("id", .null)] }]
        entities := some [{ kind := "seats", group := some (.text "2"), extra := [("value", .text "2")] }]
        isFinal := some false
        extra := [("id", .null)] }
    plain.Alike restyled ∧ message.view = other.view ∧
      evaluate { config := plain, index } message = .ok (.reject (.entityMismatch [{ entity := "city" }] [])) ∧
      evaluate { config := restyled, index } other = .ok (.reject (.entityMismatch [{ entity := "city" }] [])) := by
  intro plain restyled index message other
  have alike : plain.Alike restyled := by
    refine ⟨rfl, rfl, rfl, rfl, rfl, fun _ => rfl, fun intent => ?_⟩
    simp only [plain, restyled, List.mem_cons, List.not_mem_nil, or_false]
    grind
  have same : message.view = other.view := by with_unfolding_all rfl
  have rejected : evaluate { config := plain, index } message =
      .ok (.reject (.entityMismatch [{ entity := "city" }] [])) := by
    unfold plain index message
    rfl
  exact ⟨alike, same, rejected, (evaluate_noninterference index plain restyled message other alike same).symm.trans rejected⟩

end Gate

end IntentGate
