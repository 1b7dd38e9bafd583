import IntentGate.Proofs.Acceptance
import IntentGate.Proofs.RepresentableMessage
import IntentGate.Proofs.FloatOrder
import IntentGate.Proofs.ValidSettings

set_option autoImplicit false

namespace IntentGate.Gate

open Json

variable {config : RejectionConfig} {ranking : List RankedIntent} {intent : String} {confidence : Float}

-- `Confident` says that no comparison went against the prediction, and this says that each one speaks for it.
structure Certain (config : RejectionConfig) (ranking : List RankedIntent) (intent : String)
    (confidence : Float) : Prop where
  custom : ∀ threshold, config.thresholds.custom.get? intent = some threshold → threshold ≤ confidence
  default : config.thresholds.custom.get? intent = none → config.thresholds.default ≤ confidence
  apart : config.thresholds.custom.get? intent = none →
    ∀ first second, Leads config.excluded ranking first second →
      config.thresholds.ambiguity ≤ first.weight - second.weight

structure Numeric (config : RejectionConfig) (ranking : List RankedIntent) (intent : String)
    (confidence : Float) : Prop where
  confidence : confidence.isNaN = false
  leaders : config.thresholds.custom.get? intent = none →
    ∀ first second, Leads config.excluded ranking first second →
      first.weight.isNaN = false ∧ second.weight.isNaN = false ∧
        ¬ (first.weight.isInf = true ∧ first.weight = second.weight)

theorem in_unit_number (x : Float) (within : inUnit x = true) : x.isNaN = false :=
  finite_number _ (in_unit_finite x within)

theorem gap_number_iff (x y : Float) :
    (x - y).isNaN = false ↔ x.isNaN = false ∧ y.isNaN = false ∧ ¬ (x.isInf = true ∧ x = y) := by
  rw [← Bool.not_eq_true, sub_nan_iff, not_or, not_or, Bool.not_eq_true, Bool.not_eq_true]

theorem confident_custom (confident : Confident config ranking intent confidence) (threshold : Float)
    (custom : config.thresholds.custom.get? intent = some threshold) : ¬ confidence < threshold := by
  unfold Confident at confident
  rw [custom] at confident
  exact confident

theorem confident_default (confident : Confident config ranking intent confidence)
    (uncustomized : config.thresholds.custom.get? intent = none) : ¬ confidence < config.thresholds.default := by
  unfold Confident at confident
  rw [uncustomized] at confident
  exact confident.1

theorem confident_apart (confident : Confident config ranking intent confidence)
    (uncustomized : config.thresholds.custom.get? intent = none) (first second : RankedIntent)
    (leads : Leads config.excluded ranking first second) :
    ¬ first.weight - second.weight < config.thresholds.ambiguity := by
  unfold Confident at confident
  rw [uncustomized] at confident
  exact confident.2 first second leads

theorem certain_iff_numeric (bounded : config.Bounded) (confident : Confident config ranking intent confidence) :
    Certain config ranking intent confidence ↔ Numeric config ranking intent confidence := by
  have overCustom (threshold : Float) (custom : config.thresholds.custom.get? intent = some threshold) :=
    le_iff_number confidence threshold
      (in_unit_number _ (bounded.custom (intent, threshold) (Keyed.mem_of_get _ _ _ custom)))
      (confident_custom confident threshold custom)
  have overDefault (uncustomized : config.thresholds.custom.get? intent = none) :=
    le_iff_number confidence _ (in_unit_number _ bounded.default) (confident_default confident uncustomized)
  have clears (uncustomized : config.thresholds.custom.get? intent = none) (first second : RankedIntent)
      (leads : Leads config.excluded ranking first second) :=
    (le_iff_number _ _ (in_unit_number _ bounded.ambiguity)
      (confident_apart confident uncustomized first second leads)).trans (gap_number_iff first.weight second.weight)
  constructor
  · intro certain
    have number : confidence.isNaN = false := by
      cases custom : config.thresholds.custom.get? intent with
      | some threshold => exact (overCustom threshold custom).mp (certain.custom threshold custom)
      | none => exact (overDefault custom).mp (certain.default custom)
    exact ⟨number, fun uncustomized first second leads =>
      (clears uncustomized first second leads).mp (certain.apart uncustomized first second leads)⟩
  · rintro ⟨number, leaders⟩
    exact ⟨fun threshold custom => (overCustom threshold custom).mpr number,
      fun uncustomized => (overDefault uncustomized).mpr number,
      fun uncustomized first second leads =>
        (clears uncustomized first second leads).mpr (leaders uncustomized first second leads)⟩

theorem weight_finite (r : RankedIntent) (finite : ∀ c, r.confidence = some c → c.isFinite = true) :
    r.weight.isFinite = true := by
  unfold RankedIntent.weight
  cases given : r.confidence with
  | none => decide
  | some c => exact finite c given

theorem leads_candidates (excluded : List String) (first second : RankedIntent)
    (leads : Leads excluded ranking first second) : first ∈ ranking ∧ second ∈ ranking := by
  obtain ⟨before, between, after, rfl, -⟩ := leads
  simp

theorem finite_numeric (message : Message) (finite : message.Finite) (predicted : Intent) (confidence : Float)
    (given : message.intent = some predicted) (scored : predicted.confidence = some confidence) :
    Numeric config (message.ranking.getD []) intent confidence := by
  refine ⟨finite_number _ (finite.intent predicted given confidence scored), fun _ first second leads => ?_⟩
  obtain ⟨firstIn, secondIn⟩ := leads_candidates config.excluded first second leads
  have firstFinite := weight_finite first (finite.ranking first firstIn)
  have secondFinite := weight_finite second (finite.ranking second secondIn)
  refine ⟨finite_number _ firstFinite, finite_number _ secondFinite, fun ⟨infinite, _⟩ => ?_⟩
  exact Bool.false_ne_true ((finite_not_infinite _ firstFinite).symm.trans infinite)

-- Messages that come from JSON have no NaN to offer; those that are put together by hand may have one.
theorem accepted_certain_iff_numeric (gate : Gate) (valid : gate.config.validate = .ok ()) (message : Message)
    (accepted : gate.evaluate message = .ok (.accept .fullUtterance)) :
    ∃ intent confidence, message.intent = some intent ∧ intent.confidence = some confidence ∧
      (Certain gate.config (message.ranking.getD []) intent.name confidence ↔
        Numeric gate.config (message.ranking.getD []) intent.name confidence) ∧
      ∀ d : Datum, readMessage d.value = .ok message →
        Certain gate.config (message.ranking.getD []) intent.name confidence := by
  rcases accepted_cases gate message _ accepted with ⟨other, -⟩ | ⟨other, -⟩ | ⟨-, intent, confidence, full⟩
  · cases other
  · cases other
  · have same := certain_iff_numeric (RejectionConfig.valid_bounded gate.config valid) full.confident
    refine ⟨intent, confidence, full.predicted, full.scored, same, fun d read => same.mpr ?_⟩
    have finite := read_message_finite d.value message d.proper read
    exact finite_numeric message finite intent confidence full.predicted full.scored

theorem accepted_certain_iff_numeric_greeting :
    let gate : Gate := { config := {} }
    let v : Value := .object [
      ("intent", .object [("confidence", .number (.float 0.9)), ("name", .text "greet")]),
      ("intent_ranking", .list [.object [("name", .text "nlu_fallback")],
        .object [("confidence", .number (.float 0.9)), ("name", .text "greet")],
        .object [("confidence", .number (.float 0.25)), ("name", .text "stop")]])]
    let message : Message :=
      { intent := some { name := "greet", confidence := some 0.9 }
        ranking := some [{ name := "nlu_fallback" }, { name := "greet", confidence := some 0.9 },
          { name := "stop", confidence := some 0.25 }] }
    gate.config.validate = .ok () ∧ readMessage v = .ok message ∧
      gate.evaluate message = .ok (.accept .fullUtterance) ∧ Certain gate.config (message.ranking.getD []) "greet" 0.9 := by
  intro gate v message
  have valid : gate.config.validate = .ok () := by
    unfold gate
    rfl
  have proper : v.Proper := by
    simp only [v, object_proper_iff, list_proper_iff, List.forall_mem_cons, List.not_mem_nil, false_implies,
      implies_true, and_true]
    exact ⟨by decide, ⟨by decide, .float _ (by decide +kernel), .text _⟩, ⟨by decide, .text _⟩,
      ⟨by decide, .float _ (by decide +kernel), .text _⟩, ⟨by decide, .float _ (by decide +kernel), .text _⟩⟩
  have decoded : readMessage v = .ok message := by with_unfolding_all rfl
  have accepted : gate.evaluate message = .ok (.accept .fullUtterance) :=
    accepted_of_passed gate message _ 0.9 ⟨rfl, by decide⟩ rfl rfl (by decide) (by decide +kernel) rfl
  obtain ⟨_, _, predicted, scored, -, certain⟩ := accepted_certain_iff_numeric gate valid message accepted
  cases predicted
  cases scored
  exact ⟨valid, decoded, accepted, certain ⟨v, proper⟩ decoded⟩

theorem nan_accepted :
    let gate : Gate := { config := {} }
    let unscored : Message := { intent := some { name := "greet", confidence := some .nan } }
    let level : Message :=
      { intent := some { name := "greet", confidence := some 1 }
        ranking := some [{ name := "greet", confidence := some .inf }, { name := "stop", confidence := some .inf }] }
    gate.config.validate = .ok () ∧
      gate.evaluate unscored = .ok (.accept .fullUtterance) ∧
      gate.config.thresholds.custom.get? "greet" = none ∧ ¬ gate.config.thresholds.default ≤ .nan ∧
      gate.evaluate level = .ok (.accept .fullUtterance) ∧ ¬ gate.config.thresholds.ambiguity ≤ .inf - .inf := by
  intro gate unscored level
  refine ⟨?_, ?_, rfl, by decide +kernel, ?_, by decide +kernel⟩
  · unfold gate
    rfl
  · exact accepted_of_passed gate unscored _ _ ⟨rfl, by decide⟩ rfl rfl (by decide) (by decide +kernel) rfl
  · exact accepted_of_passed gate level _ _ ⟨rfl, by decide⟩ rfl rfl (by decide) (by decide +kernel) rfl

end IntentGate.Gate
