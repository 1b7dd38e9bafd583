import IntentGate.Gate

set_option autoImplicit false

namespace IntentGate.Gate

structure Examines (gate : Gate) (message : Message) : Prop where
  enabled : gate.config.enabled = true
  unforced : ¬ (gate.config.forceFinal = true ∧ message.isFinal = some true)

-- One rule for each way out of the checks, with everything that leads there.
inductive Settles (gate : Gate) (message : Message) : Except GateError Verdict → Prop where
  | disabled (off : gate.config.enabled = false) : Settles gate message (.ok (.accept .disabled))
  | forcedFinal (on : gate.config.enabled = true) (forces : gate.config.forceFinal = true)
      (final : message.isFinal = some true) : Settles gate message (.ok (.accept .forcedFinal))
  | unpredicted (examined : Examines gate message) (absent : message.intent = none) :
      Settles gate message (.error (.missingField .intent))
  | excluded (examined : Examines gate message) (intent : Intent) (predicted : message.intent = some intent)
      (listed : intent.name ∈ gate.config.excluded) :
      Settles gate message (.ok (.reject (.excludedIntent intent.name)))
  | unscored (examined : Examines gate message) (intent : Intent) (predicted : message.intent = some intent)
      (allowed : intent.name ∉ gate.config.excluded) (absent : intent.confidence = none) :
      Settles gate message (.error (.missingField .confidence))
  | judged (examined : Examines gate message) (intent : Intent) (confidence : Float)
      (predicted : message.intent = some intent) (allowed : intent.name ∉ gate.config.excluded)
      (scored : intent.confidence = some confidence) :
      Settles gate message (.ok (gate.judge message intent.name confidence))

theorem wants_final_iff (message : Message) : message.wantsFinal = true ↔ message.isFinal = some true := by
  cases final : message.isFinal <;> simp [Message.wantsFinal, final]

theorem intent_name_eq (message : Message) :
    message.intentName = match message.intent with
      | some intent => .ok intent.name
      | none => .error (.missingField .intent) := by
  cases predicted : message.intent <;> simp only [Message.intentName, Message.predicted, predicted] <;> rfl

theorem confidence_eq (message : Message) (intent : Intent) (predicted : message.intent = some intent) :
    message.confidence = match intent.confidence with
      | some confidence => .ok confidence
      | none => .error (.missingField .confidence) := by
  simp only [Message.confidence, Message.predicted, predicted]
  cases scored : intent.confidence <;> simp only [bind, Except.bind, scored] <;> rfl

theorem evaluate_examined (gate : Gate) (message : Message) (examined : Examines gate message) :
    gate.evaluate message = do
      let intent ← message.intentName
      if gate.config.isExcluded intent then
        return .reject (.excludedIntent intent)
      return gate.judge message intent (← message.confidence) := by
  have unforced : ¬ (message.wantsFinal && gate.config.forceFinal) = true := by
    simpa [wants_final_iff, and_comm] using examined.unforced
  unfold evaluate
  rw [if_neg (by simp [examined.enabled]), if_neg unforced]

theorem evaluate_of_settles (gate : Gate) (message : Message) (result : Except GateError Verdict)
    (settled : Settles gate message result) : gate.evaluate message = result := by
  cases settled with
  | disabled off => simp [evaluate, off]
  | forcedFinal on forces final => simp [evaluate, on, forces, (wants_final_iff message).mpr final]
  | unpredicted examined absent =>
      rw [evaluate_examined gate message examined, intent_name_eq, absent]
      rfl
  | excluded examined intent predicted listed =>
      rw [evaluate_examined gate message examined, intent_name_eq, predicted]
      simp only [bind, Except.bind, RejectionConfig.isExcluded, listed, decide_true, if_true]
      rfl
  | unscored examined intent predicted allowed absent =>
      rw [evaluate_examined gate message examined, intent_name_eq, predicted, confidence_eq message intent predicted,
        absent]
      simp only [bind, Except.bind, RejectionConfig.isExcluded, allowed, decide_false, Bool.false_eq_true, if_false]
  | judged examined intent confidence predicted allowed scored =>
      rw [evaluate_examined gate message examined, intent_name_eq, predicted, confidence_eq message intent predicted,
        scored]
      simp only [bind, Except.bind, RejectionConfig.isExcluded, allowed, decide_false, Bool.false_eq_true, if_false]
      rfl

theorem settles_total (gate : Gate) (message : Message) : ∃ result, Settles gate message result := by
  cases on : gate.config.enabled with
  | false => exact ⟨_, .disabled on⟩
  | true =>
      by_cases forced : gate.config.forceFinal = true ∧ message.isFinal = some true
      · exact ⟨_, .forcedFinal on forced.1 forced.2⟩
      · have examined : Examines gate message := ⟨on, forced⟩
        cases predicted : message.intent with
        | none => exact ⟨_, .unpredicted examined predicted⟩
        | some intent =>
            by_cases listed : intent.name ∈ gate.config.excluded
            · exact ⟨_, .excluded examined intent predicted listed⟩
            · cases scored : intent.confidence with
              | none => exact ⟨_, .unscored examined intent predicted listed scored⟩
              | some confidence => exact ⟨_, .judged examined intent confidence predicted listed scored⟩

theorem evaluate_settles (gate : Gate) (message : Message) :
    Settles gate message (gate.evaluate message) := by
  obtain ⟨result, settled⟩ := settles_total gate message
  rw [evaluate_of_settles gate message result settled]
  exact settled

end IntentGate.Gate
