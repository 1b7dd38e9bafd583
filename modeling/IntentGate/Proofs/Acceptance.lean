import IntentGate.Proofs.EntityAgreement
import IntentGate.Proofs.Evaluation
import IntentGate.Proofs.Ranking

set_option autoImplicit false

namespace IntentGate.Gate

-- Only an intent with an entry in the installed index is held to anything.
def MeetsRequirements (gate : Gate) (message : Message) (intent : String) : Prop :=
  gate.config.requireEntities = true → ∀ index, gate.index = some index →
    ∀ required, (intent, required) ∈ index.entries.rows → SameEntities required (message.entities.getD [])

structure FullUtterance (gate : Gate) (message : Message) (intent : Intent) (confidence : Float) : Prop where
  enabled : gate.config.enabled = true
  unforced : ¬ (gate.config.forceFinal = true ∧ message.isFinal = some true)
  predicted : message.intent = some intent
  scored : intent.confidence = some confidence
  allowed : intent.name ∉ gate.config.excluded
  confident : Confident gate.config (message.ranking.getD []) intent.name confidence
  entities : MeetsRequirements gate message intent.name

theorem of_threshold_none_iff (check : ThresholdCheck) : RejectReason.ofThreshold check = none ↔ check = .passed := by
  cases check <;> simp [RejectReason.ofThreshold]

theorem of_entities_none_iff (index : RequirementIndex) (intent : String) (predicted : List Entity) :
    RejectReason.ofEntities (.of index intent predicted) = none ↔
      ∀ required, (intent, required) ∈ index.entries.rows → SameEntities required predicted := by
  simp only [← required_some_iff, EntityCheck.of]
  cases index.required? intent with
  | none => simp [RejectReason.ofEntities]
  | some required =>
      simp only [Option.some.injEq, forall_eq', ← compare_satisfied_iff]
      unfold EntityCheck.compare
      dsimp only
      split <;> simp [RejectReason.ofEntities]

theorem entity_reason_none_iff (gate : Gate) (message : Message) (intent : String) :
    gate.entityReason message intent = none ↔ MeetsRequirements gate message intent := by
  unfold entityReason MeetsRequirements Message.mentions
  cases required : gate.config.requireEntities with
  | false => simp
  | true =>
      cases installed : gate.index with
      | none => simp [of_entities_none_iff]
      | some index => simp [of_entities_none_iff]

theorem judge_accepts_iff (gate : Gate) (message : Message) (intent : String) (confidence : Float) :
    gate.judge message intent confidence = .accept .fullUtterance ↔
      Confident gate.config (message.ranking.getD []) intent confidence ∧ MeetsRequirements gate message intent := by
  rw [← threshold_passed_iff, ← of_threshold_none_iff, ← entity_reason_none_iff]
  unfold judge thresholdReason Message.candidates
  cases RejectReason.ofThreshold (.of gate.config intent confidence (message.ranking.getD [])) with
  | some reason => simp
  | none => cases gate.entityReason message intent <;> simp

theorem judge_accepts_full (gate : Gate) (message : Message) (intent : String) (confidence : Float)
    (reason : AcceptReason) (accepted : gate.judge message intent confidence = .accept reason) :
    reason = .fullUtterance := by
  unfold judge at accepted
  split at accepted
  · cases accepted
  · exact (Verdict.accept.inj accepted).symm

theorem evaluate_of_full (gate : Gate) (message : Message) (intent : Intent) (confidence : Float)
    (full : FullUtterance gate message intent confidence) :
    gate.evaluate message = .ok (.accept .fullUtterance) := by
  have judged := (judge_accepts_iff gate message intent.name confidence).mpr ⟨full.confident, full.entities⟩
  rw [← judged]
  exact evaluate_of_settles gate message _ (.judged ⟨full.enabled, full.unforced⟩ intent confidence
    full.predicted full.allowed full.scored)

theorem accepted_of_passed (gate : Gate) (message : Message) (predicted : Intent) (confidence : Float)
    (examined : Examines gate message) (given : message.intent = some predicted)
    (scored : predicted.confidence = some confidence) (allowed : predicted.name ∉ gate.config.excluded)
    (passed : ThresholdCheck.of gate.config predicted.name confidence (message.ranking.getD []) = .passed)
    (vacant : gate.index = none) : gate.evaluate message = .ok (.accept .fullUtterance) := by
  refine evaluate_of_full gate message predicted confidence ⟨examined.enabled, examined.unforced, given, scored,
    allowed, (threshold_passed_iff _ _ _ _).mp passed, fun _ index installed => ?_⟩
  rw [vacant] at installed
  cases installed

theorem accepted_cases (gate : Gate) (message : Message) (reason : AcceptReason)
    (accepted : gate.evaluate message = .ok (.accept reason)) :
    (reason = .disabled ∧ gate.config.enabled = false) ∨
    (reason = .forcedFinal ∧ gate.config.enabled = true ∧ gate.config.forceFinal = true ∧
      message.isFinal = some true) ∨
    (reason = .fullUtterance ∧ ∃ intent confidence, FullUtterance gate message intent confidence) := by
  have settled := evaluate_settles gate message
  rw [accepted] at settled
  generalize same : (.ok (.accept reason) : Except GateError Verdict) = result at settled
  cases settled with
  | disabled off =>
      cases same
      exact .inl ⟨rfl, off⟩
  | forcedFinal on forces final =>
      cases same
      exact .inr (.inl ⟨rfl, on, forces, final⟩)
  | judged examined intent confidence predicted allowed scored =>
      have judged := (Except.ok.inj same).symm
      have full := judge_accepts_full gate message intent.name confidence reason judged
      rw [full] at judged
      obtain ⟨confident, entities⟩ := (judge_accepts_iff gate message intent.name confidence).mp judged
      exact .inr (.inr ⟨full, intent, confidence, examined.enabled, examined.unforced, predicted, scored, allowed,
        confident, entities⟩)
  | unpredicted | excluded | unscored => cases same

theorem rejected_cases (gate : Gate) (message : Message) (reason : RejectReason)
    (rejected : gate.evaluate message = .ok (.reject reason)) :
    Examines gate message ∧ ∃ intent, message.intent = some intent ∧
      ((intent.name ∈ gate.config.excluded ∧ reason = .excludedIntent intent.name) ∨
        (intent.name ∉ gate.config.excluded ∧ ∃ confidence, intent.confidence = some confidence ∧
          gate.judge message intent.name confidence = .reject reason)) := by
  have settled := evaluate_settles gate message
  rw [rejected] at settled
  generalize same : (.ok (.reject reason) : Except GateError Verdict) = result at settled
  cases settled with
  | excluded examined intent predicted listed =>
      cases same
      exact ⟨examined, intent, predicted, .inl ⟨listed, rfl⟩⟩
  | judged examined intent confidence predicted allowed scored =>
      exact ⟨examined, intent, predicted, .inr ⟨allowed, confidence, scored, (Except.ok.inj same).symm⟩⟩
  | disabled | forcedFinal | unpredicted | unscored => cases same

theorem acceptance_characterized (gate : Gate) (message : Message) :
    (gate.evaluate message = .ok (.accept .fullUtterance) ↔
      ∃ intent confidence, FullUtterance gate message intent confidence) ∧
    (gate.evaluate message = .ok (.accept .disabled) ↔ gate.config.enabled = false) ∧
    (gate.evaluate message = .ok (.accept .forcedFinal) ↔
      gate.config.enabled = true ∧ gate.config.forceFinal = true ∧ message.isFinal = some true) := by
  refine ⟨⟨?_, ?_⟩, ⟨?_, ?_⟩, ⟨?_, ?_⟩⟩
  · intro accepted
    rcases accepted_cases gate message _ accepted with ⟨other, -⟩ | ⟨other, -⟩ | ⟨-, full⟩
    · cases other
    · cases other
    · exact full
  · rintro ⟨intent, confidence, full⟩
    exact evaluate_of_full gate message intent confidence full
  · intro accepted
    rcases accepted_cases gate message _ accepted with ⟨-, off⟩ | ⟨other, -⟩ | ⟨other, -⟩
    · exact off
    · cases other
    · cases other
  · intro off
    exact evaluate_of_settles gate message _ (.disabled off)
  · intro accepted
    rcases accepted_cases gate message _ accepted with ⟨other, -⟩ | ⟨-, forced⟩ | ⟨other, -⟩
    · cases other
    · exact forced
    · cases other
  · rintro ⟨on, forces, final⟩
    exact evaluate_of_settles gate message _ (.forcedFinal on forces final)

end IntentGate.Gate
