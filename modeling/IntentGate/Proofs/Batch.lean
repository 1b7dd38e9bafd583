import IntentGate.Proofs.Installation
import IntentGate.Proofs.Sequencing

set_option autoImplicit false

namespace IntentGate.Gate

-- The rejection intent stands over the prediction and in front of the ranking;
-- an absent ranking counts as an empty one. Everything else is as it came.
structure Replaced (threshold : Float) (message output : Message) : Prop where
  intent : output.intent =
    some { name := "nlu_fallback", confidence := some threshold, requireEntities := none, extra := [] }
  ranking : output.ranking =
    some ({ name := "nlu_fallback", confidence := some threshold, extra := [] } :: message.ranking.getD [])
  text : output.text = message.text
  entities : output.entities = message.entities
  isFinal : output.isFinal = message.isFinal
  extra : output.extra = message.extra

structure Processed (gate : Gate) (message output : Message) (verdict : Verdict) : Prop where
  judged : gate.evaluate message = .ok verdict
  kept : verdict.isAccept = true → output = message
  replaced : verdict.isReject = true → Replaced gate.config.thresholds.default message output

theorem apply_rejection_replaces (gate : Gate) (message : Message) :
    Replaced gate.config.thresholds.default message (gate.applyRejection message) :=
  ⟨rfl, rfl, rfl, rfl, rfl, rfl⟩

theorem after_verdict_processed (gate : Gate) (message : Message) (verdict : Verdict)
    (judged : gate.evaluate message = .ok verdict) :
    Processed gate message (gate.afterVerdict message verdict) verdict := by
  refine ⟨judged, ?_, ?_⟩
  · intro accepted
    simp only [afterVerdict, accepted, if_true]
  · intro rejected
    have unaccepted : verdict.isAccept = false := by simpa [Verdict.isReject] using rejected
    simp only [afterVerdict, unaccepted, Bool.false_eq_true, if_false]
    exact apply_rejection_replaces gate message

theorem decide_from_cons_ok (gate : Gate) (position : Nat) (message : Message) (rest : List Message)
    (decided : List (Message × Verdict))
    (processed : gate.decideFrom position (message :: rest) = .ok decided) :
    ∃ verdict tail, gate.evaluate message = .ok verdict ∧ gate.decideFrom (position + 1) rest = .ok tail ∧
      decided = (gate.afterVerdict message verdict, verdict) :: tail := by
  rw [decideFrom, bind_ok_iff] at processed
  obtain ⟨verdict, judged, processed⟩ := processed
  obtain ⟨tail, later, last⟩ := (bind_ok_iff _ _ _).mp processed
  exact ⟨verdict, tail, (map_error_ok_iff _ _ _).mp judged, later, (Except.ok.inj last).symm⟩

theorem decide_from_length (gate : Gate) (position : Nat) (messages : List Message)
    (decided : List (Message × Verdict)) (processed : gate.decideFrom position messages = .ok decided) :
    decided.length = messages.length := by
  induction messages generalizing position decided with
  | nil =>
      cases processed
      rfl
  | cons message rest ih =>
      obtain ⟨verdict, tail, -, later, rfl⟩ := decide_from_cons_ok gate position message rest decided processed
      simp only [List.length_cons, ih (position + 1) tail later]

theorem decide_from_pointwise (gate : Gate) (position : Nat) (messages : List Message)
    (decided : List (Message × Verdict)) (processed : gate.decideFrom position messages = .ok decided)
    (i : Nat) (inBatch : i < messages.length) (inResult : i < decided.length) :
    Processed gate messages[i] decided[i].1 decided[i].2 := by
  induction messages generalizing position decided i with
  | nil => cases inBatch
  | cons message rest ih =>
      obtain ⟨verdict, tail, judged, later, rfl⟩ := decide_from_cons_ok gate position message rest decided processed
      cases i with
      | zero => exact after_verdict_processed gate message verdict judged
      | succ i => exact ih (position + 1) tail later i (Nat.lt_of_succ_lt_succ inBatch) (Nat.lt_of_succ_lt_succ inResult)

theorem replaced_unique (gate : Gate) (message output : Message)
    (replaced : Replaced gate.config.thresholds.default message output) : output = gate.applyRejection message := by
  obtain ⟨intent, ranking, text, entities, isFinal, extra⟩ := replaced
  cases output
  simp only at intent ranking text entities isFinal extra
  subst intent ranking text entities isFinal extra
  rfl

theorem processed_unique (gate : Gate) (message output : Message) (verdict : Verdict)
    (processed : Processed gate message output verdict) : output = gate.afterVerdict message verdict := by
  cases accepted : verdict.isAccept with
  | true => simp only [afterVerdict, accepted, if_true, processed.kept accepted]
  | false =>
      have rejected : verdict.isReject = true := by simp [Verdict.isReject, accepted]
      have replaced := replaced_unique gate message output (processed.replaced rejected)
      simp only [afterVerdict, accepted, Bool.false_eq_true, if_false, replaced]

theorem decide_from_of_processed (gate : Gate) (position : Nat) (messages : List Message)
    (decided : List (Message × Verdict)) (length : decided.length = messages.length)
    (pointwise : ∀ i (inBatch : i < messages.length) (inResult : i < decided.length),
      Processed gate messages[i] decided[i].1 decided[i].2) :
    gate.decideFrom position messages = .ok decided := by
  induction messages generalizing position decided with
  | nil =>
      rw [List.eq_nil_of_length_eq_zero length]
      rfl
  | cons message rest ih =>
      cases decided with
      | nil => cases length
      | cons head tail =>
          obtain ⟨output, verdict⟩ := head
          have here := pointwise 0 (Nat.zero_lt_succ _) (Nat.zero_lt_succ _)
          have later := ih (position + 1) tail (Nat.succ.inj length) fun i inBatch inResult =>
            pointwise (i + 1) (Nat.succ_lt_succ inBatch) (Nat.succ_lt_succ inResult)
          have judged : gate.evaluate message = .ok verdict := here.judged
          have same : output = gate.afterVerdict message verdict := processed_unique gate message output verdict here
          rw [decideFrom, judged, later, same]
          rfl

theorem process_with_verdicts_ok_iff (gate : Gate) (messages : List Message) (domain : Option DomainSchema)
    (decided : List (Message × Verdict)) :
    (gate.processWithVerdicts messages domain).result = .ok decided ↔
      (gate.ensureIndex domain).result = .ok () ∧
        (gate.ensureIndex domain).gate.decideFrom 0 messages = .ok decided := by
  rw [process_with_verdicts_eq]
  dsimp only
  cases (gate.ensureIndex domain).result with
  | error e =>
      constructor
      · intro processed
        cases processed
      · rintro ⟨ensured, -⟩
        cases ensured
  | ok done => exact ⟨fun processed => ⟨rfl, processed⟩, And.right⟩

theorem decide_from_ok_iff (gate : Gate) (position : Nat) (messages : List Message) (decided : List (Message × Verdict)) :
    gate.decideFrom position messages = .ok decided ↔ decided.length = messages.length ∧
      ∀ i (inBatch : i < messages.length) (inResult : i < decided.length),
        Processed gate messages[i] decided[i].1 decided[i].2 := by
  constructor
  · intro decisions
    exact ⟨decide_from_length gate position messages decided decisions,
      decide_from_pointwise gate position messages decided decisions⟩
  · rintro ⟨length, pointwise⟩
    exact decide_from_of_processed gate position messages decided length pointwise

theorem process_with_verdicts_pointwise_iff (gate : Gate) (messages : List Message) (domain : Option DomainSchema)
    (decided : List (Message × Verdict)) :
    (gate.processWithVerdicts messages domain).result = .ok decided ↔
      (gate.ensureIndex domain).result = .ok () ∧ decided.length = messages.length ∧
        ∀ i (inBatch : i < messages.length) (inResult : i < decided.length),
          Processed (gate.ensureIndex domain).gate messages[i] decided[i].1 decided[i].2 := by
  rw [process_with_verdicts_ok_iff, decide_from_ok_iff]

-- The right side of the first part leaves no choice: a batch that succeeds has this result, and one of
-- which every message has a verdict succeeds.
theorem batch_pointwise (gate : Gate) (messages : List Message) (domain : Option DomainSchema) :
    (∀ decided, (gate.processWithVerdicts messages domain).result = .ok decided ↔
      (gate.ensureIndex domain).result = .ok () ∧ decided.length = messages.length ∧
        ∀ i (inBatch : i < messages.length) (inResult : i < decided.length),
          Processed (gate.ensureIndex domain).gate messages[i] decided[i].1 decided[i].2) ∧
    (gate.ensureIndex domain).gate.config = gate.config ∧
    (gate.processWithVerdicts messages domain).gate = (gate.ensureIndex domain).gate ∧
    (gate.process messages domain).result =
      (gate.processWithVerdicts messages domain).result.map (List.map Prod.fst) ∧
    (gate.process messages domain).gate = (gate.processWithVerdicts messages domain).gate ∧
    MessageStage.process gate messages domain =
      ((gate.process messages domain).result, (gate.process messages domain).gate) := by
  refine ⟨process_with_verdicts_pointwise_iff gate messages domain, ensure_index_config gate domain, ?_, rfl, rfl, rfl⟩
  rw [process_with_verdicts_eq]

theorem batch_pointwise_mixed :
    let gate : Gate := { config := {} }
    let sure : Message := { intent := some { name := "greet", confidence := some 1 } }
    let unsure : Message := { intent := some { name := "greet", confidence := some 0 } }
    ∃ first second, (gate.processWithVerdicts [sure, unsure] none).result =
        .ok [(first, .accept .fullUtterance), (second, .reject (.belowDefaultThreshold 0 0.3))] ∧
      first = sure ∧ Replaced 0.3 unsure second := by
  intro gate sure unsure
  have accepted : gate.evaluate sure = .ok (.accept .fullUtterance) := by
    unfold gate sure
    rfl
  have rejected : gate.evaluate unsure = .ok (.reject (.belowDefaultThreshold 0 0.3)) := by
    unfold gate unsure
    rfl
  have processed : (gate.processWithVerdicts [sure, unsure] none).result =
      .ok [(sure, .accept .fullUtterance), (gate.applyRejection unsure, .reject (.belowDefaultThreshold 0 0.3))] := by
    change gate.decideFrom 0 [sure, unsure] = _
    rw [decideFrom, decideFrom, accepted, rejected]
    rfl
  obtain ⟨-, -, pointwise⟩ := ((batch_pointwise gate [sure, unsure] none).1 _).mp processed
  have first := pointwise 0 (by decide) (by decide)
  have second := pointwise 1 (by decide) (by decide)
  exact ⟨_, _, processed, first.kept rfl, second.replaced rfl⟩

end IntentGate.Gate
