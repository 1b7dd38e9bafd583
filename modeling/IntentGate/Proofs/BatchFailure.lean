import IntentGate.Proofs.Evaluation
import IntentGate.Proofs.Installation
import IntentGate.Proofs.Sequencing

set_option autoImplicit false

namespace IntentGate.Gate

structure Refuses (gate : Gate) (domain : Option DomainSchema) (fault : DeclarationFault) : Prop where
  vacant : gate.index = none
  unbuilt : ∃ schema, domain = some schema ∧ RequirementIndex.build schema = .error fault

-- A field without which the gate cannot judge the message. The confidence of an excluded intent is not asked for.
inductive Lacks (gate : Gate) (message : Message) : NeededField → Prop where
  | intent (examined : Examines gate message) (absent : message.intent = none) : Lacks gate message .intent
  | confidence (examined : Examines gate message) (intent : Intent) (predicted : message.intent = some intent)
      (allowed : intent.name ∉ gate.config.excluded) (absent : intent.confidence = none) :
      Lacks gate message .confidence

structure FailsFirst (gate : Gate) (messages : List Message) (i : Nat) (source : GateError) : Prop where
  inBatch : i < messages.length
  fails : gate.evaluate messages[i] = .error source
  earlier : ∀ j (before : j < i), ∃ verdict, gate.evaluate messages[j] = .ok verdict

theorem ensure_index_refused (gate : Gate) (domain : Option DomainSchema) (fault : DeclarationFault)
    (refused : Refuses gate domain fault) :
    gate.ensureIndex domain = { result := .error (.configuration (.declaration fault)), gate } := by
  obtain ⟨vacant, schema, rfl, unbuilt⟩ := refused
  have result : gate.offer (some schema) = .error (.configuration (.declaration fault)) := by
    simp only [offer, vacant, unbuilt]
    rfl
  simp only [ensureIndex, result]

theorem ensure_index_error_iff (gate : Gate) (domain : Option DomainSchema) (e : GateError) :
    (gate.ensureIndex domain).result = .error e ↔
      ∃ fault, Refuses gate domain fault ∧ e = .configuration (.declaration fault) := by
  constructor
  · intro failed
    have offered := offer_offered gate domain
    unfold ensureIndex at failed
    generalize gate.offer domain = result at offered failed
    cases offered with
    | malformed vacant schema fault offered unbuilt =>
        exact ⟨fault, ⟨vacant, schema, offered, unbuilt⟩, (Except.error.inj failed).symm⟩
    | installed | unoffered | idle | fresh => cases failed
  · rintro ⟨fault, refused, rfl⟩
    rw [ensure_index_refused gate domain fault refused]

theorem ensure_index_ok_iff (gate : Gate) (domain : Option DomainSchema) :
    (gate.ensureIndex domain).result = .ok () ↔ ∀ fault, ¬ Refuses gate domain fault := by
  constructor
  · intro ensured fault refused
    rw [ensure_index_refused gate domain fault refused] at ensured
    cases ensured
  · intro accepted
    cases state : (gate.ensureIndex domain).result with
    | ok done => rfl
    | error e =>
        obtain ⟨fault, refused, -⟩ := (ensure_index_error_iff gate domain e).mp state
        exact absurd refused (accepted fault)

theorem evaluate_error_iff (gate : Gate) (message : Message) (e : GateError) :
    gate.evaluate message = .error e ↔ ∃ field, Lacks gate message field ∧ e = .missingField field := by
  constructor
  · intro failed
    have settled := evaluate_settles gate message
    rw [failed] at settled
    cases settled with
    | unpredicted examined absent => exact ⟨.intent, .intent examined absent, rfl⟩
    | unscored examined intent predicted allowed absent =>
        exact ⟨.confidence, .confidence examined intent predicted allowed absent, rfl⟩
  · rintro ⟨field, lacks, rfl⟩
    cases lacks with
    | intent examined absent => exact evaluate_of_settles gate message _ (.unpredicted examined absent)
    | confidence examined intent predicted allowed absent =>
        exact evaluate_of_settles gate message _ (.unscored examined intent predicted allowed absent)

theorem lacks_elsewhere (gate other : Gate) (same : other.config = gate.config) (message : Message)
    (field : NeededField) (lacks : Lacks gate message field) : Lacks other message field := by
  cases lacks with
  | intent examined absent => exact .intent ⟨same ▸ examined.enabled, same ▸ examined.unforced⟩ absent
  | confidence examined intent predicted allowed absent =>
      exact .confidence ⟨same ▸ examined.enabled, same ▸ examined.unforced⟩ intent predicted (same ▸ allowed) absent

theorem fails_first_cons_iff (gate : Gate) (message : Message) (rest : List Message) (i : Nat) (source : GateError) :
    FailsFirst gate (message :: rest) i source ↔
      (i = 0 ∧ gate.evaluate message = .error source) ∨
      ∃ j verdict, i = j + 1 ∧ gate.evaluate message = .ok verdict ∧ FailsFirst gate rest j source := by
  constructor
  · rintro ⟨inBatch, fails, earlier⟩
    cases i with
    | zero => exact .inl ⟨rfl, fails⟩
    | succ j =>
        obtain ⟨verdict, judged⟩ := earlier 0 (Nat.zero_lt_succ j)
        exact .inr ⟨j, verdict, rfl, judged, Nat.lt_of_succ_lt_succ inBatch, fails,
          fun k before => earlier (k + 1) (Nat.succ_lt_succ before)⟩
  · rintro (⟨rfl, fails⟩ | ⟨j, verdict, rfl, judged, inBatch, fails, earlier⟩)
    · exact ⟨Nat.zero_lt_succ _, fails, fun _ before => absurd before (Nat.not_lt_zero _)⟩
    · refine ⟨Nat.succ_lt_succ inBatch, fails, fun k before => ?_⟩
      cases k with
      | zero => exact ⟨verdict, judged⟩
      | succ k => exact earlier k (Nat.lt_of_succ_lt_succ before)

theorem decide_from_cons_error_iff (gate : Gate) (position : Nat) (message : Message) (rest : List Message)
    (e : GateError) :
    gate.decideFrom position (message :: rest) = .error e ↔
      (∃ source, gate.evaluate message = .error source ∧ e = .invalidMessage position source) ∨
      ∃ verdict, gate.evaluate message = .ok verdict ∧ gate.decideFrom (position + 1) rest = .error e := by
  rw [decideFrom, bind_error_iff, map_error_error_iff]
  constructor
  · rintro (⟨source, failed, rfl⟩ | ⟨verdict, judged, failed⟩)
    · exact .inl ⟨source, failed, rfl⟩
    · rcases (bind_error_iff _ _ _).mp failed with stopped | ⟨tail, -, finished⟩
      · exact .inr ⟨verdict, (map_error_ok_iff _ _ _).mp judged, stopped⟩
      · cases finished
  · rintro (⟨source, failed, rfl⟩ | ⟨verdict, judged, stopped⟩)
    · exact .inl ⟨source, failed, rfl⟩
    · exact .inr ⟨verdict, (map_error_ok_iff _ _ _).mpr judged, (bind_error_iff _ _ _).mpr (.inl stopped)⟩

theorem decide_from_error_iff (gate : Gate) (position : Nat) (messages : List Message) (e : GateError) :
    gate.decideFrom position messages = .error e ↔
      ∃ i source, FailsFirst gate messages i source ∧ e = .invalidMessage (position + i) source := by
  -- `position` is where the remaining messages begin, and `i` counts from there.
  induction messages generalizing position with
  | nil =>
      constructor
      · intro failed
        cases failed
      · rintro ⟨i, source, ⟨inBatch, -, -⟩, -⟩
        cases inBatch
  | cons message rest ih =>
      have shifted (i : Nat) : position + 1 + i = position + (i + 1) := by omega
      have first (i : Nat) (source : GateError) := fails_first_cons_iff gate message rest i source
      rw [decide_from_cons_error_iff]
      constructor
      · rintro (⟨source, failed, rfl⟩ | ⟨verdict, judged, stopped⟩)
        · exact ⟨0, source, (first 0 source).mpr (.inl ⟨rfl, failed⟩), rfl⟩
        · obtain ⟨i, source, failing, rfl⟩ := (ih (position + 1)).mp stopped
          exact ⟨i + 1, source, (first (i + 1) source).mpr (.inr ⟨i, verdict, rfl, judged, failing⟩), by rw [shifted]⟩
      · rintro ⟨i, source, failing, rfl⟩
        rcases (first i source).mp failing with ⟨rfl, failed⟩ | ⟨j, verdict, rfl, judged, later⟩
        · exact .inl ⟨source, failed, rfl⟩
        · exact .inr ⟨verdict, judged, (ih (position + 1)).mpr ⟨j, source, later, by rw [shifted]⟩⟩

theorem process_with_verdicts_ensured (gate : Gate) (messages : List Message) (domain : Option DomainSchema)
    (ensured : (gate.ensureIndex domain).result = .ok ()) :
    gate.processWithVerdicts messages domain =
      { result := (gate.ensureIndex domain).gate.decideFrom 0 messages, gate := (gate.ensureIndex domain).gate } := by
  rw [process_with_verdicts_eq, ensured]
  rfl

theorem process_with_verdicts_refused (gate : Gate) (messages : List Message) (domain : Option DomainSchema)
    (fault : DeclarationFault) (refused : Refuses gate domain fault) :
    gate.processWithVerdicts messages domain =
      { result := .error (.configuration (.declaration fault)), gate } := by
  rw [process_with_verdicts_eq, ensure_index_refused gate domain fault refused]
  rfl

theorem after_refused (gate : Gate) (domain : Option DomainSchema) (fault : DeclarationFault)
    (refused : Refuses gate domain fault) (batches : List (List Message)) :
    gate.after (batches.map fun messages => .processWithVerdicts messages domain) = gate := by
  induction batches with
  | nil => rfl
  | cons messages rest ih =>
      have answered : (gate.answer (.processWithVerdicts messages domain)).2 = gate :=
        congrArg Outcome.gate (process_with_verdicts_refused gate messages domain fault refused)
      change (gate.answer (.processWithVerdicts messages domain)).2.after _ = gate
      rw [answered, ih]

theorem process_with_verdicts_error_iff (gate : Gate) (messages : List Message) (domain : Option DomainSchema)
    (e : GateError) :
    (gate.processWithVerdicts messages domain).result = .error e ↔
      (∃ fault, Refuses gate domain fault ∧ e = .configuration (.declaration fault)) ∨
      ((∀ fault, ¬ Refuses gate domain fault) ∧
        ∃ i source, FailsFirst (gate.ensureIndex domain).gate messages i source ∧ e = .invalidMessage i source) := by
  have first := decide_from_error_iff (gate.ensureIndex domain).gate 0 messages e
  simp only [Nat.zero_add] at first
  rw [process_with_verdicts_eq]
  constructor
  · intro failed
    rcases (bind_error_iff _ _ _).mp failed with refused | ⟨_, ensured, stopped⟩
    · exact .inl ((ensure_index_error_iff gate domain e).mp refused)
    · exact .inr ⟨(ensure_index_ok_iff gate domain).mp ensured, first.mp stopped⟩
  · rintro (refused | ⟨accepted, failing⟩)
    · exact (bind_error_iff _ _ _).mpr (.inl ((ensure_index_error_iff gate domain e).mpr refused))
    · have ensured := (ensure_index_ok_iff gate domain).mpr accepted
      exact (bind_error_iff _ _ _).mpr (.inr ⟨(), ensured, first.mpr failing⟩)

theorem batch_errors_exact (gate : Gate) (messages : List Message) (domain : Option DomainSchema) :
    (∀ e, (gate.processWithVerdicts messages domain).result = .error e ↔
      (∃ fault, Refuses gate domain fault ∧ e = .configuration (.declaration fault)) ∨
      ((∀ fault, ¬ Refuses gate domain fault) ∧
        ∃ i source, FailsFirst (gate.ensureIndex domain).gate messages i source ∧ e = .invalidMessage i source)) ∧
    (∀ (state : Gate) message e, state.evaluate message = .error e ↔
      ∃ field, Lacks state message field ∧ e = .missingField field) ∧
    (∀ e, (gate.processWithVerdicts messages domain).result = .error e →
      (∃ fault, e = .configuration (.declaration fault)) ∨ ∃ i field, e = .invalidMessage i (.missingField field)) ∧
    (gate.processWithVerdicts messages domain).gate = (gate.ensureIndex domain).gate ∧
    ∀ fault, Refuses gate domain fault → (gate.processWithVerdicts messages domain).gate = gate := by
  have errors := process_with_verdicts_error_iff gate messages domain
  have state : (gate.processWithVerdicts messages domain).gate = (gate.ensureIndex domain).gate := by
    rw [process_with_verdicts_eq]
  refine ⟨errors, evaluate_error_iff, ?_, state, ?_⟩
  · intro e failed
    rcases (errors e).mp failed with ⟨fault, -, rfl⟩ | ⟨-, i, source, failing, rfl⟩
    · exact .inl ⟨fault, rfl⟩
    · obtain ⟨field, -, rfl⟩ := (evaluate_error_iff _ _ source).mp failing.fails
      exact .inr ⟨i, field, rfl⟩
  · intro fault refused
    rw [state, ensure_index_refused gate domain fault refused]

theorem batch_errors_exact_mixed :
    let gate : Gate := { config := {} }
    let sure : Message := { intent := some { name := "greet", confidence := some 1 } }
    let unscored : Message := { intent := some { name := "greet" } }
    let malformed : DomainSchema := { intents := [.null] }
    let useful : DomainSchema :=
      { intents := [.object [("book", .object [("require_entities", .list [.text "city"])])]] }
    let index : RequirementIndex := { entries := .ofList [("book", [{ entity := "city" }])] }
    (gate.processWithVerdicts [sure, unscored, {}] (some useful)).result =
        .error (.invalidMessage 1 (.missingField .confidence)) ∧
      (gate.processWithVerdicts [sure, unscored, {}] (some useful)).gate = { gate with index := some index } ∧
      Refuses gate (some malformed) (.notIntent .null) ∧
      (gate.processWithVerdicts [sure] (some malformed)).result =
        .error (.configuration (.declaration (.notIntent .null))) ∧
      (gate.processWithVerdicts [sure] (some malformed)).gate = gate := by
  intro gate sure unscored malformed useful index
  have ensured : gate.ensureIndex (some useful) = { result := .ok (), gate := { gate with index := some index } } := by
    with_unfolding_all rfl
  have accepted : ∀ fault, ¬ Refuses gate (some useful) fault :=
    (ensure_index_ok_iff gate (some useful)).mp (congrArg Outcome.result ensured)
  have judged : ({ gate with index := some index } : Gate).evaluate sure = .ok (.accept .fullUtterance) := by
    unfold gate sure index
    rfl
  have failing : FailsFirst (gate.ensureIndex (some useful)).gate [sure, unscored, {}] 1 (.missingField .confidence) := by
    rw [ensured]
    refine ⟨by decide, rfl, fun j before => ?_⟩
    obtain rfl := Nat.lt_one_iff.mp before
    exact ⟨.accept .fullUtterance, judged⟩
  have refused : Refuses gate (some malformed) (.notIntent .null) := ⟨rfl, malformed, rfl, rfl⟩
  obtain ⟨errors, -, -, state, -⟩ := batch_errors_exact gate [sure, unscored, {}] (some useful)
  obtain ⟨refusals, -, -, -, unchanged⟩ := batch_errors_exact gate [sure] (some malformed)
  refine ⟨(errors _).mpr (.inr ⟨accepted, 1, _, failing, rfl⟩), ?_, refused,
    (refusals _).mpr (.inl ⟨_, refused, rfl⟩), unchanged _ refused⟩
  rw [state, ensured]

end IntentGate.Gate
