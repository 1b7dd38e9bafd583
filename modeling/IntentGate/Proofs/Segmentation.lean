import IntentGate.Gate.Session
import IntentGate.Proofs.Batch
import IntentGate.Proofs.BatchFailure

set_option autoImplicit false

namespace IntentGate.Gate

def Indifferent (gate : Gate) (domain : Option DomainSchema) : Prop :=
  gate.ensureIndex domain = { result := .ok (), gate }

theorem ensure_index_indifferent (gate : Gate) (domain : Option DomainSchema)
    (ensured : (gate.ensureIndex domain).result = .ok ()) : Indifferent (gate.ensureIndex domain).gate domain := by
  have offered := offer_offered gate domain
  unfold Indifferent ensureIndex at *
  generalize result : gate.offer domain = offer at offered ensured ⊢
  cases offered with
  | malformed vacant schema fault offered unbuilt => cases ensured
  | installed | unoffered | idle => simp only [result]
  | fresh vacant schema index offered built filled =>
      simp only [offer_installed { gate with index := some index } domain index rfl]

theorem process_with_verdicts_indifferent (gate : Gate) (messages : List Message) (domain : Option DomainSchema)
    (indifferent : Indifferent gate domain) :
    gate.processWithVerdicts messages domain = { result := gate.decideFrom 0 messages, gate } := by
  rw [process_with_verdicts_eq, indifferent]
  rfl

theorem decide_from_append (gate : Gate) (position : Nat) (first second : List Message) :
    gate.decideFrom position (first ++ second) = do
      let decided ← gate.decideFrom position first
      let later ← gate.decideFrom (position + first.length) second
      return decided ++ later := by
  induction first generalizing position with
  | nil =>
      simp only [List.nil_append, List.length_nil, Nat.add_zero, decideFrom]
      cases gate.decideFrom position second <;> rfl
  | cons message rest ih =>
      have shifted : position + (message :: rest).length = position + 1 + rest.length := by
        rw [List.length_cons]
        omega
      rw [List.cons_append, decideFrom, decideFrom, ih (position + 1), shifted]
      cases gate.evaluate message with
      | error e => rfl
      | ok verdict =>
          cases gate.decideFrom (position + 1) rest with
          | error e => rfl
          | ok decided => cases gate.decideFrom (position + 1 + rest.length) second <;> rfl

theorem decide_from_elsewhere (gate : Gate) (position other : Nat) (messages : List Message)
    (decided : List (Message × Verdict)) (processed : gate.decideFrom position messages = .ok decided) :
    gate.decideFrom other messages = .ok decided :=
  decide_from_of_processed gate other messages decided (decide_from_length gate position messages decided processed)
    (decide_from_pointwise gate position messages decided processed)

def messagesBefore (batches : List (List Message)) (n : Nat) : Nat := (batches.take n).flatten.length

-- `pieces` is what the stream comes to when its messages are judged in one row that begins at `position`.
structure Follows (gate : Gate) (position : Nat) (batches : List (List Message)) (pieces : StreamOutcome) : Prop where
  unchanged : pieces.gate = gate
  finished : pieces.failure = none → pieces.decided.length = batches.length ∧
    gate.decideFrom position batches.flatten = .ok pieces.decided.flatten
  stopped : ∀ e, pieces.failure = some e → pieces.decided.length < batches.length ∧
    ∃ i source, e = .invalidMessage i source ∧ gate.decideFrom position batches.flatten =
      .error (.invalidMessage (position + (i + messagesBefore batches pieces.decided.length)) source)

theorem stream_follows (gate : Gate) (domain : Option DomainSchema) (indifferent : Indifferent gate domain)
    (position : Nat) (batches : List (List Message)) :
    Follows gate position batches (gate.processStream batches domain) := by
  -- The gate stays as it is from batch to batch; only the position of the row moves on.
  induction batches generalizing position with
  | nil =>
      refine ⟨rfl, fun _ => ⟨rfl, rfl⟩, fun e failed => ?_⟩
      cases failed
  | cons batch rest ih =>
      have processed := process_with_verdicts_indifferent gate batch domain indifferent
      cases decision : gate.decideFrom 0 batch with
      | error e =>
          have stream : gate.processStream (batch :: rest) domain = { decided := [], failure := some e, gate } := by
            simp only [processStream, processed, decision]
          obtain ⟨i, source, failing, rfl⟩ := (decide_from_error_iff gate 0 batch e).mp decision
          have here := (decide_from_error_iff gate position batch _).mpr ⟨i, source, failing, rfl⟩
          rw [stream]
          refine ⟨rfl, fun finished => ?_, fun e failed => ?_⟩
          · cases finished
          · cases failed
            refine ⟨Nat.zero_lt_succ _, 0 + i, source, rfl, ?_⟩
            rw [List.flatten_cons, decide_from_append, here, Nat.zero_add]
            rfl
      | ok decided =>
          have stream : gate.processStream (batch :: rest) domain =
              { gate.processStream rest domain with decided := decided :: (gate.processStream rest domain).decided } := by
            simp only [processStream, processed, decision]
          have here := decide_from_elsewhere gate 0 position batch decided decision
          obtain ⟨unchanged, finished, stopped⟩ := ih (position + batch.length)
          rw [stream]
          refine ⟨unchanged, fun finish => ?_, fun e failed => ?_⟩
          · obtain ⟨length, later⟩ := finished finish
            refine ⟨congrArg (· + 1) length, ?_⟩
            rw [List.flatten_cons, decide_from_append, here, later]
            rfl
          · obtain ⟨within, i, source, rfl, later⟩ := stopped e failed
            refine ⟨Nat.succ_lt_succ within, i, source, rfl, ?_⟩
            have moved : position + batch.length +
                (i + messagesBefore rest (gate.processStream rest domain).decided.length) =
                position + (i + messagesBefore (batch :: rest) ((gate.processStream rest domain).decided.length + 1)) := by
              simp only [messagesBefore, List.take_succ_cons, List.flatten_cons, List.length_append]
              omega
            rw [List.flatten_cons, decide_from_append, here, later, moved]
            rfl

theorem stream_ensured (gate : Gate) (domain : Option DomainSchema) (batch : List Message) (rest : List (List Message))
    (ensured : (gate.ensureIndex domain).result = .ok ()) :
    gate.processStream (batch :: rest) domain = (gate.ensureIndex domain).gate.processStream (batch :: rest) domain := by
  have indifferent := ensure_index_indifferent gate domain ensured
  have same : gate.processWithVerdicts batch domain = (gate.ensureIndex domain).gate.processWithVerdicts batch domain := by
    rw [process_with_verdicts_ensured gate batch domain ensured,
      process_with_verdicts_indifferent _ batch domain indifferent]
  simp only [processStream, same]

theorem cut_invisible (gate : Gate) (domain : Option DomainSchema) (batches : List (List Message))
    (cut : batches ≠ []) :
    let whole := gate.processWithVerdicts batches.flatten domain
    let pieces := gate.processStream batches domain
    pieces.gate = whole.gate ∧
    (pieces.failure = none → pieces.decided.length = batches.length ∧ whole.result = .ok pieces.decided.flatten) ∧
    ∀ e, pieces.failure = some e → pieces.decided.length < batches.length ∧
      ((∃ cause, e = .configuration cause ∧ pieces.decided = [] ∧ whole.result = .error e) ∨
        ∃ i source, e = .invalidMessage i source ∧
          whole.result = .error (.invalidMessage (i + messagesBefore batches pieces.decided.length) source)) := by
  intro whole pieces
  obtain ⟨batch, rest, rfl⟩ := List.exists_cons_of_ne_nil cut
  -- Whether the domain is refused is settled before the first message, in one batch as in many.
  cases ensured : (gate.ensureIndex domain).result with
  | ok done =>
      have wholly : whole = _ := process_with_verdicts_ensured gate (batch :: rest).flatten domain ensured
      have indifferent := ensure_index_indifferent gate domain ensured
      obtain ⟨unchanged, finished, stopped⟩ := stream_follows _ domain indifferent 0 (batch :: rest)
      rw [← stream_ensured gate domain batch rest ensured] at unchanged finished stopped
      rw [wholly]
      refine ⟨unchanged, finished, fun e failed => ?_⟩
      obtain ⟨within, i, source, same, later⟩ := stopped e failed
      rw [Nat.zero_add] at later
      exact ⟨within, .inr ⟨i, source, same, later⟩⟩
  | error e =>
      obtain ⟨fault, refused, rfl⟩ := (ensure_index_error_iff gate domain e).mp ensured
      have refusal (messages : List Message) := process_with_verdicts_refused gate messages domain fault refused
      have wholly : whole = _ := refusal (batch :: rest).flatten
      have piecewise : pieces = { decided := [], failure := some (.configuration (.declaration fault)), gate } := by
        simp only [pieces, processStream, refusal]
      rw [wholly, piecewise]
      refine ⟨rfl, fun finished => ?_, fun e failed => ?_⟩
      · cases finished
      · cases failed
        exact ⟨Nat.zero_lt_succ _, .inl ⟨_, rfl, rfl, rfl⟩⟩

theorem cut_invisible_failing :
    let gate : Gate := { config := {} }
    let sure : Message := { intent := some { name := "greet", confidence := some 1 } }
    let unscored : Message := { intent := some { name := "greet" } }
    let useful : DomainSchema :=
      { intents := [.object [("book", .object [("require_entities", .list [.text "city"])])]] }
    let batches : List (List Message) := [[], [sure], [sure, unscored], [sure]]
    batches ≠ [] ∧
      (gate.processStream batches (some useful)).failure = some (.invalidMessage 1 (.missingField .confidence)) ∧
      (gate.processWithVerdicts batches.flatten (some useful)).result =
        .error (.invalidMessage 2 (.missingField .confidence)) ∧
      (gate.processStream batches (some useful)).gate =
        (gate.processWithVerdicts batches.flatten (some useful)).gate := by
  intro gate sure unscored useful batches
  have cut : batches ≠ [] := by
    unfold batches
    simp
  have failed : (gate.processStream batches (some useful)).failure =
      some (.invalidMessage 1 (.missingField .confidence)) := by
    unfold gate batches sure unscored useful
    rfl
  have through : (gate.processStream batches (some useful)).decided.length = 2 := by
    unfold gate batches sure unscored useful
    rfl
  obtain ⟨state, -, stopped⟩ := cut_invisible gate (some useful) batches cut
  obtain ⟨-, ⟨cause, other, -⟩ | ⟨i, source, same, whole⟩⟩ := stopped _ failed
  · cases other
  · cases same
    rw [through] at whole
    exact ⟨cut, failed, whole, state⟩

end IntentGate.Gate
