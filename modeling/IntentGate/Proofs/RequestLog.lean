import IntentGate.Proofs.Batch
import IntentGate.Proofs.BatchFailure

set_option autoImplicit false

namespace IntentGate.Gate

def loud (events : List Event) : List Event := events.filter fun e => decide (Level.info.rank ≤ e.level.rank)

def installed (before after : Gate) : List Event :=
  match before.index, after.index with
  | none, some index => [.installedIndex index.size]
  | _, _ => []

def passesOver (gate : Gate) (m : Message) : Bool :=
  gate.config.enabled && !gate.config.forceFinal && decide (m.isFinal = some true)

def warnings (gate : Gate) (messages : List Message) : List Event :=
  List.replicate (messages.countP (passesOver gate)) .finalIgnored

def rejections (decided : List (Message × Verdict)) : Nat := decided.countP fun d => d.2.isReject

-- The messages that a batch of this result has looked at. The one that fails it is the last.
def examinedIn (messages : List Message) : Except GateError (List (Message × Verdict)) → List Message
  | .ok _ => messages
  | .error (.invalidMessage i _) => messages.take (i + 1)
  | .error _ => []

def summaryOf (messages : List Message) : Except GateError (List (Message × Verdict)) → List Event
  | .ok decided => [.processedBatch messages.length (rejections decided)]
  | .error _ => []

def examined (gate : Gate) : Request → List Message
  | .evaluate message => [message]
  | .ensureIndex _ | .applyRejection _ => []
  | .process messages domain | .processWithVerdicts messages domain | .stage messages domain =>
      examinedIn messages (gate.processWithVerdicts messages domain).result

def summary (gate : Gate) : Request → List Event
  | .ensureIndex _ | .evaluate _ | .applyRejection _ => []
  | .process messages domain | .processWithVerdicts messages domain | .stage messages domain =>
      summaryOf messages (gate.processWithVerdicts messages domain).result

inductive Rewritten : List Message → List Message → Nat → Prop where
  | nil : Rewritten [] [] 0
  | kept (m : Message) {messages outputs : List Message} {count : Nat} (rest : Rewritten messages outputs count) :
      Rewritten (m :: messages) (m :: outputs) count
  | changed (m output : Message) (different : output ≠ m) {messages outputs : List Message} {count : Nat}
      (rest : Rewritten messages outputs count) : Rewritten (m :: messages) (output :: outputs) (count + 1)

theorem loud_append (first second : List Event) : loud (first ++ second) = loud first ++ loud second :=
  List.filter_append ..

theorem loud_warnings (gate : Gate) (messages : List Message) : loud (warnings gate messages) = warnings gate messages :=
  List.filter_replicate_of_pos (by decide)

theorem loud_installed (before after : Gate) : loud (installed before after) = installed before after := by
  unfold installed
  split <;> rfl

theorem warnings_cons (gate : Gate) (m : Message) (rest : List Message) :
    warnings gate (m :: rest) = warnings gate [m] ++ warnings gate rest := by
  unfold warnings
  rw [List.replicate_append_replicate, ← List.countP_append, List.singleton_append]

theorem warnings_config (gate other : Gate) (same : other.config = gate.config) (messages : List Message) :
    warnings other messages = warnings gate messages := by
  unfold warnings passesOver
  rw [same]

theorem final_events_eq (gate : Gate) (m : Message) : gate.finalEvents m = warnings gate [m] := by
  have final := wants_final_iff m
  unfold finalEvents warnings passesOver
  cases gate.config.enabled <;> cases gate.config.forceFinal <;> cases wants : m.wantsFinal <;>
    simp_all

theorem loud_evaluation (gate : Gate) (m : Message) : loud (gate.evaluationEvents m) = warnings gate [m] := by
  unfold evaluationEvents
  rw [loud_append, final_events_eq, loud_warnings]
  cases gate.evaluate m with
  | ok verdict => exact List.append_nil _
  | error e => exact List.append_nil _

theorem offer_events_eq (gate : Gate) (domain : Option DomainSchema) :
    gate.offerEvents domain = installed gate (gate.ensureIndex domain).gate := by
  have offered := offer_offered gate domain
  unfold ensureIndex
  generalize gate.offer domain = result at offered ⊢
  unfold offerEvents installed
  cases offered with
  | installed index present => simp [present]
  | unoffered vacant absent => simp [vacant, absent]
  | malformed vacant schema fault offered unbuilt => simp [vacant, offered, unbuilt]
  | idle vacant schema index offered built empty => simp [vacant, offered, built, empty]
  | fresh vacant schema index offered built filled => simp [vacant, offered, built, filled, installEvents]

theorem rejections_cons (gate : Gate) (m : Message) (verdict : Verdict) (rest : List (Message × Verdict)) :
    rejections ((gate.afterVerdict m verdict, verdict) :: rest) =
      (if verdict.isAccept then 0 else 1) + rejections rest := by
  unfold rejections
  rw [List.countP_cons, Nat.add_comm]
  cases accepted : verdict.isAccept <;> simp [Verdict.isReject, accepted]

theorem loud_batch_ok (gate : Gate) (total rejected position : Nat) (messages : List Message)
    (decided : List (Message × Verdict)) (processed : gate.decideFrom position messages = .ok decided) :
    loud (gate.batchEvents total rejected messages) =
      warnings gate messages ++ [.processedBatch total (rejected + rejections decided)] := by
  induction messages generalizing rejected position decided with
  | nil =>
      cases processed
      rfl
  | cons m rest ih =>
      obtain ⟨verdict, tail, judged, later, rfl⟩ := decide_from_cons_ok gate position m rest decided processed
      have counted : (if verdict.isAccept then rejected else rejected + 1) + rejections tail =
          rejected + rejections ((gate.afterVerdict m verdict, verdict) :: tail) := by
        rw [rejections_cons]
        split <;> omega
      rw [batchEvents, judged]
      dsimp only
      rw [loud_append, loud_evaluation, ih _ (position + 1) tail later, counted, ← List.append_assoc, ← warnings_cons]

theorem loud_batch_failed (gate : Gate) (total rejected : Nat) (messages : List Message) (i : Nat) (source : GateError)
    (first : FailsFirst gate messages i source) :
    loud (gate.batchEvents total rejected messages) = warnings gate (messages.take (i + 1)) := by
  induction messages generalizing rejected i with
  | nil => cases first.inBatch
  | cons m rest ih =>
      rw [batchEvents, loud_append, loud_evaluation, List.take_succ_cons, warnings_cons gate m (rest.take i)]
      rcases (fails_first_cons_iff gate m rest i source).mp first with ⟨rfl, failed⟩ | ⟨j, verdict, rfl, judged, later⟩
      · rw [failed]
        rfl
      · rw [judged]
        exact congrArg (warnings gate [m] ++ ·) (ih _ j later)

theorem loud_process (gate : Gate) (messages : List Message) (domain : Option DomainSchema) :
    let outcome := gate.processWithVerdicts messages domain
    loud (gate.processEvents messages domain) =
      installed gate outcome.gate ++ warnings gate (examinedIn messages outcome.result) ++
        summaryOf messages outcome.result := by
  intro outcome
  unfold processEvents
  rw [loud_append, offer_events_eq, loud_installed, List.append_assoc]
  cases offered : gate.offer domain with
  | error e =>
      obtain ⟨fault, -, rfl⟩ := (ensure_index_error_iff gate domain e).mp (by rw [ensureIndex, offered])
      have refused : outcome = { result := .error (.configuration (.declaration fault)), gate } := by
        simp only [outcome, processWithVerdicts, offered]
      rw [refused, ensureIndex, offered]
      rfl
  | ok after =>
      have config : after.config = gate.config := by
        rw [← ensure_index_config gate domain, ensureIndex, offered]
      have batch : outcome = { result := after.decideFrom 0 messages, gate := after } := by
        simp only [outcome, processWithVerdicts, offered]
      rw [batch, ensureIndex, offered]
      refine congrArg (installed gate after ++ ·) ?_
      dsimp only
      cases decisions : after.decideFrom 0 messages with
      | ok decided =>
          rw [loud_batch_ok after messages.length 0 0 messages decided decisions, Nat.zero_add,
            warnings_config gate after config]
          rfl
      | error e =>
          obtain ⟨i, source, first, rfl⟩ := (decide_from_error_iff after 0 messages e).mp decisions
          rw [loud_batch_failed after messages.length 0 messages i source first, warnings_config gate after config,
            Nat.zero_add]
          exact (List.append_nil _).symm

theorem installed_same (gate : Gate) : installed gate gate = [] := by
  unfold installed
  cases gate.index <;> rfl

theorem loud_answer (gate : Gate) (request : Request) :
    loud (gate.answerEvents request) =
      installed gate (gate.answer request).2 ++ warnings gate (examined gate request) ++ summary gate request := by
  cases request with
  | ensureIndex domain =>
      rw [answerEvents, offer_events_eq, loud_installed, examined, summary, List.append_nil]
      exact (List.append_nil _).symm
  | evaluate m =>
      rw [answerEvents, loud_evaluation, answer, installed_same, examined, summary, List.append_nil, List.nil_append]
  | applyRejection m =>
      rw [answer, installed_same]
      rfl
  | process messages domain | processWithVerdicts messages domain | stage messages domain =>
      exact loud_process gate messages domain

theorem replaced_differs (gate : Gate) (m : Message) : gate.applyRejection m ≠ m := by
  intro same
  have rankings := congrArg (fun m => m.candidates.length) same
  simp [applyRejection, Message.candidates] at rankings

theorem rejections_rewritten (gate : Gate) (position : Nat) (messages : List Message)
    (decided : List (Message × Verdict)) (processed : gate.decideFrom position messages = .ok decided) :
    Rewritten messages (decided.map Prod.fst) (rejections decided) := by
  induction messages generalizing position decided with
  | nil =>
      cases processed
      exact .nil
  | cons m rest ih =>
      obtain ⟨verdict, tail, -, later, rfl⟩ := decide_from_cons_ok gate position m rest decided processed
      have others := ih (position + 1) tail later
      rw [rejections_cons, List.map_cons]
      cases accepted : verdict.isAccept with
      | true =>
          rw [afterVerdict, accepted, if_pos rfl, if_pos rfl, Nat.zero_add]
          exact .kept m others
      | false =>
          rw [afterVerdict, accepted, if_neg Bool.false_ne_true, if_neg Bool.false_ne_true, Nat.add_comm]
          exact .changed m _ (replaced_differs gate m) others

end IntentGate.Gate
