import IntentGate.Proofs.Acceptance
import IntentGate.Proofs.Segmentation

set_option autoImplicit false

namespace IntentGate.Gate

-- The message after so many rejections. Only the ranking tells them apart.
def stacked (gate : Gate) (message : Message) (rejections : Nat) : Message :=
  { message with
    intent := some { name := "nlu_fallback", confidence := some gate.config.thresholds.default }
    ranking := some (List.replicate rejections
      { name := "nlu_fallback", confidence := some gate.config.thresholds.default } ++ message.ranking.getD []) }

-- No pass fails on the domain on offer: it can be read, or there is an index by then.
def Usable (gate : Gate) : List (Option DomainSchema) → Prop
  | [] => True
  | domain :: rest => (∀ fault, ¬ Refuses gate domain fault) ∧ Usable (gate.ensureIndex domain).gate rest

theorem apply_rejection_first (gate : Gate) (message : Message) :
    gate.applyRejection message = stacked gate message 1 := rfl

theorem apply_rejection_again (gate : Gate) (message : Message) (rejections : Nat) :
    gate.applyRejection (stacked gate message rejections) = stacked gate message (rejections + 1) := rfl

theorem stacked_of_config (gate other : Gate) (same : other.config = gate.config) (message : Message)
    (rejections : Nat) : stacked other message rejections = stacked gate message rejections := by
  simp only [stacked, same]

theorem examined_of_config (gate other : Gate) (same : other.config = gate.config) (message : Message)
    (examined : Examines gate message) : Examines other message :=
  ⟨same ▸ examined.enabled, same ▸ examined.unforced⟩

theorem stacked_rejected (gate : Gate) (message : Message) (rejections : Nat) (examined : Examines gate message)
    (listed : "nlu_fallback" ∈ gate.config.excluded) :
    gate.evaluate (stacked gate message rejections) = .ok (.reject (.excludedIntent "nlu_fallback")) := by
  have again : Examines gate (stacked gate message rejections) := ⟨examined.enabled, examined.unforced⟩
  exact evaluate_of_settles gate _ _ (.excluded again gate.rejectionIntent rfl listed)

theorem judge_vacant (gate : Gate) (vacant : gate.index = none) (message : Message) (intent : String)
    (confidence : Float) (reason : RejectReason) (rejected : gate.judge message intent confidence = .reject reason) :
    gate.thresholdReason message intent confidence = some reason := by
  have unbound : gate.entityReason message intent = none := by
    rw [entity_reason_none_iff]
    intro _ index installed
    rw [vacant] at installed
    cases installed
  unfold judge at rejected
  cases found : gate.thresholdReason message intent confidence with
  | some other =>
      simp only [found, Option.orElse_some] at rejected
      exact congrArg some (Verdict.reject.inj rejected)
  | none => simp [found, unbound] at rejected

theorem rejected_after_offer (gate : Gate) (domain : Option DomainSchema) (message : Message) (reason : RejectReason)
    (rejected : gate.evaluate message = .ok (.reject reason)) :
    (gate.ensureIndex domain).gate.evaluate message = .ok (.reject reason) := by
  have config := ensure_index_config gate domain
  cases state : gate.index with
  | some index => rw [ensure_index_installed gate domain index state, rejected]
  | none =>
      obtain ⟨examined, intent, predicted, cause⟩ := rejected_cases gate message reason rejected
      have stillExamined := examined_of_config gate _ config message examined
      rcases cause with ⟨listed, rfl⟩ | ⟨allowed, confidence, scored, judged⟩
      · exact evaluate_of_settles _ message _ (.excluded stillExamined intent predicted (config ▸ listed))
      · have rejection := judge_vacant gate state message intent.name confidence reason judged
        have again : (gate.ensureIndex domain).gate.judge message intent.name confidence = .reject reason := by
          unfold thresholdReason at rejection
          unfold judge thresholdReason
          rw [config, rejection]
          rfl
        rw [← again]
        exact evaluate_of_settles _ message _
          (.judged stillExamined intent confidence predicted (config ▸ allowed) scored)

theorem single_pass (gate : Gate) (message : Message) (domain : Option DomainSchema) (verdict : Verdict)
    (usable : ∀ fault, ¬ Refuses gate domain fault)
    (judged : (gate.ensureIndex domain).gate.evaluate message = .ok verdict) :
    gate.processWithVerdicts [message] domain =
      { result := .ok [((gate.ensureIndex domain).gate.afterVerdict message verdict, verdict)]
        gate := (gate.ensureIndex domain).gate } := by
  rw [process_with_verdicts_ensured gate [message] domain ((ensure_index_ok_iff gate domain).mpr usable), decideFrom,
    judged]
  rfl

theorem reprocess_pass (gate : Gate) (message : Message) (domain : Option DomainSchema)
    (rest : List (Option DomainSchema)) (verdict : Verdict) (usable : ∀ fault, ¬ Refuses gate domain fault)
    (judged : (gate.ensureIndex domain).gate.evaluate message = .ok verdict) :
    gate.reprocess [message] (domain :: rest) =
      let later := (gate.ensureIndex domain).gate.reprocess
        [(gate.ensureIndex domain).gate.afterVerdict message verdict] rest
      { later with
        decided := [((gate.ensureIndex domain).gate.afterVerdict message verdict, verdict)] :: later.decided } := by
  rw [reprocess, single_pass gate message domain verdict usable judged]
  rfl

theorem reprocess_stacked (gate : Gate) (message : Message) (rejections : Nat) (examined : Examines gate message)
    (listed : "nlu_fallback" ∈ gate.config.excluded) (domains : List (Option DomainSchema))
    (usable : Usable gate domains) :
    let run := gate.reprocess [stacked gate message rejections] domains
    run.failure = none ∧ run.decided = (List.range domains.length).map fun pass =>
      [(stacked gate message (rejections + pass + 1), .reject (.excludedIntent "nlu_fallback"))] := by
  -- Each pass adds one rejection; the index that a domain may bring in between is of no account.
  induction domains generalizing gate rejections with
  | nil => exact ⟨rfl, rfl⟩
  | cons domain rest ih =>
      intro run
      have config := ensure_index_config gate domain
      have stillExamined := examined_of_config gate _ config message examined
      have stillListed : "nlu_fallback" ∈ (gate.ensureIndex domain).gate.config.excluded := config ▸ listed
      have judged := stacked_rejected _ message rejections stillExamined stillListed
      have stack := stacked_of_config gate _ config message
      obtain ⟨passed, outputs⟩ := ih (gate.ensureIndex domain).gate (rejections + 1) stillExamined stillListed usable.2
      rw [stack] at judged
      have first := reprocess_pass gate _ domain rest _ usable.1 judged
      have output : (gate.ensureIndex domain).gate.afterVerdict (stacked gate message rejections)
          (.reject (.excludedIntent "nlu_fallback")) = stacked gate message (rejections + 1) := by
        rw [← stack, ← stack]
        exact apply_rejection_again _ message rejections
      rw [output] at first
      simp only [stack] at passed outputs
      refine ⟨(congrArg StreamOutcome.failure first).trans passed, (congrArg StreamOutcome.decided first).trans ?_⟩
      dsimp only
      rw [outputs, List.length_cons, List.range_succ_eq_map, List.map_cons, List.map_map]
      refine congrArg (List.cons _) (List.map_congr_left fun pass _ => ?_)
      have count : rejections + 1 + pass + 1 = rejections + (pass + 1) + 1 := by omega
      rw [Function.comp_apply, count]

theorem reprocess_accepted (gate : Gate) (message : Message) (reason : AcceptReason)
    (accepted : gate.evaluate message = .ok (.accept reason)) (domains : List (Option DomainSchema))
    (same : ∀ domain ∈ domains, Indifferent gate domain) :
    gate.reprocess [message] domains =
      { decided := List.replicate domains.length [(message, .accept reason)], gate } := by
  induction domains with
  | nil => rfl
  | cons domain rest ih =>
      rw [List.forall_mem_cons] at same
      have indifferent := same.1
      unfold Indifferent at indifferent
      have usable := (ensure_index_ok_iff gate domain).mp (congrArg Outcome.result indifferent)
      have judged : (gate.ensureIndex domain).gate.evaluate message = .ok (.accept reason) := by
        rw [indifferent, accepted]
      have kept : gate.afterVerdict message (.accept reason) = message := rfl
      rw [reprocess_pass gate message domain rest _ usable judged, indifferent, kept, ih same.2]
      rfl

theorem reprocessing_stable (gate : Gate) (message : Message) :
    ("nlu_fallback" ∈ gate.config.excluded →
      ∀ (first : Option DomainSchema) (rest : List (Option DomainSchema)) (reason : RejectReason),
        Usable gate (first :: rest) →
        gate.evaluate message = .ok (.reject reason) ∨
          (gate.ensureIndex first).gate.evaluate message = .ok (.reject reason) →
        let run := gate.reprocess [message] (first :: rest)
        run.failure = none ∧
          run.decided = [(stacked gate message 1, .reject reason)] :: (List.range rest.length).map fun pass =>
            [(stacked gate message (pass + 2), .reject (.excludedIntent "nlu_fallback"))]) ∧
    ∀ reason, gate.evaluate message = .ok (.accept reason) →
      ∀ domains : List (Option DomainSchema), (∀ domain ∈ domains, Indifferent gate domain) →
        gate.reprocess [message] domains =
          { decided := List.replicate domains.length [(message, .accept reason)], gate } := by
  refine ⟨fun listed first rest reason usable rejects => ?_, reprocess_accepted gate message⟩
  intro run
  have config := ensure_index_config gate first
  have rejected : (gate.ensureIndex first).gate.evaluate message = .ok (.reject reason) :=
    rejects.elim (rejected_after_offer gate first message reason) id
  have opening := reprocess_pass gate message first rest _ usable.1 rejected
  have output : (gate.ensureIndex first).gate.afterVerdict message (.reject reason) =
      stacked (gate.ensureIndex first).gate message 1 := apply_rejection_first _ message
  obtain ⟨passed, outputs⟩ := reprocess_stacked (gate.ensureIndex first).gate message 1
    (rejected_cases _ message reason rejected).1 (config ▸ listed) rest usable.2
  rw [output] at opening
  refine ⟨(congrArg StreamOutcome.failure opening).trans passed, (congrArg StreamOutcome.decided opening).trans ?_⟩
  dsimp only
  rw [outputs, stacked_of_config gate _ config]
  refine congrArg (List.cons _) (List.map_congr_left fun pass _ => ?_)
  rw [stacked_of_config gate _ config, Nat.add_comm 1 pass]

theorem reprocessing_stable_booking :
    let gate : Gate := { config := {} }
    let doubtful : Message := { intent := some { name := "book", confidence := some 0 } }
    let sure : Message := { intent := some { name := "greet", confidence := some 1 } }
    let useful : DomainSchema :=
      { intents := [.object [("book", .object [("require_entities", .list [.text "city"])])]] }
    let malformed : DomainSchema := { intents := [.object [("book", .object [("require_entities", .text "city")])]] }
    let run := gate.reprocess [doubtful] [none, some useful, some malformed]
    run.failure = none ∧
      run.decided = [
        [(stacked gate doubtful 1, .reject (.belowDefaultThreshold 0 0.3))],
        [(stacked gate doubtful 2, .reject (.excludedIntent "nlu_fallback"))],
        [(stacked gate doubtful 3, .reject (.excludedIntent "nlu_fallback"))]] ∧
      gate.reprocess [sure] [none, none] =
        { decided := [[(sure, .accept .fullUtterance)], [(sure, .accept .fullUtterance)]], gate } := by
  intro gate doubtful sure useful malformed run
  have usable : Usable gate [none, some useful, some malformed] := by
    refine ⟨?_, ?_, ?_, trivial⟩
    all_goals
      refine (ensure_index_ok_iff _ _).mp ?_
      with_unfolding_all rfl
  have rejected : gate.evaluate doubtful = .ok (.reject (.belowDefaultThreshold 0 0.3)) := by
    unfold gate doubtful
    rfl
  have accepted : gate.evaluate sure = .ok (.accept .fullUtterance) := by
    unfold gate sure
    rfl
  have listed : "nlu_fallback" ∈ gate.config.excluded := by decide
  obtain ⟨passed, outputs⟩ := (reprocessing_stable gate doubtful).1 listed none [some useful, some malformed]
    (.belowDefaultThreshold 0 0.3) usable (.inl rejected)
  have kept := (reprocessing_stable gate sure).2 .fullUtterance accepted [none, none]
    fun domain member => by
      rw [List.eq_of_mem_replicate (n := 2) member]
      exact ensure_index_absent gate
  exact ⟨passed, outputs, kept⟩

end IntentGate.Gate
