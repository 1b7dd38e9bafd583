import IntentGate.Gate.Builder
import IntentGate.Proofs.HandlerLife
import IntentGate.Proofs.OpenIndex
import IntentGate.Proofs.RequestLog

set_option autoImplicit false

namespace IntentGate.Gate

def installs : Event → Bool
  | .installedIndex _ => true
  | _ => false

def held (gate : Gate) : Nat := if gate.index.isSome then 1 else 0

theorem count_installs_loud (events : List Event) : events.countP installs = (loud events).countP installs := by
  unfold loud
  rw [List.countP_filter]
  refine List.countP_congr fun e _ => ?_
  cases e <;> simp [installs, Event.level, Level.rank]

theorem count_installed (before after : Gate) : (installed before after).countP installs = (installed before after).length := by
  unfold installed
  split <;> rfl

theorem count_answer (gate : Gate) (request : Request) :
    (gate.answerEvents request).countP installs = (installed gate (gate.answer request).2).length := by
  have noWarning : (warnings gate (examined gate request)).countP installs = 0 := by
    rw [List.countP_eq_zero]
    intro e member
    rw [List.eq_of_mem_replicate member]
    exact Bool.false_ne_true
  have noSummary : (summary gate request).countP installs = 0 := by
    have silent (messages : List Message) (result : Except GateError (List (Message × Verdict))) :
        (summaryOf messages result).countP installs = 0 := by cases result <;> rfl
    cases request with
    | ensureIndex domain | evaluate m | applyRejection m => rfl
    | process messages domain | processWithVerdicts messages domain | stage messages domain =>
        exact silent messages (gate.processWithVerdicts messages domain).result
  rw [count_installs_loud, loud_answer, List.countP_append, List.countP_append, noWarning, noSummary, count_installed]
  rfl

theorem held_answer (gate : Gate) (request : Request) :
    held gate + (installed gate (gate.answer request).2).length = held (gate.answer request).2 := by
  cases state : gate.index with
  | some index =>
      rw [answer_installed gate index state request, installed_same]
      rfl
  | none =>
      simp only [held, installed, state]
      cases (gate.answer request).2.index <;> rfl

theorem held_after (gate : Gate) (requests : List Request) :
    held gate + (gate.log requests).countP installs = held (gate.after requests) := by
  induction requests generalizing gate with
  | nil => rfl
  | cons request rest ih =>
      rw [log, List.countP_append, count_answer, ← Nat.add_assoc, held_answer, ih (gate.answer request).2, after_cons]

theorem log_append (gate : Gate) (first second : List Request) :
    gate.log (first ++ second) = gate.log first ++ (gate.after first).log second := by
  induction first generalizing gate with
  | nil => rfl
  | cons request rest ih => rw [List.cons_append, log, log, ih, after_cons, List.append_assoc]

theorem installed_bare (config : RejectionConfig) (gate : Gate) :
    installed { config } gate = gate.index.toList.flatMap installEvents := by
  unfold installed
  cases gate.index <;> rfl

theorem builder_events_eq (builder : Builder) (gate : Gate) (built : builder.build = .ok gate) :
    builder.events = buildEvents builder.config gate := by
  obtain ⟨⟨⟩, valid, made⟩ := (bind_ok_iff _ _ _).mp built
  unfold Builder.events buildEvents
  rw [(map_error_ok_iff _ _ _).mp valid, ← installed_bare builder.config gate]
  refine congrArg (builder.config.unimplemented.map Event.ignoredFeature ++ ·) ?_
  cases given : builder.index with
  | some index =>
      rw [given] at made
      cases made
      rfl
  | none =>
      rw [given] at made
      have offered : gate = (ensureIndex { config := builder.config } builder.domain).gate :=
        offer_ok _ gate builder.domain made
      rw [offered]
      exact offer_events_eq { config := builder.config } builder.domain

theorem loud_build (config : RejectionConfig) (gate : Gate) :
    loud (buildEvents config gate) = config.unimplemented.map .ignoredFeature ++ installed { config } gate := by
  have features : loud (config.unimplemented.map .ignoredFeature) = config.unimplemented.map .ignoredFeature := by
    unfold loud
    rw [List.filter_eq_self]
    intro e member
    obtain ⟨feature, -, rfl⟩ := List.mem_map.mp member
    rfl
  unfold buildEvents
  rw [← installed_bare config gate, loud_append, features, loud_installed]

theorem count_build (config : RejectionConfig) (gate : Gate) : (buildEvents config gate).countP installs = held gate := by
  have noFeature : (config.unimplemented.map Event.ignoredFeature).countP installs = 0 := by
    rw [List.countP_eq_zero]
    intro e member
    obtain ⟨feature, -, rfl⟩ := List.mem_map.mp member
    exact Bool.false_ne_true
  rw [count_installs_loud, loud_build, List.countP_append, noFeature, count_installed, Nat.zero_add]
  unfold installed held
  cases gate.index <;> rfl

end IntentGate.Gate

namespace IntentGate.Handler

open Gate

theorem loud_load (h : Handler) : loud h.loadEvents = [] := by
  unfold loadEvents
  split
  · rename_i provider answer _ _
    cases answer with
    | error e => rfl
    | ok schema =>
        unfold Provider.events
        cases provider.path <;> rfl
  · rfl

theorem load_gate (h : Handler) : h.load.2.gate = h.gate := by
  unfold load
  split <;> rfl

-- The count of the report and the counter of the gate are taken in different ways.
theorem finish_events_eq (h : Handler) (decided : List (Message × Verdict)) :
    h.finishEvents (.ok (.ofDecided decided)) = [.finishedStage decided.length (rejections decided) h.gate.config.method] := by
  have counted : (BatchReport.ofDecided decided).rejectedCount = rejections decided := by
    rw [of_decided_eq]
    unfold BatchReport.rejectedCount rejections
    rw [← List.countP_eq_length_filter, List.countP_map]
    rfl
  rw [finishEvents, counted, of_decided_eq, List.length_map]

def conclusion (h : Handler) (messages : List Message) : Except GateError (List (Message × Verdict)) → List Event
  | .ok decided => [.finishedStage messages.length (rejections decided) h.gate.config.method]
  | .error _ => []

theorem loud_handle_unloaded (h : Handler) (messages : List Message) (e : LoadError) (failed : h.load.1 = .error e) :
    (h.handle messages).result = .error (.domain e) ∧ loud (h.handleEvents messages) = [] := by
  have silent := h.loud_load
  unfold handle handleEvents
  generalize h.load = load at failed
  obtain ⟨result, state⟩ := load
  subst failed
  exact ⟨rfl, (loud_append _ _).trans (by rw [silent]; rfl)⟩

theorem loud_handle (h : Handler) (messages : List Message) (loaded : h.load.1 = .ok ()) :
    let outcome := h.gate.processWithVerdicts messages h.load.2.offered
    loud (h.handleEvents messages) =
      installed h.gate outcome.gate ++ warnings h.gate (examinedIn messages outcome.result) ++
        summaryOf messages outcome.result ++ h.conclusion messages outcome.result := by
  intro outcome
  have handled := handle_loaded h loaded messages
  have onGate := loud_process h.gate messages h.load.2.offered
  rw [load_gate] at handled
  have reported : (h.handle messages).report = (outcome.result.mapError .gate).map .ofDecided := by
    rw [Outcome.report, handled]
  have events : h.handleEvents messages = h.loadEvents ++
      (h.gate.processEvents messages h.load.2.offered ++ h.finishEvents (h.handle messages).report) := by
    rw [← load_gate h]
    unfold handleEvents
    generalize h.load = load at loaded
    obtain ⟨result, state⟩ := load
    subst loaded
    rfl
  rw [events, reported, loud_append, loud_load, List.nil_append, loud_append, onGate]
  refine (List.append_right_inj _).mpr ?_
  cases processed : outcome.result with
  | error e => rfl
  | ok decided =>
      obtain ⟨-, length, -⟩ := (process_with_verdicts_pointwise_iff _ _ _ _).mp processed
      have finish := h.finish_events_eq decided
      rw [length] at finish
      exact congrArg loud finish

theorem handle_on_gate (h : Handler) (messages : List Message) (loaded : h.load.1 = .ok ()) :
    let outcome := h.gate.processWithVerdicts messages h.load.2.offered
    (h.handle messages).result = outcome.result.mapError .gate ∧ (h.handle messages).handler.gate = outcome.gate := by
  rw [handle_loaded h loaded messages, load_gate]
  exact ⟨rfl, rfl⟩

theorem handle_agrees (h : Handler) (messages : List Message) :
    (∀ e, (h.handle messages).result = .error (.domain e) → loud (h.handleEvents messages) = []) ∧
    (∀ e, (h.handle messages).result = .error (.gate e) → loud (h.handleEvents messages) =
      installed h.gate (h.handle messages).handler.gate ++ warnings h.gate (examinedIn messages (.error e))) ∧
    ∀ decided, (h.handle messages).result = .ok decided → loud (h.handleEvents messages) =
      installed h.gate (h.handle messages).handler.gate ++ warnings h.gate messages ++
        [.processedBatch messages.length (rejections decided),
         .finishedStage messages.length (rejections decided) h.gate.config.method] := by
  cases load : h.load.1 with
  | error e =>
      obtain ⟨failed, silent⟩ := h.loud_handle_unloaded messages e load
      rw [failed, silent]
      refine ⟨fun _ _ => rfl, fun _ other => ?_, fun _ other => ?_⟩
      · cases other
      · cases other
  | ok done =>
      obtain ⟨result, left⟩ := h.handle_on_gate messages load
      have told := h.loud_handle messages load
      rw [result, left, told]
      cases (h.gate.processWithVerdicts messages h.load.2.offered).result with
      | error e =>
          refine ⟨fun _ failed => ?_, fun _ failed => ?_, fun _ failed => ?_⟩
          · cases failed
          · cases failed
            rw [summaryOf, conclusion, List.append_nil, List.append_nil]
          · cases failed
      | ok decided =>
          refine ⟨fun _ through => ?_, fun _ through => ?_, fun _ through => ?_⟩
          · cases through
          · cases through
          · cases through
            rw [summaryOf, conclusion, examinedIn, List.append_assoc]
            rfl

theorem log_agrees (builder : Builder) (gate : Gate) (built : builder.build = .ok gate) (requests : List Request) :
    let state := gate.after requests
    loud builder.events =
      builder.config.unimplemented.map .ignoredFeature ++ installed { config := builder.config } gate ∧
    (builder.events ++ gate.log requests).countP installs = (if state.index.isSome then 1 else 0) ∧
    (∀ request, gate.log (requests ++ [request]) = gate.log requests ++ state.answerEvents request ∧
      loud (state.answerEvents request) = installed state (gate.after (requests ++ [request])) ++
        warnings state (examined state request) ++ summary state request) ∧
    (∀ messages domain,
      (state.process messages domain).result =
        (state.processWithVerdicts messages domain).result.map (List.map Prod.fst) ∧
      ∀ decided, (state.processWithVerdicts messages domain).result = .ok decided →
        Rewritten messages (decided.map Prod.fst) (rejections decided)) ∧
    ∀ (h : Handler) (messages : List Message), h.gate = state →
      (∀ e, (h.handle messages).result = .error (.domain e) → loud (h.handleEvents messages) = []) ∧
      (∀ e, (h.handle messages).result = .error (.gate e) → loud (h.handleEvents messages) =
        installed state (h.handle messages).handler.gate ++ warnings state (examinedIn messages (.error e))) ∧
      ∀ decided, (h.handle messages).result = .ok decided → loud (h.handleEvents messages) =
        installed state (h.handle messages).handler.gate ++ warnings state messages ++
          [.processedBatch messages.length (rejections decided),
           .finishedStage messages.length (rejections decided) state.config.method] := by
  intro state
  have begun := builder_events_eq builder gate built
  refine ⟨?_, ?_, fun request => ⟨?_, ?_⟩, fun messages domain => ⟨rfl, fun decided processed => ?_⟩, fun h messages same => ?_⟩
  · rw [begun, loud_build]
  · rw [List.countP_append, begun, count_build, held_after]
    rfl
  · rw [log_append, log, log, List.append_nil]
  · have last : gate.after (requests ++ [request]) = (state.answer request).2 := List.foldl_append
    rw [last, loud_answer]
  · obtain ⟨-, decisions⟩ := (process_with_verdicts_ok_iff state messages domain decided).mp processed
    exact rejections_rewritten _ 0 messages decided decisions
  · rw [← same]
    exact h.handle_agrees messages

theorem log_agrees_mixed :
    let useful : DomainSchema :=
      { intents := [.object [("book", .object [("require_entities", .list [.text "city"])])]] }
    let config : RejectionConfig := { forceFinal := false }
    let sure : Message := { intent := some { name := "greet", confidence := some 1 }, isFinal := some true }
    let unsure : Message := { intent := some { name := "greet", confidence := some 0 } }
    let lacking : Message := { isFinal := some true }
    let first : Request := .process [sure, lacking, sure] (some useful)
    let gate : Gate := { config }
    let h : Handler := { gate := gate.after [first] }
    Gate.Builder.build { config } = .ok gate ∧
      loud (gate.answerEvents first) = [.installedIndex 1, .finalIgnored, .finalIgnored] ∧
      (Gate.Builder.events { config } ++ gate.log [first]).countP installs = 1 ∧
      loud (h.handleEvents [sure, unsure, unsure]) =
        [.finalIgnored, .processedBatch 3 2, .finishedStage 3 2 config.method] := by
  intro useful config sure unsure lacking first gate h
  have built : Gate.Builder.build { config } = .ok gate := by
    unfold config gate
    rfl
  obtain ⟨-, -, steps, -⟩ := log_agrees { config } gate built []
  obtain ⟨-, count, -, -, handles⟩ := log_agrees { config } gate built [first]
  obtain ⟨-, -, through⟩ := handles h [sure, unsure, unsure] rfl
  obtain ⟨-, told⟩ := steps first
  have went : (h.handle [sure, unsure, unsure]).result =
      .ok [(sure, .accept .fullUtterance), (h.gate.applyRejection unsure, .reject (.belowDefaultThreshold 0 0.3)),
        (h.gate.applyRejection unsure, .reject (.belowDefaultThreshold 0 0.3))] := by
    unfold h gate first useful sure unsure lacking config
    rfl
  refine ⟨built, told.trans ?_, count.trans ?_, (through _ went).trans ?_⟩
  · unfold gate first useful sure lacking config
    rfl
  · unfold gate first useful sure lacking config
    rfl
  · unfold h gate first useful sure lacking config
    rfl

end IntentGate.Handler
