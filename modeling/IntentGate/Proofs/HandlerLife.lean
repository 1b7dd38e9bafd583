import IntentGate.Handler
import IntentGate.Proofs.Batch
import IntentGate.Proofs.BatchFailure
import IntentGate.Proofs.WriteOnce

set_option autoImplicit false

namespace IntentGate.Handler

def Unavailable (provider : Provider) (calls : Nat) : Prop :=
  ∀ call < calls, ∃ e, provider.answer call = .error e

structure FirstLoad (provider : Provider) (call : Nat) (schema : DomainSchema) : Prop where
  waited : Unavailable provider call
  loaded : provider.answer call = .ok schema

theorem unavailable_or_loaded (provider : Provider) (calls : Nat) :
    Unavailable provider calls ∨ ∃ call schema, call < calls ∧ FirstLoad provider call schema := by
  induction calls with
  | zero => exact .inl fun call before => absurd before (Nat.not_lt_zero call)
  | succ calls ih =>
      rcases ih with down | ⟨call, schema, before, first⟩
      · cases answer : provider.answer calls with
        | ok schema => exact .inr ⟨calls, schema, Nat.lt_succ_self calls, down, answer⟩
        | error e =>
            refine .inl fun call before => ?_
            rcases Nat.lt_succ_iff_lt_or_eq.mp before with earlier | rfl
            · exact down call earlier
            · exact ⟨e, answer⟩
      · exact .inr ⟨call, schema, Nat.lt_succ_of_lt before, first⟩

structure Mirrors (h : Handler) (messages : List Message) (domain : Option DomainSchema) : Prop where
  result : (h.handle messages).result = (h.gate.processWithVerdicts messages domain).result.mapError .gate
  gate : (h.handle messages).handler.gate = (h.gate.processWithVerdicts messages domain).gate

structure Reports (h : Handler) (messages : List Message) (report : BatchReport) : Prop where
  components : ∃ decided, (h.handle messages).result = .ok decided ∧ report.messages = decided.map Prod.fst ∧
    report.verdicts = decided.map Prod.snd
  everyMessage : report.messages.length = messages.length
  everyVerdict : report.verdicts.length = messages.length
  inOrder : ∀ i (inBatch : i < messages.length) (inMessages : i < report.messages.length)
    (inVerdicts : i < report.verdicts.length),
    Gate.Processed (h.handle messages).handler.gate messages[i] report.messages[i] report.verdicts[i]
  rejected : report.rejectedCount = report.verdicts.countP fun verdict => verdict.isReject

theorem after_append (h : Handler) (first second : List (List Message)) :
    h.after (first ++ second) = (h.after first).after second := List.foldl_append

theorem after_cons (h : Handler) (messages : List Message) (rest : List (List Message)) :
    h.after (messages :: rest) = (h.handle messages).handler.after rest := rfl

theorem handle_settled (h : Handler) (settled : h.loading? = none) (messages : List Message) :
    h.handle messages =
      { result := (h.gate.processWithVerdicts messages h.offered).result.mapError .gate
        handler := { h with gate := (h.gate.processWithVerdicts messages h.offered).gate } } := by
  simp only [handle, load, settled]

def waiting (gate : Gate) (provider : Provider) (calls : Nat) : Handler := { gate, provider := some provider, calls }

def supplied (gate : Gate) (provider : Provider) (calls : Nat) (schema : DomainSchema) : Handler :=
  { gate, provider := some provider, domain := some schema, calls }

theorem waiting_asks (gate : Gate) (provider : Provider) (calls : Nat) :
    (waiting gate provider calls).loading? = some (provider.answer calls) := rfl

theorem handle_waiting_failed (gate : Gate) (provider : Provider) (calls : Nat) (e : LoadError)
    (failed : provider.answer calls = .error e) (messages : List Message) :
    (waiting gate provider calls).handle messages =
      { result := .error (.domain e), handler := waiting gate provider (calls + 1) } := by
  simp only [handle, load, waiting_asks, failed]
  rfl

theorem handle_supplied (gate : Gate) (provider : Provider) (calls : Nat) (schema : DomainSchema)
    (messages : List Message) :
    (supplied gate provider calls schema).handle messages =
      { result := (gate.processWithVerdicts messages (some schema)).result.mapError .gate
        handler := supplied (gate.processWithVerdicts messages (some schema)).gate provider calls schema } :=
  handle_settled (supplied gate provider calls schema) rfl messages

theorem handle_waiting_loaded (gate : Gate) (provider : Provider) (calls : Nat) (schema : DomainSchema)
    (loaded : provider.answer calls = .ok schema) (messages : List Message) :
    (waiting gate provider calls).handle messages = (supplied gate provider (calls + 1) schema).handle messages := by
  rw [handle_supplied]
  simp only [handle, load, waiting_asks, loaded]
  rfl

theorem after_settled (h : Handler) (settled : h.loading? = none) (batches : List (List Message)) :
    h.after batches =
      { h with gate := h.gate.after (batches.map fun messages => .processWithVerdicts messages h.offered) } := by
  induction batches generalizing h with
  | nil => rfl
  | cons messages rest ih =>
      rw [after_cons, handle_settled h settled]
      exact ih { h with gate := (h.gate.processWithVerdicts messages h.offered).gate } settled

theorem after_waiting (gate : Gate) (provider : Provider) (calls : Nat) (batches : List (List Message))
    (down : ∀ i < batches.length, ∃ e, provider.answer (calls + i) = .error e) :
    (waiting gate provider calls).after batches = waiting gate provider (calls + batches.length) := by
  induction batches generalizing calls with
  | nil => rfl
  | cons messages rest ih =>
      obtain ⟨e, failed⟩ := down 0 (Nat.zero_lt_succ _)
      have later (i : Nat) (within : i < rest.length) : ∃ e, provider.answer (calls + 1 + i) = .error e := by
        rw [Nat.add_right_comm]
        exact down (i + 1) (Nat.succ_lt_succ within)
      rw [after_cons, handle_waiting_failed gate provider calls e failed, ih (calls + 1) later, List.length_cons,
        Nat.add_right_comm, Nat.add_assoc]

theorem after_unavailable (gate : Gate) (provider : Provider) (batches : List (List Message))
    (down : Unavailable provider batches.length) :
    (waiting gate provider 0).after batches = waiting gate provider batches.length := by
  have run := after_waiting gate provider 0 batches
  simp only [Nat.zero_add] at run
  exact run down

-- At the first domain the handler may still be waiting: the batch that comes next makes the call.
theorem after_first_load (gate : Gate) (provider : Provider) (call : Nat) (schema : DomainSchema)
    (first : FirstLoad provider call schema) (earlier : List (List Message)) (reached : call ≤ earlier.length) :
    let h := (waiting gate provider 0).after earlier
    let alone := gate.after ((earlier.drop call).map fun batch => .processWithVerdicts batch (some schema))
    h.gate = alone ∧ h.calls = min earlier.length (call + 1) ∧
      ∀ messages, h.handle messages = (supplied h.gate provider (call + 1) schema).handle messages := by
  intro h alone
  have loading := handle_waiting_loaded gate provider call schema first.loaded
  have taken : (earlier.take call).length = call := List.length_take_of_le reached
  have waited : (waiting gate provider 0).after (earlier.take call) = waiting gate provider call := by
    rw [after_unavailable gate provider (earlier.take call) (taken.symm ▸ first.waited), taken]
  have split : h = (waiting gate provider call).after (earlier.drop call) := by
    rw [← waited, ← after_append, List.take_append_drop]
  have lengths : (earlier.drop call).length = earlier.length - call := List.length_drop
  -- The run ends just where the domain is due, or its next batch has fetched it.
  cases rest : earlier.drop call with
  | nil =>
      have still : h = waiting gate provider call := by
        rw [split, rest]
        rfl
      simp only [rest, List.length_nil] at lengths
      simp only [alone, rest]
      rw [still]
      refine ⟨rfl, ?_, loading⟩
      change call = _
      omega
  | cons messages later =>
      have loaded : h = supplied alone provider (call + 1) schema := by
        rw [split, rest, after_cons, loading, ← after_cons, after_settled _ rfl]
        simp only [alone, rest]
        rfl
      simp only [rest, List.length_cons] at lengths
      rw [loaded]
      refine ⟨rfl, ?_, fun _ => rfl⟩
      change call + 1 = _
      omega

theorem handle_loaded (h : Handler) (loaded : h.load.1 = .ok ()) (messages : List Message) :
    h.handle messages =
      { result := (h.load.2.gate.processWithVerdicts messages h.load.2.offered).result.mapError .gate
        handler := { h.load.2 with gate := (h.load.2.gate.processWithVerdicts messages h.load.2.offered).gate } } := by
  unfold handle
  generalize h.load = outcome at loaded ⊢
  obtain ⟨result, state⟩ := outcome
  subst loaded
  rfl

theorem load_of_handle_ok (h : Handler) (messages : List Message) (decided : List (Message × Verdict))
    (finished : (h.handle messages).result = .ok decided) : h.load.1 = .ok () := by
  unfold handle at finished
  generalize h.load = outcome at finished ⊢
  obtain ⟨result, state⟩ := outcome
  cases result with
  | error e => cases finished
  | ok done => rfl

theorem of_decided_eq (decided : List (Message × Verdict)) :
    BatchReport.ofDecided decided = { messages := decided.map Prod.fst, verdicts := decided.map Prod.snd } := by
  simp only [BatchReport.ofDecided, List.unzip_eq_map]

theorem reports_of_ok (h : Handler) (messages : List Message) (report : BatchReport)
    (finished : (h.handle messages).report = .ok report) : Reports h messages report := by
  obtain ⟨decided, processed, rfl⟩ := (map_ok_iff _ _ _).mp finished
  have loaded := load_of_handle_ok h messages decided processed
  have handled := handle_loaded h loaded messages
  have decisions : (h.handle messages).handler.gate.decideFrom 0 messages = .ok decided := by
    rw [handled] at processed ⊢
    have onGate := (map_error_ok_iff _ _ _).mp processed
    rw [Gate.process_with_verdicts_eq]
    exact ((Gate.process_with_verdicts_ok_iff _ messages _ decided).mp onGate).2
  have length := Gate.decide_from_length _ 0 messages decided decisions
  rw [of_decided_eq]
  refine ⟨⟨decided, processed, rfl, rfl⟩, ?_, ?_, fun i inBatch inMessages inVerdicts => ?_, ?_⟩
  · rw [List.length_map, length]
  · rw [List.length_map, length]
  · have here := Gate.decide_from_pointwise _ 0 messages decided decisions i inBatch (length ▸ inBatch)
    simpa only [List.getElem_map] using here
  · exact List.countP_eq_length_filter.symm

theorem life_cycle (gate : Gate) (provider : Provider) (earlier : List (List Message)) (messages : List Message) :
    let h := ({ gate, provider := some provider } : Handler).after earlier
    let bare := ({ gate } : Handler).after earlier
    (Unavailable provider earlier.length ∨ ∃ call schema, call < earlier.length ∧ FirstLoad provider call schema) ∧
    (Unavailable provider earlier.length →
      h.calls = earlier.length ∧ h.domain = none ∧ h.gate = gate ∧
      (h.handle messages).handler.calls = earlier.length + 1 ∧
      ∀ e, provider.answer earlier.length = .error e → (h.handle messages).result = .error (.domain e) ∧
        (h.handle messages).handler.domain = h.domain ∧ (h.handle messages).handler.gate = h.gate) ∧
    (∀ call schema, FirstLoad provider call schema → call ≤ earlier.length →
      h.calls = min earlier.length (call + 1) ∧ (h.handle messages).handler.calls = call + 1 ∧
      (h.handle messages).handler.domain = some schema ∧ Mirrors h messages (some schema) ∧
      h.gate = gate.after ((earlier.drop call).map fun batch => .processWithVerdicts batch (some schema)) ∧
      ∀ fault, Gate.Refuses gate (some schema) fault →
        (h.handle messages).result = .error (.gate (.configuration (.declaration fault))) ∧
        (h.handle messages).handler.gate = gate) ∧
    (bare.calls = 0 ∧ (bare.handle messages).handler.calls = 0 ∧ Mirrors bare messages none ∧
      bare.gate = gate.after (earlier.map fun batch => .processWithVerdicts batch none)) ∧
    ∀ (state : Handler) report, (state.handle messages).report = .ok report → Reports state messages report := by
  intro h bare
  refine ⟨unavailable_or_loaded provider earlier.length, fun down => ?_, fun call schema first reached => ?_, ?_,
    fun state report => reports_of_ok state messages report⟩
  · have still : h = waiting gate provider earlier.length := after_unavailable gate provider earlier down
    rw [still]
    refine ⟨rfl, rfl, rfl, ?_, fun e failed => ?_⟩
    · cases answer : provider.answer earlier.length with
      | error e => rw [handle_waiting_failed gate provider _ e answer, waiting]
      | ok schema => rw [handle_waiting_loaded gate provider _ schema answer, handle_settled _ rfl, supplied]
    · rw [handle_waiting_failed gate provider _ e failed]
      exact ⟨rfl, rfl, rfl⟩
  · obtain ⟨state, calls, handles⟩ := after_first_load gate provider call schema first earlier reached
    have handled : h.handle messages = _ := (handles messages).trans (handle_supplied h.gate provider (call + 1) schema messages)
    rw [handled]
    refine ⟨calls, rfl, rfl, ⟨congrArg Outcome.result handled, congrArg (·.handler.gate) handled⟩, state,
      fun fault refused => ?_⟩
    have same : h.gate = gate := state.trans (Gate.after_refused gate (some schema) fault refused (earlier.drop call))
    rw [same, Gate.process_with_verdicts_refused gate messages (some schema) fault refused]
    exact ⟨rfl, rfl⟩
  · have settled : bare = _ := after_settled { gate } rfl earlier
    rw [settled]
    refine ⟨rfl, ?_, ⟨?_, ?_⟩, rfl⟩
    · rw [handle_settled _ rfl]
    · rw [handle_settled _ rfl]
      rfl
    · rw [handle_settled _ rfl]
      rfl

theorem life_cycle_late_domain :
    let gate : Gate := { config := {} }
    let sure : Message := { intent := some { name := "greet", confidence := some 1 } }
    let unsure : Message := { intent := some { name := "greet", confidence := some 0 } }
    let useful : DomainSchema :=
      { intents := [.object [("book", .object [("require_entities", .list [.text "city"])])]] }
    let late : Provider := .scripted (.error (.notFound "domain.yml")) [.ok useful]
    let malformed : Provider := .fixed { intents := [.null] }
    (({ gate, provider := some late } : Handler).handle [sure]).result = .error (.domain (.notFound "domain.yml")) ∧
      (({ gate, provider := some late } : Handler).after [[sure], [sure], [sure]]).calls = 2 ∧
      (∃ report, ((({ gate, provider := some late } : Handler).after [[sure]]).handle [sure, unsure]).report = .ok report ∧
        report.messages.length = 2 ∧ report.rejectedCount = 1) ∧
      ((({ gate, provider := some malformed } : Handler).after [[], [sure]]).handle [unsure]).result =
        .error (.gate (.configuration (.declaration (.notIntent .null)))) ∧
      ((({ gate, provider := some malformed } : Handler).after [[], [sure]]).handle [unsure]).handler.calls = 1 := by
  intro gate sure unsure useful late malformed
  have untried : Unavailable late 0 := fun call before => absurd before (Nat.not_lt_zero call)
  have first : FirstLoad late 1 useful := by
    refine ⟨fun call before => ?_, rfl⟩
    obtain rfl := Nat.lt_one_iff.mp before
    exact ⟨_, rfl⟩
  have immediate : FirstLoad malformed 0 { intents := [.null] } :=
    ⟨fun call before => absurd before (Nat.not_lt_zero call), rfl⟩
  have refused : Gate.Refuses gate (some { intents := [.null] }) (.notIntent .null) := ⟨rfl, _, rfl, rfl⟩
  obtain ⟨-, waits, -, -, -⟩ := life_cycle gate late [] [sure]
  obtain ⟨-, -, loads, -, -⟩ := life_cycle gate late [[sure], [sure], [sure]] []
  obtain ⟨-, -, keeps, -, -⟩ := life_cycle gate malformed [[], [sure]] [unsure]
  obtain ⟨-, -, -, -, reports⟩ := life_cycle gate late [[sure]] [sure, unsure]
  have reported : ((({ gate, provider := some late } : Handler).after [[sure]]).handle [sure, unsure]).report =
      .ok { messages := [sure, gate.applyRejection unsure]
            verdicts := [.accept .fullUtterance, .reject (.belowDefaultThreshold 0 0.3)] } := by
    unfold gate sure unsure late useful
    rfl
  obtain ⟨-, -, -, -, failure⟩ := waits untried
  obtain ⟨calls, -⟩ := loads 1 useful first (by decide)
  obtain ⟨-, once, -, -, -, stuck⟩ := keeps 0 _ immediate (by decide)
  have report := reports _ _ reported
  exact ⟨(failure _ rfl).1, calls, ⟨_, reported, report.everyMessage, report.rejected.trans rfl⟩, (stuck _ refused).1, once⟩

end IntentGate.Handler
