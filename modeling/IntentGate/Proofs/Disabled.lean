import IntentGate.Proofs.BatchFailure
import IntentGate.Proofs.WriteOnce

set_option autoImplicit false

namespace IntentGate.Gate

def bypassed (messages : List Message) : List (Message × Verdict) :=
  messages.map fun message => (message, .accept .disabled)

theorem bypassed_messages (messages : List Message) : (bypassed messages).map Prod.fst = messages := by
  simp [bypassed, Function.comp_def]

theorem decide_from_disabled (gate : Gate) (off : gate.config.enabled = false) (position : Nat)
    (messages : List Message) : gate.decideFrom position messages = .ok (bypassed messages) := by
  induction messages generalizing position with
  | nil => rfl
  | cons message rest ih =>
      have judged : gate.evaluate message = .ok (.accept .disabled) :=
        evaluate_of_settles gate message _ (.disabled off)
      rw [decideFrom, judged, ih (position + 1)]
      rfl

theorem process_with_verdicts_disabled (gate : Gate) (off : gate.config.enabled = false) (messages : List Message)
    (domain : Option DomainSchema) :
    (gate.processWithVerdicts messages domain).result =
      (gate.ensureIndex domain).result.map fun _ => bypassed messages := by
  have still : (gate.ensureIndex domain).gate.config.enabled = false := by rw [ensure_index_config, off]
  rw [process_with_verdicts_eq, decide_from_disabled _ still 0 messages]
  dsimp only
  cases (gate.ensureIndex domain).result <;> rfl

theorem process_disabled (gate : Gate) (off : gate.config.enabled = false) (messages : List Message)
    (domain : Option DomainSchema) :
    (gate.process messages domain).result = (gate.ensureIndex domain).result.map fun _ => messages := by
  change (gate.processWithVerdicts messages domain).result.map (List.map Prod.fst) = _
  rw [process_with_verdicts_disabled gate off]
  cases (gate.ensureIndex domain).result with
  | error e => rfl
  | ok done => exact congrArg Except.ok (bypassed_messages messages)

theorem build_bare_iff (config : RejectionConfig) (gate : Gate) :
    Gate.build config none none = .ok gate ↔ config.validate = .ok () ∧ gate = { config } := by
  unfold Gate.build
  rw [bind_ok_iff]
  constructor
  · rintro ⟨⟨⟩, valid, bare⟩
    exact ⟨(map_error_ok_iff _ _ _).mp valid, (Except.ok.inj bare).symm⟩
  · rintro ⟨valid, rfl⟩
    exact ⟨(), (map_error_ok_iff _ _ _).mpr valid, rfl⟩

theorem after_offer_ok_iff {α : Type} (gate : Gate) (domain : Option DomainSchema) (settled found : α) :
    (gate.ensureIndex domain).result.map (fun _ => settled) = .ok found ↔
      (∀ fault, ¬ Refuses gate domain fault) ∧ found = settled := by
  rw [map_ok_iff, ← ensure_index_ok_iff]
  constructor
  · rintro ⟨_, ensured, rfl⟩
    exact ⟨ensured, rfl⟩
  · rintro ⟨ensured, rfl⟩
    exact ⟨(), ensured, rfl⟩

-- `earlier` is any run of requests, so that the state is any that the gate can reach.
theorem disabled_passes_batches (config : RejectionConfig) (gate : Gate) (off : config.enabled = false)
    (built : Gate.build config none none = .ok gate) (earlier : List Request) (messages : List Message)
    (domain : Option DomainSchema) :
    let state := gate.after earlier
    (∀ output, (state.process messages domain).result = .ok output ↔
      (∀ fault, ¬ Refuses state domain fault) ∧ output = messages) ∧
    (∀ decided, (state.processWithVerdicts messages domain).result = .ok decided ↔
      (∀ fault, ¬ Refuses state domain fault) ∧ decided = messages.map fun message => (message, .accept .disabled)) ∧
    ∀ e, (state.process messages domain).result = .error e ↔
      ∃ fault, Refuses state domain fault ∧ e = .configuration (.declaration fault) := by
  intro state
  have still : state.config.enabled = false := by
    rw [after_config, ((build_bare_iff config gate).mp built).2, off]
  rw [process_disabled state still, process_with_verdicts_disabled state still]
  refine ⟨after_offer_ok_iff state domain messages, after_offer_ok_iff state domain (bypassed messages), fun e => ?_⟩
  rw [map_failed_iff, ensure_index_error_iff]

theorem disabled_passes_batches_bare :
    let config : RejectionConfig := { enabled := false }
    let gate : Gate := { config }
    let useful : DomainSchema :=
      { intents := [.object [("book", .object [("require_entities", .list [.text "city"])])]] }
    let malformed : DomainSchema := { intents := [.null] }
    Gate.build config none none = .ok gate ∧
      ((gate.after []).processWithVerdicts [{}, { text := "hi" }] (some useful)).result =
        .ok [({}, .accept .disabled), ({ text := "hi" }, .accept .disabled)] ∧
      ((gate.after [.process [{}] (some useful)]).process [{}] (some malformed)).result = .ok [{}] := by
  intro config gate useful malformed
  have built : Gate.build config none none = .ok gate := by
    unfold config gate
    rfl
  have useable : ∀ fault, ¬ Refuses (gate.after []) (some useful) fault :=
    (ensure_index_ok_iff _ _).mp (by with_unfolding_all rfl)
  have superfluous : ∀ fault, ¬ Refuses (gate.after [.process [{}] (some useful)]) (some malformed) fault :=
    (ensure_index_ok_iff _ _).mp (by with_unfolding_all rfl)
  obtain ⟨-, first, -⟩ := disabled_passes_batches config gate rfl built [] [{}, { text := "hi" }] (some useful)
  obtain ⟨second, -, -⟩ :=
    disabled_passes_batches config gate rfl built [.process [{}] (some useful)] [{}] (some malformed)
  exact ⟨built, (first _).mpr ⟨useable, rfl⟩, (second _).mpr ⟨superfluous, rfl⟩⟩

theorem disabled_refuses_malformed :
    let config : RejectionConfig := { enabled := false }
    let gate : Gate := { config }
    let malformed : DomainSchema := { intents := [.null] }
    Gate.build config none none = .ok gate ∧
      (gate.process [{ text := "hi" }] (some malformed)).result =
        .error (.configuration (.declaration (.notIntent .null))) ∧
      (gate.process [{ text := "hi" }] (some malformed)).result ≠ .ok [{ text := "hi" }] := by
  intro config gate malformed
  have failed : (gate.process [{ text := "hi" }] (some malformed)).result =
      .error (.configuration (.declaration (.notIntent .null))) := rfl
  have built : Gate.build config none none = .ok gate := by
    unfold config gate
    rfl
  refine ⟨built, failed, ?_⟩
  rw [failed]
  intro passed
  cases passed

end IntentGate.Gate
