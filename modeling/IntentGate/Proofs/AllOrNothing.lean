import IntentGate.Proofs.Disabled
import IntentGate.Proofs.DomainFile
import IntentGate.Proofs.HandlerLife
import IntentGate.Proofs.LineReading
import IntentGate.Proofs.LineWriting
import IntentGate.Run

set_option autoImplicit false

namespace IntentGate.Call

open Text

inductive Offers (call : Call) (config : AppConfig) : Option DomainSchema → Prop where
  | bare (unset : config.domain.path = none) : Offers call config none
  | file (path : String) (schema : DomainSchema) (configured : config.domain.path = some path)
      (held : Holds (call.read path) schema) : Offers call config (some schema)

inductive Obstructed (call : Call) (config : AppConfig) : Prop where
  | line (line : Octets) (member : line ∈ lines call.input) (undecodable : Undecodable line)
  | domain (path : String) (configured : config.domain.path = some path) (unloadable : Unloadable (call.read path))
  | index (schema : DomainSchema) (fault : DeclarationFault) (offered : Offers call config (some schema))
      (unbuilt : RequirementIndex.build schema = .error fault)
  | message (messages : List Message) (m : Message) (field : NeededField)
      (spelled : List.Forall₂ Spells (filledLines call.input) messages) (member : m ∈ messages)
      (lacks : Gate.Lacks { config := config.rejection } m field)

def gate (config : AppConfig) : Gate := { config := config.rejection }

def handler (call : Call) (config : AppConfig) : Handler := { gate := gate config, provider := call.provider? config }

theorem gate_built (config : AppConfig) (valid : config.validate = .ok ()) :
    Gate.build config.rejection none none = .ok (gate config) := by
  obtain ⟨⟨⟩, settled, -⟩ := (bind_ok_iff _ _ _).mp valid
  exact (Gate.build_bare_iff config.rejection (gate config)).mpr ⟨settled, rfl⟩

theorem write_all {α : Type} (messages : List Message) (a : α) (console : Console) :
    (do
      messages.forM fun m => Action.write m.output
      return a : Action α).run console =
      (.ok a, { console with written := console.written ++ (messages.map Message.output).toArray }) := by
  induction messages generalizing console with
  | nil =>
      simp only [List.map_nil, Array.append_empty]
      rfl
  | cons m rest ih =>
      have later := ih { console with written := console.written.push m.output }
      have pieces : console.written.push m.output ++ (rest.map Message.output).toArray =
          console.written ++ ((m :: rest).map Message.output).toArray := by simp
      rw [← pieces]
      exact later

theorem execute_unread (call : Call) (config : AppConfig) (valid : config.validate = .ok ()) (e : InputError)
    (read : readMessages call.input = .error e) :
    (call.execute config).result = .error (.input e) ∧ (call.execute config).output = [] := by
  unfold execute perform
  rw [gate_built config valid, read]
  exact ⟨rfl, rfl⟩

theorem perform_read (call : Call) (config : AppConfig) (valid : config.validate = .ok ()) (messages : List Message)
    (read : readMessages call.input = .ok messages) :
    ∃ logged, (call.perform config).run {} = (finish (call.handler config) messages).run { logged } := by
  refine ⟨Gate.buildEvents config.rejection (gate config) ++ config.domain.path.toList.map .usingDomain, ?_⟩
  unfold perform
  rw [gate_built config valid, read]
  rfl

theorem finish_failed (h : Handler) (messages : List Message) (e : HandlerError)
    (failed : (h.handle messages).result = .error e) (console : Console) :
    (finish h messages).run console =
      (.error (.batch e), { console with logged := console.logged ++ h.handleEvents messages }) := by
  unfold finish
  rw [failed]
  rfl

theorem finish_through (h : Handler) (messages : List Message) (decided : List (Message × Verdict))
    (through : (h.handle messages).result = .ok decided) (console : Console) :
    (finish h messages).run console =
      (.ok (decided.map (·.1)),
        { logged := console.logged ++ h.handleEvents messages
          written := console.written ++ ((decided.map (·.1)).map Message.output).toArray }) := by
  unfold finish
  rw [through]
  exact write_all _ _ _

theorem execute_failed (call : Call) (config : AppConfig) (valid : config.validate = .ok ()) (messages : List Message)
    (read : readMessages call.input = .ok messages) (e : HandlerError)
    (failed : ((call.handler config).handle messages).result = .error e) :
    (call.execute config).result = .error (.batch e) ∧ (call.execute config).output = [] := by
  obtain ⟨logged, performed⟩ := call.perform_read config valid messages read
  unfold execute
  rw [performed, finish_failed _ messages e failed]
  exact ⟨rfl, rfl⟩

theorem execute_through (call : Call) (config : AppConfig) (valid : config.validate = .ok ()) (messages : List Message)
    (read : readMessages call.input = .ok messages) (decided : List (Message × Verdict))
    (through : ((call.handler config).handle messages).result = .ok decided) :
    (call.execute config).result = .ok (decided.map (·.1)) ∧
      (call.execute config).output = (decided.map (·.1)).flatMap Message.output := by
  obtain ⟨logged, performed⟩ := call.perform_read config valid messages read
  unfold execute
  rw [performed, finish_through _ messages decided through]
  refine ⟨rfl, ?_⟩
  simp [List.flatMap]

theorem offers_unique {call : Call} {config : AppConfig} {domain other : Option DomainSchema}
    (offered : Offers call config domain) (again : Offers call config other) : domain = other := by
  cases offered with
  | bare unset =>
      cases again with
      | bare => rfl
      | file path schema configured held => cases unset.symm.trans configured
  | file path schema configured held =>
      cases again with
      | bare unset => cases unset.symm.trans configured
      | file path' schema' configured' held' =>
          cases configured.symm.trans configured'
          have same := (load_domain_holds path _ schema held).symm.trans (load_domain_holds path _ schema' held')
          exact congrArg some (Except.ok.inj same)

theorem offers_or_unloadable (call : Call) (config : AppConfig) :
    (∃ domain, Offers call config domain) ∨
      ∃ path, config.domain.path = some path ∧ Unloadable (call.read path) := by
  cases configured : config.domain.path with
  | none => exact .inl ⟨none, .bare configured⟩
  | some path =>
      rcases holds_or_unloadable (call.read path) with ⟨schema, held⟩ | unloadable
      · exact .inl ⟨some schema, .file path schema configured held⟩
      · exact .inr ⟨path, rfl, unloadable⟩

theorem handle_unloadable (call : Call) (config : AppConfig) (messages : List Message) (path : String)
    (configured : config.domain.path = some path) (unloadable : Unloadable (call.read path)) :
    ∃ e, ((call.handler config).handle messages).result = .error (.domain e) := by
  obtain ⟨e, failed⟩ := load_domain_unloadable path _ unloadable
  have answer : (Provider.ofFile path (call.read path)).answer 0 = .error e := failed
  unfold handler provider?
  rw [configured]
  exact ⟨e, congrArg Handler.Outcome.result (Handler.handle_waiting_failed (gate config) _ 0 e answer messages)⟩

theorem handle_offers (call : Call) (config : AppConfig) (messages : List Message) (domain : Option DomainSchema)
    (offers : Offers call config domain) :
    ((call.handler config).handle messages).result =
      ((gate config).processWithVerdicts messages domain).result.mapError .gate := by
  unfold handler provider?
  cases offers with
  | bare unset =>
      rw [unset]
      exact congrArg Handler.Outcome.result (Handler.handle_settled { gate := gate config } rfl messages)
  | file path schema configured held =>
      have answer : (Provider.ofFile path (call.read path)).answer 0 = .ok schema :=
        load_domain_holds path (call.read path) schema held
      have supplied := Handler.handle_waiting_loaded (gate config) _ 0 schema answer messages
      rw [configured]
      exact congrArg Handler.Outcome.result (supplied.trans (Handler.handle_supplied (gate config) _ 1 schema messages))

structure Through (call : Call) (config : AppConfig) (domain : Option DomainSchema) (messages : List Message)
    (decided : List (Message × Verdict)) : Prop where
  read : readMessages call.input = .ok messages
  offered : Offers call config domain
  processed : ((gate config).processWithVerdicts messages domain).result = .ok decided

theorem through_unobstructed (call : Call) (config : AppConfig) (domain : Option DomainSchema)
    (messages : List Message) (decided : List (Message × Verdict))
    (through : Through call config domain messages decided) : ¬ Obstructed call config := by
  obtain ⟨read, offered, processed⟩ := through
  obtain ⟨ensured, length, pointwise⟩ := (Gate.process_with_verdicts_pointwise_iff _ _ _ _).mp processed
  have handled := call.handle_offers config messages domain offered
  intro obstructed
  cases obstructed with
  | line line member undecodable =>
      obtain ⟨e, defect⟩ := first_defect_exists 1 (lines call.input) line member undecodable
      cases read.symm.trans ((read_messages_error_iff call.input e).mpr defect)
  | domain path configured unloadable =>
      obtain ⟨e, failed⟩ := call.handle_unloadable config messages path configured unloadable
      rw [handled, processed] at failed
      cases failed
  | index schema fault loaded unbuilt =>
      cases offers_unique loaded offered
      exact (Gate.ensure_index_ok_iff (gate config) _).mp ensured fault ⟨rfl, schema, rfl, unbuilt⟩
  | message others m field spelled member lacks =>
      cases read.symm.trans ((read_messages_ok_iff call.input others).mpr spelled)
      obtain ⟨i, inBatch, rfl⟩ := List.mem_iff_getElem.mp member
      have judged := (pointwise i inBatch (length ▸ inBatch)).judged
      have still := Gate.lacks_elsewhere _ _ (Gate.ensure_index_config (gate config) domain) _ field lacks
      cases judged.symm.trans ((Gate.evaluate_error_iff _ _ _).mpr ⟨field, still, rfl⟩)

theorem unobstructed_through (call : Call) (config : AppConfig) (free : ¬ Obstructed call config) :
    ∃ domain messages decided, Through call config domain messages decided := by
  cases read : readMessages call.input with
  | error e =>
      obtain ⟨earlier, line, later, split, -, defect⟩ := (read_messages_error_iff call.input e).mp read
      exact absurd (.line line (by simp [split]) ⟨_, _, defect⟩) free
  | ok messages =>
      rcases call.offers_or_unloadable config with ⟨domain, offered⟩ | ⟨path, configured, unloadable⟩
      · cases processed : ((gate config).processWithVerdicts messages domain).result with
        | ok decided => exact ⟨domain, messages, decided, read, offered, processed⟩
        | error e =>
            rcases (Gate.process_with_verdicts_error_iff (gate config) messages domain e).mp processed with
              ⟨fault, ⟨-, schema, rfl, unbuilt⟩, -⟩ | ⟨-, i, source, first, -⟩
            · exact absurd (.index schema fault offered unbuilt) free
            · have spelled := (read_messages_ok_iff call.input messages).mp read
              have same := Gate.ensure_index_config (gate config) domain
              obtain ⟨field, lacks, -⟩ := (Gate.evaluate_error_iff _ _ source).mp first.fails
              have still := Gate.lacks_elsewhere _ (gate config) same.symm _ field lacks
              exact absurd (.message messages _ field spelled (List.getElem_mem first.inBatch) still) free
      · exact absurd (.domain path configured unloadable) free

theorem handle_through_iff (call : Call) (config : AppConfig) (messages : List Message)
    (decided : List (Message × Verdict)) :
    ((call.handler config).handle messages).result = .ok decided ↔
      ∃ domain, Offers call config domain ∧
        ((gate config).processWithVerdicts messages domain).result = .ok decided := by
  constructor
  · intro handled
    rcases call.offers_or_unloadable config with ⟨domain, offered⟩ | ⟨path, configured, unloadable⟩
    · rw [call.handle_offers config messages domain offered, map_error_ok_iff] at handled
      exact ⟨domain, offered, handled⟩
    · obtain ⟨e, failed⟩ := call.handle_unloadable config messages path configured unloadable
      cases failed.symm.trans handled
  · rintro ⟨domain, offered, processed⟩
    rw [call.handle_offers config messages domain offered, map_error_ok_iff]
    exact processed

theorem execute_of_through (call : Call) (config : AppConfig) (valid : config.validate = .ok ())
    (domain : Option DomainSchema) (messages : List Message) (decided : List (Message × Verdict))
    (through : Through call config domain messages decided) :
    (call.execute config).result = .ok (decided.map (·.1)) ∧
      (call.execute config).output = (decided.map (·.1)).flatMap Message.output :=
  call.execute_through config valid messages through.read decided
    ((call.handle_through_iff config messages decided).mpr ⟨domain, through.offered, through.processed⟩)

theorem execute_obstructed (call : Call) (config : AppConfig) (valid : config.validate = .ok ())
    (obstructed : Obstructed call config) :
    (∃ e, (call.execute config).result = .error e) ∧ (call.execute config).output = [] := by
  cases read : readMessages call.input with
  | error e =>
      have unread := call.execute_unread config valid e read
      exact ⟨⟨_, unread.1⟩, unread.2⟩
  | ok messages =>
      cases handled : ((call.handler config).handle messages).result with
      | error e =>
          have failed := call.execute_failed config valid messages read e handled
          exact ⟨⟨_, failed.1⟩, failed.2⟩
      | ok decided =>
          obtain ⟨domain, offered, processed⟩ := (call.handle_through_iff config messages decided).mp handled
          exact absurd obstructed (through_unobstructed call config domain messages decided ⟨read, offered, processed⟩)

theorem loaded_valid (call : Call) (config : AppConfig) (loaded : call.config = .ok config) :
    config.validate = .ok () ∧ call.run = call.execute config := by
  obtain ⟨read, -, checked⟩ := (bind_ok_iff _ _ _).mp loaded
  obtain ⟨⟨⟩, valid, last⟩ := (bind_ok_iff _ _ _).mp checked
  cases last
  refine ⟨(map_error_ok_iff _ _ _).mp valid, ?_⟩
  unfold run
  rw [loaded]

theorem run_all_or_nothing (call : Call) (config : AppConfig) (valid : config.validate = .ok ()) :
    (Obstructed call config → (∃ e, (call.execute config).result = .error e) ∧ (call.execute config).exitCode = 1 ∧
      (call.execute config).output = []) ∧
    (¬ Obstructed call config → ∃ domain messages outputs written,
      Offers call config domain ∧ List.Forall₂ Spells (filledLines call.input) messages ∧
      (Gate.process { config := config.rejection } messages domain).result = .ok outputs ∧
      (call.execute config).result = .ok outputs ∧ (call.execute config).exitCode = 0 ∧
      outputs.length = (filledLines call.input).length ∧
      List.Forall₂ WrittenOn outputs written ∧
      (call.execute config).output = written.flatMap (· ++ [lineFeed]) ∧
      lines (call.execute config).output = written) ∧
    (∀ line ∈ lines call.input, Undecodable line →
      ∃ e, FirstDefect 1 (lines call.input) e ∧ (call.execute config).result = .error (.input e)) ∧
    Gate.build config.rejection none none = .ok { config := config.rejection } ∧
    ∀ loaded, call.config = .ok loaded → loaded.validate = .ok () ∧ call.run = call.execute loaded := by
  refine ⟨fun obstructed => ?_, fun free => ?_, fun line member undecodable => ?_, gate_built config valid,
    fun loaded => call.loaded_valid loaded⟩
  · obtain ⟨⟨e, failed⟩, silent⟩ := call.execute_obstructed config valid obstructed
    refine ⟨⟨e, failed⟩, ?_, silent⟩
    unfold Report.exitCode
    rw [failed]
    rfl
  · obtain ⟨domain, messages, decided, through⟩ := call.unobstructed_through config free
    obtain ⟨result, output⟩ := call.execute_of_through config valid domain messages decided through
    have spelled := (read_messages_ok_iff call.input messages).mp through.read
    obtain ⟨-, length, -⟩ := (Gate.process_with_verdicts_pointwise_iff _ _ _ _).mp through.processed
    refine ⟨domain, messages, decided.map (·.1), (decided.map (·.1)).map fun m => encode m.line, through.offered,
      spelled, ?_, result, ?_, ?_, written_on_lines _, ?_, ?_⟩
    · exact congrArg (Except.map (List.map Prod.fst)) through.processed
    · unfold Report.exitCode
      rw [result]
      rfl
    · rw [List.length_map, length, spelled.length_eq]
    · rw [output, output_of_lines]
    · rw [output, lines_of_output]
  · obtain ⟨e, defect⟩ := first_defect_exists 1 (lines call.input) line member undecodable
    have unread := (read_messages_error_iff call.input e).mpr defect
    exact ⟨e, defect, (call.execute_unread config valid e unread).1⟩

theorem run_all_or_nothing_mixed :
    let config : AppConfig := { domain := { path := some "domain.yml" } }
    let content := encode "intents:\n- greet\n- book: \x7brequire_entities: [city]\x7d\n"
    let sure := encode "\x7b\"intent\":\x7b\"name\":\"greet\",\"confidence\":0.9\x7d\x7d"
    let unsure := encode "\x7b\"intent\":\x7b\"name\":\"book\",\"confidence\":1\x7d\x7d"
    let mixed : Call := { env := [], read := fun _ => .ok content, input := sure ++ [13, 10, 32, 10] ++ unsure ++ [10] }
    let broken : Call := { env := [], read := fun _ => .error .notFound, input := sure ++ [10, 255, 10] ++ unsure }
    config.validate = .ok () ∧
      ((mixed.execute config).exitCode = 0 ∧ (lines (mixed.execute config).output).length = 2) ∧
      (broken.execute config).exitCode = 1 ∧ (broken.execute config).output = [] ∧
        ∃ e, (broken.execute config).result = .error (.input e) := by
  intro config content sure unsure mixed broken
  have valid : config.validate = .ok () := by
    unfold config
    rfl
  have exit : (mixed.execute config).exitCode = 0 := by
    unfold mixed config content sure unsure
    decide +kernel
  have filled : (filledLines mixed.input).length = 2 := by
    unfold mixed sure unsure
    decide +kernel
  have member : [255] ∈ lines broken.input := by
    unfold broken sure unsure
    decide +kernel
  have undecodable : Undecodable [255] := ⟨1, _, .notText (by decide +kernel)⟩
  obtain ⟨stops, goes, -⟩ := run_all_or_nothing mixed config valid
  obtain ⟨fails, -, first, -⟩ := run_all_or_nothing broken config valid
  have free : ¬ Obstructed mixed config := by
    intro obstructed
    obtain ⟨-, failed, -⟩ := stops obstructed
    cases exit.symm.trans failed
  obtain ⟨_, _, outputs, _, -, -, -, -, -, count, written, -, read⟩ := goes free
  obtain ⟨-, failed, silent⟩ := fails (.line [255] member undecodable)
  obtain ⟨e, -, unread⟩ := first [255] member undecodable
  refine ⟨valid, ⟨exit, ?_⟩, failed, silent, e, unread⟩
  rw [read, ← written.length_eq, count, filled]

end IntentGate.Call
