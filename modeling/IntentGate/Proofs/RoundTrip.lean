import IntentGate.Proofs.JsonEffect
import IntentGate.Proofs.RepresentableMessage

set_option autoImplicit false

namespace IntentGate.Shape

open Json

variable {α β : Type}

def Restores (read : Value → Except Fault β) (write : β → Value) (b : β) : Prop := read (write b).sorted = .ok b

theorem option_obtained (read : Value → Except Fault β) (write : β → Value) (given : Option Value) (x : Option β)
    (shown : given = (x.map write).map Value.sorted) (there : ∀ b, x = some b → (write b).sorted ≠ .null)
    (restores : ∀ b, x = some b → Restores read write b) : Obtained (optionOf read) none given x := by
  subst shown
  cases x with
  | none => exact .absent
  | some b =>
      refine .given _ _ ?_
      have nonnull := there b rfl
      have restored : read (write b).sorted = .ok b := restores b rfl
      generalize (write b).sorted = v at nonnull restored ⊢
      have present : Source.option v = .ok (some v) := by
        cases v with
        | null => exact absurd rfl nonnull
        | _ => rfl
      simp only [optionOf, present, restored, bind, Except.bind]
      rfl

theorem list_restored (read : Value → Except Fault β) (write : β → Value) (l : List β)
    (each : ∀ b ∈ l, Restores read write b) : Restores (listOf read) (fun l => .list (l.map write)) l := by
  have all : ((l.map write).map Value.sorted).mapM read = .ok l := by
    induction l with
    | nil => rfl
    | cons b rest ih =>
        obtain ⟨first, later⟩ := List.forall_mem_cons.mp each
        have here : read (write b).sorted = .ok b := first
        rw [List.map_cons, List.map_cons, List.mapM_cons, here, ih later]
        rfl
  unfold Restores
  rw [Value.sorted, sorted_items_eq]
  simp only [listOf, Source.list, all, bind, Except.bind]
  rfl

structure Written (parts : List (String × Option Value)) (extra entries : Fields) : Prop where
  ascending : Keyed.Ascending entries
  found : ∀ key, Keyed.get? entries key = ((Keyed.get? parts key).getD (Keyed.get? extra key)).map Value.sorted

theorem written_entries (keys names : List String) (parts : List (String × Option Value)) (extra : Fields)
    (beside : Beside keys extra) (listed : parts.map (·.1) = names) (distinct : names.Nodup)
    (own : ∀ key ∈ names, key ∈ keys) :
    ∃ entries, (Value.object (present parts ++ extra)).sorted = .object entries ∧ Written parts extra entries := by
  subst listed
  obtain ⟨entries, sorted, ascending, found⟩ := written_object parts extra distinct
    (fields_ascending extra beside.proper) fun key member => beside.apart key (own key member)
  exact ⟨entries, sorted, ascending, found⟩

theorem get_part (parts : List (String × Option Value)) (extra entries : Fields)
    (written : Written parts extra entries) (key : String) (value : Option Value)
    (part : Keyed.get? parts key = some value) : Keyed.get? entries key = value.map Value.sorted := by
  rw [written.found, part, Option.getD_some]

theorem given_part {parts : List (String × Option Value)} {extra entries : Fields} (written : Written parts extra entries)
    {need : Need} {name : String} {read : Value → Except Fault β} {set : β → α → α} {value : Option Value}
    (part : Keyed.get? parts name = some value) : (field need name read set).given? entries = value.map Value.sorted :=
  (field_given need name read set entries).trans (get_part parts extra entries written name value part)

theorem extra_restored (fields : List (Field Value α)) (keys names : List String) (parts : List (String × Option Value))
    (extra entries : Fields) (written : Written parts extra entries) (beside : Beside keys extra)
    (claimed : ∀ key, fields.any (·.answers key) = true → key ∈ keys) (listed : parts.map (·.1) = names)
    (named : ∀ key ∈ names, fields.any (·.answers key) = true) :
    Keyed.insertAll (unclaimed fields entries) [] = extra := by
  subst listed
  refine Keyed.ext_ascending _ _ (extra_ascends fields entries) (fields_ascending extra beside.proper) fun key => ?_
  rw [get_extra fields entries written.ascending]
  cases own : fields.any (·.answers key) with
  | true => rw [if_pos rfl, beside.apart key (claimed key own)]
  | false =>
      have unlisted : key ∉ parts.map (·.1) := by
        intro member
        rw [named key member] at own
        cases own
      rw [if_neg Bool.false_ne_true, written.found, Keyed.get_unlisted parts key unlisted, Option.getD_none]
      cases kept : Keyed.get? extra key with
      | none => rfl
      | some v => rw [Option.map_some, proper_sorted v (get_proper extra beside.proper key v kept)]

theorem record_restored (name : String) (fields : List (Field Value α)) (keep : String → Value → α → α)
    (start base a : α) (keys names : List String) (parts : List (String × Option Value)) (extra : Fields)
    (lawful : Lawful fields keep) (beside : Beside keys extra) (listed : parts.map (·.1) = names)
    (distinct : names.Nodup) (own : ∀ key ∈ names, key ∈ keys)
    (claimed : ∀ key, fields.any (·.answers key) = true → key ∈ keys)
    (named : ∀ key ∈ names, fields.any (·.answers key) = true)
    (read : ∀ entries, Written parts extra entries →
      Unrepeated fields entries ∧ Complete fields entries ∧ fill fields entries start = some base)
    (kept : ∀ members, Keyed.insertAll members [] = extra → keepAll keep members base = a) :
    readOpen name fields keep start (Value.object (present parts ++ extra)).sorted = .ok a := by
  obtain ⟨entries, sorted, written⟩ := written_entries keys names parts extra beside listed distinct own
  obtain ⟨unrepeated, complete, filled⟩ := read entries written
  have apart := extra_restored fields keys names parts extra entries written beside claimed listed named
  rw [sorted]
  exact (read_members_iff fields keep _ lawful (fun _ _ _ => rfl) start a entries).mpr
    ⟨unrepeated, complete, by rw [filled, Option.map_some, kept _ apart]⟩

end IntentGate.Shape

namespace IntentGate

open Json Shape Canonical

theorem text_obtained (given : Option Value) (s : String) (shown : given = (some (Value.text s)).map Value.sorted) :
    Obtained textOf "" given s := by
  subst shown
  exact .given _ _ rfl

theorem confidence_obtained (given : Option Value) (x : Option Float)
    (shown : given = (x.map Value.ofFloat).map Value.sorted) (finite : ∀ c, x = some c → c.isFinite = true) :
    Obtained (optionOf Source.float) none given x := by
  refine option_obtained Source.float Value.ofFloat given x shown (fun c present => ?_) fun c present => ?_
  · rw [of_float_sorted c (finite c present)]
    exact Value.noConfusion
  · unfold Restores
    rw [of_float_sorted c (finite c present)]
    rfl

theorem values_restored (l : List Value) (proper : ∀ v ∈ l, v.Proper) : Restores (listOf JsonSource.value) Value.list l := by
  have restored := list_restored (β := Value) JsonSource.value id l fun v member => by
    unfold Restores
    rw [id, proper_sorted v (proper v member)]
    rfl
  simpa only [Restores, List.map_id] using restored

theorem label_restored (label : Label) : Restores readLabel Label.written label := by
  cases label <;> rfl

theorem label_there (label : Label) : label.written.sorted ≠ .null := by
  cases label <;> exact Value.noConfusion

theorem intent_restored (i : Intent) (representable : i.Representable) : Restores readIntent Intent.written i := by
  unfold Restores
  rw [intent_written]
  refine record_restored _ _ _ _ { i with extra := [] } _ _ ["name", "confidence", "require_entities"] (intentParts i)
    i.extra intent_lawful representable.extra rfl (by decide) (fun key member => member) ?_ (by decide)
    (fun entries written => ⟨?_, ?_, ?_⟩) fun members kept => ?_
  · intro key claimed
    simpa [intentFields, field, Field.answers] using claimed
  · simp only [Unrepeated, intentFields, List.forall_mem_cons, List.not_mem_nil, false_implies, implies_true, and_true]
    refine ⟨?_, ?_, ?_⟩ <;> exact field_unrepeated _ _ _ _ entries written.ascending
  · have name := get_part _ _ _ written "name" _ rfl
    simp only [Complete, intentFields, List.forall_mem_cons, List.not_mem_nil, false_implies, implies_true, and_true,
      field_given, name]
    simp [field]
  · refine (fill_obtained _ _ textOf _ rfl "" entries _ i.name rfl ?_).trans ?_
    · exact text_obtained _ _ (given_part written rfl)
    refine (fill_obtained _ _ (optionOf Source.float) _ rfl none entries _ i.confidence rfl ?_).trans ?_
    · exact confidence_obtained _ _ (given_part written rfl) representable.finite
    refine (fill_obtained _ _ (optionOf (listOf JsonSource.value)) _ rfl none entries _ i.requireEntities rfl ?_).trans ?_
    · exact option_obtained _ _ _ _ (given_part written rfl) (fun _ _ => by rw [Value.sorted]; exact Value.noConfusion)
        fun l present => values_restored l (representable.declared l present)
    rfl
  · rw [intent_kept, kept]

theorem ranked_restored (r : RankedIntent) (representable : r.Representable) :
    Restores readRanked RankedIntent.written r := by
  unfold Restores
  rw [ranked_written]
  refine record_restored _ _ _ _ { r with extra := [] } _ _ ["name", "confidence"] (rankedParts r) r.extra ranked_lawful
    representable.extra rfl (by decide) (fun key member => member) ?_ (by decide)
    (fun entries written => ⟨?_, ?_, ?_⟩) fun members kept => ?_
  · intro key claimed
    simpa [rankedFields, field, Field.answers] using claimed
  · simp only [Unrepeated, rankedFields, List.forall_mem_cons, List.not_mem_nil, false_implies, implies_true, and_true]
    refine ⟨?_, ?_⟩ <;> exact field_unrepeated _ _ _ _ entries written.ascending
  · have name := get_part _ _ _ written "name" _ rfl
    simp only [Complete, rankedFields, List.forall_mem_cons, List.not_mem_nil, false_implies, implies_true, and_true,
      field_given, name]
    simp [field]
  · refine (fill_obtained _ _ textOf _ rfl "" entries _ r.name rfl ?_).trans ?_
    · exact text_obtained _ _ (given_part written rfl)
    refine (fill_obtained _ _ (optionOf Source.float) _ rfl none entries _ r.confidence rfl ?_).trans ?_
    · exact confidence_obtained _ _ (given_part written rfl) representable.finite
    rfl
  · rw [ranked_kept, kept]

theorem entity_restored (e : Entity) (representable : e.Representable) : Restores readEntity Entity.written e := by
  unfold Restores
  rw [entity_written]
  refine record_restored _ _ _ _ { e with extra := [] } _ _ ["entity", "role", "group"] (entityParts e) e.extra
    entity_lawful representable.extra rfl (by decide) (by decide) ?_ (by decide)
    (fun entries written => ?_) fun members kept => ?_
  · intro key claimed
    simpa [entityFields, field, Field.orKey, Field.answers, @eq_comm _ "type" key, or_assoc] using claimed
  · have absent : Keyed.get? entries "type" = none := by
      have unnamed : Keyed.get? (entityParts e) "type" = none := rfl
      rw [written.found, unnamed, Option.getD_none, representable.extra.apart "type" (by decide), Option.map_none]
    have kind : kindField.given? entries = some (.text e.kind) :=
      (either_given _ "entity" "type" _ _ entries (.inr absent)).trans
        (by rw [absent, Option.or_none, get_part _ _ _ written "entity" _ rfl]; rfl)
    have label (given : Option Value) (x : Option Label) (shown : given = (x.map Label.written).map Value.sorted) :
        Obtained (optionOf readLabel) none given x :=
      option_obtained _ _ given x shown (fun label _ => label_there label) fun label _ => label_restored label
    refine ⟨entity_unrepeated entries written.ascending (.inr absent), entity_complete entries _ kind, ?_⟩
    refine (fill_obtained kindField _ textOf _ rfl "" entries _ e.kind rfl (text_obtained _ _ kind)).trans ?_
    refine (fill_obtained _ _ (optionOf readLabel) _ rfl none entries _ e.role rfl ?_).trans ?_
    · exact label _ _ (given_part written rfl)
    refine (fill_obtained _ _ (optionOf readLabel) _ rfl none entries _ e.group rfl ?_).trans ?_
    · exact label _ _ (given_part written rfl)
    rfl
  · rw [entity_kept, kept]

theorem message_restored (m : Message) (representable : m.Representable) : readMessage m.toJson = .ok m := by
  rw [Message.toJson, message_written]
  refine record_restored _ _ _ _ { m with extra := [] } _ _ ["text", "intent", "intent_ranking", "entities", "is_final"]
    (messageParts m) m.extra message_lawful representable.extra rfl (by decide) (fun key member => member) ?_ (by decide)
    (fun entries written => ⟨?_, ?_, ?_⟩) fun members kept => ?_
  · intro key claimed
    simpa [messageFields, field, Field.answers] using claimed
  · simp only [Unrepeated, messageFields, List.forall_mem_cons, List.not_mem_nil, false_implies, implies_true, and_true]
    refine ⟨?_, ?_, ?_, ?_, ?_⟩ <;> exact field_unrepeated _ _ _ _ entries written.ascending
  · simp [Complete, messageFields, field]
  · refine (fill_obtained _ _ textOf _ rfl "" entries _ m.text rfl ?_).trans ?_
    · exact text_obtained _ _ (given_part written rfl)
    refine (fill_obtained _ _ (optionOf readIntent) _ rfl none entries _ m.intent rfl ?_).trans ?_
    · refine option_obtained _ Intent.written _ _ (given_part written rfl) (fun i _ => ?_)
        fun i present => intent_restored i (representable.intent i present)
      rw [Intent.written, Value.sorted]
      exact Value.noConfusion
    refine (fill_obtained _ _ (optionOf (listOf readRanked)) _ rfl none entries _ m.ranking rfl ?_).trans ?_
    · refine option_obtained _ _ _ _ (given_part written rfl) (fun l _ => ?_) fun l present =>
        list_restored readRanked RankedIntent.written l fun r member =>
          ranked_restored r (representable.ranking l present r member)
      rw [Value.sorted]
      exact Value.noConfusion
    refine (fill_obtained _ _ (optionOf (listOf readEntity)) _ rfl none entries _ m.entities rfl ?_).trans ?_
    · refine option_obtained _ _ _ _ (given_part written rfl) (fun l _ => ?_) fun l present =>
        list_restored readEntity Entity.written l fun e member =>
          entity_restored e (representable.entities l present e member)
      rw [Value.sorted]
      exact Value.noConfusion
    refine (fill_obtained _ _ (optionOf Source.bool) _ rfl none entries _ m.isFinal rfl ?_).trans ?_
    · exact option_obtained _ Value.bool _ _ (given_part written rfl) (fun _ _ => Value.noConfusion)
        fun _ _ => rfl
    rfl
  · rw [message_kept, kept]

theorem replaced_representable (threshold : Float) (finite : threshold.isFinite = true) (m output : Message)
    (representable : m.Representable) (replaced : Gate.Replaced threshold m output) : output.Representable := by
  refine ⟨fun i predicted => ?_, fun l ranked => ?_, ?_, ?_⟩
  · rw [replaced.intent] at predicted
    cases predicted
    exact ⟨fun c scored => Option.some.inj scored ▸ finite, by simp, beside_nil _⟩
  · rw [replaced.ranking] at ranked
    cases ranked
    rw [List.forall_mem_cons]
    refine ⟨⟨fun c scored => Option.some.inj scored ▸ finite, beside_nil _⟩, fun r member => ?_⟩
    cases given : m.ranking with
    | none =>
        rw [given] at member
        cases member
    | some l =>
        rw [given] at member
        exact representable.ranking l given r member
  · rw [replaced.entities]
    exact representable.entities
  · rw [replaced.extra]
    exact representable.extra

theorem process_representable (gate : Gate) (messages out : List Message) (domain : Option DomainSchema)
    (valid : gate.config.validate = .ok ()) (each : ∀ m ∈ messages, m.Representable)
    (processed : (gate.process messages domain).result = .ok out) : ∀ m ∈ out, m.Representable := by
  have finite := Gate.valid_default_finite gate.config valid
  obtain ⟨decided, result, rfl⟩ := Gate.process_ok gate messages out domain processed
  obtain ⟨-, length, pointwise⟩ := (Gate.process_with_verdicts_pointwise_iff _ _ _ _).mp result
  intro m member
  obtain ⟨i, inOutput, rfl⟩ := List.mem_iff_getElem.mp member
  rw [List.length_map] at inOutput
  rw [List.getElem_map]
  have inBatch : i < messages.length := length ▸ inOutput
  have given := each messages[i] (List.getElem_mem inBatch)
  have here := pointwise i inBatch inOutput
  cases accepted : decided[i].2.isAccept with
  | true => exact here.kept accepted ▸ given
  | false =>
      have replaced := here.replaced (by simp [Verdict.isReject, accepted])
      rw [Gate.ensure_index_config] at replaced
      exact replaced_representable _ finite messages[i] _ given replaced

theorem decoding_undoes_encoding :
    (∀ m : Message, m.Representable → readMessage m.toJson = .ok m) ∧
    (∀ (d : Datum) (m : Message), readMessage d.value = .ok m → m.Representable) ∧
    (∀ (s : String) (m : Message), readText readMessage s = .ok m → m.Representable) ∧
    ∀ (gate : Gate) (messages out : List Message) (domain : Option DomainSchema), gate.config.validate = .ok () →
      (∀ m ∈ messages, m.Representable) → (gate.process messages domain).result = .ok out →
        ∀ m ∈ out, m.Representable :=
  ⟨message_restored, fun d m => read_message_representable value_source_sound d.value m d.proper,
    message_of_text_representable, process_representable⟩

theorem decoding_undoes_encoding_mixed :
    let m : Message :=
      { intent := some { name := "greet", confidence := some 0, requireEntities := some [] }
        ranking := some []
        entities := some [{ kind := "city", role := some (.text "2"), group := some (.number (.int 2)) }]
        isFinal := some false
        extra := [("channel", .null), ("turn", .number (.int 7))] }
    m.Representable ∧ readMessage m.toJson = .ok m ∧
      ∃ output, (Gate.process { config := {} } [m] none).result = .ok [output] ∧ output ≠ m ∧ output.Representable ∧
        readMessage output.toJson = .ok output := by
  intro m
  have representable : m.Representable := by
    have zero : (0 : Float).isFinite = true := by decide
    refine ⟨?_, by simp [m], ?_, ?_, by decide⟩
    · simp only [m, Option.some.injEq, forall_eq']
      exact ⟨by simpa using zero, by simp, beside_nil _⟩
    · simp only [m, Option.some.injEq, forall_eq', List.forall_mem_cons, List.not_mem_nil, false_implies, implies_true,
        and_true]
      exact ⟨beside_nil _⟩
    · rw [object_proper_iff]
      exact ⟨by decide, by simpa [m] using ⟨.null, .int 7 (by decide) (by decide)⟩⟩
  have processed : (Gate.process { config := {} } [m] none).result = .ok [Gate.applyRejection { config := {} } m] := by
    with_unfolding_all rfl
  obtain ⟨restored, -, -, kept⟩ := decoding_undoes_encoding
  have output := kept { config := {} } [m] _ none rfl (List.forall_mem_singleton.mpr representable)
    processed _ List.mem_cons_self
  refine ⟨representable, restored m representable, _, processed, ?_, output, restored _ output⟩
  intro same
  have intents := congrArg Message.ranking same
  cases intents

end IntentGate
