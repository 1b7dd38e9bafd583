import IntentGate.Proofs.Batch
import IntentGate.Proofs.CanonicalMessage
import IntentGate.Proofs.ValidSettings

set_option autoImplicit false

namespace IntentGate.Gate

open Json Shape

theorem valid_default_finite (config : RejectionConfig) (valid : config.validate = .ok ()) :
    config.thresholds.default.isFinite = true :=
  in_unit_finite _ (RejectionConfig.valid_bounded config valid).default

theorem fallback_written (threshold : Float) (finite : threshold.isFinite = true) :
    (Value.object [("name", .text "nlu_fallback"), ("confidence", .ofFloat threshold)]).sorted =
      Canonical.fallback threshold := by
  have less : "confidence" < "name" := by decide
  rw [Value.sorted, sortedFields, sortedFields, sortedFields, of_float_sorted threshold finite]
  simp [Keyed.ofList, Keyed.insertAll, Keyed.insert, less, Value.sorted, Canonical.fallback]

theorem message_entries (m : Message) (ascending : Keyed.Ascending m.extra)
    (apart : ∀ key ∈ ["text", "intent", "intent_ranking", "entities", "is_final"], Keyed.get? m.extra key = none) :
    ∃ entries, m.toJson = .object entries ∧ Keyed.Ascending entries ∧ ∀ key, Keyed.get? entries key =
      ((Keyed.get? (Canonical.messageParts m) key).getD (Keyed.get? m.extra key)).map Value.sorted := by
  rw [Message.toJson, Canonical.message_written]
  have distinct : ["text", "intent", "intent_ranking", "entities", "is_final"].Nodup := by decide
  exact written_object (Canonical.messageParts m) m.extra distinct ascending apart

theorem replaced_form (threshold : Float) (finite : threshold.isFinite = true) (m output : Message)
    (ascending : Keyed.Ascending m.extra)
    (apart : ∀ key ∈ ["text", "intent", "intent_ranking", "entities", "is_final"], Keyed.get? m.extra key = none)
    (replaced : Replaced threshold m output) : output.toJson = Canonical.rejected threshold m.toJson := by
  obtain ⟨entries, before, entriesAscend, found⟩ := message_entries m ascending apart
  obtain ⟨after, written, afterAscends, found'⟩ := message_entries output (replaced.extra ▸ ascending)
    (replaced.extra ▸ apart)
  have ranked : Keyed.get? (Canonical.messageParts m) "intent_ranking" =
      some (m.ranking.map fun l => .list (l.map RankedIntent.written)) := rfl
  have ranking : Canonical.ranking entries = sortedItems ((m.ranking.getD []).map RankedIntent.written) := by
    rw [Canonical.ranking, found, ranked]
    cases m.ranking with
    | none => rfl
    | some l => simp only [Option.getD_some, Option.map_some, Value.sorted]
  rw [written, before, Canonical.rejected, Canonical.onFields]
  refine congrArg Value.object (Keyed.ext_ascending _ _ afterAscends
    (Keyed.ascending_insert _ _ _ (Keyed.ascending_insert _ _ _ entriesAscend)) fun key => ?_)
  rw [found', Keyed.get_insert, Keyed.get_insert, found, replaced.extra, ranking]
  by_cases isIntent : key = "intent"
  · subst isIntent
    have part : Keyed.get? (Canonical.messageParts output) "intent" = some (output.intent.map Intent.written) := rfl
    rw [if_pos rfl, part, replaced.intent]
    exact congrArg some (fallback_written threshold finite)
  · rw [if_neg isIntent]
    by_cases isRanking : key = "intent_ranking"
    · subst isRanking
      have part : Keyed.get? (Canonical.messageParts output) "intent_ranking" =
          some (output.ranking.map fun l => .list (l.map RankedIntent.written)) := rfl
      have first := fallback_written threshold finite
      rw [if_pos rfl, part, replaced.ranking]
      simp only [Option.map_some, Option.getD_some, List.map_cons, Value.sorted, sortedItems]
      refine congrArg some (congrArg Value.list (congrArg (· :: _) ?_))
      exact first
    · have same : Keyed.get? (Canonical.messageParts output) key = Keyed.get? (Canonical.messageParts m) key := by
        simp only [Canonical.messageParts, Keyed.get_cons, isIntent, isRanking, if_false, replaced.text,
          replaced.entities, replaced.isFinal]
      rw [if_neg isRanking, same]

theorem read_message_extra (v : Value) (m : Message) (proper : v.Proper) (read : readMessage v = .ok m) :
    Keyed.Ascending m.extra ∧
      ∀ key ∈ ["text", "intent", "intent_ranking", "entities", "is_final"], Keyed.get? m.extra key = none := by
  obtain ⟨members, rfl, -, -, -, -, -, extra⟩ := Canonical.read_message_parts v m read
  have claimed : ∀ key ∈ ["text", "intent", "intent_ranking", "entities", "is_final"],
      messageFields.any (fun f : Field Value Message => f.answers key) = true := by decide
  rw [extra]
  refine ⟨extra_ascends _ members, fun key named => ?_⟩
  rw [get_extra _ members (fields_ascending members proper), if_pos (claimed key named)]

theorem process_ok (gate : Gate) (messages out : List Message) (domain : Option DomainSchema)
    (processed : (gate.process messages domain).result = .ok out) :
    ∃ decided, (gate.processWithVerdicts messages domain).result = .ok decided ∧ out = decided.map (·.1) := by
  unfold process at processed
  cases result : (gate.processWithVerdicts messages domain).result with
  | error e =>
      simp only [result] at processed
      cases processed
  | ok decided =>
      simp only [result] at processed
      cases processed
      exact ⟨decided, rfl, rfl⟩

theorem process_json (gate : Gate) (messages out : List Message) (domain : Option DomainSchema)
    (valid : gate.config.validate = .ok ()) (processed : (gate.process messages domain).result = .ok out) :
    out.length = messages.length ∧
      ∀ i (inBatch : i < messages.length) (inResult : i < out.length) (d : Datum),
        readMessage d.value = .ok messages[i] →
          ∃ verdict, (gate.ensureIndex domain).gate.evaluate messages[i] = .ok verdict ∧
            out[i].toJson =
              if verdict.isAccept then Canonical.message d.value
              else Canonical.rejected gate.config.thresholds.default (Canonical.message d.value) := by
  have finite := valid_default_finite gate.config valid
  obtain ⟨decided, result, rfl⟩ := process_ok gate messages out domain processed
  obtain ⟨-, decisions⟩ := (process_with_verdicts_ok_iff gate messages domain decided).mp result
  have length := decide_from_length _ 0 messages decided decisions
  refine ⟨by rw [List.length_map, length], ?_⟩
  intro i inBatch inResult d read
  have inDecided : i < decided.length := length ▸ inBatch
  have here := decide_from_pointwise _ 0 messages decided decisions i inBatch inDecided
  have form := Canonical.message_form d.value messages[i] d.proper read
  refine ⟨decided[i].2, here.judged, ?_⟩
  rw [List.getElem_map]
  by_cases accepted : decided[i].2.isAccept = true
  · rw [if_pos accepted, here.kept accepted, form]
  · have rejected : decided[i].2.isReject = true := by simpa [Verdict.isReject] using accepted
    have replaced := here.replaced rejected
    obtain ⟨ascending, apart⟩ := read_message_extra d.value messages[i] d.proper read
    rw [ensure_index_config] at replaced
    rw [if_neg accepted, replaced_form _ finite messages[i] _ ascending apart replaced, form]

theorem process_json_unsure :
    let v : Value := .object [("entities", .list [.object [("role", .null), ("type", .text "city")]]),
      ("intent", .object [("confidence", .number (.int 0)), ("name", .text "greet")]),
      ("intent_ranking", .list [.object [("confidence", .null), ("name", .text "greet")]]), ("note", .null)]
    let m : Message :=
      { intent := some { name := "greet", confidence := some 0 }
        ranking := some [{ name := "greet" }]
        entities := some [{ kind := "city" }]
        extra := [("note", .null)] }
    let fallback : Value := .object [("confidence", .number (.float 0.3)), ("name", .text "nlu_fallback")]
    readMessage v = .ok m ∧ ∃ output, (Gate.process { config := {} } [m] none).result = .ok [output] ∧
      output.toJson = .object [("entities", .list [.object [("entity", .text "city")]]), ("intent", fallback),
        ("intent_ranking", .list [fallback, .object [("name", .text "greet")]]), ("note", .null), ("text", .text "")] := by
  intro v m fallback
  have proper : v.Proper := by
    simp only [v, object_proper_iff, list_proper_iff, List.forall_mem_cons, List.not_mem_nil, false_implies,
      implies_true, and_true]
    exact ⟨by decide, ⟨by decide, .null, .text _⟩, ⟨by decide, .int 0 (by decide) (by decide), .text _⟩,
      ⟨by decide, .null, .text _⟩, .null⟩
  have decoded : readMessage v = .ok m := by with_unfolding_all rfl
  have processed : (Gate.process { config := {} } [m] none).result = .ok [Gate.applyRejection { config := {} } m] := by
    with_unfolding_all rfl
  have rejected : Gate.evaluate { config := {} } m = .ok (.reject (.belowDefaultThreshold 0 0.3)) := by
    with_unfolding_all rfl
  obtain ⟨verdict, judged, written⟩ :=
    (process_json { config := {} } [m] _ none rfl processed).2 0 Nat.one_pos Nat.one_pos ⟨v, proper⟩ decoded
  cases rejected.symm.trans judged
  exact ⟨decoded, _, processed, written.trans (by with_unfolding_all rfl)⟩

end IntentGate.Gate
