import IntentGate.Proofs.SourceReading

set_option autoImplicit false

namespace IntentGate

open Json Shape

structure Beside (keys : List String) (extra : Fields) : Prop where
  proper : (Value.object extra).Proper
  apart : ∀ key ∈ keys, Keyed.get? extra key = none

structure Intent.Representable (i : Intent) : Prop where
  finite : ∀ c, i.confidence = some c → c.isFinite = true
  declared : ∀ l, i.requireEntities = some l → ∀ v ∈ l, v.Proper
  extra : Beside ["name", "confidence", "require_entities"] i.extra

structure RankedIntent.Representable (r : RankedIntent) : Prop where
  finite : ∀ c, r.confidence = some c → c.isFinite = true
  extra : Beside ["name", "confidence"] r.extra

structure Entity.Representable (e : Entity) : Prop where
  extra : Beside ["entity", "type", "role", "group"] e.extra

structure Message.Representable (m : Message) : Prop where
  intent : ∀ i, m.intent = some i → i.Representable
  ranking : ∀ l, m.ranking = some l → ∀ r ∈ l, r.Representable
  entities : ∀ l, m.entities = some l → ∀ e ∈ l, e.Representable
  extra : Beside ["text", "intent", "intent_ranking", "entities", "is_final"] m.extra

theorem beside_nil (keys : List String) : Beside keys [] where
  proper := .object [] List.Pairwise.nil (by simp)
  apart _ _ := Keyed.get_nil _

theorem beside_insert (keys : List String) (extra : Fields) (key : String) (v : Value) (beside : Beside keys extra)
    (unlisted : key ∉ keys) (proper : v.Proper) : Beside keys (Keyed.insert key v extra) := by
  obtain ⟨ascending, each⟩ := (object_proper_iff extra).mp beside.proper
  refine ⟨.object _ (Keyed.ascending_insert key v extra ascending) fun f member => ?_, fun own listed => ?_⟩
  · rcases Keyed.mem_insert member with rfl | kept
    · exact proper
    · exact each f kept
  · have different : own ≠ key := fun same => unlisted (same ▸ listed)
    rw [Keyed.get_insert, if_neg different]
    exact beside.apart own listed

section Reading

variable {δ : Type} [JsonSource δ] {sound : δ → Prop} (source : SoundSource sound)

include source

theorem confidence_sound (d : δ) (x : Option Float) (whole : sound d) (read : optionOf Source.float d = .ok x) :
    ∀ c, x = some c → c.isFinite = true :=
  option_sound source Source.float (fun c => c.isFinite = true) source.float d x whole read

theorem read_intent_representable (d : δ) (i : Intent) (whole : sound d) (read : readIntent d = .ok i) :
    i.Representable := by
  refine read_open_keeps source Intent.Representable _ _ _ _ ⟨by simp, by simp, beside_nil _⟩ ?_ ?_ d i whole read
  · simp only [intentFields, List.forall_mem_cons, List.not_mem_nil, false_implies, implies_true, and_true]
    refine ⟨?_, ?_, ?_⟩
    · exact put_keeps_always sound _ _ textOf _ rfl fun x i holds => ⟨holds.finite, holds.declared, holds.extra⟩
    · exact put_keeps sound _ _ (optionOf Source.float) _ rfl _ (confidence_sound source)
        fun x i finite holds => ⟨finite, holds.declared, holds.extra⟩
    · exact put_keeps sound _ _ (optionOf (listOf JsonSource.value)) _ rfl _
        (option_sound source (listOf JsonSource.value) (fun l => ∀ v ∈ l, v.Proper)
          (list_sound source JsonSource.value Value.Proper source.value))
        fun x i declared holds => ⟨holds.finite, declared, holds.extra⟩
  · intro key v i unclaimed proper holds
    have unlisted : key ∉ ["name", "confidence", "require_entities"] := by
      simpa [intentFields, field, Field.answers] using unclaimed
    exact ⟨holds.finite, holds.declared, beside_insert _ _ key v holds.extra unlisted proper⟩

theorem read_ranked_representable (d : δ) (r : RankedIntent) (whole : sound d) (read : readRanked d = .ok r) :
    r.Representable := by
  refine read_open_keeps source RankedIntent.Representable _ _ _ _ ⟨by simp, beside_nil _⟩ ?_ ?_ d r whole read
  · simp only [rankedFields, List.forall_mem_cons, List.not_mem_nil, false_implies, implies_true, and_true]
    refine ⟨?_, ?_⟩
    · exact put_keeps_always sound _ _ textOf _ rfl fun x r holds => ⟨holds.finite, holds.extra⟩
    · exact put_keeps sound _ _ (optionOf Source.float) _ rfl _ (confidence_sound source)
        fun x r finite holds => ⟨finite, holds.extra⟩
  · intro key v r unclaimed proper holds
    have unlisted : key ∉ ["name", "confidence"] := by
      simpa [rankedFields, field, Field.answers] using unclaimed
    exact ⟨holds.finite, beside_insert _ _ key v holds.extra unlisted proper⟩

theorem read_entity_representable (d : δ) (e : Entity) (whole : sound d) (read : readEntity d = .ok e) :
    e.Representable := by
  refine read_open_keeps source Entity.Representable _ _ _ _ ⟨beside_nil _⟩ ?_ ?_ d e whole read
  · simp only [entityFields, List.forall_mem_cons, List.not_mem_nil, false_implies, implies_true, and_true]
    refine ⟨?_, ?_, ?_⟩
    · exact put_keeps_always sound _ _ textOf _ rfl fun x e holds => ⟨holds.extra⟩
    · exact put_keeps_always sound _ _ (optionOf readLabel) _ rfl fun x e holds => ⟨holds.extra⟩
    · exact put_keeps_always sound _ _ (optionOf readLabel) _ rfl fun x e holds => ⟨holds.extra⟩
  · intro key v e unclaimed proper holds
    have unlisted : key ∉ ["entity", "type", "role", "group"] := by
      simpa [entityFields, field, Field.orKey, Field.answers, @eq_comm _ "type" key, and_assoc] using unclaimed
    exact ⟨beside_insert _ _ key v holds.extra unlisted proper⟩

theorem read_message_representable (d : δ) (m : Message) (whole : sound d) (read : readMessage d = .ok m) :
    m.Representable := by
  refine read_open_keeps source Message.Representable _ _ _ _ ⟨by simp, by simp, by simp, beside_nil _⟩ ?_ ?_ d m
    whole read
  · simp only [messageFields, List.forall_mem_cons, List.not_mem_nil, false_implies, implies_true, and_true]
    refine ⟨?_, ?_, ?_, ?_, ?_⟩
    · exact put_keeps_always sound _ _ textOf _ rfl fun x m holds =>
        ⟨holds.intent, holds.ranking, holds.entities, holds.extra⟩
    · exact put_keeps sound _ _ (optionOf readIntent) _ rfl _
        (option_sound source readIntent Intent.Representable (read_intent_representable source))
        fun x m intent holds => ⟨intent, holds.ranking, holds.entities, holds.extra⟩
    · exact put_keeps sound _ _ (optionOf (listOf readRanked)) _ rfl _
        (option_sound source (listOf readRanked) (fun l => ∀ r ∈ l, r.Representable)
          (list_sound source readRanked RankedIntent.Representable (read_ranked_representable source)))
        fun x m ranking holds => ⟨holds.intent, ranking, holds.entities, holds.extra⟩
    · exact put_keeps sound _ _ (optionOf (listOf readEntity)) _ rfl _
        (option_sound source (listOf readEntity) (fun l => ∀ e ∈ l, e.Representable)
          (list_sound source readEntity Entity.Representable (read_entity_representable source)))
        fun x m entities holds => ⟨holds.intent, holds.ranking, entities, holds.extra⟩
    · exact put_keeps_always sound _ _ (optionOf Source.bool) _ rfl fun x m holds =>
        ⟨holds.intent, holds.ranking, holds.entities, holds.extra⟩
  · intro key v m unclaimed proper holds
    have unlisted : key ∉ ["text", "intent", "intent_ranking", "entities", "is_final"] := by
      simpa [messageFields, field, Field.answers] using unclaimed
    exact ⟨holds.intent, holds.ranking, holds.entities, beside_insert _ _ key v holds.extra unlisted proper⟩

end Reading

theorem message_of_text_representable (s : String) (m : Message) (read : readText readMessage s = .ok m) :
    m.Representable :=
  read_message_representable draft_source_sound _ m (document_proper s) (read_text_root readMessage s m read)

structure Message.Finite (m : Message) : Prop where
  intent : ∀ i, m.intent = some i → ∀ c, i.confidence = some c → c.isFinite = true
  ranking : ∀ r ∈ m.ranking.getD [], ∀ c, r.confidence = some c → c.isFinite = true

theorem representable_finite (m : Message) (representable : m.Representable) : m.Finite := by
  refine ⟨fun i predicted => (representable.intent i predicted).finite, fun r candidate => ?_⟩
  cases ranked : m.ranking with
  | none => simp [ranked] at candidate
  | some l =>
      rw [ranked, Option.getD_some] at candidate
      exact (representable.ranking l ranked r candidate).finite

theorem read_message_finite (v : Value) (m : Message) (proper : v.Proper) (read : readMessage v = .ok m) :
    m.Finite :=
  representable_finite m (read_message_representable value_source_sound v m proper read)

end IntentGate
