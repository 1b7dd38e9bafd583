import IntentGate.Proofs.CanonicalForm

set_option autoImplicit false

namespace IntentGate.Canonical

open Json Shape

def intentParts (i : Intent) : List (String × Option Value) :=
  [("name", some (.text i.name)), ("confidence", i.confidence.map .ofFloat),
    ("require_entities", i.requireEntities.map .list)]

theorem intent_written (i : Intent) : i.written = .object (present (intentParts i) ++ i.extra) := by
  obtain ⟨name, confidence, requireEntities, extra⟩ := i
  cases confidence <;> cases requireEntities <;> rfl

theorem intent_lawful :
    Lawful intentFields fun key v (i : Intent) => { i with extra := Keyed.insert key v i.extra } := by
  unfold intentFields
  refine ⟨?_, ?_⟩
  · simp only [List.pairwise_cons, List.forall_mem_cons, List.not_mem_nil, false_implies, implies_true, and_true,
      List.Pairwise.nil]
    refine ⟨⟨?_, ?_⟩, ?_⟩ <;> exact fields_independent _ _ _ _ _ _ _ _ (by decide) fun _ _ _ => rfl
  · simp only [List.forall_mem_cons, List.not_mem_nil, false_implies, implies_true, and_true]
    refine ⟨?_, ?_, ?_⟩ <;> exact put_aside _ _ _ rfl _ fun _ _ _ _ => rfl

theorem intent_kept (members : Fields) (i : Intent) :
    keepAll (fun key v (i : Intent) => { i with extra := Keyed.insert key v i.extra }) members i =
      { i with extra := Keyed.insertAll members i.extra } :=
  keep_all_extra Intent.extra (fun extra i => { i with extra }) _ (fun _ _ _ => rfl) (fun _ _ => rfl)
    (fun _ _ _ => rfl) (fun _ => rfl) members i

theorem read_intent_parts (v : Value) (i : Intent) (read : readIntent v = .ok i) :
    ∃ members, v = .object members ∧ Keyed.get? members "name" = some (.text i.name) ∧
      Obtained (optionOf Source.float) none (Keyed.get? members "confidence") i.confidence ∧
      Obtained (optionOf (listOf JsonSource.value)) none (Keyed.get? members "require_entities") i.requireEntities ∧
      i.extra = Keyed.insertAll (unclaimed (α := Intent) intentFields members) [] := by
  obtain ⟨members, base, rfl, -, complete, filled, rfl⟩ := read_open_ok _ _ _ _ intent_lawful v i read
  obtain ⟨name, nameRead, filled⟩ := fill_step _ _ textOf _ rfl "" members _ _ rfl filled
  obtain ⟨confidence, confidenceRead, filled⟩ :=
    fill_step _ _ (optionOf Source.float) _ rfl none members _ _ rfl filled
  obtain ⟨requireEntities, requireRead, filled⟩ :=
    fill_step _ _ (optionOf (listOf JsonSource.value)) _ rfl none members _ _ rfl filled
  cases filled
  have there := complete _ List.mem_cons_self rfl
  rw [field_given] at nameRead confidenceRead requireRead there
  rw [intent_kept]
  exact ⟨members, rfl, required_form _ _ nameRead there, confidenceRead, requireRead, rfl⟩

theorem intent_form (v : Value) (i : Intent) (proper : v.Proper) (read : readIntent v = .ok i) :
    i.written.sorted = intent v := by
  obtain ⟨members, rfl, name, confidenceRead, requireRead, extra⟩ := read_intent_parts v i read
  rw [intent_written, extra]
  refine record_form intentFields members members proper (fields_ascending members proper) intentRule _
    ["name", "confidence", "require_entities"] rfl (by decide) (by decide) ?_ ?_ ?_
  · intro key unlisted
    have unclaimed : intentFields.any (fun f : Field Value Intent => f.answers key) = false := by
      simpa [intentFields, field, Field.answers] using unlisted
    rw [unclaimed, if_neg Bool.false_ne_true]
  · intro key unlisted v
    simp only [List.mem_cons, List.not_mem_nil, or_false, not_or] at unlisted
    rw [intentRule, if_neg unlisted.2.1, if_neg unlisted.2.2]
  · simp only [intentParts, List.forall_mem_cons, List.not_mem_nil, false_implies, implies_true, and_true]
    refine ⟨?_, ?_, ?_⟩
    · rw [name]
      rfl
    · exact optional_form _ _ _ _ _ confidenceRead fun v x found =>
        confidence_form v (get_proper members proper _ v found) x
    · exact optional_form _ _ _ _ _ requireRead fun v l found =>
        values_form v (get_proper members proper _ v found) l

def rankedParts (r : RankedIntent) : List (String × Option Value) :=
  [("name", some (.text r.name)), ("confidence", r.confidence.map .ofFloat)]

theorem ranked_written (r : RankedIntent) : r.written = .object (present (rankedParts r) ++ r.extra) := by
  obtain ⟨name, confidence, extra⟩ := r
  cases confidence <;> rfl

theorem ranked_lawful :
    Lawful rankedFields fun key v (r : RankedIntent) => { r with extra := Keyed.insert key v r.extra } := by
  unfold rankedFields
  refine ⟨?_, ?_⟩
  · simp only [List.pairwise_cons, List.forall_mem_cons, List.not_mem_nil, false_implies, implies_true, and_true,
      List.Pairwise.nil]
    exact fields_independent _ _ _ _ _ _ _ _ (by decide) fun _ _ _ => rfl
  · simp only [List.forall_mem_cons, List.not_mem_nil, false_implies, implies_true, and_true]
    refine ⟨?_, ?_⟩ <;> exact put_aside _ _ _ rfl _ fun _ _ _ _ => rfl

theorem ranked_kept (members : Fields) (r : RankedIntent) :
    keepAll (fun key v (r : RankedIntent) => { r with extra := Keyed.insert key v r.extra }) members r =
      { r with extra := Keyed.insertAll members r.extra } :=
  keep_all_extra RankedIntent.extra (fun extra r => { r with extra }) _ (fun _ _ _ => rfl) (fun _ _ => rfl)
    (fun _ _ _ => rfl) (fun _ => rfl) members r

theorem read_ranked_parts (v : Value) (r : RankedIntent) (read : readRanked v = .ok r) :
    ∃ members, v = .object members ∧ Keyed.get? members "name" = some (.text r.name) ∧
      Obtained (optionOf Source.float) none (Keyed.get? members "confidence") r.confidence ∧
      r.extra = Keyed.insertAll (unclaimed (α := RankedIntent) rankedFields members) [] := by
  obtain ⟨members, base, rfl, -, complete, filled, rfl⟩ := read_open_ok _ _ _ _ ranked_lawful v r read
  obtain ⟨name, nameRead, filled⟩ := fill_step _ _ textOf _ rfl "" members _ _ rfl filled
  obtain ⟨confidence, confidenceRead, filled⟩ :=
    fill_step _ _ (optionOf Source.float) _ rfl none members _ _ rfl filled
  cases filled
  have there := complete _ List.mem_cons_self rfl
  rw [field_given] at nameRead confidenceRead there
  rw [ranked_kept]
  exact ⟨members, rfl, required_form _ _ nameRead there, confidenceRead, rfl⟩

theorem ranked_form (v : Value) (r : RankedIntent) (proper : v.Proper) (read : readRanked v = .ok r) :
    r.written.sorted = ranked v := by
  obtain ⟨members, rfl, name, confidenceRead, extra⟩ := read_ranked_parts v r read
  rw [ranked_written, extra]
  refine record_form rankedFields members members proper (fields_ascending members proper) rankedRule _
    ["name", "confidence"] rfl (by decide) (by decide) ?_ ?_ ?_
  · intro key unlisted
    have unclaimed : rankedFields.any (fun f : Field Value RankedIntent => f.answers key) = false := by
      simpa [rankedFields, field, Field.answers] using unlisted
    rw [unclaimed, if_neg Bool.false_ne_true]
  · intro key unlisted v
    simp only [List.mem_cons, List.not_mem_nil, or_false, not_or] at unlisted
    rw [rankedRule, if_neg unlisted.2]
  · simp only [rankedParts, List.forall_mem_cons, List.not_mem_nil, false_implies, implies_true, and_true]
    refine ⟨?_, ?_⟩
    · rw [name]
      rfl
    · exact optional_form _ _ _ _ _ confidenceRead fun v x found =>
        confidence_form v (get_proper members proper _ v found) x

def NamesKind (key : String) : Prop := key = "entity" ∨ key = "type"

theorem entity_key_of_kind (key : String) (kind : NamesKind key) : entityKey key = "entity" := by
  rcases kind with rfl | rfl <;> rfl

theorem entity_key_of_other (key : String) (other : ¬ NamesKind key) : entityKey key = key := by
  unfold entityKey
  rw [if_neg fun isType => other (.inr isType)]

theorem entity_key_injective (first second : String) (different : first ≠ second)
    (alone : NamesKind first → ¬ NamesKind second) : entityKey first ≠ entityKey second := by
  intro same
  by_cases kind : NamesKind first
  · rw [entity_key_of_kind first kind, entity_key_of_other second (alone kind)] at same
    exact alone kind (.inl same.symm)
  · by_cases kind' : NamesKind second
    · rw [entity_key_of_kind second kind', entity_key_of_other first kind] at same
      exact kind (.inl same)
    · rw [entity_key_of_other first kind, entity_key_of_other second kind'] at same
      exact different same

theorem get_renamed (members : Fields) (ascending : Keyed.Ascending members)
    (alone : members.Pairwise fun m n => NamesKind m.1 → ¬ NamesKind n.1) (key : String) :
    Keyed.get? (renamed members) key = Keyed.get? (members.map fun f => (entityKey f.1, f.2)) key := by
  refine Keyed.get_of_list _ ?_ key
  rw [List.map_map]
  refine List.pairwise_map.mpr ((alone.and ascending).imp fun {m n} both => ?_)
  refine entity_key_injective m.1 n.1 ?_ both.1
  intro same
  have less := both.2
  rw [same] at less
  exact String.lt_irrefl n.1 less

theorem get_renamed_other (members : Fields) (key : String) (other : ¬ NamesKind key) :
    Keyed.get? (members.map fun f => (entityKey f.1, f.2)) key = Keyed.get? members key := by
  induction members with
  | nil => rfl
  | cons m rest ih =>
      obtain ⟨k, v⟩ := m
      rw [List.map_cons, Keyed.get_cons, Keyed.get_cons, ih]
      by_cases kind : NamesKind k
      · have unlike : key ≠ k := fun same => other (same ▸ kind)
        have unlikeKind : key ≠ entityKey k := fun same => other (.inl (same.trans (entity_key_of_kind k kind)))
        rw [if_neg unlike, if_neg unlikeKind]
      · rw [entity_key_of_other k kind]

theorem get_renamed_type (members : Fields) :
    Keyed.get? (members.map fun f => (entityKey f.1, f.2)) "type" = none := by
  rw [Keyed.get_eq_none_iff]
  intro e member same
  obtain ⟨m, -, rfl⟩ := List.mem_map.mp member
  by_cases kind : NamesKind m.1
  · have impossible := (entity_key_of_kind m.1 kind).symm.trans same
    revert impossible
    decide
  · exact kind (.inr ((entity_key_of_other m.1 kind).symm.trans same))

def kindField : Field Value Entity :=
  (field .required "entity" textOf fun x e => { e with kind := x }).orKey "type"

theorem kind_answers (key : String) : kindField.answers key = true ↔ NamesKind key :=
  either_answers .required "entity" "type" textOf _ key

theorem get_renamed_kind (members : Fields) :
    Keyed.get? (members.map fun f => (entityKey f.1, f.2)) "entity" = kindField.given? members := by
  induction members with
  | nil => rfl
  | cons m rest ih =>
      obtain ⟨k, v⟩ := m
      rw [List.map_cons, Keyed.get_cons, given_cons, ih]
      by_cases kind : NamesKind k
      · rw [entity_key_of_kind k kind, if_pos rfl, if_pos ((kind_answers k).mpr kind)]
      · rw [entity_key_of_other k kind, if_neg fun same => kind (.inl same.symm),
          if_neg fun answered => kind ((kind_answers k).mp answered)]

def entityParts (e : Entity) : List (String × Option Value) :=
  [("entity", some (.text e.kind)), ("role", e.role.map Label.written), ("group", e.group.map Label.written)]

theorem entity_written (e : Entity) : e.written = .object (present (entityParts e) ++ e.extra) := by
  obtain ⟨kind, role, group, extra⟩ := e
  cases role <;> cases group <;> rfl

theorem entity_lawful :
    Lawful entityFields fun key v (e : Entity) => { e with extra := Keyed.insert key v e.extra } := by
  unfold entityFields
  refine ⟨?_, ?_⟩
  · simp only [List.pairwise_cons, List.forall_mem_cons, List.not_mem_nil, false_implies, implies_true, and_true,
      List.Pairwise.nil]
    refine ⟨⟨?_, ?_⟩, ?_⟩
    · exact either_independent _ _ _ _ _ _ _ _ _ (by decide) (by decide) fun _ _ _ => rfl
    · exact either_independent _ _ _ _ _ _ _ _ _ (by decide) (by decide) fun _ _ _ => rfl
    · exact fields_independent _ _ _ _ _ _ _ _ (by decide) fun _ _ _ => rfl
  · simp only [List.forall_mem_cons, List.not_mem_nil, false_implies, implies_true, and_true]
    refine ⟨?_, ?_, ?_⟩ <;> exact put_aside _ _ _ rfl _ fun _ _ _ _ => rfl

theorem entity_kept (members : Fields) (e : Entity) :
    keepAll (fun key v (e : Entity) => { e with extra := Keyed.insert key v e.extra }) members e =
      { e with extra := Keyed.insertAll members e.extra } :=
  keep_all_extra Entity.extra (fun extra e => { e with extra }) _ (fun _ _ _ => rfl) (fun _ _ => rfl)
    (fun _ _ _ => rfl) (fun _ => rfl) members e

theorem entity_unrepeated (members : Fields) (ascending : Keyed.Ascending members)
    (single : Keyed.get? members "entity" = none ∨ Keyed.get? members "type" = none) :
    Unrepeated entityFields members := by
  simp only [Unrepeated, entityFields, List.forall_mem_cons, List.not_mem_nil, false_implies, implies_true, and_true]
  refine ⟨(either_unrepeated_iff _ _ _ _ _ members ascending (by decide)).mpr single, ?_, ?_⟩ <;>
    exact field_unrepeated _ _ _ _ members ascending

theorem entity_complete (members : Fields) (v : Value) (kind : kindField.given? members = some v) :
    Complete entityFields members := by
  simp only [Complete, entityFields, List.forall_mem_cons, List.not_mem_nil, false_implies, implies_true, and_true]
  refine ⟨fun _ => kind ▸ Option.some_ne_none _, ?_, ?_⟩
  · simp [field]
  · simp [field]

theorem read_entity_parts (v : Value) (e : Entity) (read : readEntity v = .ok e) :
    ∃ members, v = .object members ∧ (members.Pairwise fun m n => NamesKind m.1 → ¬ NamesKind n.1) ∧
      kindField.given? members = some (.text e.kind) ∧
      Obtained (optionOf readLabel) none (Keyed.get? members "role") e.role ∧
      Obtained (optionOf readLabel) none (Keyed.get? members "group") e.group ∧
      e.extra = Keyed.insertAll (unclaimed (α := Entity) entityFields members) [] := by
  obtain ⟨members, base, rfl, unrepeated, complete, filled, rfl⟩ := read_open_ok _ _ _ _ entity_lawful v e read
  obtain ⟨kind, kindRead, filled⟩ := fill_step kindField _ textOf _ rfl "" members _ _ rfl filled
  obtain ⟨role, roleRead, filled⟩ := fill_step _ _ (optionOf readLabel) _ rfl none members _ _ rfl filled
  obtain ⟨group, groupRead, filled⟩ := fill_step _ _ (optionOf readLabel) _ rfl none members _ _ rfl filled
  cases filled
  have there := complete kindField List.mem_cons_self rfl
  rw [field_given] at roleRead groupRead
  rw [entity_kept]
  refine ⟨members, rfl, ?_, required_form _ _ kindRead there, roleRead, groupRead, rfl⟩
  refine (unrepeated kindField List.mem_cons_self).imp fun {m n} apart kind other => ?_
  rw [← kind_answers] at kind other
  rw [apart kind] at other
  cases other

theorem entity_form (v : Value) (e : Entity) (proper : v.Proper) (read : readEntity v = .ok e) :
    e.written.sorted = entity v := by
  obtain ⟨members, rfl, alone, kind, roleRead, groupRead, extra⟩ := read_entity_parts v e read
  have shown := get_renamed members (fields_ascending members proper) alone
  have role := get_renamed_other members "role" (by unfold NamesKind; decide)
  have group := get_renamed_other members "group" (by unfold NamesKind; decide)
  rw [entity_written, extra]
  refine record_form entityFields members (renamed members) proper (Keyed.ascending_of_list _) entityRule _
    ["entity", "role", "group"] rfl (by decide) (by decide) ?_ ?_ ?_
  · intro key unlisted
    rw [shown]
    by_cases old : key = "type"
    · rw [old, get_renamed_type]
      rfl
    · have unclaimed : entityFields.any (fun f : Field Value Entity => f.answers key) = false := by
        simpa [entityFields, field, Field.orKey, Field.answers, @eq_comm _ "type" key, old] using unlisted
      have other : ¬ NamesKind key := by
        rintro (rfl | rfl)
        · exact unlisted List.mem_cons_self
        · exact old rfl
      rw [unclaimed, if_neg Bool.false_ne_true, get_renamed_other members key other]
  · intro key unlisted v
    simp only [List.mem_cons, List.not_mem_nil, or_false, not_or] at unlisted
    rw [entityRule, if_neg (not_or.mpr unlisted.2)]
  · simp only [entityParts, List.forall_mem_cons, List.not_mem_nil, false_implies, implies_true, and_true]
    refine ⟨?_, ?_, ?_⟩
    · rw [shown, get_renamed_kind, kind]
      rfl
    · rw [shown, role]
      exact optional_form _ _ _ _ _ roleRead fun v label _ => label_form v label
    · rw [shown, group]
      exact optional_form _ _ _ _ _ groupRead fun v label _ => label_form v label

theorem with_text_ascending (members : Fields) (ascending : Keyed.Ascending members) :
    Keyed.Ascending (withText members) := by
  unfold withText
  split
  · exact ascending
  · exact Keyed.ascending_insert "text" (.text "") members ascending

theorem get_with_text_other (members : Fields) (key : String) (other : key ≠ "text") :
    Keyed.get? (withText members) key = Keyed.get? members key := by
  unfold withText
  split
  · rfl
  · rw [Keyed.get_insert, if_neg other]

theorem get_with_text (members : Fields) (s : String)
    (read : Obtained textOf "" (Keyed.get? members "text") s) :
    Keyed.get? (withText members) "text" = some (.text s) := by
  unfold withText
  cases given : Keyed.get? members "text" with
  | none =>
      rw [given] at read
      cases read
      rw [Option.isSome_none, if_neg Bool.false_ne_true, Keyed.get_insert, if_pos rfl]
  | some v =>
      rw [Option.isSome_some, if_pos rfl, given]
      rw [given] at read
      exact required_form _ s read (Option.some_ne_none v)

def messageParts (m : Message) : List (String × Option Value) :=
  [("text", some (.text m.text)), ("intent", m.intent.map Intent.written),
    ("intent_ranking", m.ranking.map fun l => .list (l.map RankedIntent.written)),
    ("entities", m.entities.map fun l => .list (l.map Entity.written)), ("is_final", m.isFinal.map .bool)]

theorem message_written (m : Message) : m.written = .object (present (messageParts m) ++ m.extra) := by
  obtain ⟨text, intent, ranking, entities, isFinal, extra⟩ := m
  cases intent <;> cases ranking <;> cases entities <;> cases isFinal <;> rfl

theorem message_lawful :
    Lawful messageFields fun key v (m : Message) => { m with extra := Keyed.insert key v m.extra } := by
  unfold messageFields
  refine ⟨?_, ?_⟩
  · simp only [List.pairwise_cons, List.forall_mem_cons, List.not_mem_nil, false_implies, implies_true, and_true,
      List.Pairwise.nil]
    refine ⟨⟨?_, ?_, ?_, ?_⟩, ⟨?_, ?_, ?_⟩, ⟨?_, ?_⟩, ?_⟩ <;>
      exact fields_independent _ _ _ _ _ _ _ _ (by decide) fun _ _ _ => rfl
  · simp only [List.forall_mem_cons, List.not_mem_nil, false_implies, implies_true, and_true]
    refine ⟨?_, ?_, ?_, ?_, ?_⟩ <;> exact put_aside _ _ _ rfl _ fun _ _ _ _ => rfl

theorem message_kept (members : Fields) (m : Message) :
    keepAll (fun key v (m : Message) => { m with extra := Keyed.insert key v m.extra }) members m =
      { m with extra := Keyed.insertAll members m.extra } :=
  keep_all_extra Message.extra (fun extra m => { m with extra }) _ (fun _ _ _ => rfl) (fun _ _ => rfl)
    (fun _ _ _ => rfl) (fun _ => rfl) members m

theorem read_message_parts (v : Value) (m : Message) (read : readMessage v = .ok m) :
    ∃ members, v = .object members ∧ Obtained textOf "" (Keyed.get? members "text") m.text ∧
      Obtained (optionOf readIntent) none (Keyed.get? members "intent") m.intent ∧
      Obtained (optionOf (listOf readRanked)) none (Keyed.get? members "intent_ranking") m.ranking ∧
      Obtained (optionOf (listOf readEntity)) none (Keyed.get? members "entities") m.entities ∧
      Obtained (optionOf Source.bool) none (Keyed.get? members "is_final") m.isFinal ∧
      m.extra = Keyed.insertAll (unclaimed (α := Message) messageFields members) [] := by
  obtain ⟨members, base, rfl, -, -, filled, rfl⟩ := read_open_ok _ _ _ _ message_lawful v m read
  obtain ⟨text, textRead, filled⟩ := fill_step _ _ textOf _ rfl "" members _ _ rfl filled
  obtain ⟨intent, intentRead, filled⟩ := fill_step _ _ (optionOf readIntent) _ rfl none members _ _ rfl filled
  obtain ⟨ranking, rankingRead, filled⟩ :=
    fill_step _ _ (optionOf (listOf readRanked)) _ rfl none members _ _ rfl filled
  obtain ⟨entities, entitiesRead, filled⟩ :=
    fill_step _ _ (optionOf (listOf readEntity)) _ rfl none members _ _ rfl filled
  obtain ⟨isFinal, finalRead, filled⟩ := fill_step _ _ (optionOf Source.bool) _ rfl none members _ _ rfl filled
  cases filled
  rw [field_given] at textRead intentRead rankingRead entitiesRead finalRead
  rw [message_kept]
  exact ⟨members, rfl, textRead, intentRead, rankingRead, entitiesRead, finalRead, rfl⟩

theorem message_form (v : Value) (m : Message) (proper : v.Proper) (read : readMessage v = .ok m) :
    m.toJson = message v := by
  obtain ⟨members, rfl, textRead, intentRead, rankingRead, entitiesRead, finalRead, extra⟩ :=
    read_message_parts v m read
  have given := get_proper members proper
  rw [Message.toJson, message_written, extra]
  refine record_form messageFields members (withText members) proper
    (with_text_ascending members (fields_ascending members proper)) messageRule _
    ["text", "intent", "intent_ranking", "entities", "is_final"] rfl (by decide) (by decide) ?_ ?_ ?_
  · intro key unlisted
    have unclaimed : messageFields.any (fun f : Field Value Message => f.answers key) = false := by
      simpa [messageFields, field, Field.answers] using unlisted
    have other : key ≠ "text" := fun same => unlisted (same ▸ List.mem_cons_self)
    rw [unclaimed, if_neg Bool.false_ne_true, get_with_text_other members key other]
  · intro key unlisted v
    simp only [List.mem_cons, List.not_mem_nil, or_false, not_or] at unlisted
    obtain ⟨-, notIntent, notRanking, notEntities, notFinal⟩ := unlisted
    rw [messageRule, if_neg notIntent, if_neg notRanking, if_neg notEntities, if_neg notFinal]
  · simp only [messageParts, List.forall_mem_cons, List.not_mem_nil, false_implies, implies_true, and_true]
    refine ⟨?_, ?_, ?_, ?_, ?_⟩
    · rw [get_with_text members m.text textRead]
      rfl
    · rw [get_with_text_other members "intent" (by decide)]
      exact optional_form _ _ _ _ _ intentRead fun v i found => intent_form v i (given _ v found)
    · rw [get_with_text_other members "intent_ranking" (by decide)]
      exact optional_form _ _ _ _ _ rankingRead fun v l found =>
        list_form readRanked RankedIntent.written ranked v (given _ v found) ranked_form l
    · rw [get_with_text_other members "entities" (by decide)]
      exact optional_form _ _ _ _ _ entitiesRead fun v l found =>
        list_form readEntity Entity.written entity v (given _ v found) entity_form l
    · rw [get_with_text_other members "is_final" (by decide)]
      exact optional_form _ _ _ _ _ finalRead fun v b _ => flag_form v b

end IntentGate.Canonical
