import IntentGate.Proofs.CanonicalMessage
import IntentGate.Proofs.DeclarationForm
import IntentGate.Proofs.EntityAgreement

set_option autoImplicit false

namespace IntentGate

open Json Shape Canonical

theorem labelled_iff (given : Option Value) (label : Option String) :
    Labelled given label ↔ ∃ read, Obtained (optionOf readLabel) none given read ∧ read.map Label.show = label := by
  constructor
  · intro labelled
    cases labelled with
    | absent => exact ⟨none, .absent, rfl⟩
    | null => exact ⟨none, .given _ _ rfl, rfl⟩
    | text s => exact ⟨some (.text s), .given _ _ rfl, rfl⟩
    | number n => exact ⟨some (.number n), .given _ _ rfl, rfl⟩
  · rintro ⟨read, obtained, rfl⟩
    cases obtained with
    | absent => exact .absent
    | given v read read_ok =>
        rcases option_of_ok readLabel v read read_ok with ⟨rfl, rfl⟩ | ⟨-, found, read_label, rfl⟩
        · exact .null
        · cases v with
          | text s =>
              cases read_label
              exact .text s
          | number n =>
              cases read_label
              exact .number n
          | _ => cases read_label

section Object

variable (fields : Table Value) (single : fields.get? "entity" = none ∨ fields.get? "type" = none)

include single

theorem kind_given : kindField.given? fields.rows = typeGiven? fields.rows :=
  either_given .required "entity" "type" textOf _ fields.rows single

theorem read_entity_iff (e : Entity) :
    readEntity (Value.object fields.rows) = .ok e ↔
      typeGiven? fields.rows = some (.text e.kind) ∧
      Obtained (optionOf readLabel) none (fields.get? "role") e.role ∧
      Obtained (optionOf readLabel) none (fields.get? "group") e.group ∧
      e.extra = Keyed.insertAll (unclaimed (α := Entity) entityFields fields.rows) [] := by
  constructor
  · intro read
    obtain ⟨members, same, -, kind, role, group, extra⟩ := read_entity_parts _ e read
    cases same
    rw [kind_given fields single] at kind
    exact ⟨kind, role, group, extra⟩
  · rintro ⟨typed, role, group, extra⟩
    have kind : kindField.given? fields.rows = some (.text e.kind) := (kind_given fields single).trans typed
    refine (read_members_iff entityFields _ _ entity_lawful (fun _ _ _ => rfl) _ e fields.rows).mpr
      ⟨entity_unrepeated fields.rows fields.ascending single, entity_complete fields.rows _ kind, ?_⟩
    have named : Obtained textOf "" (typeGiven? fields.rows) e.kind := by
      rw [typed]
      exact .given _ _ rfl
    have filled : fill entityFields fields.rows { kind := "" } = some { e with extra := [] } := by
      apply (fill_either_iff _ _ _ _ _ _ fields.rows single "" _ _ rfl).mpr
      refine ⟨e.kind, named, ?_⟩
      apply (fill_named_iff _ _ _ _ _ fields.rows none _ _ rfl).mpr
      refine ⟨e.role, role, ?_⟩
      apply (fill_named_iff _ _ _ _ _ fields.rows none _ _ rfl).mpr
      exact ⟨e.group, group, rfl⟩
    rw [filled, Option.map_some, entity_kept, ← extra]

theorem normalize_iff_reads (r : Requirement) :
    Requirement.normalize (.object fields.rows) = .ok r ↔
      ∃ e, readEntity (Value.object fields.rows) = .ok e ∧ Visible e.kind ∧ r = .ofEntity e := by
  simp only [read_entity_iff fields single]
  constructor
  · intro read
    cases (normalize_ok_iff _ r).mp read with
    | object _ kind role group typed visible playing grouped =>
        obtain ⟨roleRead, roleObtained, rfl⟩ := (labelled_iff _ role).mp playing
        obtain ⟨groupRead, groupObtained, rfl⟩ := (labelled_iff _ group).mp grouped
        exact ⟨⟨kind, roleRead, groupRead, _⟩, ⟨typed, roleObtained, groupObtained, rfl⟩, visible, rfl⟩
  · rintro ⟨e, ⟨typed, role, group, -⟩, visible, rfl⟩
    refine (normalize_ok_iff _ _).mpr (.object fields.rows e.kind _ _ typed visible ?_ ?_)
    · exact (labelled_iff _ _).mpr ⟨e.role, role, rfl⟩
    · exact (labelled_iff _ _).mpr ⟨e.group, group, rfl⟩

end Object

theorem declarations_read_alike (fields : Table Value)
    (single : fields.get? "entity" = none ∨ fields.get? "type" = none) :
    (∀ r, Requirement.normalize (.object fields.rows) = .ok r ↔
      ∃ e, readEntity (Value.object fields.rows) = .ok e ∧ Visible e.kind ∧ r = .ofEntity e) ∧
    (∀ r e, Requirement.normalize (.object fields.rows) = .ok r → readEntity (Value.object fields.rows) = .ok e →
      r = .ofEntity e ∧ r.accepts e = true) ∧
    ∀ (r : Requirement) (e : Entity), r.accepts e = true ↔ r = .ofEntity e := by
  have accepts (r : Requirement) (e : Entity) : r.accepts e = true ↔ r = .ofEntity e :=
    (accepts_iff r e).trans eq_comm
  refine ⟨normalize_iff_reads fields single, fun r e declared predicted => ?_, accepts⟩
  obtain ⟨read, found, -, same⟩ := (normalize_iff_reads fields single r).mp declared
  cases predicted.symm.trans found
  exact ⟨same, (accepts r e).mpr same⟩

theorem declarations_read_alike_pizza :
    let fields : Table Value :=
      { rows := [("group", .number (.int 2)), ("note", .list [.null]), ("role", .null), ("type", .text "pizza")] }
    let e : Entity := { kind := "pizza", group := some (.number (.int 2)), extra := [("note", .list [.null])] }
    let r : Requirement := { entity := "pizza", group := some "2" }
    readEntity (Value.object fields.rows) = .ok e ∧ Requirement.normalize (.object fields.rows) = .ok r ∧ r.accepts e = true ∧
      ({ r with group := none }).accepts e = false := by
  intro fields e r
  have predicted : readEntity (Value.object fields.rows) = .ok e := by with_unfolding_all rfl
  have visible : Visible e.kind := (visible_iff _).mpr (by decide)
  obtain ⟨declares, agrees, accepts⟩ := declarations_read_alike fields (.inl (by decide))
  have declared : Requirement.normalize (.object fields.rows) = .ok r := (declares r).mpr ⟨e, predicted, visible, by decide⟩
  refine ⟨predicted, declared, (agrees r e declared predicted).2, ?_⟩
  rw [Bool.eq_false_iff, ne_eq, accepts]
  decide

end IntentGate
