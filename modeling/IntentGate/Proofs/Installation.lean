import IntentGate.Gate.Session

set_option autoImplicit false

namespace IntentGate.Gate

inductive Offered (gate : Gate) (domain : Option DomainSchema) : Except GateError Gate → Prop where
  | installed (index : RequirementIndex) (present : gate.index = some index) : Offered gate domain (.ok gate)
  | unoffered (vacant : gate.index = none) (absent : domain = none) : Offered gate domain (.ok gate)
  | malformed (vacant : gate.index = none) (schema : DomainSchema) (fault : DeclarationFault)
      (offered : domain = some schema) (unbuilt : RequirementIndex.build schema = .error fault) :
      Offered gate domain (.error (.configuration (.declaration fault)))
  | idle (vacant : gate.index = none) (schema : DomainSchema) (index : RequirementIndex)
      (offered : domain = some schema) (built : RequirementIndex.build schema = .ok index)
      (empty : index.isEmpty = true) : Offered gate domain (.ok gate)
  | fresh (vacant : gate.index = none) (schema : DomainSchema) (index : RequirementIndex)
      (offered : domain = some schema) (built : RequirementIndex.build schema = .ok index)
      (filled : index.isEmpty = false) : Offered gate domain (.ok { gate with index := some index })

theorem offer_installed (gate : Gate) (domain : Option DomainSchema) (index : RequirementIndex)
    (present : gate.index = some index) : gate.offer domain = .ok gate := by
  simp only [offer, present]

theorem offer_offered (gate : Gate) (domain : Option DomainSchema) : Offered gate domain (gate.offer domain) := by
  cases state : gate.index with
  | some index =>
      rw [offer_installed gate domain index state]
      exact .installed index state
  | none =>
      cases offered : domain with
      | none =>
          have result : gate.offer none = .ok gate := by simp only [offer, state]
          rw [result]
          exact .unoffered state rfl
      | some schema =>
          cases built : RequirementIndex.build schema with
          | error fault =>
              have result : gate.offer (some schema) = .error (.configuration (.declaration fault)) := by
                simp only [offer, state, built]
                rfl
              rw [result]
              exact .malformed state schema fault rfl built
          | ok index =>
              have result : gate.offer (some schema) =
                  .ok (if index.isEmpty then gate else { gate with index := some index }) := by
                simp only [offer, state, built]
                rfl
              rw [result]
              cases empty : index.isEmpty with
              | true => exact .idle state schema index rfl built empty
              | false => exact .fresh state schema index rfl built empty

theorem ensure_index_installed (gate : Gate) (domain : Option DomainSchema) (index : RequirementIndex)
    (present : gate.index = some index) : gate.ensureIndex domain = { result := .ok (), gate } := by
  simp only [ensureIndex, offer_installed gate domain index present]

theorem ensure_index_absent (gate : Gate) : gate.ensureIndex none = { result := .ok (), gate } := by
  have nothing : gate.offer none = .ok gate := by
    cases state : gate.index <;> simp only [offer, state]
  simp only [ensureIndex, nothing]

theorem ensure_index_config (gate : Gate) (domain : Option DomainSchema) :
    (gate.ensureIndex domain).gate.config = gate.config := by
  have offered := offer_offered gate domain
  unfold ensureIndex
  generalize gate.offer domain = result at offered ⊢
  cases offered <;> rfl

def Provides (domain : Option DomainSchema) (index : RequirementIndex) : Prop :=
  ∃ schema, domain = some schema ∧ RequirementIndex.build schema = .ok index ∧ index.isEmpty = false

theorem ensure_index_vacant_iff (gate : Gate) (domain : Option DomainSchema) (index : RequirementIndex)
    (vacant : gate.index = none) :
    (gate.ensureIndex domain).gate.index = some index ↔ Provides domain index := by
  have offered := offer_offered gate domain
  unfold ensureIndex Provides
  generalize gate.offer domain = result at offered ⊢
  cases offered with
  | installed other present =>
      rw [vacant] at present
      cases present
  | unoffered _ absent => simp [vacant, absent]
  | malformed _ schema fault offered unbuilt => simp [vacant, offered, unbuilt]
  | idle _ schema other offered built empty =>
      simp only [vacant, offered, Option.some.injEq, exists_eq_left', built, Except.ok.injEq, reduceCtorEq, false_iff,
        not_and]
      rintro rfl filled
      rw [empty] at filled
      cases filled
  | fresh _ schema other offered built filled =>
      simp only [offered, Option.some.injEq, exists_eq_left', built, Except.ok.injEq]
      constructor
      · rintro rfl
        exact ⟨rfl, filled⟩
      · exact And.left

theorem process_with_verdicts_eq (gate : Gate) (messages : List Message) (domain : Option DomainSchema) :
    gate.processWithVerdicts messages domain =
      { result := do
          (gate.ensureIndex domain).result
          (gate.ensureIndex domain).gate.decideFrom 0 messages
        gate := (gate.ensureIndex domain).gate } := by
  unfold processWithVerdicts ensureIndex
  cases gate.offer domain <;> rfl

end IntentGate.Gate
