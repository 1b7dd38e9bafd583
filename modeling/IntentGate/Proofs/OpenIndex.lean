import IntentGate.Gate.Builder
import IntentGate.Proofs.Sequencing
import IntentGate.Proofs.WriteOnce

set_option autoImplicit false

namespace IntentGate.Gate

def lastIndex? : List Supply → Option RequirementIndex
  | [] => none
  | .domain _ :: rest => lastIndex? rest
  | .index index :: rest => (lastIndex? rest).or (some index)

def Filled (gate : Gate) : Prop := ∀ index, gate.index = some index → index.isEmpty = false

theorem supply_all_index (builder : Builder) (supplies : List Supply) :
    (builder.supplyAll supplies).index = (lastIndex? supplies).or builder.index := by
  induction supplies generalizing builder with
  | nil => rfl
  | cons supply rest ih =>
      change ((builder.supply supply).supplyAll rest).index = _
      rw [ih]
      cases supply with
      | domain schema => rfl
      | index index =>
          rw [lastIndex?, Option.or_assoc]
          rfl

theorem ensure_index_filled (gate : Gate) (domain : Option DomainSchema) (filled : Filled gate) :
    Filled (gate.ensureIndex domain).gate := by
  intro index installed
  cases state : gate.index with
  | some present =>
      rw [ensure_index_installed gate domain present state] at installed
      exact filled index installed
  | none =>
      obtain ⟨_, -, -, entries⟩ := (ensure_index_vacant_iff gate domain index state).mp installed
      exact entries

theorem after_filled (gate : Gate) (filled : Filled gate) (requests : List Request) : Filled (gate.after requests) := by
  induction requests generalizing gate with
  | nil => exact filled
  | cons request rest ih =>
      rw [after_cons, answer_gate]
      exact ih _ (ensure_index_filled gate request.domain filled)

theorem offer_ok (gate offered : Gate) (domain : Option DomainSchema) (result : gate.offer domain = .ok offered) :
    offered = (gate.ensureIndex domain).gate := by
  simp only [ensureIndex, result]

theorem built_index (builder : Builder) (gate : Gate) (index : RequirementIndex) (built : builder.build = .ok gate)
    (given : builder.index = some index) : gate.index = some index := by
  obtain ⟨_, -, made⟩ := (bind_ok_iff _ _ _).mp built
  rw [given] at made
  cases made
  rfl

theorem built_filled (builder : Builder) (gate : Gate) (built : builder.build = .ok gate)
    (given : ∀ index, builder.index = some index → index.isEmpty = false) : Filled gate := by
  cases last : builder.index with
  | some index =>
      intro other installed
      rw [built_index builder gate index built last] at installed
      exact given other (last.trans installed)
  | none =>
      obtain ⟨_, -, made⟩ := (bind_ok_iff _ _ _).mp built
      rw [last] at made
      rw [offer_ok _ gate builder.domain made]
      refine ensure_index_filled _ builder.domain fun index installed => ?_
      cases installed

theorem provided_installed (gate : Gate) (filled : Filled gate) (domain : Option DomainSchema)
    (index : RequirementIndex) (provides : Provides domain index) :
    ∃ installed, (gate.ensureIndex domain).gate.index = some installed ∧ installed.isEmpty = false ∧
      (gate.index = some installed ∨ gate.index = none ∧ installed = index) := by
  cases state : gate.index with
  | some present =>
      refine ⟨present, ?_, filled present state, .inl rfl⟩
      rw [ensure_index_installed gate domain present state, state]
  | none =>
      have installed := (ensure_index_vacant_iff gate domain index state).mpr provides
      exact ⟨index, installed, ensure_index_filled gate domain filled index installed, .inr ⟨rfl, rfl⟩⟩

theorem installed_filled_iff (config : RejectionConfig) (supplies : List Supply) (gate : Gate)
    (built : (Builder.supplyAll { config } supplies).build = .ok gate) :
    ((∀ requests, Filled (gate.after requests)) ↔ ∀ index, lastIndex? supplies = some index → index.isEmpty = false) ∧
    ((∀ index, lastIndex? supplies = some index → index.isEmpty = false) →
      ∀ requests request index, Provides request.domain index →
        ∃ installed, (gate.after (requests ++ [request])).index = some installed ∧ installed.isEmpty = false ∧
          ((gate.after requests).index = some installed ∨ (gate.after requests).index = none ∧ installed = index)) ∧
    ∀ index, lastIndex? supplies = some index → ∀ requests, (gate.after requests).index = some index := by
  have last : (Builder.supplyAll { config } supplies).index = lastIndex? supplies :=
    (supply_all_index { config } supplies).trans Option.or_none
  have stays (index : RequirementIndex) (given : lastIndex? supplies = some index) (requests : List Request) :
      (gate.after requests).index = some index := by
    have present := built_index _ gate index built (last.trans given)
    rw [after_installed gate index present requests, present]
  have fills (given : ∀ index, lastIndex? supplies = some index → index.isEmpty = false) (requests : List Request) :
      Filled (gate.after requests) :=
    after_filled gate (built_filled _ gate built fun index found => given index (last.symm.trans found)) requests
  refine ⟨⟨fun filled index given => filled [] index (stays index given []), fills⟩, ?_, stays⟩
  intro given requests request index provides
  have appended : gate.after (requests ++ [request]) = ((gate.after requests).answer request).2 := List.foldl_append
  rw [appended, answer_gate]
  exact provided_installed _ (fills given requests) request.domain index provides

theorem installed_filled_iff_replaced :
    let idle : DomainSchema := { intents := [.text "greet"] }
    let useful : DomainSchema :=
      { intents := [.object [("book", .object [("require_entities", .list [.text "city"])])]] }
    let index : RequirementIndex := { entries := .ofList [("book", [{ entity := "city" }])] }
    let given : List Supply := [.index {}, .domain idle, .index index]
    (Builder.supplyAll { config := {} } given).build = .ok { config := {}, index := some index } ∧
      (Builder.supplyAll { config := {} } [.domain idle]).build = .ok { config := {} } ∧
      Filled (({ config := {}, index := some index } : Gate).after [.process [] (some idle)]) ∧
      ∃ installed, (({ config := {} } : Gate).after ([.ensureIndex (some idle)] ++ [.stage [] (some useful)])).index =
        some installed ∧ installed.isEmpty = false := by
  intro idle useful index given
  have replaced : (Builder.supplyAll { config := {} } given).build = .ok { config := {}, index := some index } := by
    unfold given idle index
    rfl
  have bare : (Builder.supplyAll { config := {} } [.domain idle]).build = .ok { config := {} } := by
    unfold idle
    rfl
  have lastFilled : ∀ other, lastIndex? given = some other → other.isEmpty = false := by
    rintro other ⟨⟩
    rfl
  have noneGiven : ∀ other, lastIndex? [.domain idle] = some other → other.isEmpty = false := by
    rintro other ⟨⟩
  have provides : Provides (some useful) index := ⟨useful, rfl, by with_unfolding_all rfl, rfl⟩
  obtain ⟨filled, -, -⟩ := installed_filled_iff {} given _ replaced
  obtain ⟨-, later, -⟩ := installed_filled_iff {} [.domain idle] _ bare
  obtain ⟨installed, present, entries, -⟩ :=
    later noneGiven [.ensureIndex (some idle)] (.stage [] (some useful)) index provides
  exact ⟨replaced, bare, filled.mpr lastFilled [.process [] (some idle)], installed, present, entries⟩

-- The domain asks for a city, but the message without one goes through.
theorem empty_index_shuts_out :
    let useful : DomainSchema :=
      { intents := [.object [("book", .object [("require_entities", .list [.text "city"])])]] }
    let gate : Gate := { config := {}, index := some {} }
    let message : Message := { intent := some { name := "book", confidence := some 1 } }
    (Builder.supplyAll { config := {} } [.index {}]).build = .ok gate ∧
      Provides (some useful) { entries := .ofList [("book", [{ entity := "city" }])] } ∧
      (gate.after [.ensureIndex (some useful)]).index = some {} ∧ RequirementIndex.isEmpty {} = true ∧
      (gate.after [.ensureIndex (some useful)]).evaluate message = .ok (.accept .fullUtterance) := by
  intro useful gate message
  refine ⟨?_, ⟨useful, rfl, ?_, rfl⟩, rfl, rfl, ?_⟩
  · unfold gate
    rfl
  · with_unfolding_all rfl
  · unfold gate message useful
    rfl

end IntentGate.Gate
