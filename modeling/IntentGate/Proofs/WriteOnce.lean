import IntentGate.Proofs.Installation

set_option autoImplicit false

namespace IntentGate.Gate

theorem answer_gate (gate : Gate) (request : Request) :
    (gate.answer request).2 = (gate.ensureIndex request.domain).gate := by
  cases request with
  | ensureIndex domain => rfl
  | evaluate message | applyRejection message => simp only [answer, Request.domain, ensure_index_absent]
  | process messages domain | processWithVerdicts messages domain | stage messages domain =>
      change (gate.processWithVerdicts messages domain).gate = _
      rw [process_with_verdicts_eq]
      rfl

theorem after_cons (gate : Gate) (request : Request) (rest : List Request) :
    gate.after (request :: rest) = (gate.answer request).2.after rest := rfl

theorem answer_installed (gate : Gate) (index : RequirementIndex) (present : gate.index = some index)
    (request : Request) : (gate.answer request).2 = gate := by
  rw [answer_gate, ensure_index_installed gate request.domain index present]

theorem answer_offering (gate : Gate) (index : RequirementIndex) (present : gate.index = some index)
    (request : Request) (domain : Option DomainSchema) :
    gate.answer (request.offering domain) = gate.answer request := by
  have same (other : Option DomainSchema) := ensure_index_installed gate other index present
  have batch (messages : List Message) (first second : Option DomainSchema) :
      gate.processWithVerdicts messages first = gate.processWithVerdicts messages second := by
    simp only [process_with_verdicts_eq, same]
  cases request with
  | evaluate message | applyRejection message => rfl
  | ensureIndex other => simp only [Request.offering, answer, same]
  | process messages other => simp only [Request.offering, answer, process, batch messages domain other]
  | processWithVerdicts messages other => simp only [Request.offering, answer, batch messages domain other]
  | stage messages other =>
      simp only [Request.offering, answer, MessageStage.process, process, batch messages domain other]

theorem after_config (gate : Gate) (requests : List Request) : (gate.after requests).config = gate.config := by
  induction requests generalizing gate with
  | nil => rfl
  | cons request rest ih => rw [after_cons, ih, answer_gate, ensure_index_config]

theorem after_installed (gate : Gate) (index : RequirementIndex) (present : gate.index = some index)
    (requests : List Request) : gate.after requests = gate := by
  induction requests with
  | nil => rfl
  | cons request rest ih => rw [after_cons, answer_installed gate index present request, ih]

def FirstProvided (requests : List Request) (index : RequirementIndex) : Prop :=
  ∃ earlier request later, requests = earlier ++ request :: later ∧
    (∀ r ∈ earlier, ∀ other, ¬ Provides r.domain other) ∧ Provides request.domain index

theorem provides_unique (domain : Option DomainSchema) (first second : RequirementIndex)
    (one : Provides domain first) (two : Provides domain second) : first = second := by
  obtain ⟨schema, rfl, built, -⟩ := one
  obtain ⟨_, same, builtToo, -⟩ := two
  cases same
  exact Except.ok.inj (built.symm.trans builtToo)

theorem first_provided_here (request : Request) (rest : List Request) (index other : RequirementIndex)
    (provided : Provides request.domain index) : FirstProvided (request :: rest) other ↔ index = other := by
  constructor
  · rintro ⟨earlier, found, later, split, silent, provides⟩
    cases earlier with
    | nil =>
        obtain ⟨rfl, rfl⟩ := List.cons.inj split
        exact provides_unique request.domain index other provided provides
    | cons head tail =>
        obtain ⟨rfl, -⟩ := List.cons.inj split
        exact absurd provided (silent request (List.mem_cons_self ..) index)
  · rintro rfl
    exact ⟨[], request, rest, rfl, by simp, provided⟩

theorem first_provided_later (request : Request) (rest : List Request) (index : RequirementIndex)
    (silent : ∀ other, ¬ Provides request.domain other) :
    FirstProvided (request :: rest) index ↔ FirstProvided rest index := by
  constructor
  · rintro ⟨earlier, found, later, split, silentBefore, provides⟩
    cases earlier with
    | nil =>
        obtain ⟨rfl, rfl⟩ := List.cons.inj split
        exact absurd provides (silent index)
    | cons head tail =>
        obtain ⟨-, rfl⟩ := List.cons.inj split
        exact ⟨tail, found, later, rfl, fun r member => silentBefore r (List.mem_cons_of_mem _ member), provides⟩
  · rintro ⟨earlier, found, later, rfl, silentBefore, provides⟩
    refine ⟨request :: earlier, found, later, rfl, ?_, provides⟩
    intro r member
    rcases List.mem_cons.mp member with rfl | before
    · exact silent
    · exact silentBefore r before

theorem after_vacant_iff (gate : Gate) (vacant : gate.index = none) (requests : List Request)
    (index : RequirementIndex) : (gate.after requests).index = some index ↔ FirstProvided requests index := by
  induction requests generalizing gate with
  | nil =>
      simp only [after, List.foldl_nil, vacant, reduceCtorEq, false_iff]
      rintro ⟨earlier, found, later, split, -⟩
      simp at split
  | cons request rest ih =>
      have installed (other : RequirementIndex) :
          (gate.answer request).2.index = some other ↔ Provides request.domain other := by
        rw [answer_gate, ensure_index_vacant_iff gate request.domain other vacant]
      rw [after_cons]
      by_cases provided : ∃ other, Provides request.domain other
      · obtain ⟨other, provides⟩ := provided
        have present := (installed other).mpr provides
        rw [first_provided_here request rest other index provides, after_installed _ other present, present,
          Option.some.injEq]
      · have silent (other : RequirementIndex) (provides : Provides request.domain other) : False :=
          provided ⟨other, provides⟩
        rw [first_provided_later request rest index silent]
        refine ih (gate.answer request).2 ?_
        cases state : (gate.answer request).2.index with
        | none => rfl
        | some other => exact (silent other ((installed other).mp state)).elim

theorem index_write_once (gate : Gate) (requests : List Request) :
    (gate.after requests).config = gate.config ∧
    (∀ index, (gate.after requests).index = some index ↔
      gate.index = some index ∨ gate.index = none ∧ FirstProvided requests index) ∧
    (∀ index, (gate.after requests).index = some index →
      (∀ later, (gate.after (requests ++ later)).index = some index) ∧
      ∀ request, ((gate.after requests).answer request).2 = gate.after requests ∧
        ∀ domain, (gate.after requests).answer (request.offering domain) = (gate.after requests).answer request) ∧
    ((gate.after requests).index = none → ∀ request index,
      (gate.after (requests ++ [request])).index = some index ↔ Provides request.domain index) := by
  refine ⟨after_config gate requests, ?_, ?_, ?_⟩
  · intro index
    cases state : gate.index with
    | none => simp [after_vacant_iff gate state requests index]
    | some present => simp [after_installed gate present state requests, state]
  · intro index present
    refine ⟨fun later => ?_, fun request => ⟨answer_installed _ index present request, ?_⟩⟩
    · have appended : gate.after (requests ++ later) = (gate.after requests).after later := List.foldl_append
      rw [appended, after_installed _ index present later, present]
    · exact answer_offering _ index present request
  · intro vacant request index
    have appended : gate.after (requests ++ [request]) = ((gate.after requests).answer request).2 := List.foldl_append
    rw [appended, answer_gate, ensure_index_vacant_iff _ request.domain index vacant]

theorem index_write_once_mixed :
    let gate : Gate := { config := {} }
    let malformed : DomainSchema := { intents := [.null] }
    let idle : DomainSchema := { intents := [.text "greet"] }
    let useful : DomainSchema :=
      { intents := [.object [("book", .object [("require_entities", .list [.text "city"])])]] }
    let index : RequirementIndex := { entries := .ofList [("book", [{ entity := "city" }])] }
    (gate.after [.ensureIndex (some malformed), .process [] (some idle)]).index = none ∧
      Provides (some useful) index ∧ ∀ later, (gate.after ([.ensureIndex (some malformed), .process [] (some idle),
        .stage [{}] (some useful)] ++ later)).index = some index := by
  intro gate malformed idle useful index
  have vacant : (gate.after [.ensureIndex (some malformed), .process [] (some idle)]).index = none := rfl
  have provides : Provides (some useful) index := ⟨useful, rfl, by with_unfolding_all rfl, rfl⟩
  obtain ⟨-, -, -, filled⟩ := index_write_once gate [.ensureIndex (some malformed), .process [] (some idle)]
  have installed := (filled vacant (.stage [{}] (some useful)) index).mpr provides
  obtain ⟨-, -, kept, -⟩ := index_write_once gate
    [.ensureIndex (some malformed), .process [] (some idle), .stage [{}] (some useful)]
  exact ⟨vacant, provides, (kept index installed).1⟩

end IntentGate.Gate
