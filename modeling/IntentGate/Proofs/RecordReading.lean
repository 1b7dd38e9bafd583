import IntentGate.Proofs.Sequencing
import IntentGate.Shape.Json

set_option autoImplicit false

namespace IntentGate.Shape

open Json

variable {α : Type}

def Field.given? (f : Field Value α) (members : Fields) : Option Value :=
  (members.find? fun m => f.answers m.1).map (·.2)

def fillField (members : Fields) (a : α) (f : Field Value α) : Option α :=
  match f.given? members with
  | some v => (f.put v a).toOption
  | none => some a

def fill (fields : List (Field Value α)) (members : Fields) (a : α) : Option α :=
  fields.foldlM (fillField members) a

def unclaimed (fields : List (Field Value α)) (members : Fields) : Fields :=
  members.filter fun m => !fields.any (·.answers m.1)

def keepAll (keep : String → Value → α → α) (members : Fields) (a : α) : α :=
  members.foldl (fun a m => keep m.1 m.2 a) a

def Unrepeated (fields : List (Field Value α)) (members : Fields) : Prop :=
  ∀ f ∈ fields, members.Pairwise fun m n => f.answers m.1 = true → f.answers n.1 = false

def Complete (fields : List (Field Value α)) (members : Fields) : Prop :=
  ∀ f ∈ fields, f.need = .required → f.given? members ≠ none

-- Neither field answers to a key of the other, and it does not matter which is filled first.
structure Independent (f g : Field Value α) : Prop where
  apart : ∀ key, f.answers key = true → g.answers key = false
  commute : ∀ v w a, ((f.put v a).toOption.bind fun b => (g.put w b).toOption) =
    (g.put w a).toOption.bind fun b => (f.put v b).toOption

structure Lawful (fields : List (Field Value α)) (keep : String → Value → α → α) : Prop where
  independent : fields.Pairwise Independent
  aside : ∀ f ∈ fields, ∀ key v w a, (f.put v (keep key w a)).toOption = (f.put v a).toOption.map (keep key w)

theorem answers_name (f : Field Value α) : f.answers f.name = true := by
  simp [Field.answers]

theorem independent_symm (f g : Field Value α) (independent : Independent f g) : Independent g f := by
  refine ⟨fun key answered => ?_, fun v w a => (independent.commute w v a).symm⟩
  cases other : f.answers key with
  | false => rfl
  | true =>
      rw [independent.apart key other] at answered
      cases answered

theorem given_cons (f : Field Value α) (key : String) (v : Value) (rest : Fields) :
    f.given? ((key, v) :: rest) = if f.answers key then some v else f.given? rest := by
  unfold Field.given?
  rw [List.find?_cons]
  cases f.answers key <;> rfl

theorem given_none_iff (f : Field Value α) (members : Fields) :
    f.given? members = none ↔ ∀ m ∈ members, f.answers m.1 = false := by
  simp [Field.given?]

theorem fill_cons (f : Field Value α) (fields : List (Field Value α)) (members : Fields) (a : α) :
    fill (f :: fields) members a = (fillField members a f).bind (fill fields members) := by
  simp only [fill, List.foldlM_cons]
  rfl

theorem fill_nil (fields : List (Field Value α)) (a : α) : fill fields [] a = some a := by
  induction fields with
  | nil => rfl
  | cons f fields ih =>
      rw [fill_cons]
      exact ih

theorem fill_unanswered (fields : List (Field Value α)) (key : String) (v : Value) (rest : Fields) (a : α)
    (unanswered : ∀ f ∈ fields, f.answers key = false) : fill fields ((key, v) :: rest) a = fill fields rest a := by
  induction fields generalizing a with
  | nil => rfl
  | cons f fields ih =>
      have here : fillField ((key, v) :: rest) a f = fillField rest a f := by
        unfold fillField
        rw [given_cons, unanswered f List.mem_cons_self]
        rfl
      have later (b : α) := ih b fun g member => unanswered g (List.mem_cons_of_mem _ member)
      rw [fill_cons, fill_cons, here, funext later]

-- Filling in the order of declaration, the value of the first member may as well be put in before all others.
theorem fill_answered (fields : List (Field Value α)) (independent : fields.Pairwise Independent)
    (f : Field Value α) (declared : f ∈ fields) (key : String) (answered : f.answers key = true) (v : Value)
    (rest : Fields) (fresh : f.given? rest = none) (a : α) :
    fill fields ((key, v) :: rest) a = (f.put v a).toOption.bind (fill fields rest) := by
  induction fields generalizing a with
  | nil => cases declared
  | cons g fields ih =>
      obtain ⟨apart, independentRest⟩ := List.pairwise_cons.mp independent
      rcases List.mem_cons.mp declared with same | later
      · subst same
        have unanswered (h : Field Value α) (member : h ∈ fields) := (apart h member).apart key answered
        have here : fillField ((key, v) :: rest) a f = (f.put v a).toOption := by
          simp only [fillField, given_cons, answered, if_true]
        have next (b : α) : fill (f :: fields) rest b = fill fields rest b := by
          rw [fill_cons, fillField, fresh]
          rfl
        rw [fill_cons, here, funext next]
        exact congrArg _ (funext fun b => fill_unanswered fields key v rest b unanswered)
      · have other := independent_symm g f (apart f later)
        have elsewhere : g.answers key = false := other.apart key answered
        have here : fillField ((key, v) :: rest) a g = fillField rest a g := by
          simp only [fillField, given_cons, elsewhere, Bool.false_eq_true, if_false]
        have tail (b : α) := ih independentRest later b
        rw [fill_cons, here, funext tail]
        have whole (b : α) : fill (g :: fields) rest b = (fillField rest b g).bind (fill fields rest) :=
          fill_cons g fields rest b
        rw [funext whole]
        cases given : g.given? rest with
        | none => simp only [fillField, given, Option.bind_some]
        | some w => simp only [fillField, given, ← Option.bind_assoc, other.commute v w a]

theorem fill_keep (fields : List (Field Value α)) (keep : String → Value → α → α)
    (aside : ∀ f ∈ fields, ∀ key v w a, (f.put v (keep key w a)).toOption = (f.put v a).toOption.map (keep key w))
    (members : Fields) (key : String) (w : Value) (a : α) :
    fill fields members (keep key w a) = (fill fields members a).map (keep key w) := by
  induction fields generalizing a with
  | nil => rfl
  | cons f fields ih =>
      have here : fillField members (keep key w a) f = (fillField members a f).map (keep key w) := by
        unfold fillField
        cases f.given? members with
        | none => rfl
        | some v => exact aside f List.mem_cons_self key v w a
      have later (b : α) := ih (fun g member => aside g (List.mem_cons_of_mem _ member)) b
      rw [fill_cons, fill_cons, here]
      cases fillField members a f with
      | none => rfl
      | some b => simpa using later b

theorem answers_unique (fields : List (Field Value α)) (independent : fields.Pairwise Independent)
    (f g : Field Value α) (first : f ∈ fields) (second : g ∈ fields) (key : String)
    (answered : f.answers key = true) (answeredToo : g.answers key = true) : f = g := by
  induction fields with
  | nil => cases first
  | cons h fields ih =>
      obtain ⟨apart, independentRest⟩ := List.pairwise_cons.mp independent
      rcases List.mem_cons.mp first with rfl | firstLater
      · rcases List.mem_cons.mp second with rfl | secondLater
        · rfl
        · rw [(apart g secondLater).apart key answered] at answeredToo
          cases answeredToo
      · rcases List.mem_cons.mp second with rfl | secondLater
        · rw [(apart f firstLater).apart key answeredToo] at answered
          cases answered
        · exact ih independentRest firstLater secondLater

theorem find_answered (fields : List (Field Value α)) (independent : fields.Pairwise Independent)
    (f : Field Value α) (declared : f ∈ fields) (key : String) (answered : f.answers key = true) :
    fields.find? (·.answers key) = some f := by
  cases found : fields.find? (·.answers key) with
  | none =>
      rw [List.find?_eq_none] at found
      exact absurd answered (found f declared)
  | some g =>
      have answeredToo : g.answers key = true := by simpa using List.find?_some found
      rw [answers_unique fields independent f g declared (List.mem_of_find?_eq_some found) key answered answeredToo]

section Members

variable (fields : List (Field Value α)) (keep : String → Value → α → α)
  (other : String → Value → α → Except Fault α)

theorem read_member_answered (independent : fields.Pairwise Independent) (f : Field Value α) (declared : f ∈ fields)
    (key : String) (answered : f.answers key = true) (v : Value) (read : Partial α) :
    readMember fields other read (key, v) =
      if f.name ∈ read.seen then .error (.data (.duplicate f.name))
      else (f.put v read.value).map fun b => { value := b, seen := f.name :: read.seen } := by
  unfold readMember
  simp only [find_answered fields independent f declared key answered]
  by_cases seen : f.name ∈ read.seen
  · simp only [seen, if_true]
    rfl
  · simp only [seen, if_false]
    cases f.put v read.value <;> rfl

theorem read_member_unanswered (kept : ∀ key v a, other key v a = .ok (keep key v a)) (key : String)
    (unanswered : ∀ f ∈ fields, f.answers key = false) (v : Value) (read : Partial α) :
    readMember fields other read (key, v) = .ok { read with value := keep key v read.value } := by
  have missed : fields.find? (·.answers key) = none := by
    rw [List.find?_eq_none]
    intro f member answered
    rw [unanswered f member] at answered
    cases answered
  unfold readMember
  simp only [missed, kept]
  rfl

theorem unrepeated_answered (independent : fields.Pairwise Independent) (f : Field Value α) (declared : f ∈ fields)
    (key : String) (answered : f.answers key = true) (v : Value) (rest : Fields) :
    Unrepeated fields ((key, v) :: rest) ↔ f.given? rest = none ∧ Unrepeated fields rest := by
  rw [given_none_iff]
  constructor
  · intro unrepeated
    refine ⟨fun m member => ?_, fun g member => (List.pairwise_cons.mp (unrepeated g member)).2⟩
    exact (List.pairwise_cons.mp (unrepeated f declared)).1 m member answered
  · rintro ⟨fresh, unrepeated⟩ g member
    refine List.pairwise_cons.mpr ⟨fun m inRest answeredToo => ?_, unrepeated g member⟩
    rw [← answers_unique fields independent f g declared member key answered answeredToo]
    exact fresh m inRest

theorem unrepeated_unanswered (key : String) (unanswered : ∀ f ∈ fields, f.answers key = false) (v : Value)
    (rest : Fields) : Unrepeated fields ((key, v) :: rest) ↔ Unrepeated fields rest := by
  constructor
  · intro unrepeated f member
    exact (List.pairwise_cons.mp (unrepeated f member)).2
  · intro unrepeated f member
    refine List.pairwise_cons.mpr ⟨fun m _ answered => ?_, unrepeated f member⟩
    rw [unanswered f member] at answered
    cases answered

theorem unclaimed_answered (f : Field Value α) (declared : f ∈ fields) (key : String)
    (answered : f.answers key = true) (v : Value) (rest : Fields) :
    unclaimed fields ((key, v) :: rest) = unclaimed fields rest := by
  have claimed : fields.any (·.answers key) = true := List.any_eq_true.mpr ⟨f, declared, answered⟩
  simp only [unclaimed, List.filter_cons, claimed, Bool.not_true, Bool.false_eq_true, if_false]

theorem unclaimed_unanswered (key : String) (unanswered : ∀ f ∈ fields, f.answers key = false) (v : Value)
    (rest : Fields) : unclaimed fields ((key, v) :: rest) = (key, v) :: unclaimed fields rest := by
  have free : fields.any (·.answers key) = false := by
    rw [List.any_eq_false]
    intro f member
    simp [unanswered f member]
  simp only [unclaimed, List.filter_cons, free, Bool.not_false, if_true]

theorem same_field_of_name (independent : fields.Pairwise Independent) (f g : Field Value α) (first : f ∈ fields)
    (second : g ∈ fields) (same : g.name = f.name) : g = f := by
  have answered : f.answers g.name = true := by
    rw [same]
    exact answers_name f
  exact answers_unique fields independent g f second first g.name (answers_name g) answered

theorem closed_answered (independent : fields.Pairwise Independent) (f : Field Value α) (declared : f ∈ fields)
    (key : String) (answered : f.answers key = true) (v : Value) (rest : Fields) (seen : List String)
    (unseen : f.name ∉ seen) :
    (f.given? rest = none ∧ ∀ g ∈ fields, g.name ∈ seen → g.given? ((key, v) :: rest) = none) ↔
      ∀ g ∈ fields, g.name ∈ f.name :: seen → g.given? rest = none := by
  have elsewhere (g : Field Value α) (member : g ∈ fields) (past : g.name ∈ seen) : g.answers key = false := by
    cases answeredToo : g.answers key with
    | false => rfl
    | true =>
        have same := answers_unique fields independent f g declared member key answered answeredToo
        rw [← same] at past
        exact absurd past unseen
  constructor
  · rintro ⟨fresh, closed⟩ g member past
    rcases List.mem_cons.mp past with here | before
    · rw [same_field_of_name fields independent f g declared member here]
      exact fresh
    · have found := closed g member before
      rwa [given_cons, elsewhere g member before, if_neg Bool.false_ne_true] at found
  · intro closed
    refine ⟨closed f declared List.mem_cons_self, fun g member before => ?_⟩
    rw [given_cons, elsewhere g member before, if_neg Bool.false_ne_true]
    exact closed g member (List.mem_cons_of_mem _ before)

theorem closed_unanswered (key : String) (unanswered : ∀ f ∈ fields, f.answers key = false) (v : Value)
    (rest : Fields) (seen : List String) :
    (∀ g ∈ fields, g.name ∈ seen → g.given? ((key, v) :: rest) = none) ↔
      ∀ g ∈ fields, g.name ∈ seen → g.given? rest = none := by
  refine forall_congr' fun g => forall_congr' fun member => ?_
  rw [given_cons, unanswered g member, if_neg Bool.false_ne_true]

-- Members are read one by one and refused at the first repetition. Reading all of them fills the fields
-- in the order of declaration.
theorem fold_members_iff (lawful : Lawful fields keep) (kept : ∀ key v a, other key v a = .ok (keep key v a))
    (members : Fields) (a b : α) (seen : List String) :
    (∃ out, members.foldlM (readMember fields other) ⟨a, seen⟩ = .ok out ∧ out.value = b) ↔
      Unrepeated fields members ∧ (∀ f ∈ fields, f.name ∈ seen → f.given? members = none) ∧
        (fill fields members a).map (keepAll keep (unclaimed fields members)) = some b := by
  induction members generalizing a seen with
  | nil =>
      have clean : Unrepeated fields [] := fun f member => List.Pairwise.nil
      rw [fill_nil]
      constructor
      · rintro ⟨out, read, rfl⟩
        cases read
        exact ⟨clean, fun f _ _ => rfl, rfl⟩
      · rintro ⟨_, _, same⟩
        cases same
        exact ⟨⟨a, seen⟩, rfl, rfl⟩
  | cons m rest ih =>
      obtain ⟨key, v⟩ := m
      rw [List.foldlM_cons]
      by_cases claimed : ∃ f ∈ fields, f.answers key = true
      · obtain ⟨f, declared, answered⟩ := claimed
        rw [read_member_answered fields other lawful.independent f declared key answered v,
          unrepeated_answered fields lawful.independent f declared key answered v rest,
          unclaimed_answered fields f declared key answered v rest]
        by_cases past : f.name ∈ seen
        -- The member is a repetition: reading stops here, and the field was to be left alone.
        · rw [if_pos past]
          constructor
          · rintro ⟨out, read, _⟩
            cases read
          · rintro ⟨_, closed, _⟩
            have found := closed f declared past
            rw [given_cons, if_pos answered] at found
            cases found
        · rw [if_neg past]
          have order := closed_answered fields lawful.independent f declared key answered v rest seen past
          cases stored : f.put v a with
          | error e =>
              constructor
              · rintro ⟨out, read, _⟩
                cases read
              · rintro ⟨⟨fresh, _⟩, _, filled⟩
                rw [fill_answered fields lawful.independent f declared key answered v rest fresh, stored] at filled
                cases filled
          | ok next =>
              refine (ih next (f.name :: seen)).trans ?_
              rw [← order]
              constructor
              · rintro ⟨unrepeated, ⟨fresh, closed⟩, filled⟩
                refine ⟨⟨fresh, unrepeated⟩, closed, ?_⟩
                rwa [fill_answered fields lawful.independent f declared key answered v rest fresh, stored]
              · rintro ⟨⟨fresh, unrepeated⟩, closed, filled⟩
                rw [fill_answered fields lawful.independent f declared key answered v rest fresh, stored] at filled
                exact ⟨unrepeated, ⟨fresh, closed⟩, filled⟩
      · have unanswered (f : Field Value α) (member : f ∈ fields) : f.answers key = false :=
          Bool.eq_false_iff.mpr fun answered => claimed ⟨f, member, answered⟩
        rw [read_member_unanswered fields keep other kept key unanswered v,
          unrepeated_unanswered fields key unanswered v rest, closed_unanswered fields key unanswered v rest seen,
          unclaimed_unanswered fields key unanswered v rest, fill_unanswered fields key v rest a unanswered]
        refine (ih (keep key v a) seen).trans ?_
        rw [fill_keep fields keep lawful.aside, Option.map_map]
        rfl

theorem read_member_seen (read out : Partial α) (key : String) (v : Value) (independent : fields.Pairwise Independent)
    (kept : ∀ key v a, other key v a = .ok (keep key v a))
    (step : readMember fields other read (key, v) = .ok out) (g : Field Value α) (member : g ∈ fields) :
    g.name ∈ out.seen ↔ g.name ∈ read.seen ∨ g.answers key = true := by
  by_cases claimed : ∃ f ∈ fields, f.answers key = true
  · obtain ⟨f, declared, answered⟩ := claimed
    rw [read_member_answered fields other independent f declared key answered v] at step
    split at step
    · cases step
    · have names : g.name = f.name ↔ g.answers key = true := by
        constructor
        · intro same
          rw [same_field_of_name fields independent f g declared member same]
          exact answered
        · intro answeredToo
          rw [answers_unique fields independent f g declared member key answered answeredToo]
      cases stored : f.put v read.value with
      | error e =>
          rw [stored] at step
          cases step
      | ok next =>
          rw [stored] at step
          cases step
          rw [List.mem_cons, names]
          exact Or.comm
  · have unanswered (f : Field Value α) (inFields : f ∈ fields) : f.answers key = false :=
      Bool.eq_false_iff.mpr fun answered => claimed ⟨f, inFields, answered⟩
    rw [read_member_unanswered fields keep other kept key unanswered v] at step
    cases step
    simp only [unanswered g member, Bool.false_eq_true, or_false]

theorem fold_members_seen (independent : fields.Pairwise Independent)
    (kept : ∀ key v a, other key v a = .ok (keep key v a)) (members : Fields) (read out : Partial α)
    (folded : members.foldlM (readMember fields other) read = .ok out) (g : Field Value α) (member : g ∈ fields) :
    g.name ∈ out.seen ↔ g.name ∈ read.seen ∨ g.given? members ≠ none := by
  induction members generalizing read with
  | nil =>
      cases folded
      simp [Field.given?]
  | cons m rest ih =>
      obtain ⟨key, v⟩ := m
      rw [List.foldlM_cons] at folded
      cases step : readMember fields other read (key, v) with
      | error e =>
          rw [step] at folded
          cases folded
      | ok next =>
          rw [step] at folded
          rw [ih next folded, read_member_seen fields keep other read next key v independent kept step g member,
            given_cons]
          cases g.answers key <;> simp

theorem missing_none_iff (seen : List String) :
    missing? fields seen = none ↔ ∀ f ∈ fields, f.need = .required → f.name ∈ seen := by
  simp [missing?]

theorem read_members_ok_iff (start b : α) (members : Fields) :
    readMembers fields other start { items := members } = .ok b ↔
      ∃ out, members.foldlM (readMember fields other) ⟨start, []⟩ = .ok out ∧ missing? fields out.seen = none ∧
        out.value = b := by
  refine (bind_ok_iff _ _ _).trans (exists_congr fun out => and_congr_right fun _ => ?_)
  simp only [Series.finish, bind, Except.bind]
  cases missing? fields out.seen with
  | none => simp [pure, Except.pure]
  | some name => simp [throw, throwThe, MonadExceptOf.throw]

theorem read_members_iff (lawful : Lawful fields keep) (kept : ∀ key v a, other key v a = .ok (keep key v a))
    (start b : α) (members : Fields) :
    readMembers fields other start { items := members } = .ok b ↔
      Unrepeated fields members ∧ Complete fields members ∧
        (fill fields members start).map (keepAll keep (unclaimed fields members)) = some b := by
  have whole := fold_members_iff fields keep other lawful kept members start b []
  have unseen : ∀ f ∈ fields, f.name ∈ ([] : List String) → f.given? members = none :=
    fun f _ past => absurd past List.not_mem_nil
  have complete (out : Partial α) (folded : members.foldlM (readMember fields other) ⟨start, []⟩ = .ok out) :
      missing? fields out.seen = none ↔ Complete fields members := by
    rw [missing_none_iff]
    refine forall_congr' fun f => forall_congr' fun member => forall_congr' fun _ => ?_
    rw [fold_members_seen fields keep other lawful.independent kept members ⟨start, []⟩ out folded f member]
    simp
  rw [read_members_ok_iff]
  constructor
  · rintro ⟨out, folded, present, value⟩
    obtain ⟨unrepeated, _, filled⟩ := whole.mp ⟨out, folded, value⟩
    exact ⟨unrepeated, (complete out folded).mp present, filled⟩
  · rintro ⟨unrepeated, all, filled⟩
    obtain ⟨out, folded, value⟩ := whole.mpr ⟨unrepeated, unseen, filled⟩
    exact ⟨out, folded, (complete out folded).mpr all, value⟩

end Members

end IntentGate.Shape
