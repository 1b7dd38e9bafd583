import IntentGate.Proofs.ProperValue
import IntentGate.Proofs.RecordReading
import IntentGate.Proofs.Sequencing

set_option autoImplicit false

namespace IntentGate.Shape

open Json

variable {α β γ : Type}

inductive Obtained (read : Value → Except Fault β) (default : β) : Option Value → β → Prop where
  | given (v : Value) (x : β) (read_ok : read v = .ok x) : Obtained read default (some v) x
  | absent : Obtained read default none default

theorem option_of_ok (read : Value → Except Fault β) (v : Value) (x : Option β) (read_ok : optionOf read v = .ok x) :
    (v = .null ∧ x = none) ∨ (v ≠ .null ∧ ∃ b, read v = .ok b ∧ x = some b) := by
  cases v with
  | null =>
      cases read_ok
      exact .inl ⟨rfl, rfl⟩
  | _ =>
      obtain ⟨_, given, read_ok⟩ := (bind_ok_iff _ _ _).mp read_ok
      cases given
      obtain ⟨b, found, stored⟩ := (bind_ok_iff _ _ _).mp read_ok
      cases stored
      exact .inr ⟨Value.noConfusion, b, found, rfl⟩

theorem list_of_ok (read : Value → Except Fault β) (v : Value) (l : List β) (read_all : listOf read v = .ok l) :
    ∃ items, v = .list items ∧ items.mapM read = .ok l := by
  cases v with
  | list items =>
      obtain ⟨_, given, read_all⟩ := (bind_ok_iff _ _ _).mp read_all
      cases given
      obtain ⟨found, each, finished⟩ := (bind_ok_iff _ _ _).mp read_all
      cases finished
      exact ⟨items, rfl, each⟩
  | _ => cases read_all

theorem put_some_iff (f : Field Value α) (read : Value → Except Fault β) (set : β → α → α)
    (put : f.put = fun d a => do return set (← read d) a) (v : Value) (a b : α) :
    (f.put v a).toOption = some b ↔ ∃ x, read v = .ok x ∧ set x a = b := by
  rw [put]
  cases result : read v with
  | error e => simp [bind, Except.bind, Except.toOption, result]
  | ok x => simp [bind, Except.bind, pure, Except.pure, Except.toOption, result]

theorem put_map (f : Field Value α) (read : Value → Except Fault β) (set : β → α → α)
    (put : f.put = fun d a => do return set (← read d) a) (v : Value) (a : α) :
    (f.put v a).toOption = (read v).toOption.map fun x => set x a := by
  rw [put]
  cases result : read v with
  | error e => simp [bind, Except.bind, Except.toOption, result]
  | ok x => simp [bind, Except.bind, pure, Except.pure, Except.toOption, result]

theorem independent_of_sets (f g : Field Value α) (read : Value → Except Fault β) (set : β → α → α)
    (read' : Value → Except Fault γ) (set' : γ → α → α) (put : f.put = fun d a => do return set (← read d) a)
    (put' : g.put = fun d a => do return set' (← read' d) a)
    (apart : ∀ key, f.answers key = true → g.answers key = false)
    (commute : ∀ x y a, set' y (set x a) = set x (set' y a)) : Independent f g := by
  refine ⟨apart, fun v w a => ?_⟩
  simp only [put_map f read set put, put_map g read' set' put']
  cases read v with
  | error e => cases read' w <;> rfl
  | ok x =>
      cases read' w with
      | error e => rfl
      | ok y => simp [Except.toOption, commute]

theorem fill_step (f : Field Value α) (fields : List (Field Value α)) (read : Value → Except Fault β)
    (set : β → α → α) (put : f.put = fun d a => do return set (← read d) a) (default : β) (members : Fields)
    (a b : α) (unset : set default a = a) (filled : fill (f :: fields) members a = some b) :
    ∃ x, Obtained read default (f.given? members) x ∧ fill fields members (set x a) = some b := by
  rw [fill_cons] at filled
  unfold fillField at filled
  cases given : f.given? members with
  | none =>
      rw [given] at filled
      refine ⟨default, .absent, ?_⟩
      rw [unset]
      exact filled
  | some v =>
      rw [given] at filled
      obtain ⟨next, stored, rest⟩ := Option.bind_eq_some_iff.mp filled
      obtain ⟨x, read_ok, rfl⟩ := (put_some_iff f read set put v a next).mp stored
      exact ⟨x, .given v x read_ok, rest⟩

theorem fill_obtained (f : Field Value α) (fields : List (Field Value α)) (read : Value → Except Fault β)
    (set : β → α → α) (put : f.put = fun d a => do return set (← read d) a) (default : β) (members : Fields)
    (a : α) (x : β) (unset : set default a = a) (obtained : Obtained read default (f.given? members) x) :
    fill (f :: fields) members a = fill fields members (set x a) := by
  rw [fill_cons, fillField]
  generalize f.given? members = given at obtained ⊢
  cases obtained with
  | absent => rw [unset, Option.bind_some]
  | given v x read_ok =>
      have stored := (put_some_iff f read set put v a (set x a)).mpr ⟨x, read_ok, rfl⟩
      dsimp only
      rw [stored, Option.bind_some]

theorem field_given (need : Need) (name : String) (read : Value → Except Fault β) (set : β → α → α)
    (members : Fields) : (field need name read set).given? members = Keyed.get? members name := by
  induction members with
  | nil => rfl
  | cons m rest ih =>
      obtain ⟨key, v⟩ := m
      rw [given_cons, Keyed.get_cons, ih]
      simp [Field.answers, field, eq_comm]

theorem fill_field_iff (f : Field Value α) (fields : List (Field Value α)) (read : Value → Except Fault β)
    (set : β → α → α) (put : f.put = fun d a => do return set (← read d) a) (default : β) (members : Fields)
    (a b : α) (unset : set default a = a) :
    fill (f :: fields) members a = some b ↔
      ∃ x, Obtained read default (f.given? members) x ∧ fill fields members (set x a) = some b := by
  constructor
  · exact fill_step f fields read set put default members a b unset
  · rintro ⟨x, obtained, filled⟩
    rw [fill_obtained f fields read set put default members a x unset obtained, filled]

theorem fill_named_iff (need : Need) (name : String) (read : Value → Except Fault β) (set : β → α → α)
    (fields : List (Field Value α)) (members : Fields) (default : β) (a b : α) (unset : set default a = a) :
    fill (field need name read set :: fields) members a = some b ↔
      ∃ x, Obtained read default (Keyed.get? members name) x ∧ fill fields members (set x a) = some b := by
  rw [fill_field_iff (field need name read set) fields read set rfl default members a b unset, field_given]

theorem field_answers (need : Need) (name : String) (read : Value → Except Fault β) (set : β → α → α) (key : String) :
    (field need name read set).answers key = true ↔ key = name := by
  simp [Field.answers, field]

theorem field_unrepeated (need : Need) (name : String) (read : Value → Except Fault β) (set : β → α → α)
    (members : Fields) (ascending : Keyed.Ascending members) :
    members.Pairwise fun m n => (field need name read set).answers m.1 = true →
      (field need name read set).answers n.1 = false := by
  refine ascending.imp fun {m n} less answered => ?_
  rw [field_answers] at answered
  rw [Bool.eq_false_iff, ne_eq, field_answers, ← answered]
  intro same
  rw [same] at less
  exact String.lt_irrefl m.1 less

section Either

variable (need : Need) (name other : String) (read : Value → Except Fault β) (set : β → α → α)

theorem either_answers (key : String) :
    ((field need name read set).orKey other).answers key = true ↔ key = name ∨ key = other := by
  simp [Field.answers, Field.orKey, field, @eq_comm _ other key]

theorem either_given (members : Fields)
    (single : Keyed.get? members name = none ∨ Keyed.get? members other = none) :
    ((field need name read set).orKey other).given? members =
      (Keyed.get? members name).or (Keyed.get? members other) := by
  induction members with
  | nil => rfl
  | cons m rest ih =>
      obtain ⟨key, v⟩ := m
      have answered := either_answers need name other read set key
      simp only [Keyed.get_cons] at single ⊢
      rw [given_cons]
      by_cases here : name = key
      · rw [if_pos (answered.mpr (.inl here.symm)), if_pos here, Option.some_or]
      · by_cases there : other = key
        · have absent : Keyed.get? rest name = none := by simpa [here, there] using single
          rw [if_pos (answered.mpr (.inr there.symm)), if_neg here, if_pos there, absent, Option.none_or]
        · have elsewhere : ¬ (key = name ∨ key = other) := by simp [Ne.symm here, Ne.symm there]
          rw [if_neg here, if_neg there] at single ⊢
          rw [if_neg fun claimed => elsewhere (answered.mp claimed), ih single]

theorem fill_either_iff (fields : List (Field Value α)) (members : Fields)
    (single : Keyed.get? members name = none ∨ Keyed.get? members other = none) (default : β) (a b : α)
    (unset : set default a = a) :
    fill ((field need name read set).orKey other :: fields) members a = some b ↔
      ∃ x, Obtained read default ((Keyed.get? members name).or (Keyed.get? members other)) x ∧
        fill fields members (set x a) = some b := by
  rw [fill_field_iff ((field need name read set).orKey other) fields read set rfl default members a b unset,
    either_given need name other read set members single]

theorem either_unrepeated_iff (members : Fields) (ascending : Keyed.Ascending members) (different : name ≠ other) :
    (members.Pairwise fun m n => ((field need name read set).orKey other).answers m.1 = true →
        ((field need name read set).orKey other).answers n.1 = false) ↔
      Keyed.get? members name = none ∨ Keyed.get? members other = none := by
  have answered := either_answers need name other read set
  simp only [Bool.eq_false_iff, ne_eq, answered]
  constructor
  · intro apart
    by_contra both
    obtain ⟨there, thereToo⟩ := not_or.mp both
    obtain ⟨v, first⟩ := Option.ne_none_iff_exists'.mp there
    obtain ⟨w, second⟩ := Option.ne_none_iff_exists'.mp thereToo
    have symmetric : Std.Symm fun m n : String × Value => (m.1 = name ∨ m.1 = other) → ¬ (n.1 = name ∨ n.1 = other) :=
      ⟨fun m n apart claimed claimedToo => apart claimedToo claimed⟩
    have unlike : (name, v) ≠ (other, w) := fun same => different (congrArg Prod.fst same)
    exact apart.forall (Keyed.mem_of_get members name v first) (Keyed.mem_of_get members other w second) unlike
      (.inl rfl) (.inr rfl)
  · intro single
    simp only [Keyed.get_eq_none_iff] at single
    refine List.Pairwise.imp_of_mem (fun {m n} member later less claimed claimedToo => ?_) ascending
    have unlike : m.1 ≠ n.1 := fun same => String.lt_irrefl n.1 (same ▸ less)
    rcases single with absent | absent
    · have first := claimed.resolve_left (absent m member)
      have second := claimedToo.resolve_left (absent n later)
      exact unlike (first.trans second.symm)
    · have first := claimed.resolve_right (absent m member)
      have second := claimedToo.resolve_right (absent n later)
      exact unlike (first.trans second.symm)

end Either

theorem fields_independent (need need' : Need) (name name' : String) (read : Value → Except Fault β)
    (set : β → α → α) (read' : Value → Except Fault γ) (set' : γ → α → α) (different : name ≠ name')
    (commute : ∀ x y a, set' y (set x a) = set x (set' y a)) :
    Independent (field need name read set) (field need' name' read' set') := by
  refine independent_of_sets _ _ read set read' set' rfl rfl (fun key answered => ?_) commute
  rw [field_answers] at answered
  rw [Bool.eq_false_iff, ne_eq, field_answers, answered]
  exact different

theorem either_independent (need need' : Need) (name other name' : String) (read : Value → Except Fault β)
    (set : β → α → α) (read' : Value → Except Fault γ) (set' : γ → α → α) (different : name ≠ name')
    (differentToo : other ≠ name') (commute : ∀ x y a, set' y (set x a) = set x (set' y a)) :
    Independent ((field need name read set).orKey other) (field need' name' read' set') := by
  refine independent_of_sets _ _ read set read' set' rfl rfl (fun key answered => ?_) commute
  rw [Bool.eq_false_iff, ne_eq, field_answers]
  rcases (either_answers need name other read set key).mp answered with rfl | rfl
  · exact different
  · exact differentToo

theorem put_aside (f : Field Value α) (read : Value → Except Fault β) (set : β → α → α)
    (put : f.put = fun d a => do return set (← read d) a) (keep : String → Value → α → α)
    (commute : ∀ x key w a, set x (keep key w a) = keep key w (set x a)) (key : String) (v w : Value) (a : α) :
    (f.put v (keep key w a)).toOption = (f.put v a).toOption.map (keep key w) := by
  rw [put_map f read set put, put_map f read set put, Option.map_map]
  exact congrArg (fun g => (read v).toOption.map g) (funext fun x => commute x key w a)

theorem keep_all_extra (extra : α → Fields) (into : Fields → α → α)
    (keep : String → Value → α → α) (keeps : ∀ key v a, keep key v a = into (Keyed.insert key v (extra a)) a)
    (stored : ∀ fields a, extra (into fields a) = fields)
    (last : ∀ first second a, into second (into first a) = into second a)
    (same : ∀ a, into (extra a) a = a) (members : Fields) (a : α) :
    keepAll keep members a = into (Keyed.insertAll members (extra a)) a := by
  induction members generalizing a with
  | nil => exact (same a).symm
  | cons m rest ih =>
      obtain ⟨key, v⟩ := m
      change keepAll keep rest (keep key v a) = _
      rw [ih, keeps, stored, last]
      rfl

theorem get_unclaimed (fields : List (Field Value α)) (members : Fields) (key : String) :
    Keyed.get? (unclaimed fields members) key =
      if fields.any (·.answers key) then none else Keyed.get? members key := by
  induction members with
  | nil => simp [unclaimed, Keyed.get_nil]
  | cons m rest ih =>
      obtain ⟨k, v⟩ := m
      unfold unclaimed at ih ⊢
      rw [List.filter_cons, Keyed.get_cons]
      by_cases same : key = k
      · subst same
        cases claimed : fields.any (·.answers key) with
        | true => simpa [claimed] using ih
        | false => simp [Keyed.get_cons]
      · cases fields.any (·.answers k) <;> simp [Keyed.get_cons, same, ih]

theorem extra_ascends (fields : List (Field Value α)) (members : Fields) :
    Keyed.Ascending (Keyed.insertAll (unclaimed fields members) []) := Keyed.ascending_of_list _

theorem get_extra (fields : List (Field Value α)) (members : Fields) (ascending : Keyed.Ascending members)
    (key : String) : Keyed.get? (Keyed.insertAll (unclaimed fields members) []) key =
      if fields.any (·.answers key) then none else Keyed.get? members key := by
  have distinct : ((unclaimed fields members).map (·.1)).Nodup :=
    (Keyed.ascending_distinct members ascending).sublist (List.filter_sublist.map _)
  rw [Keyed.get_insert_all _ distinct, get_unclaimed, Keyed.get_nil, Option.or_none]

theorem read_open_ok (name : String) (fields : List (Field Value α)) (keep : String → Value → α → α) (start : α)
    (lawful : Lawful fields keep) (v : Value) (a : α) (read : readOpen name fields keep start v = .ok a) :
    ∃ members base, v = .object members ∧ Unrepeated fields members ∧ Complete fields members ∧
      fill fields members start = some base ∧ a = keepAll keep (unclaimed fields members) base := by
  cases v with
  | object members =>
      have kept (key : String) (v : Value) (a : α) :
          (do return keep key (← JsonSource.value v) a : Except Fault α) = .ok (keep key v a) := rfl
      obtain ⟨unrepeated, complete, filled⟩ := (read_members_iff fields keep _ lawful kept start a members).mp read
      obtain ⟨base, filled, same⟩ := Option.map_eq_some_iff.mp filled
      exact ⟨members, base, rfl, unrepeated, complete, filled, same.symm⟩
  | _ => cases read

def present (parts : List (String × Option Value)) : Fields := parts.filterMap fun p => p.2.map fun v => (p.1, v)

theorem present_keys (parts : List (String × Option Value)) :
    ((present parts).map (·.1)).Sublist (parts.map (·.1)) := by
  induction parts with
  | nil => exact .slnil
  | cons p rest ih =>
      obtain ⟨key, value⟩ := p
      cases value with
      | none => exact ih.cons key
      | some v => exact ih.cons_cons key

theorem get_present (parts : List (String × Option Value)) (distinct : (parts.map (·.1)).Nodup) (key : String) :
    Keyed.get? (present parts) key = (Keyed.get? parts key).join := by
  induction parts with
  | nil => rfl
  | cons p rest ih =>
      obtain ⟨k, value⟩ := p
      obtain ⟨fresh, distinctRest⟩ := List.nodup_cons.mp distinct
      have tail := ih distinctRest
      rw [Keyed.get_cons]
      cases value with
      | none =>
          change Keyed.get? (present rest) key = _
          by_cases same : key = k
          · have absent : Keyed.get? rest key = none := Keyed.get_unlisted rest key (same ▸ fresh)
            rw [tail, absent, if_pos same]
            rfl
          · rw [tail, if_neg same]
      | some v =>
          change Keyed.get? ((k, v) :: present rest) key = _
          rw [Keyed.get_cons, tail]
          by_cases same : key = k
          · rw [if_pos same, if_pos same]
            rfl
          · rw [if_neg same, if_neg same]

theorem written_object (parts : List (String × Option Value)) (extra : Fields)
    (distinct : (parts.map (·.1)).Nodup) (ascending : Keyed.Ascending extra)
    (apart : ∀ key ∈ parts.map (·.1), Keyed.get? extra key = none) :
    ∃ entries, (Value.object (present parts ++ extra)).sorted = .object entries ∧ Keyed.Ascending entries ∧
      ∀ key, Keyed.get? entries key =
        ((Keyed.get? parts key).getD (Keyed.get? extra key)).map Value.sorted := by
  have keys : ((present parts ++ extra).map (·.1)).Nodup := by
    rw [List.map_append]
    refine List.nodup_append.mpr
      ⟨distinct.sublist (present_keys parts), Keyed.ascending_distinct extra ascending, ?_⟩
    intro key named other beside same
    obtain ⟨e, member, rfl⟩ := List.mem_map.mp beside
    have missing := apart key ((present_keys parts).mem named)
    rw [Keyed.get_eq_none_iff] at missing
    exact missing e member same.symm
  obtain ⟨entries, sorted, entriesAscend, found⟩ := sorted_object (present parts ++ extra) keys
  refine ⟨entries, sorted, entriesAscend, fun key => ?_⟩
  rw [found, Keyed.get_append, get_present parts distinct]
  cases part : Keyed.get? parts key with
  | none => rfl
  | some value =>
      have named : key ∈ parts.map (·.1) := List.mem_map_of_mem (Keyed.mem_of_get parts key value part)
      cases value with
      | none => rw [apart key named]; rfl
      | some v => rfl

end IntentGate.Shape
