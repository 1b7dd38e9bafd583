import IntentGate.Proofs.ProperValue
import IntentGate.Proofs.Sequencing
import IntentGate.Shape.Json

set_option autoImplicit false

namespace IntentGate.Json

inductive Token.Proper : Token → Prop where
  | number (n : Number) (proper : (Value.number n).Proper) : Proper (.number n)
  | other (token : Token) (unnumbered : ∀ n, token ≠ .number n) : Proper token

theorem numeral_proper (numeral : Numeral) (n : Number) (read : numeral.value? = some n) :
    (Value.number n).Proper := by
  unfold Numeral.value? at read
  dsimp only at read
  split at read
  · rename_i whole
    rw [Bool.and_eq_true] at whole
    have word : _ < 2 ^ 64 := of_decide_eq_true whole.2
    cases read
    exact .int _ (by omega) (Int.ofNat_lt.mpr word)
  · split at read
    · rename_i whole
      rw [Bool.and_eq_true] at whole
      have word : _ ≤ 2 ^ 63 := of_decide_eq_true whole.2
      cases read
      exact .int _ (Int.neg_le_neg (Int.ofNat_le.mpr word)) (by omega)
    · obtain ⟨x, finite, rfl⟩ := Option.map_eq_some_iff.mp read
      exact .float x (numeral_float_finite numeral x finite)

theorem take_number_proper (negative : Bool) (cs : List Char) : (takeNumber negative cs).1.Proper := by
  unfold takeNumber
  split
  · exact .other _ fun n same => by cases same
  · rename_i numeral rest taken
    cases read : numeral.value? with
    | none => exact .other _ fun n same => by cases same
    | some n => exact .number n (numeral_proper numeral n read)

theorem spelled_unnumbered (s : Spelled) (n : Number) : s.token ≠ .number n := by
  unfold Spelled.token
  split <;> simp

theorem take_text_unnumbered (s : Spelled) (cs : List Char) (n : Number) : (takeText s cs).1 ≠ .number n := by
  fun_induction takeText s cs <;> first | assumption | exact spelled_unnumbered _ n | simp [Spelled.broken]

theorem take_word_unnumbered (word : List Char) (token : Token) (unnumbered : ∀ n, token ≠ .number n)
    (cs : List Char) (n : Number) : (takeWord word token cs).1 ≠ .number n := by
  induction word generalizing cs with
  | nil => exact unnumbered n
  | cons w word ih =>
      cases cs with
      | nil => simp [takeWord]
      | cons c cs =>
          rw [takeWord]
          split
          · exact ih cs
          · simp

theorem take_token_proper (c : Char) (rest : List Char) : (takeToken c rest).1.Proper := by
  unfold takeToken
  split
  case h_7 => exact .other _ (take_text_unnumbered _ _)
  case h_8 | h_9 | h_10 => exact .other _ (take_word_unnumbered _ _ (by simp) _)
  case h_11 =>
    cases rest with
    | nil => exact .other _ (by simp [takeToken.takeSigned])
    | cons c rest => exact take_number_proper true (c :: rest)
  case h_12 =>
    split
    · exact take_number_proper false _
    · exact .other _ (by simp)
  all_goals exact .other _ (by simp)

theorem tokens_proper (cs : List Char) : ∀ token ∈ tokens cs, token.Proper := by
  fun_induction tokens cs with
  | case1 => simp
  | case2 c rest space ih => exact ih
  | case3 c rest notSpace ih =>
      intro token member
      rcases List.mem_cons.mp member with rfl | later
      · exact take_token_proper c rest
      · exact ih token later

inductive Draft.Proper : Draft → Prop where
  | null : Proper .null
  | bool (b : Bool) : Proper (.bool b)
  | number (n : Number) (proper : (Value.number n).Proper) : Proper (.number n)
  | text (s : String) : Proper (.text s)
  | list (items : List Draft) (stop : Stop) (each : ∀ d ∈ items, Proper d) : Proper (.list items stop)
  | object (members : List (String × Draft)) (stop : Stop) (each : ∀ m ∈ members, Proper m.2) :
      Proper (.object members stop)
  | faulty (isWord : Bool) (read : Trouble) (skip : Option Trouble) : Proper (.faulty isWord read skip)

theorem read_items_proper (items : List Draft) (values : List Value)
    (each : ∀ d ∈ items, ∀ v, d.value = .ok v → v.Proper) (read : readItems items = .ok values) :
    ∀ v ∈ values, v.Proper := by
  induction items generalizing values with
  | nil =>
      cases read
      simp
  | cons d rest ih =>
      rw [readItems, bind_ok_iff] at read
      obtain ⟨v, first, read⟩ := read
      obtain ⟨tail, others, last⟩ := (bind_ok_iff _ _ _).mp read
      cases last
      intro w member
      rcases List.mem_cons.mp member with rfl | later
      · exact each d List.mem_cons_self w first
      · exact ih tail (fun d member => each d (List.mem_cons_of_mem _ member)) others w later

theorem read_fields_proper (members : List (String × Draft)) (fields : List (String × Value))
    (each : ∀ m ∈ members, ∀ v, m.2.value = .ok v → v.Proper) (read : readFields members = .ok fields) :
    ∀ f ∈ fields, f.2.Proper := by
  induction members generalizing fields with
  | nil =>
      cases read
      simp
  | cons m rest ih =>
      obtain ⟨key, d⟩ := m
      rw [readFields, bind_ok_iff] at read
      obtain ⟨v, first, read⟩ := read
      obtain ⟨tail, others, last⟩ := (bind_ok_iff _ _ _).mp read
      cases last
      intro f member
      rcases List.mem_cons.mp member with rfl | later
      · exact each (key, d) List.mem_cons_self v first
      · exact ih tail (fun m member => each m (List.mem_cons_of_mem _ member)) others f later

theorem draft_value_proper (d : Draft) (proper : d.Proper) (v : Value) (read : d.value = .ok v) : v.Proper := by
  induction proper generalizing v with
  | null =>
      cases read
      exact .null
  | bool b =>
      cases read
      exact .bool b
  | number n proper =>
      cases read
      exact proper
  | text s =>
      cases read
      exact .text s
  | list items stop each ih =>
      rw [Draft.value, bind_ok_iff] at read
      obtain ⟨values, result, read⟩ := read
      obtain ⟨_, -, last⟩ := (bind_ok_iff _ _ _).mp read
      cases last
      exact .list values (read_items_proper items values ih result)
  | object members stop each ih =>
      rw [Draft.value, bind_ok_iff] at read
      obtain ⟨fields, result, read⟩ := read
      obtain ⟨_, -, last⟩ := (bind_ok_iff _ _ _).mp read
      cases last
      have all := read_fields_proper members fields ih result
      exact .object _ (Keyed.ascending_of_list fields) fun f member => all f (Keyed.mem_of_list fields f member)
  | faulty isWord trouble skip => cases read

inductive Frame.Proper : Frame → Prop where
  | list (items : List Draft) (each : ∀ d ∈ items, d.Proper) : Proper (.list items)
  | object (members : List (String × Draft)) (key : String) (each : ∀ m ∈ members, m.2.Proper) :
      Proper (.object members key)

inductive Progress.Proper : Progress → Prop where
  | inside (frames : List Frame) (place : Place) (each : ∀ f ∈ frames, f.Proper) : Proper (.inside frames place)
  | complete (root : Draft) (proper : root.Proper) : Proper (.complete root)
  | followed (root : Draft) (proper : root.Proper) : Proper (.followed root)
  | stopped (root : Draft) (proper : root.Proper) : Proper (.stopped root)

theorem list_draft_proper (items : List Draft) (stop : Stop) (each : ∀ d ∈ items, d.Proper) :
    (Draft.list items.reverse stop).Proper :=
  .list _ stop fun d member => each d (List.mem_reverse.mp member)

theorem object_draft_proper (members : List (String × Draft)) (stop : Stop) (each : ∀ m ∈ members, m.2.Proper) :
    (Draft.object members.reverse stop).Proper :=
  .object _ stop fun m member => each m (List.mem_reverse.mp member)

theorem limited_proper (depth : Nat) (skip : Option Trouble) (d : Draft) (proper : d.Proper) :
    (limited depth skip d).Proper := by
  unfold limited
  split
  · exact .faulty _ _ _
  · exact proper

theorem list_frame_cons (d : Draft) (items : List Draft) (proper : d.Proper) (frame : (Frame.list items).Proper) :
    ∀ d' ∈ d :: items, d'.Proper := by
  cases frame with
  | list _ each => exact List.forall_mem_cons.mpr ⟨proper, each⟩

theorem object_frame_cons (d : Draft) (members : List (String × Draft)) (key : String) (proper : d.Proper)
    (frame : (Frame.object members key).Proper) : ∀ m ∈ (key, d) :: members, m.2.Proper := by
  cases frame with
  | object _ _ each => exact List.forall_mem_cons.mpr ⟨proper, each⟩

theorem break_off_proper (t : Trouble) (d : Draft) (frames : List Frame) (proper : d.Proper)
    (each : ∀ f ∈ frames, f.Proper) : (breakOff t d frames).Proper := by
  induction frames generalizing d with
  | nil => exact proper
  | cons frame outer ih =>
      obtain ⟨frameProper, outerProper⟩ := List.forall_mem_cons.mp each
      cases frame with
      | list items =>
          refine ih _ (limited_proper _ _ _ (list_draft_proper (d :: items) _ ?_)) outerProper
          exact list_frame_cons d items proper frameProper
      | object members key =>
          refine ih _ (limited_proper _ _ _ (object_draft_proper ((key, d) :: members) _ ?_)) outerProper
          exact object_frame_cons d members key proper frameProper

theorem stop_value_proper (t : Trouble) (frames : List Frame) (each : ∀ f ∈ frames, f.Proper) :
    (stopValue t frames).Proper := .stopped _ (break_off_proper t _ frames (.faulty _ _ _) each)

theorem stop_inside_proper (t : Trouble) (stop : Stop) (frames : List Frame) (each : ∀ f ∈ frames, f.Proper) :
    (stopInside t stop frames).Proper := by
  cases frames with
  | nil => exact .stopped _ (.faulty _ _ _)
  | cons frame outer =>
      obtain ⟨frameProper, outerProper⟩ := List.forall_mem_cons.mp each
      cases frameProper with
      | list items inner =>
          have draft := limited_proper outer.length (some t) _ (list_draft_proper items stop inner)
          exact .stopped _ (break_off_proper t _ outer draft outerProper)
      | object members key inner =>
          have draft := limited_proper outer.length (some t) _ (object_draft_proper members stop inner)
          exact .stopped _ (break_off_proper t _ outer draft outerProper)

theorem place_proper (d : Draft) (frames : List Frame) (proper : d.Proper) (each : ∀ f ∈ frames, f.Proper) :
    (place d frames).Proper := by
  cases frames with
  | nil => exact .complete d proper
  | cons frame outer =>
      obtain ⟨frameProper, outerProper⟩ := List.forall_mem_cons.mp each
      cases frame with
      | list items =>
          refine .inside _ _ (List.forall_mem_cons.mpr ⟨.list _ ?_, outerProper⟩)
          exact list_frame_cons d items proper frameProper
      | object members key =>
          refine .inside _ _ (List.forall_mem_cons.mpr ⟨.object _ key ?_, outerProper⟩)
          exact object_frame_cons d members key proper frameProper

theorem close_frame_proper (frames : List Frame) (each : ∀ f ∈ frames, f.Proper) : (closeFrame frames).Proper := by
  cases frames with
  | nil => exact stop_value_proper _ _ each
  | cons frame outer =>
      obtain ⟨frameProper, outerProper⟩ := List.forall_mem_cons.mp each
      cases frameProper with
      | list items inner => exact place_proper _ outer (limited_proper _ _ _ (list_draft_proper items _ inner)) outerProper
      | object members key inner =>
          exact place_proper _ outer (limited_proper _ _ _ (object_draft_proper members _ inner)) outerProper

theorem value_step_proper (frames : List Frame) (token : Token) (each : ∀ f ∈ frames, f.Proper)
    (proper : token.Proper) : (valueStep frames token).Proper := by
  cases token with
  | openList => exact .inside _ _ (List.forall_mem_cons.mpr ⟨.list [] (by simp), each⟩)
  | openObject => exact .inside _ _ (List.forall_mem_cons.mpr ⟨.object [] "" (by simp), each⟩)
  | null => exact place_proper _ frames .null each
  | bool b => exact place_proper _ frames (.bool b) each
  | number n =>
      cases proper with
      | number _ proper => exact place_proper _ frames (.number n proper) each
      | other _ unnumbered => exact absurd rfl (unnumbered n)
  | text s => exact place_proper _ frames (.text s) each
  | faulty isText read skip => exact place_proper _ frames (.faulty _ _ _) each
  | closeList | closeObject | colon | comma | junk => exact stop_value_proper _ frames each

theorem key_step_proper (frames : List Frame) (token : Token) (each : ∀ f ∈ frames, f.Proper) :
    (keyStep frames token).Proper := by
  unfold keyStep
  split
  · rename_i key members previous outer
    obtain ⟨frameProper, outerProper⟩ := List.forall_mem_cons.mp each
    cases frameProper with
    | object _ _ inner => exact .inside _ _ (List.forall_mem_cons.mpr ⟨.object members key inner, outerProper⟩)
  · exact stop_inside_proper _ _ frames each
  · exact stop_inside_proper _ _ frames each

theorem comma_step_proper (frames : List Frame) (token : Token) (each : ∀ f ∈ frames, f.Proper) :
    (step (.inside frames .comma) token).Proper := by
  cases frames with
  | nil => exact stop_inside_proper .malformed (.separator .malformed) [] each
  | cons frame outer =>
      cases frame with
      | list items =>
          cases token with
          | comma => exact .inside _ .value each
          | closeList => exact close_frame_proper _ each
          | _ => exact stop_inside_proper _ _ _ each
      | object members key =>
          cases token with
          | comma => exact .inside _ .key each
          | closeObject => exact close_frame_proper _ each
          | _ => exact stop_inside_proper _ _ _ each

theorem step_proper (progress : Progress) (token : Token) (proper : progress.Proper) (tokenProper : token.Proper) :
    (step progress token).Proper := by
  cases proper with
  | complete root proper | followed root proper => exact .followed root proper
  | stopped root proper => exact .stopped root proper
  | inside frames place each =>
      cases place with
      | value => exact value_step_proper frames token each tokenProper
      | first =>
          cases token with
          | closeList => exact close_frame_proper frames each
          | _ => exact value_step_proper frames _ each tokenProper
      | comma => exact comma_step_proper frames token each
      | firstKey =>
          have other := key_step_proper frames token each
          cases token with
          | closeObject => exact close_frame_proper frames each
          | _ => exact other
      | key => exact key_step_proper frames token each
      | colon =>
          cases token with
          | colon => exact .inside frames .value each
          | _ => exact stop_value_proper _ frames each

theorem run_proper (tokens : List Token) (progress : Progress) (proper : progress.Proper)
    (each : ∀ token ∈ tokens, token.Proper) : (tokens.foldl step progress).Proper := by
  induction tokens generalizing progress with
  | nil => exact proper
  | cons token rest ih =>
      obtain ⟨tokenProper, restProper⟩ := List.forall_mem_cons.mp each
      exact ih (step progress token) (step_proper progress token proper tokenProper) restProper

theorem ended_proper (progress : Progress) (proper : progress.Proper) : (finish.ended progress).1.Proper := by
  cases proper with
  | stopped root proper => exact proper
  | _ => exact .faulty _ _ _

theorem finish_proper (progress : Progress) (proper : progress.Proper) : (finish progress).1.Proper := by
  cases proper with
  | complete root proper | followed root proper | stopped root proper => exact proper
  | inside frames place each =>
      cases place with
      | value | colon => exact ended_proper _ (stop_value_proper _ frames each)
      | first | comma | firstKey | key => exact ended_proper _ (stop_inside_proper _ _ frames each)

theorem document_proper (s : String) : (Document.ofText s).root.Proper :=
  finish_proper _ (run_proper _ _ (.inside [] .value (by simp)) (tokens_proper s.toList))

theorem read_text_root {α : Type} (read : Draft → Except Fault α) (s : String) (a : α)
    (found : Shape.readText read s = .ok a) : read (Document.ofText s).root = .ok a := by
  obtain ⟨b, root, ended⟩ := (bind_ok_iff _ _ _).mp found
  cases followed : (Document.ofText s).followed with
  | true =>
      rw [followed] at ended
      cases ended
  | false =>
      rw [followed] at ended
      cases ended
      exact root

end IntentGate.Json
