import IntentGate.Proofs.AllOrNothing

set_option autoImplicit false

namespace IntentGate

open Json Shape Text

structure Vacant (text : String) : Prop where
  blank : isBlank text = true
  single : '\n' ∉ text.toList

inductive Padded : List String → List Line → Prop where
  | done : Padded [] []
  | text (text : String) (ending : LineEnd) {texts : List String} {file : List Line} (rest : Padded texts file) :
      Padded (text :: texts) ({ text, ending } :: file)
  | blank (line : Line) (vacant : Vacant line.text) {texts : List String} {file : List Line}
      (rest : Padded texts file) : Padded texts (line :: file)

theorem blank_line_encode (s : String) : blankLine (encode s) = isBlank s := by
  rw [blankLine, decode_encode, Option.any_some]

theorem framed_filled (text : String) (framed : Framed text) : isBlank text = false := by
  obtain ⟨rest, opens⟩ := framed.opens
  rw [isBlank, opens, List.all_cons, show isBlankChar '\x7b' = false by decide, Bool.false_and]

theorem content_vacant (line : Line) (vacant : Vacant line.text) : blankLine line.content = true := by
  obtain ⟨text, ending⟩ := line
  have whole : blankLine (encode text) = true := (blank_line_encode text).trans vacant.blank
  cases ending with
  | returnFeed => exact whole
  | feed =>
      change blankLine (withoutReturn (encode text).reverse) = true
      rcases without_return_cases (encode text) with same | returned
      · rw [same]
        exact whole
      · obtain ⟨front, split, kept⟩ := encode_return text _ returned
        have each := vacant.blank
        rw [isBlank, split, List.all_append, Bool.and_eq_true] at each
        rw [kept, blank_line_encode, isBlank, String.toList_ofList]
        exact each.1

section

variable {texts : List String} {file : List Line}

theorem padded_line (padded : Padded texts file) (framed : ∀ text ∈ texts, Framed text) :
    ∀ line ∈ file, Framed line.text ∨ Vacant line.text := by
  induction padded with
  | done => simp
  | text text ending rest ih =>
      rw [List.forall_mem_cons] at framed ⊢
      exact ⟨.inl framed.1, ih framed.2⟩
  | blank line vacant rest ih =>
      rw [List.forall_mem_cons]
      exact ⟨.inr vacant, ih framed⟩

theorem padded_single (padded : Padded texts file) (framed : ∀ text ∈ texts, Framed text) :
    ∀ line ∈ file, '\n' ∉ line.text.toList := by
  intro line member
  exact (padded_line padded framed line member).elim (framed_single line.text) Vacant.single

theorem padded_contents (padded : Padded texts file) (framed : ∀ text ∈ texts, Framed text) :
    (file.map Line.content).filter (fun line => !blankLine line) = texts.map encode := by
  induction padded with
  | done => rfl
  | text text ending rest ih =>
      rw [List.forall_mem_cons] at framed
      have filled : blankLine (encode text) = false := (blank_line_encode text).trans (framed_filled text framed.1)
      rw [List.map_cons, content_framed text ending framed.1, List.filter_cons_of_pos (by simp [filled]), ih framed.2,
        List.map_cons]
  | blank line vacant rest ih =>
      rw [List.map_cons, List.filter_cons_of_neg (by simp [content_vacant line vacant]), ih framed]

theorem filled_padded (padded : Padded texts file) (framed : ∀ text ∈ texts, Framed text) :
    filledLines (file.flatMap Line.octets) = texts.map encode := by
  rw [filledLines, lines_of_whole file (padded_single padded framed), padded_contents padded framed]

-- An empty line without an end is no line, and counts as little as one with an end.
theorem filled_last (line : Line) (stands : Framed line.text ∨ Vacant line.text) :
    filledLines (encode line.text) = [line.content].filter fun content => !blankLine content := by
  rcases stands with framed | vacant
  · have filled : blankLine (encode line.text) = false :=
      (blank_line_encode line.text).trans (framed_filled line.text framed)
    have present : (encode line.text).isEmpty = false := by
      rw [Bool.eq_false_iff, ne_eq, List.isEmpty_iff]
      intro empty
      rw [empty] at filled
      exact absurd filled (by decide)
    rw [filledLines, lines_of_last line.text (framed_single line.text framed), present,
      content_framed line.text line.ending framed]
    rfl
  · have blank : blankLine (encode line.text) = true := (blank_line_encode line.text).trans vacant.blank
    rw [filledLines, lines_of_last line.text vacant.single]
    cases (encode line.text).isEmpty <;> simp [blank, content_vacant line vacant]

theorem filled_unended (earlier : List Line) (last : Line) (padded : Padded texts (earlier ++ [last]))
    (framed : ∀ text ∈ texts, Framed text) :
    filledLines (earlier.flatMap Line.octets ++ encode last.text) = texts.map encode := by
  have stands := padded_line padded framed last (by simp)
  have single : ∀ line ∈ earlier, '\n' ∉ line.text.toList := fun line member =>
    padded_single padded framed line (by simp [member])
  rw [← padded_contents padded framed, List.map_append, List.filter_append, List.map_singleton,
    ← filled_last last stands, filledLines, lines_of_file earlier single, List.filter_append]
  rfl

end

theorem read_filled (messages : List Message) (restored : ∀ m ∈ messages, readText readMessage m.line = .ok m)
    (octets : Octets) (filled : filledLines octets = (messages.map Message.line).map encode) :
    readMessages octets = .ok messages := by
  rw [read_messages_ok_iff, filled, List.map_map, List.forall₂_map_left_iff, List.forall₂_same]
  intro m member
  exact ⟨(blank_line_encode m.line).trans (framed_filled m.line (line_framed m)), m.line, decode_encode m.line,
    restored m member⟩

theorem execute_output (call : Call) (config : AppConfig) (valid : config.validate = .ok ()) (messages : List Message)
    (through : (call.execute config).result = .ok messages) :
    (call.execute config).output = messages.flatMap Message.output := by
  have free : ¬ Call.Obstructed call config := by
    intro obstructed
    obtain ⟨⟨e, failed⟩, -⟩ := call.execute_obstructed config valid obstructed
    cases failed.symm.trans through
  obtain ⟨domain, input, decided, went⟩ := call.unobstructed_through config free
  obtain ⟨result, output⟩ := call.execute_of_through config valid domain input decided went
  rw [output, Except.ok.inj (result.symm.trans through)]

theorem padded_output (messages : List Message) :
    Padded (messages.map Message.line) (messages.map Message.onLine) := by
  induction messages with
  | nil => exact .done
  | cons m rest ih => exact .text m.line .feed ih

theorem framing_restores (messages : List Message) (restored : ∀ m ∈ messages, readText readMessage m.line = .ok m) :
    (∀ m : Message, Framed m.line) ∧
    readMessages (messages.flatMap Message.output) = .ok messages ∧
    (∀ file, Padded (messages.map Message.line) file →
      readMessages (file.flatMap Line.octets) = .ok messages ∧
      ∀ earlier last, file = earlier ++ [last] →
        readMessages (earlier.flatMap Line.octets ++ encode last.text) = .ok messages) ∧
    ∀ call config, config.validate = .ok () → (Call.execute call config).result = .ok messages →
      readMessages (Call.execute call config).output = .ok messages := by
  have framed : ∀ text ∈ messages.map Message.line, Framed text := by
    simpa using fun m _ => line_framed m
  have plain : readMessages (messages.flatMap Message.output) = .ok messages := by
    rw [output_on_lines]
    exact read_filled messages restored _ (filled_padded (padded_output messages) framed)
  refine ⟨line_framed, plain, fun file padded => ⟨?_, ?_⟩, fun call config valid through => ?_⟩
  · exact read_filled messages restored _ (filled_padded padded framed)
  · intro earlier last split
    subst split
    exact read_filled messages restored _ (filled_unended earlier last padded framed)
  · rw [execute_output call config valid messages through]
    exact plain

theorem framing_restores_mixed :
    let greeting : Message := { text := " a\nb\u2028", intent := some { name := "greet", confidence := some 0.5 } }
    let booking : Message := { ranking := some [{ name := "book" }], entities := some [{ kind := "city" }] }
    let file : List Line :=
      [{ text := "\u3000 ", ending := .returnFeed }, { text := greeting.line, ending := .returnFeed },
       { text := "", ending := .feed }, { text := "\t\r", ending := .feed }, { text := booking.line, ending := .feed }]
    readMessages ([greeting, booking].flatMap Message.output) = .ok [greeting, booking] ∧
      readMessages (file.flatMap Line.octets) = .ok [greeting, booking] ∧
      readMessages ((file.take 4).flatMap Line.octets ++ encode booking.line) = .ok [greeting, booking] := by
  intro greeting booking file
  have greeted : readText readMessage greeting.line = .ok greeting := by
    unfold greeting
    with_unfolding_all rfl
  have booked : readText readMessage booking.line = .ok booking := by
    unfold booking
    with_unfolding_all rfl
  have restored : ∀ m ∈ [greeting, booking], readText readMessage m.line = .ok m := by
    simp [greeted, booked]
  have padded : Padded [greeting.line, booking.line] file := by
    apply Padded.blank _ ⟨by decide, by decide⟩
    apply Padded.text
    apply Padded.blank _ ⟨by decide, by decide⟩
    apply Padded.blank _ ⟨by decide, by decide⟩
    exact .text _ _ .done
  obtain ⟨-, plain, framed, -⟩ := framing_restores [greeting, booking] restored
  obtain ⟨ended, unended⟩ := framed file padded
  exact ⟨plain, ended, unended (file.take 4) { text := booking.line, ending := .feed } rfl⟩

end IntentGate
