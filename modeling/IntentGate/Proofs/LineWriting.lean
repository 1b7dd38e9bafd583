import IntentGate.Message.Lines
import IntentGate.Proofs.Printing
import IntentGate.Proofs.TextLines
import Mathlib.Data.List.Forall2

set_option autoImplicit false

namespace IntentGate

open Json Text

def Printable (cs : List Char) : Prop := ∀ c ∈ cs, 32 ≤ c.toNat

theorem printable_of_all (cs : List Char) (all : (cs.all fun c => decide (32 ≤ c.toNat)) = true) : Printable cs := by
  intro c member
  exact of_decide_eq_true (List.all_eq_true.mp all c member)

theorem printable_cons (c : Char) (cs : List Char) (first : 32 ≤ c.toNat) (rest : Printable cs) : Printable (c :: cs) :=
  List.forall_mem_cons.mpr ⟨first, rest⟩

theorem printable_append (a b : List Char) (first : Printable a) (second : Printable b) : Printable (a ++ b) :=
  List.forall_mem_append.mpr ⟨first, second⟩

theorem hex_digit_printable (n : Nat) (digit : n < 16) : 32 ≤ (hexDigit n).toNat := by
  have all : ∀ n < 16, 32 ≤ (hexDigit n).toNat := by decide
  exact all n digit

theorem escape_printable (c : Char) : Printable (escapeChar c) := by
  unfold escapeChar
  split
  · exact printable_of_all _ rfl
  · exact printable_of_all _ rfl
  · exact printable_of_all _ rfl
  · exact printable_of_all _ rfl
  · exact printable_of_all _ rfl
  · split
    · exact printable_of_all _ rfl
    · split
      · exact printable_of_all _ rfl
      · split
        · have high := hex_digit_printable (c.toNat / 16) (by omega)
          have low := hex_digit_printable (c.toNat % 16) (by omega)
          exact printable_append ['\\', 'u', '0', '0'] _ (printable_of_all _ rfl)
            (printable_cons _ _ high (printable_cons _ _ low (printable_of_all _ rfl)))
        · have visible : 32 ≤ c.toNat := by omega
          exact printable_cons _ _ visible (printable_of_all _ rfl)

theorem write_text_printable (s : String) : Printable (writeText s) := by
  have escaped : Printable (s.toList.flatMap escapeChar) := by
    intro c member
    obtain ⟨source, -, found⟩ := List.mem_flatMap.mp member
    exact escape_printable source c found
  exact printable_cons '"' _ (by decide) (printable_append _ _ escaped (printable_of_all _ rfl))

theorem natural_printable (n : Nat) : Printable (toString n).toList := by
  intro c member
  rw [Nat.toString_eq_ofList_toDigits, String.toList_ofList] at member
  have digit := Nat.isDigit_of_mem_toDigits (by decide) (by decide) member
  simp only [Char.isDigit, Bool.and_eq_true, decide_eq_true_eq, ge_iff_le, UInt32.le_iff_toNat_le] at digit
  change 32 ≤ c.val.toNat
  have zero : ('0' : Char).val.toNat = 48 := rfl
  omega

theorem int_printable (n : Int) : Printable (toString n).toList := by
  cases n with
  | ofNat n => exact natural_printable n
  | negSucc n =>
      change Printable ("-" ++ toString (n + 1)).toList
      rw [String.toList_append]
      exact printable_append _ _ (printable_of_all _ rfl) (natural_printable (n + 1))

theorem zeros_printable (n : Nat) : Printable (Decimal.zeros n) := by
  intro c member
  rw [List.eq_of_mem_replicate member]
  decide

theorem positional_printable (layout : Decimal.Layout) (digits : List Char) (exp : Int) (each : Printable digits) :
    Printable (Decimal.positionalForm layout digits exp) := by
  unfold Decimal.positionalForm
  dsimp only
  split
  · refine printable_append _ _ (printable_append _ _ each (zeros_printable _)) ?_
    cases layout.pointZero <;> exact printable_of_all _ rfl
  · split
    · refine printable_append _ _ (fun c member => each c (List.mem_of_mem_take member)) ?_
      exact printable_cons '.' _ (by decide) fun c member => each c (List.mem_of_mem_drop member)
    · refine printable_cons '0' _ (by decide) (printable_cons '.' _ (by decide) ?_)
      exact printable_append _ _ (zeros_printable _) each

theorem exponent_printable (layout : Decimal.Layout) (digits : List Char) (leading : Int) (each : Printable digits) :
    Printable (Decimal.exponentForm layout digits leading) := by
  unfold Decimal.exponentForm
  dsimp only
  refine printable_append _ _ ?_ (printable_cons 'e' _ (by decide) (printable_append _ _ ?_ (natural_printable _)))
  · split
    · exact each
    · obtain ⟨first, rest⟩ := List.forall_mem_cons.mp each
      exact printable_cons _ _ first (printable_cons '.' _ (by decide) rest)
    · exact each
  · split
    · exact printable_of_all _ rfl
    · cases layout.plus <;> exact printable_of_all _ rfl

theorem finite_form_printable (layout : Decimal.Layout) (x : Float) : Printable (Decimal.finiteForm layout x) := by
  have body (digits : List Char) (exp leading : Int) (each : Printable digits) :
      Printable (if layout.positional leading then Decimal.positionalForm layout digits exp
        else Decimal.exponentForm layout digits leading) := by
    split
    · exact positional_printable layout digits exp each
    · exact exponent_printable layout digits leading each
  unfold Decimal.finiteForm
  dsimp only
  split
  · exact printable_cons '-' _ (by decide) (body _ _ _ (natural_printable _))
  · exact body _ _ _ (natural_printable _)

theorem number_printable (n : Number) : Printable n.write := by
  cases n with
  | int n => exact int_printable n
  | float x => exact finite_form_printable Decimal.document x

theorem separator_printable (first : Bool) : Printable (if first then [] else [',']) := by
  cases first <;> exact printable_of_all _ rfl

mutual

theorem write_printable (v : Value) : Printable v.write := by
  match v with
  | .null => exact printable_of_all _ rfl
  | .bool true => exact printable_of_all _ rfl
  | .bool false => exact printable_of_all _ rfl
  | .number n => exact number_printable n
  | .text s => exact write_text_printable s
  | .list items => exact printable_cons '[' _ (by decide) (write_items_printable true items)
  | .object fields => exact printable_cons '\x7b' _ (by decide) (write_fields_printable true fields)

theorem write_items_printable (first : Bool) (items : List Value) : Printable (writeItems first items) := by
  match items with
  | [] => exact printable_of_all _ rfl
  | v :: rest =>
      rw [writeItems]
      exact printable_append _ _ (separator_printable first)
        (printable_append _ _ (write_printable v) (write_items_printable false rest))

theorem write_fields_printable (first : Bool) (fields : Fields) : Printable (writeFields first fields) := by
  match fields with
  | [] => exact printable_of_all _ rfl
  | (key, v) :: rest =>
      rw [writeFields]
      exact printable_append _ _ (separator_printable first)
        (printable_append _ _ (write_text_printable key)
          (printable_cons ':' _ (by decide)
            (printable_append _ _ (write_printable v) (write_fields_printable false rest))))

end

theorem line_printable (m : Message) : Printable m.line.toList := by
  unfold Message.line Value.compact
  rw [String.toList_ofList]
  exact write_printable m.written

theorem encode_printable (s : String) (printable : Printable s.toList) : ∀ octet ∈ encode s, 32 ≤ octet.toNat := by
  rw [encode_eq]
  intro octet member
  obtain ⟨c, source, found⟩ := List.mem_flatMap.mp member
  by_cases ascii : octet.toNat < 128
  · rw [encode_char_ascii c octet ascii found]
    exact printable c source
  · omega

structure Framed (text : String) : Prop where
  opens : ∃ rest, text.toList = '\x7b' :: rest
  closes : ∃ front, text.toList = front ++ ['\x7d']
  printable : Printable text.toList

theorem framed_single (text : String) (framed : Framed text) : '\n' ∉ text.toList := by
  intro member
  exact absurd (framed.printable '\n' member) (by decide)

theorem without_return_printable (line : Octets) (printable : ∀ octet ∈ line, 32 ≤ octet.toNat) :
    withoutReturn line.reverse = line := by
  rcases without_return_cases line with same | returned
  · exact same
  · have high := printable carriageReturn (by rw [returned]; simp)
    exact absurd high (by decide)

theorem content_framed (text : String) (ending : LineEnd) (framed : Framed text) :
    Line.content { text, ending } = encode text := by
  cases ending with
  | feed => exact without_return_printable _ (encode_printable text framed.printable)
  | returnFeed => rfl

theorem write_fields_close (first : Bool) (fields : Fields) : ∃ front, writeFields first fields = front ++ ['\x7d'] := by
  induction fields generalizing first with
  | nil => exact ⟨[], rfl⟩
  | cons m rest ih =>
      obtain ⟨key, v⟩ := m
      obtain ⟨front, closes⟩ := ih false
      rw [writeFields, closes]
      exact ⟨(if first then [] else [',']) ++ (writeText key ++ ':' :: (v.write ++ front)), by simp⟩

theorem line_framed (m : Message) : Framed m.line := by
  have whole : m.line.toList = m.written.write := String.toList_ofList
  refine ⟨⟨_, whole⟩, ?_, line_printable m⟩
  rw [whole, Message.written, Value.write]
  obtain ⟨front, closes⟩ := write_fields_close true _
  exact ⟨'\x7b' :: front, by rw [closes, List.cons_append]⟩

inductive WrittenOn (m : Message) : Octets → Prop where
  | line (cs : List Char) (printed : Prints m.written cs) : WrittenOn m (encode (String.ofList cs))

theorem written_on_line (m : Message) : WrittenOn m (encode m.line) :=
  .line m.written.write ((prints_iff m.written _).mpr rfl)

def Message.onLine (m : Message) : Line := { text := m.line, ending := .feed }

theorem output_on_lines (messages : List Message) :
    messages.flatMap Message.output = (messages.map Message.onLine).flatMap Line.octets := by
  rw [List.flatMap_map]
  rfl

theorem written_on_lines (messages : List Message) :
    List.Forall₂ WrittenOn messages (messages.map fun m => encode m.line) :=
  List.forall₂_map_right_iff.mpr (List.forall₂_same.mpr fun m _ => written_on_line m)

theorem output_of_lines (messages : List Message) :
    messages.flatMap Message.output = (messages.map fun m => encode m.line).flatMap (· ++ [lineFeed]) := by
  rw [List.flatMap_map]
  rfl

theorem lines_of_output (messages : List Message) :
    lines (messages.flatMap Message.output) = messages.map fun m => encode m.line := by
  have single : ∀ line ∈ messages.map Message.onLine, '\n' ∉ line.text.toList := by
    rw [List.forall_mem_map]
    exact fun m _ => framed_single m.line (line_framed m)
  have content (m : Message) : m.onLine.content = encode m.line := content_framed m.line .feed (line_framed m)
  rw [output_on_lines, lines_of_whole _ single, List.map_map]
  apply List.map_congr_left
  intro m _
  rw [Function.comp_apply, content]

end IntentGate
