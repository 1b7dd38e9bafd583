import IntentGate.Text

set_option autoImplicit false

namespace IntentGate.Text

inductive LineEnd where
  | feed
  | returnFeed

def LineEnd.octets : LineEnd → Octets
  | .feed => [lineFeed]
  | .returnFeed => [carriageReturn, lineFeed]

structure Line where
  text : String
  ending : LineEnd

def Line.octets (line : Line) : Octets := encode line.text ++ line.ending.octets

-- What the line is taken for. A return before a plain line feed is part of the end.
def Line.content (line : Line) : Octets :=
  match line.ending with
  | .feed => withoutReturn (encode line.text).reverse
  | .returnFeed => encode line.text

theorem encode_eq (s : String) : encode s = s.toList.flatMap String.utf8EncodeChar := by
  have whole : s.toByteArray = s.toList.utf8Encode := by rw [← String.toByteArray_ofList, String.ofList_toList]
  unfold encode
  rw [String.toUTF8_eq_toByteArray, whole, List.utf8Encode, List.data_toByteArray]

theorem encode_char_ascii (c : Char) (octet : UInt8) (ascii : octet.toNat < 128) (member : octet ∈ String.utf8EncodeChar c) :
    octet.toNat = c.toNat := by
  have code : c.val.toNat = c.toNat := rfl
  unfold String.utf8EncodeChar at member
  rw [code] at member
  dsimp only at member
  split at member
  · rw [List.mem_singleton] at member
    rw [member, UInt8.toNat_ofNat']
    omega
  · split at member
    · simp only [List.mem_cons, List.not_mem_nil, or_false] at member
      rcases member with rfl | rfl <;> rw [UInt8.toNat_ofNat'] at ascii <;> omega
    · split at member
      · simp only [List.mem_cons, List.not_mem_nil, or_false] at member
        rcases member with rfl | rfl | rfl <;> rw [UInt8.toNat_ofNat'] at ascii <;> omega
      · simp only [List.mem_cons, List.not_mem_nil, or_false] at member
        rcases member with rfl | rfl | rfl | rfl <;> rw [UInt8.toNat_ofNat'] at ascii <;> omega

theorem decode_encode (s : String) : decode? (encode s) = some s := by
  have whole : ByteArray.mk (encode s).toArray = s.toByteArray := by simp [encode]
  rw [decode?, whole, String.fromUTF8?, dif_pos s.isValidUTF8]
  rfl

theorem encode_unbroken (s : String) (single : '\n' ∉ s.toList) : lineFeed ∉ encode s := by
  rw [encode_eq]
  intro member
  obtain ⟨c, source, found⟩ := List.mem_flatMap.mp member
  have code := encode_char_ascii c lineFeed (by decide) found
  have same : c = '\n' := Char.toNat_inj.mp code.symm
  exact single (same ▸ source)

theorem encode_return (s : String) (kept : Octets) (returned : encode s = kept ++ [carriageReturn]) :
    ∃ front, s.toList = front ++ ['\r'] ∧ kept = encode (String.ofList front) := by
  rw [encode_eq] at returned
  rcases List.eq_nil_or_concat s.toList with none | ⟨front, last, split⟩
  · simp [none] at returned
  · rw [List.concat_eq_append] at split
    rw [split, List.flatMap_append, List.flatMap_singleton] at returned
    have ending := congrArg List.getLast? returned
    rw [List.getLast?_append, List.getLast?_eq_some_getLast String.utf8EncodeChar_ne_nil, Option.some_or,
      List.getLast?_concat] at ending
    have member := Option.some.inj ending ▸ List.getLast_mem String.utf8EncodeChar_ne_nil
    have code := encode_char_ascii last carriageReturn (by decide) member
    have same : last = '\r' := Char.toNat_inj.mp code.symm
    subst same
    refine ⟨front, split, ?_⟩
    rw [encode_eq, String.toList_ofList]
    exact (List.append_cancel_right returned).symm

theorem without_return_cases (line : Octets) :
    withoutReturn line.reverse = line ∨ line = withoutReturn line.reverse ++ [carriageReturn] := by
  cases last : line.reverse with
  | nil => exact .inl (List.reverse_eq_nil_iff.mp last).symm
  | cons octet earlier =>
      by_cases returned : octet = carriageReturn
      · right
        rw [withoutReturn, if_pos returned, ← returned, ← List.reverse_cons, ← last, List.reverse_reverse]
      · left
        rw [withoutReturn, if_neg returned, ← last, List.reverse_reverse]

-- A line ends at its line feed, and gives up no octet before it unless that is a carriage return.
theorem lines_from_line (reversed line rest : Octets) (unbroken : lineFeed ∉ line) :
    linesFrom reversed (line ++ lineFeed :: rest) = withoutReturn (line.reverse ++ reversed) :: linesFrom [] rest := by
  induction line generalizing reversed with
  | nil => rfl
  | cons octet line ih =>
      rw [List.mem_cons, not_or] at unbroken
      have inside : octet ≠ lineFeed := Ne.symm unbroken.1
      rw [List.cons_append, linesFrom, if_neg inside, ih (octet :: reversed) unbroken.2, List.reverse_cons,
        List.append_assoc, List.singleton_append]

theorem lines_from_last (reversed line : Octets) (unbroken : lineFeed ∉ line) :
    linesFrom reversed line = if (line.reverse ++ reversed).isEmpty then [] else [reversed.reverse ++ line] := by
  induction line generalizing reversed with
  | nil => simp [linesFrom]
  | cons octet line ih =>
      rw [List.mem_cons, not_or] at unbroken
      rw [linesFrom, if_neg (Ne.symm unbroken.1), ih (octet :: reversed) unbroken.2]
      simp

theorem lines_of_last (s : String) (single : '\n' ∉ s.toList) :
    lines (encode s) = if (encode s).isEmpty then [] else [encode s] := by
  rw [lines, lines_from_last [] _ (encode_unbroken s single)]
  simp

theorem lines_of_line (line : Line) (single : '\n' ∉ line.text.toList) (rest : Octets) :
    lines (line.octets ++ rest) = line.content :: lines rest := by
  have unbroken := encode_unbroken line.text single
  obtain ⟨text, ending⟩ := line
  cases ending with
  | feed =>
      have first := lines_from_line [] (encode text) rest unbroken
      rw [List.append_nil] at first
      simpa [lines, Line.octets, LineEnd.octets, Line.content] using first
  | returnFeed =>
      have returned : lineFeed ∉ encode text ++ [carriageReturn] := by
        simpa [show lineFeed ≠ carriageReturn by decide] using unbroken
      have first := lines_from_line [] (encode text ++ [carriageReturn]) rest returned
      simpa [lines, Line.octets, LineEnd.octets, Line.content, withoutReturn] using first

theorem lines_of_file (file : List Line) (single : ∀ line ∈ file, '\n' ∉ line.text.toList) (rest : Octets) :
    lines (file.flatMap Line.octets ++ rest) = file.map Line.content ++ lines rest := by
  induction file with
  | nil => rfl
  | cons line file ih =>
      obtain ⟨here, later⟩ := List.forall_mem_cons.mp single
      rw [List.flatMap_cons, List.append_assoc, lines_of_line line here, ih later, List.map_cons, List.cons_append]

theorem lines_of_whole (file : List Line) (single : ∀ line ∈ file, '\n' ∉ line.text.toList) :
    lines (file.flatMap Line.octets) = file.map Line.content := by
  have found := lines_of_file file single []
  rw [List.append_nil, show lines [] = [] from rfl, List.append_nil] at found
  exact found

end IntentGate.Text
