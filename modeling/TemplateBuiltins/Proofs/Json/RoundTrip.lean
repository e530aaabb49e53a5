/-
# Proofs.Json.RoundTrip -- a JSON value that is written is read back

A value is written in a style that puts nothing but blanks behind its commas and colons
(`Style.Spacing`).  If its integers are short enough to be read, the reader finds that value
in the text, in front of whatever no number goes on with, when it has as many steps as the
text has characters (`Reads`, `reads`); the steps that it is given are more than enough for
the whole text, with or without blanks at its end (`read_write`).
-/
import TemplateBuiltins.Proofs.Json.Admitted
import TemplateBuiltins.Proofs.Json.Strings

set_option autoImplicit false

namespace TemplateBuiltins

namespace Json

/-! ## Blanks -/

/-- Behind a comma and behind a colon the style has nothing but blanks. -/
structure Style.Spacing (style : Style) : Prop where
  comma : ∃ blanks, style.comma = ',' :: blanks ∧ ∀ c ∈ blanks, isSpace c = true
  colon : ∃ blanks, style.colon = ':' :: blanks ∧ ∀ c ∈ blanks, isSpace c = true

theorem skip_append {blanks s : List Char} (blank : ∀ c ∈ blanks, isSpace c = true)
    (stops : Text.Stops isSpace s) : skip (blanks ++ s) = s :=
  Text.dropWhile_append_of_stops blank stops

theorem skip_of_stops {s : List Char} (stops : Text.Stops isSpace s) : skip s = s :=
  Text.dropWhile_of_stops stops

/-- The characters with which numbers begin, also those that are words. -/
def opensNumber (c : Char) : Bool := ['-', 'N', 'I'].contains c || Text.isAsciiDigit c

/-- The characters with which values begin. -/
def opens (c : Char) : Bool := ['"', '[', '\x7b', 'n', 't', 'f'].contains c || opensNumber c

theorem other_of_opensNumber {c : Char} (opened : opensNumber c = true) :
    c ≠ '"' ∧ c ≠ '[' ∧ c ≠ '\x7b' ∧ isSpace c = false ∧ c ≠ ']' ∧ c ≠ '\x7d' ∧ c ≠ '\ufeff' := by
  have digits : ∀ d < 10, Text.digitChar d ≠ '"' ∧ Text.digitChar d ≠ '[' ∧ Text.digitChar d ≠ '\x7b' ∧
      isSpace (Text.digitChar d) = false ∧ Text.digitChar d ≠ ']' ∧ Text.digitChar d ≠ '\x7d' ∧
      Text.digitChar d ≠ '\ufeff' := by decide
  rcases Bool.or_eq_true_iff.1 opened with mark | digit
  · simp only [List.contains_cons, List.contains_nil, Bool.or_false, Bool.or_eq_true, beq_iff_eq] at mark
    rcases mark with rfl | rfl | rfl <;> decide
  · obtain ⟨d, small, rfl⟩ := Text.exists_digitChar digit
    exact digits d small

theorem other_of_opens {c : Char} (opened : opens c = true) :
    isSpace c = false ∧ c ≠ ']' ∧ c ≠ '\x7d' ∧ c ≠ '\ufeff' := by
  rcases Bool.or_eq_true_iff.1 opened with mark | number
  · simp only [List.contains_cons, List.contains_nil, Bool.or_false, Bool.or_eq_true, beq_iff_eq] at mark
    rcases mark with rfl | rfl | rfl | rfl | rfl | rfl <;> decide
  · exact (other_of_opensNumber number).2.2.2

theorem exists_text {n : Numeral} (plain : n.Plain) (width : Nat) :
    ∃ c s, n.text width = c :: s ∧ opensNumber c = true := by
  obtain ⟨c, more, split⟩ := List.exists_cons_of_ne_nil plain.whole
  have digit := plain.digits c (split ▸ List.mem_cons_self)
  have opened : opensNumber c = true := by
    rw [opensNumber, digit, Bool.or_true]
  obtain ⟨negative, whole, fraction, exponent⟩ := n
  cases split
  cases negative with
  | true => exact ⟨_, _, rfl, rfl⟩
  | false => exact ⟨_, _, rfl, opened⟩

theorem exists_writeNumber (n : Number) : ∃ c s, writeNumber n = c :: s ∧ opensNumber c = true := by
  cases n with
  | int n =>
      rw [writeNumber, Number.signedDigits_eq_text]
      exact exists_text (Number.strict_int n).toPlain 0
  | double x =>
      cases x with
      | nan => exact ⟨_, _, rfl, rfl⟩
      | infinite negative => cases negative <;> exact ⟨_, _, rfl, rfl⟩
      | finite negative m q standard =>
          obtain ⟨d, ⟨n, width, strict, text, -⟩, -⟩ := Layout.writes_double negative standard
          rw [writeNumber, text]
          exact exists_text strict.toPlain width

theorem exists_write (style : Style) (v : Json) : ∃ c s, write style v = c :: s ∧ opens c = true := by
  cases v with
  | null => exact ⟨_, _, rfl, rfl⟩
  | boolean b => cases b <;> exact ⟨_, _, rfl, rfl⟩
  | string s => exact ⟨_, _, rfl, rfl⟩
  | array items => exact ⟨_, _, rfl, rfl⟩
  | object members => exact ⟨_, _, rfl, rfl⟩
  | number n =>
      obtain ⟨c, s, text, opened⟩ := exists_writeNumber n
      exact ⟨c, s, text, by rw [opens, opened, Bool.or_true]⟩

/-! ## Reading step by step -/

section Steps

variable {steps : Nat} {rest : List Char}

theorem readValue_atom {c : Char} {s : List Char} (quote : c ≠ '"') (bracket : c ≠ '[') (brace : c ≠ '\x7b') :
    readValue (steps + 1) (c :: s) = readAtom (c :: s) := by
  rw [readValue, if_neg quote, if_neg bracket, if_neg brace]

theorem readValue_string (s : String) :
    readValue (steps + 1) (writeString s.toList ++ rest) = .ok (.string s, rest) := by
  rw [writeString, List.cons_append, List.cons_append, List.append_assoc, List.singleton_append, readValue,
    if_pos rfl, readString_written]
  rfl

theorem readValue_array {s : List Char} (blank : Text.Stops isSpace s) (filled : s.head? ≠ some ']') :
    readValue (steps + 1) ('[' :: s) = (readItems steps s).map fun r => (.array r.1, r.2) := by
  rw [readValue, if_neg (by decide), if_pos rfl, skip_of_stops blank]
  split
  · exact absurd rfl filled
  · rfl

theorem readValue_object {s : List Char} (blank : Text.Stops isSpace s) (filled : s.head? ≠ some '\x7d') :
    readValue (steps + 1) ('\x7b' :: s) =
      (readMembers steps s).map fun r => (.object r.1, r.2) := by
  rw [readValue, if_neg (by decide), if_neg (by decide), if_pos rfl, skip_of_stops blank]
  split
  · exact absurd rfl filled
  · rfl

/-- The last of several items, in front of the closing bracket. -/
theorem readItems_last {s : List Char} {v : Json} (value : readValue steps s = .ok (v, ']' :: rest)) :
    readItems (steps + 1) s = .ok ([v], rest) := by
  rw [readItems, value]
  rfl

theorem readItems_more {s t blanks : List Char} {v : Json} (blank : ∀ c ∈ blanks, isSpace c = true)
    (stops : Text.Stops isSpace t) (value : readValue steps s = .ok (v, ',' :: (blanks ++ t))) :
    readItems (steps + 1) s = (readItems steps t).map fun r => (v :: r.1, r.2) := by
  rw [readItems, value]
  show (readItems steps (skip (blanks ++ t))).map _ = _
  rw [skip_append blank stops]

theorem skip_colon (blanks t : List Char) : skip (':' :: blanks ++ t) = ':' :: (blanks ++ t) :=
  skip_of_stops (Text.stops_cons (by decide))

/-- The last of several members, in front of the closing brace. -/
theorem readMembers_last (name : String) {t blanks : List Char} {v : Json}
    (blank : ∀ c ∈ blanks, isSpace c = true) (stops : Text.Stops isSpace t)
    (value : readValue steps t = .ok (v, '\x7d' :: rest)) :
    readMembers (steps + 1) (writeString name.toList ++ (':' :: blanks ++ t)) = .ok ([(name, v)], rest) := by
  rw [writeString, List.cons_append, List.cons_append, List.append_assoc, List.singleton_append, readMembers,
    if_pos rfl, readString_written]
  simp only [bind, Except.bind, skip_colon, skip_append blank stops, value]
  rfl

theorem readMembers_more (name : String) {t blanks others more : List Char} {v : Json}
    (blank : ∀ c ∈ blanks, isSpace c = true) (stops : Text.Stops isSpace t)
    (otherBlank : ∀ c ∈ others, isSpace c = true) (otherStops : Text.Stops isSpace more)
    (value : readValue steps t = .ok (v, ',' :: (others ++ more))) :
    readMembers (steps + 1) (writeString name.toList ++ (':' :: blanks ++ t)) =
      (readMembers steps more).map fun r => ((name, v) :: r.1, r.2) := by
  rw [writeString, List.cons_append, List.cons_append, List.append_assoc, List.singleton_append, readMembers,
    if_pos rfl, readString_written]
  simp only [bind, Except.bind, skip_colon, skip_append blank stops, value]
  show (readMembers steps (skip (others ++ more))).map _ = _
  rw [skip_append otherBlank otherStops]

end Steps

/-! ## Whole values -/

theorem stops_of_opens {c : Char} {s : List Char} (opened : opens c = true) : Text.Stops isSpace (c :: s) :=
  Text.stops_cons (other_of_opens opened).1

variable {style : Style}

theorem stops_write (v : Json) (rest : List Char) : Text.Stops isSpace (write style v ++ rest) := by
  obtain ⟨c, s, text, opened⟩ := exists_write style v
  rw [text]
  exact stops_of_opens opened

theorem length_write_pos (style : Style) (v : Json) : 0 < (write style v).length := by
  obtain ⟨c, s, text, -⟩ := exists_write style v
  rw [text, List.length_cons]
  exact Nat.succ_pos _

theorem readValue_number {n : Number} (showable : n.isShowable = true) {steps : Nat} {rest : List Char}
    (ends : Text.Stops goesOn rest) :
    readValue (steps + 1) (writeNumber n ++ rest) = .ok (.number n, rest) := by
  have read := readAtom_writeNumber n ends
  rw [admitted_of_isShowable showable] at read
  obtain ⟨c, s, text, opened⟩ := exists_writeNumber n
  obtain ⟨quote, bracket, brace, -⟩ := other_of_opensNumber opened
  rw [text] at read ⊢
  exact (readValue_atom quote bracket brace).trans read

theorem exists_items (style : Style) (v : Json) (items : List Json) (rest : List Char) :
    ∃ c s, Text.glue style.comma (writeItems style (v :: items)) ++ rest = c :: s ∧ opens c = true := by
  obtain ⟨c, s, text, opened⟩ := exists_write style v
  cases items with
  | nil => exact ⟨c, s ++ rest, congrArg (· ++ rest) text, opened⟩
  | cons w items =>
      refine ⟨c, s ++ (style.comma ++ (Text.glue style.comma (writeItems style (w :: items)) ++ rest)), ?_,
        opened⟩
      rw [writeItems, writeItems, Text.glue_cons_cons, text]
      simp

theorem exists_members (style : Style) (m : String × Json) (members : List (String × Json))
    (rest : List Char) :
    ∃ s, Text.glue style.comma (writeMembers style (m :: members)) ++ rest = '"' :: s := by
  cases members <;> exact ⟨_, rfl⟩

/-- With so many steps a value is read back that is no longer, and so are items and members that are
shorter. -/
structure Reads (style : Style) (steps : Nat) : Prop where
  value : ∀ (v : Json) (rest : List Char), v.Admitted → (write style v).length ≤ steps →
    Text.Stops goesOn rest → readValue steps (write style v ++ rest) = .ok (v, rest)
  items : ∀ (v : Json) (items : List Json) (rest : List Char), (∀ w ∈ v :: items, w.Admitted) →
    (Text.glue style.comma (writeItems style (v :: items))).length < steps →
      readItems steps (Text.glue style.comma (writeItems style (v :: items)) ++ ']' :: rest) =
        .ok (v :: items, rest)
  members : ∀ (m : String × Json) (members : List (String × Json)) (rest : List Char),
    (∀ n ∈ m :: members, n.2.Admitted) →
    (Text.glue style.comma (writeMembers style (m :: members))).length < steps →
      readMembers steps (Text.glue style.comma (writeMembers style (m :: members)) ++ '\x7d' :: rest) =
        .ok (m :: members, rest)

namespace Reads

variable {steps : Nat} {rest : List Char} (reads : Reads style steps)

include reads

theorem array_succ {v : Json} {items : List Json} (admitted : ∀ w ∈ v :: items, w.Admitted)
    (enough : (write style (.array (v :: items))).length ≤ steps + 1) :
    readValue (steps + 1) (write style (.array (v :: items)) ++ rest) = .ok (.array (v :: items), rest) := by
  have text : write style (.array (v :: items)) ++ rest =
      '[' :: (Text.glue style.comma (writeItems style (v :: items)) ++ ']' :: rest) := by
    simp [write]
  simp only [write, List.length_append, List.length_cons, List.length_nil] at enough
  have inner := reads.items v items rest admitted (by omega)
  obtain ⟨c, s, begins, opened⟩ := exists_items style v items (']' :: rest)
  rw [text, begins, readValue_array (stops_of_opens opened), ← begins, inner]
  · rfl
  · exact fun same => (other_of_opens opened).2.1 (Option.some.inj same)

theorem object_succ {m : String × Json} {members : List (String × Json)}
    (admitted : ∀ n ∈ m :: members, n.2.Admitted)
    (enough : (write style (.object (m :: members))).length ≤ steps + 1) :
    readValue (steps + 1) (write style (.object (m :: members)) ++ rest) =
      .ok (.object (m :: members), rest) := by
  have text : write style (.object (m :: members)) ++ rest =
      '\x7b' :: (Text.glue style.comma (writeMembers style (m :: members)) ++ '\x7d' :: rest) := by
    simp [write]
  simp only [write, List.length_append, List.length_cons, List.length_nil] at enough
  have inner := reads.members m members rest admitted (by omega)
  obtain ⟨s, begins⟩ := exists_members style m members ('\x7d' :: rest)
  rw [text, begins, readValue_object (Text.stops_cons (by decide)) (by simp), ← begins, inner]
  rfl

theorem value_succ (v : Json) (rest : List Char) (admitted : v.Admitted)
    (enough : (write style v).length ≤ steps + 1) (ends : Text.Stops goesOn rest) :
    readValue (steps + 1) (write style v ++ rest) = .ok (v, rest) := by
  cases admitted with
  | null => rfl
  | boolean b => cases b <;> rfl
  | number showable => exact readValue_number showable ends
  | string s => exact readValue_string s
  | @array items all =>
      cases items with
      | nil => rfl
      | cons v items => exact reads.array_succ all enough
  | @object members all =>
      cases members with
      | nil => rfl
      | cons m members => exact reads.object_succ all enough

theorem items_succ (spacing : style.Spacing) (v : Json) (items : List Json) (rest : List Char)
    (admitted : ∀ w ∈ v :: items, w.Admitted)
    (enough : (Text.glue style.comma (writeItems style (v :: items))).length < steps + 1) :
    readItems (steps + 1) (Text.glue style.comma (writeItems style (v :: items)) ++ ']' :: rest) =
      .ok (v :: items, rest) := by
  obtain ⟨first, others⟩ := List.forall_mem_cons.1 admitted
  cases items with
  | nil =>
      have value := reads.value v (']' :: rest) first (Nat.le_of_lt_succ enough)
        (Text.stops_cons (by decide))
      exact readItems_last value
  | cons w items =>
      obtain ⟨blanks, comma, blank⟩ := spacing.comma
      have text : Text.glue style.comma (writeItems style (v :: w :: items)) =
          write style v ++ (',' :: blanks ++ Text.glue style.comma (writeItems style (w :: items))) := by
        simp [writeItems, Text.glue, comma]
      rw [text, List.length_append, List.length_append, List.length_cons] at enough
      have positive := length_write_pos style v
      obtain ⟨c, s, begins, opened⟩ := exists_items style w items (']' :: rest)
      have value := reads.value v (',' :: (blanks ++ (c :: s))) first (by omega)
        (Text.stops_cons (by decide))
      have behind := reads.items w items rest others (by omega)
      have more := readItems_more blank (stops_of_opens opened) value
      rw [← begins] at more
      rw [text]
      simp only [List.append_assoc, List.cons_append] at more ⊢
      rw [more, behind]
      rfl

theorem members_succ (spacing : style.Spacing) (m : String × Json) (members : List (String × Json))
    (rest : List Char) (admitted : ∀ n ∈ m :: members, n.2.Admitted)
    (enough : (Text.glue style.comma (writeMembers style (m :: members))).length < steps + 1) :
    readMembers (steps + 1) (Text.glue style.comma (writeMembers style (m :: members)) ++ '\x7d' :: rest) =
      .ok (m :: members, rest) := by
  obtain ⟨name, v⟩ := m
  obtain ⟨first, following⟩ := List.forall_mem_cons.1 admitted
  obtain ⟨blanks, colon, blank⟩ := spacing.colon
  cases members with
  | nil =>
      have text : Text.glue style.comma (writeMembers style [(name, v)]) ++ '\x7d' :: rest =
          writeString name.toList ++ (':' :: blanks ++ (write style v ++ '\x7d' :: rest)) := by
        simp [writeMembers, Text.glue, colon]
      simp only [writeMembers, Text.glue, colon, List.length_append, List.length_cons] at enough
      have value := reads.value v ('\x7d' :: rest) first (by omega) (Text.stops_cons (by decide))
      rw [text]
      exact readMembers_last name blank (stops_write v _) value
  | cons n members =>
      obtain ⟨others, comma, otherBlank⟩ := spacing.comma
      have text : Text.glue style.comma (writeMembers style ((name, v) :: n :: members)) =
          writeString name.toList ++ (':' :: blanks ++ (write style v ++ (',' :: (others ++
            Text.glue style.comma (writeMembers style (n :: members)))))) := by
        simp [writeMembers, Text.glue, colon, comma]
      rw [text] at enough ⊢
      simp only [List.length_append, List.length_cons] at enough
      obtain ⟨s, begins⟩ := exists_members style n members ('\x7d' :: rest)
      have value := reads.value v (',' :: (others ++ '"' :: s)) first (by omega)
        (Text.stops_cons (by decide))
      have behind := reads.members n members rest following (by omega)
      have more := readMembers_more name blank (stops_write v _) otherBlank
        (Text.stops_cons (by decide)) value
      rw [← begins] at more
      simp only [List.append_assoc, List.cons_append] at more ⊢
      rw [more, behind]
      rfl

end Reads

theorem reads (spacing : style.Spacing) (steps : Nat) : Reads style steps := by
  -- the reader recurs on its steps, through values, items and members in turn
  induction steps with
  | zero =>
      exact ⟨fun v _ _ enough => absurd enough (Nat.not_le.2 (length_write_pos style v)),
        fun _ _ _ _ enough => absurd enough (Nat.not_lt_zero _),
        fun _ _ _ _ enough => absurd enough (Nat.not_lt_zero _)⟩
  | succ steps ih => exact ⟨ih.value_succ, ih.items_succ spacing, ih.members_succ spacing⟩

section Opened

variable {c : Char} {s : List Char}

end Opened

end Json

end TemplateBuiltins
