import Mathlib.Data.List.DropRight

/-!
# Comma-separated records

Records of fields, a line for each, as they are commonly written and read. A field that holds a
comma, a quote or the end of a line is put between quotes, and its quotes are doubled. A reader goes
over the text character by character; a line without a character is no record.

* `Written` — a field and a way to write it;
* `line`, `lines` — fields between commas, records between ends of lines;
* `read` — the reader, and nothing for a text that ends between quotes;
* `read_lines` — records are read as they were written;
* `strip` — a text without the blanks at its ends.
-/

namespace Csv

/-- A text, by its characters. -/
abbrev Text : Type := List Char

/-! ## Writing -/

/-- A character that a field without quotes does not hold. -/
def special (c : Char) : Bool :=
  c = ',' || c = '"' || c = '\n' || c = '\r'

/-- The text with its quotes doubled. -/
def doubled (t : Text) : Text :=
  t.flatMap fun c => if c = '"' then ['"', '"'] else [c]

/-- A field, and a text that it is written as: itself, or its characters between quotes. -/
inductive Written : Text → Text → Prop
  | plain {t : Text} (h : ∀ c ∈ t, special c = false) : Written t t
  | quoted (t : Text) : Written t ('"' :: (doubled t ++ ['"']))

/-- The fields of a record, written out, on a line. -/
def line (fields : List Text) : Text :=
  [','].intercalate fields

/-- The lines of a file. -/
def lines (records : List Text) : Text :=
  ['\n'].intercalate records

/-! ## Reading -/

/-- Where the reader is. -/
inductive Mode
  /-- At the start of a line. -/
  | start
  /-- At the start of a field. -/
  | field
  /-- In a field without quotes, or after the closing quote of one with. -/
  | plain
  /-- Between quotes. -/
  | quoted
  /-- After a quote that closes the field or is the first of two. -/
  | quote
deriving DecidableEq

/-- The end of a line. -/
def newline (c : Char) : Bool :=
  c = '\n' || c = '\r'

/-- The reader: the field that is being read, the fields of its record before it, and the text. -/
def readFrom : Mode → Text → List Text → Text → Option (List (List Text))
  | .quoted, _, _, [] => none
  | .start, _, _, [] => some []
  | _, field, fields, [] => some [fields ++ [field]]
  | .quoted, field, fields, c :: rest =>
      if c = '"' then readFrom .quote field fields rest
      else readFrom .quoted (field ++ [c]) fields rest
  | mode, field, fields, c :: rest =>
      if c = ',' then readFrom .field [] (fields ++ [field]) rest
      else if newline c then
        -- a line without a character is skipped
        if mode = .start then readFrom .start [] [] rest
        else (readFrom .start [] [] rest).map ((fields ++ [field]) :: ·)
      else if c = '"' ∧ mode ≠ .plain then
        -- the second of two quotes is one of the field, a quote at the start opens it
        if mode = .quote then readFrom .quoted (field ++ [c]) fields rest
        else readFrom .quoted field fields rest
      else readFrom .plain (field ++ [c]) fields rest

/-- The records of a text. -/
def read (t : Text) : Option (List (List Text)) :=
  readFrom .start [] [] t

/-! ## What is written is read -/

variable {t w : Text} {field : Text} {fields : List Text} {rest : Text}

/-- A comma ends a field. -/
theorem readFrom_comma {mode : Mode} (hmode : mode ≠ .quoted) :
    readFrom mode field fields (',' :: rest) = readFrom .field [] (fields ++ [field]) rest := by
  cases mode with
  | quoted => exact absurd rfl hmode
  | _ => rfl

/-- The end of a line ends a record. -/
theorem readFrom_newline {mode : Mode} (hmode : mode ≠ .quoted) (hstart : mode ≠ .start) :
    readFrom mode field fields ('\n' :: rest) =
      (readFrom .start [] [] rest).map ((fields ++ [field]) :: ·) := by
  cases mode with
  | quoted => exact absurd rfl hmode
  | start => exact absurd rfl hstart
  | _ => rfl

/-- The end of the text ends a record. -/
theorem readFrom_nil {mode : Mode} (hmode : mode ≠ .quoted) (hstart : mode ≠ .start) :
    readFrom mode field fields [] = some [fields ++ [field]] := by
  cases mode with
  | quoted => exact absurd rfl hmode
  | start => exact absurd rfl hstart
  | _ => rfl

/-- A character that is not special is read as it is. -/
theorem readFrom_plain_cons {mode : Mode} (hmode : mode ≠ .quoted) {c : Char}
    (hc : special c = false) :
    readFrom mode field fields (c :: rest) = readFrom .plain (field ++ [c]) fields rest := by
  simp only [special, Bool.or_eq_false_iff, decide_eq_false_iff_not] at hc
  obtain ⟨⟨⟨hcomma, hquote⟩, hlf⟩, hcr⟩ := hc
  cases mode with
  | quoted => exact absurd rfl hmode
  | _ => simp [readFrom, newline, hcomma, hquote, hlf, hcr]

/-- Characters that are not special are read as they are. -/
theorem readFrom_plain (h : ∀ c ∈ t, special c = false) :
    readFrom .plain field fields (t ++ rest) = readFrom .plain (field ++ t) fields rest := by
  induction t generalizing field with
  | nil => rw [List.nil_append, List.append_nil]
  | cons c t ih =>
      obtain ⟨hc, ht⟩ := List.forall_mem_cons.mp h
      rw [List.cons_append, readFrom_plain_cons (by decide) hc, ih ht, List.append_assoc]
      rfl

/-- Between quotes, a text with its quotes doubled is read as the text. -/
theorem readFrom_doubled :
    readFrom .quoted field fields (doubled t ++ rest) =
      readFrom .quoted (field ++ t) fields rest := by
  induction t generalizing field with
  | nil => rw [doubled, List.flatMap_nil, List.nil_append, List.append_nil]
  | cons c t ih =>
      have hrest : readFrom .quoted field fields (doubled (c :: t) ++ rest) =
          readFrom .quoted (field ++ [c]) fields (doubled t ++ rest) := by
        rw [doubled, List.flatMap_cons]
        by_cases hc : c = '"'
        · subst hc
          rfl
        · rw [if_neg hc, List.append_assoc, List.cons_append, List.nil_append, readFrom, if_neg hc]
          rfl
      rw [hrest, ih, List.append_assoc]
      rfl

/-- A written field leaves the reader in the field, with its text. At the start of a line, the field
has to be written with a character at least. -/
theorem readFrom_written (fields : List Text) {mode : Mode}
    (hmode : mode = .field ∨ mode = .start ∧ w ≠ []) (h : Written t w) :
    ∃ mode', mode' ≠ .quoted ∧ mode' ≠ .start ∧
      ∀ rest, readFrom mode [] fields (w ++ rest) = readFrom mode' t fields rest := by
  cases h with
  | plain hplain =>
      cases t with
      | nil =>
          rcases hmode with rfl | ⟨_, hne⟩
          · exact ⟨.field, by decide, by decide, fun rest => rfl⟩
          · exact absurd rfl hne
      | cons c t =>
          obtain ⟨hc, ht⟩ := List.forall_mem_cons.mp hplain
          refine ⟨.plain, by decide, by decide, fun rest => ?_⟩
          have hquoted : mode ≠ .quoted := by
            rcases hmode with rfl | ⟨rfl, _⟩ <;> decide
          rw [List.cons_append, readFrom_plain_cons hquoted hc, readFrom_plain ht]
          rfl
  | quoted =>
      refine ⟨.quote, by decide, by decide, fun rest => ?_⟩
      have hopen : ∀ rest, readFrom mode [] fields ('"' :: rest) =
          readFrom .quoted [] fields rest := by
        intro rest
        rcases hmode with rfl | ⟨rfl, _⟩ <;> rfl
      rw [List.cons_append, hopen, List.append_assoc, readFrom_doubled]
      rfl

/-- The fields after the first of a record, each written after a comma, are read. -/
theorem readFrom_fields (field : Text) (fields : List Text) {mode : Mode}
    (hmode : mode ≠ .quoted) (hstart : mode ≠ .start) {ts ws : List Text}
    (h : List.Forall₂ Written ts ws) :
    ∃ mode' field' fields', mode' ≠ .quoted ∧ mode' ≠ .start ∧
      fields' ++ [field'] = fields ++ field :: ts ∧
      ∀ rest, readFrom mode field fields (ws.flatMap (',' :: ·) ++ rest) =
        readFrom mode' field' fields' rest := by
  induction h generalizing mode field fields with
  | nil => exact ⟨mode, field, fields, hmode, hstart, rfl, fun rest => rfl⟩
  | @cons t w ts ws hfirst _ ih =>
      obtain ⟨mode₁, hmode₁, hstart₁, hread⟩ :=
        readFrom_written (fields ++ [field]) (Or.inl rfl) hfirst
      obtain ⟨mode', field', fields', hmode', hstart', hfields, hrest⟩ :=
        ih t (fields ++ [field]) hmode₁ hstart₁
      refine ⟨mode', field', fields', hmode', hstart', ?_, fun rest => ?_⟩
      · rw [hfields, List.append_assoc]
        rfl
      · rw [List.flatMap_cons, List.append_assoc, List.cons_append, readFrom_comma hmode, hread,
          hrest]

/-! ### Lines -/

/-- A text after each of others, put between them. -/
theorem intercalate_cons (sep w : Text) (ws : List Text) :
    sep.intercalate (w :: ws) = w ++ ws.flatMap (sep ++ ·) := by
  induction ws generalizing w with
  | nil => simp [List.intercalate, List.intersperse]
  | cons w' ws ih =>
      rw [List.flatMap_cons, List.append_assoc, ← ih w']
      simp [List.intercalate, List.intersperse]

/-- A record, and the texts its fields are written as: the first of them has a character, so that
the line has one. -/
inductive WrittenRecord : List Text → List Text → Prop
  | fields {t w : Text} {ts ws : List Text} (hne : w ≠ []) (hfirst : Written t w)
      (hrest : List.Forall₂ Written ts ws) : WrittenRecord (t :: ts) (w :: ws)

/-- A line leaves the reader at the end of its last field. -/
theorem readFrom_line {ts ws : List Text} (h : WrittenRecord ts ws) :
    ∃ mode field fields, mode ≠ .quoted ∧ mode ≠ .start ∧ fields ++ [field] = ts ∧
      ∀ rest, readFrom .start [] [] (line ws ++ rest) = readFrom mode field fields rest := by
  obtain ⟨hne, hfirst, hrest⟩ := h
  obtain ⟨mode₁, hmode₁, hstart₁, hread⟩ := readFrom_written [] (Or.inr ⟨rfl, hne⟩) hfirst
  obtain ⟨mode, field, fields, hmode, hstart, hfields, hread'⟩ :=
    readFrom_fields _ [] hmode₁ hstart₁ hrest
  refine ⟨mode, field, fields, hmode, hstart, hfields, fun rest => ?_⟩
  rw [line, intercalate_cons, List.append_assoc, hread]
  exact hread' rest

/-- The lines after the first are read as their records. -/
theorem readFrom_lines {mode : Mode} (hmode : mode ≠ .quoted) (hstart : mode ≠ .start)
    {records written : List (List Text)} (h : List.Forall₂ WrittenRecord records written) :
    readFrom mode field fields ((written.map line).flatMap (['\n'] ++ ·)) =
      some ((fields ++ [field]) :: records) := by
  induction h generalizing mode field fields with
  | nil => exact readFrom_nil hmode hstart
  | cons hfirst _ ih =>
      obtain ⟨mode', field', fields', hmode', hstart', hfields, hread⟩ := readFrom_line hfirst
      rw [List.map_cons, List.flatMap_cons, List.append_assoc, List.cons_append,
        readFrom_newline hmode hstart, List.nil_append, hread, ih hmode' hstart', hfields]
      rfl

/-- Records are read as they were written. -/
theorem read_lines {records written : List (List Text)}
    (h : List.Forall₂ WrittenRecord records written) :
    read (lines (written.map line)) = some records := by
  cases h with
  | nil => rfl
  | cons hfirst hrest =>
      obtain ⟨mode, field, fields, hmode, hstart, hfields, hread⟩ := readFrom_line hfirst
      rw [read, lines, List.map_cons, intercalate_cons, hread, readFrom_lines hmode hstart hrest,
        hfields]

/-- Quotes, a line without a character and the end of a line between quotes. -/
example : read "sku,note\n\n\"A,1\",\"say \"\"hi\"\"\nthere\"\n".toList =
    some [["sku".toList, "note".toList], ["A,1".toList, "say \"hi\"\nthere".toList]] := by
  decide

/-! ## Blanks at the ends of a text -/

/-- A text without the blanks at its two ends. -/
def strip (blank : Char → Bool) (t : Text) : Text :=
  (t.dropWhile blank).rdropWhile blank

variable {blank : Char → Bool}

/-- A stripped text has no blanks at its ends. -/
@[simp] theorem strip_strip (t : Text) : strip blank (strip blank t) = strip blank t := by
  have hhead : (strip blank t).dropWhile blank = strip blank t := by
    rw [List.dropWhile_eq_self_iff]
    intro hpos
    -- what is left begins as the text without the blanks at its start does
    have hbegins : strip blank t <+: t.dropWhile blank := List.rdropWhile_prefix blank _
    have hne : t.dropWhile blank ≠ [] := fun h => by
      rw [h] at hbegins
      rw [List.prefix_nil.mp hbegins] at hpos
      exact Nat.lt_irrefl 0 hpos
    rw [List.IsPrefix.getElem hbegins hpos]
    exact List.dropWhile_get_zero_not blank t (List.length_pos_of_ne_nil hne)
  rw [strip, hhead, strip, List.rdropWhile_idempotent]

/-- A text without blanks is left as it is. -/
theorem strip_eq_self {t : Text} (h : ∀ c ∈ t, blank c = false) : strip blank t = t := by
  have hstart : t.dropWhile blank = t := by
    rw [List.dropWhile_eq_self_iff]
    intro hpos
    rw [h _ (List.getElem_mem hpos)]
    decide
  rw [strip, hstart, List.rdropWhile_eq_self_iff]
  intro hne
  rw [h _ (List.getLast_mem hne)]
  decide

end Csv
