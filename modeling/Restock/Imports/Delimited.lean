import Restock.Utf16.Numerals

/-!
# Delimited text

What the app writes for a spreadsheet (`lib/export/csv.ts`) and how it takes a file or a paste apart
(`parseDelimited` of `lib/cost/import.ts`), over texts of UTF-16 code units.

* `rowsToCsv` — rows of cells; a cell with a quote, a comma or the end of a line goes between quotes;
* `parseDelimited` — rows of fields, between commas or tabs, without the rows that are blank;
* `piecesOf` — what is read of one written cell: the cell, or what lies between its tabs;
* `parseDelimited_rowsToCsv` — what is read of a table: the pieces of its cells, row by row;
* `reads_back_iff` — a table is read back exactly when no cell of a row that is read is cut.
-/

namespace Restock.Imports

open Json Utf16

/-! ## Writing -/

/-- `CellValue`, over the type of numbers. -/
inductive CellValue (Num : Type)
  | string (value : Text)
  | number (value : Num)
  | boolean (value : Bool)
  /-- `null` or `undefined`. -/
  | missing

/-- `CsvOptions`. -/
structure CsvOptions where
  /-- Prepend the UTF-8 BOM (Excel encoding detection). -/
  bom : Bool := true
  /-- Apostrophe-prefix string cells that would run as spreadsheet formulas. -/
  guardFormulas : Bool := true

/-- What a formula begins with. -/
def formulaPrefixes : List UInt16 := [unit '=', unit '+', unit '-', unit '@', unit '\t', unit '\r']

variable {Num : Type}

/-- `toText`; `numberText` is how the runtime writes a number. -/
def toText (numberText : Num → Text) (guardFormulas : Bool) : CellValue Num → Text
  | .missing => []
  | .number value => numberText value
  | .boolean value => text (if value then "true" else "false")
  | .string value =>
      if guardFormulas && formulaPrefixes.any fun p => value.head? = some p then unit '\'' :: value
      else value

/-- A unit for which a cell goes between quotes. -/
def needsQuotes (c : UInt16) : Bool :=
  c = unit '"' || c = unit ',' || c = unit '\n' || c = unit '\r'

/-- The cell with its quotes doubled. -/
def doubleQuotes (cell : Text) : Text :=
  cell.flatMap fun c => if c = unit '"' then [unit '"', unit '"'] else [c]

/-- `escapeCsvCell`. -/
def escapeCsvCell (cell : Text) : Text :=
  if cell.any needsQuotes then unit '"' :: (doubleQuotes cell ++ [unit '"']) else cell

/-- A row of texts, escaped and put between commas. -/
def csvLine (row : List Text) : Text :=
  [unit ','].intercalate (row.map escapeCsvCell)

/-- `rowsToCsv`. -/
def rowsToCsv (numberText : Num → Text) (headers : List Text) (rows : List (List (CellValue Num)))
    (options : CsvOptions) : Text :=
  let lines := (headers.map .string :: rows).map fun row =>
    csvLine (row.map (toText numberText options.guardFormulas))
  (if options.bom then [0xfeff] else []) ++ [unit '\r', unit '\n'].intercalate lines

/-! ## Reading -/

/-- A row is kept when one of its fields is not blank. -/
def keep (row : List Text) (rows : List (List Text)) : List (List Text) :=
  if row.any fun f => !(trim f).isEmpty then row :: rows else rows

/-- The loop of `parseDelimited`: whether it is between quotes, the field that is being read, the
fields of its row before it, and the text that is left. -/
def parseFrom (inQuotes : Bool) (field : Text) (row : List Text) : Text → List (List Text)
  | [] => keep (row ++ [field]) []
  | c :: rest =>
      if inQuotes then
        if c = unit '"' then
          match rest with
          | [] => parseFrom false field row []
          | d :: rest' =>
              -- two quotes are one of the field, a single one closes it
              if d = unit '"' then parseFrom true (field ++ [unit '"']) row rest'
              else parseFrom false field row (d :: rest')
        else parseFrom true (field ++ [c]) row rest
      else if c = unit '"' then parseFrom true field row rest
      else if c = unit ',' || c = unit '\t' then parseFrom false [] (row ++ [field]) rest
      else if c = unit '\n' then keep (row ++ [field]) (parseFrom false [] [] rest)
      else if c = unit '\r' then
        match rest with
        | [] => keep (row ++ [field]) (parseFrom false [] [] [])
        | d :: rest' =>
            if d = unit '\n' then keep (row ++ [field]) (parseFrom false [] [] rest')
            else keep (row ++ [field]) (parseFrom false [] [] (d :: rest'))
      else parseFrom false (field ++ [c]) row rest

/-- `parseDelimited`: quoted fields, escaped quotes, CRLF. Blank lines dropped. -/
def parseDelimited (t : Text) : List (List Text) := parseFrom false [] [] t

/-- Two quotes are one of the field, ends of lines come as one unit or as two, and a row of blanks is
no row. -/
example : parseDelimited (text "a,\"b\"\"c\"\r\n \t\re") = [[text "a", text "b\"c"], [text "e"]] := by
  decide +kernel

/-- Nothing put before the first of them leaves texts as they are. -/
theorem modifyHead_nil_append (ts : List Text) : ts.modifyHead ([] ++ ·) = ts := by
  cases ts <;> rfl

/-! ## Rows that are kept -/

variable {row : List Text} {rows : List (List Text)} {cell field : Text}

/-- A row without a field that is not blank. -/
def BlankRow (row : List Text) : Prop := ∀ f ∈ row, Blank f

instance (row : List Text) : Decidable (BlankRow row) := inferInstanceAs (Decidable (∀ f ∈ row, _))

/-- A row is kept exactly when it is not blank. -/
theorem keep_eq (row : List Text) (rows : List (List Text)) :
    keep row rows = if BlankRow row then rows else row :: rows := by
  have hany : (row.any fun f => !(trim f).isEmpty) = true ↔ ¬BlankRow row := by
    simp [BlankRow]
  rw [keep]
  by_cases h : BlankRow row
  · rw [if_pos h, if_neg (not_not_intro h ∘ hany.mp)]
  · rw [if_neg h, if_pos (hany.mpr h)]

/-! ## Units that are read -/

variable {c : UInt16} {rest : Text}

/-- What the loop makes of a unit outside of quotes. -/
theorem parseFrom_outside (field : Text) (row : List Text) (c : UInt16) (rest : Text) :
    parseFrom false field row (c :: rest) =
      if c = unit '"' then parseFrom true field row rest
      else if c = unit ',' || c = unit '\t' then parseFrom false [] (row ++ [field]) rest
      else if c = unit '\n' then keep (row ++ [field]) (parseFrom false [] [] rest)
      else if c = unit '\r' then
        keep (row ++ [field])
          (parseFrom false [] [] (if rest.head? = some (unit '\n') then rest.tail else rest))
      else parseFrom false (field ++ [c]) row rest := by
  rw [parseFrom.eq_def]
  cases rest with
  | nil => rfl
  | cons d rest => by_cases hd : d = unit '\n' <;> simp [hd]

/-- What the loop makes of a unit between quotes. -/
theorem parseFrom_inside (field : Text) (row : List Text) (c : UInt16) (rest : Text) :
    parseFrom true field row (c :: rest) =
      if c = unit '"' then
        if rest.head? = some (unit '"') then parseFrom true (field ++ [unit '"']) row rest.tail
        else parseFrom false field row rest
      else parseFrom true (field ++ [c]) row rest := by
  rw [parseFrom.eq_def]
  cases rest with
  | nil => rfl
  | cons d rest => by_cases hd : d = unit '"' <;> simp [hd]

/-- A quote opens a field that goes on between quotes. -/
theorem parseFrom_opening (field : Text) (row : List Text) (rest : Text) :
    parseFrom false field row (unit '"' :: rest) = parseFrom true field row rest := by
  rw [parseFrom_outside, if_pos rfl]

/-- A comma or a tab ends the field. -/
theorem parseFrom_separator (hc : c = unit ',' ∨ c = unit '\t') :
    parseFrom false field row (c :: rest) = parseFrom false [] (row ++ [field]) rest := by
  rw [parseFrom_outside]
  rcases hc with rfl | rfl <;> rfl

/-- The two units of the end of a line end the row. -/
theorem parseFrom_crlf (field : Text) (row : List Text) (rest : Text) :
    parseFrom false field row (unit '\r' :: unit '\n' :: rest) =
      keep (row ++ [field]) (parseFrom false [] [] rest) := by
  rw [parseFrom_outside]
  rfl

/-- Any other unit is one of the field. -/
theorem parseFrom_other (hc : needsQuotes c = false) (htab : c ≠ unit '\t') :
    parseFrom false field row (c :: rest) = parseFrom false (field ++ [c]) row rest := by
  simp only [needsQuotes, Bool.or_eq_false_iff, decide_eq_false_iff_not] at hc
  obtain ⟨⟨⟨hquote, hcomma⟩, hlf⟩, hcr⟩ := hc
  rw [parseFrom_outside]
  simp [hquote, hcomma, htab, hlf, hcr]

/-- Between quotes, any unit but a quote is one of the field. -/
theorem parseFrom_quoted (hc : c ≠ unit '"') :
    parseFrom true field row (c :: rest) = parseFrom true (field ++ [c]) row rest := by
  rw [parseFrom_inside, if_neg hc]

/-- Between quotes, two of them are one of the field. -/
theorem parseFrom_escaped (field : Text) (row : List Text) (rest : Text) :
    parseFrom true field row (unit '"' :: unit '"' :: rest) =
      parseFrom true (field ++ [unit '"']) row rest := by
  rw [parseFrom_inside]
  rfl

/-- A quote that no other follows closes. -/
theorem parseFrom_closing (field : Text) (row : List Text)
    (hrest : rest.head? ≠ some (unit '"')) :
    parseFrom true field row (unit '"' :: rest) = parseFrom false field row rest := by
  rw [parseFrom_inside, if_pos rfl, if_neg hrest]

/-! ## A cell that is read -/

/-- What is read of a cell: the cell when it is written between quotes, else what lies between its
tabs. -/
def piecesOf (cell : Text) : List Text :=
  if cell.any needsQuotes then [cell] else cell.splitOn (unit '\t')

/-- Units that ask for no quotes are read into the field, a tab begins another. -/
theorem parseFrom_plain (h : ∀ c ∈ cell, needsQuotes c = false) (field : Text) (row : List Text) :
    ∃ fields last,
      fields ++ [last] = (cell.splitOn (unit '\t')).modifyHead (field ++ ·) ∧
        ∀ rest, parseFrom false field row (cell ++ rest) =
          parseFrom false last (row ++ fields) rest := by
  induction cell generalizing field row with
  | nil =>
      refine ⟨[], field, by simp, fun rest => ?_⟩
      rw [List.append_nil, List.nil_append]
  | cons c cell ih =>
      obtain ⟨hc, hcell⟩ := List.forall_mem_cons.mp h
      rw [List.splitOn_cons_eq_if_modifyHead]
      by_cases htab : c = unit '\t'
      · -- the field ends here, and the pieces of the others begin with nothing
        obtain ⟨fields, last, hpieces, hread⟩ := ih hcell [] (row ++ [field])
        refine ⟨field :: fields, last, ?_, fun rest => ?_⟩
        · rw [if_pos (beq_iff_eq.mpr htab), List.cons_append, hpieces, modifyHead_nil_append,
            List.modifyHead_cons, List.append_nil]
        · rw [List.cons_append, parseFrom_separator (Or.inr htab), hread, List.append_assoc,
            List.singleton_append]
      · obtain ⟨fields, last, hpieces, hread⟩ := ih hcell (field ++ [c]) row
        refine ⟨fields, last, ?_, fun rest => ?_⟩
        · rw [if_neg (by simpa using htab), hpieces, List.modifyHead_modifyHead]
          congr 1
          funext piece
          simp
        · rw [List.cons_append, parseFrom_other hc htab, hread]

/-- Between quotes, a cell with its quotes doubled is read as the cell, up to the quote that is not
followed by one. -/
theorem parseFrom_doubleQuotes (cell field : Text) (row : List Text)
    (hrest : rest.head? ≠ some (unit '"')) :
    parseFrom true field row (doubleQuotes cell ++ unit '"' :: rest) =
      parseFrom false (field ++ cell) row rest := by
  induction cell generalizing field with
  | nil =>
      rw [doubleQuotes, List.flatMap_nil, List.nil_append, List.append_nil,
        parseFrom_closing field row hrest]
  | cons c cell ih =>
      rw [doubleQuotes, List.flatMap_cons, ← doubleQuotes]
      by_cases hc : c = unit '"'
      · rw [if_pos hc, List.append_assoc, List.cons_append, List.singleton_append,
          parseFrom_escaped, ih, hc, List.append_assoc, List.singleton_append]
      · rw [if_neg hc, List.append_assoc, List.singleton_append, parseFrom_quoted hc, ih,
          List.append_assoc, List.singleton_append]

/-- A written cell is read as its pieces, the last of them still open. -/
theorem parseFrom_escapeCsvCell (cell : Text) (row : List Text) :
    ∃ fields last, fields ++ [last] = piecesOf cell ∧
      ∀ rest, rest.head? ≠ some (unit '"') →
        parseFrom false [] row (escapeCsvCell cell ++ rest) =
          parseFrom false last (row ++ fields) rest := by
  by_cases hquotes : cell.any needsQuotes = true
  · refine ⟨[], cell, by rw [piecesOf, if_pos hquotes]; rfl, fun rest hrest => ?_⟩
    rw [escapeCsvCell, if_pos hquotes, List.cons_append, parseFrom_opening, List.append_assoc,
      List.singleton_append, parseFrom_doubleQuotes cell [] row hrest, List.nil_append,
      List.append_nil]
  · have hplain : ∀ c ∈ cell, needsQuotes c = false := by simpa using hquotes
    obtain ⟨fields, last, hpieces, hread⟩ := parseFrom_plain hplain [] row
    refine ⟨fields, last, ?_, fun rest _ => ?_⟩
    · rw [hpieces, piecesOf, if_neg hquotes, modifyHead_nil_append]
    · rw [escapeCsvCell, if_neg hquotes, hread]

/-! ## Rows that are read -/

/-- The cells of a row are read as their pieces, the last of them still open. -/
theorem parseFrom_csvLine {cells : List Text} (hne : cells ≠ []) (row : List Text) :
    ∃ fields last, fields ++ [last] = cells.flatMap piecesOf ∧
      ∀ rest, rest.head? ≠ some (unit '"') →
        parseFrom false [] row (csvLine cells ++ rest) =
          parseFrom false last (row ++ fields) rest := by
  induction cells generalizing row with
  | nil => exact absurd rfl hne
  | cons cell cells ih =>
      obtain ⟨pieces, last, hpieces, hread⟩ := parseFrom_escapeCsvCell cell row
      cases cells with
      | nil =>
          refine ⟨pieces, last, by rw [hpieces, List.flatMap_singleton], fun rest hrest => ?_⟩
          rw [csvLine, List.map_singleton, List.intercalate_singleton, hread rest hrest]
      | cons cell' cells =>
          -- the comma closes the last piece, and the other cells are read after it
          obtain ⟨fields, last', hfields, hread'⟩ :=
            ih (List.cons_ne_nil _ _) (row ++ pieces ++ [last])
          refine ⟨pieces ++ [last] ++ fields, last', ?_, fun rest hrest => ?_⟩
          · rw [List.append_assoc, hfields, hpieces, ← List.flatMap_cons]
          · have hline : csvLine (cell :: cell' :: cells) ++ rest =
                escapeCsvCell cell ++ unit ',' :: (csvLine (cell' :: cells) ++ rest) := by
              simp [csvLine]
            rw [hline, hread _ (by simp; decide), parseFrom_separator (Or.inl rfl),
              hread' rest hrest]
            simp only [List.append_assoc]

/-- A line is read as the pieces of its cells, when it is the last and when others follow. -/
theorem parseFrom_line (cells : List Text) :
    parseFrom false [] [] (csvLine cells) = keep (cells.flatMap piecesOf) [] ∧
      ∀ rest, parseFrom false [] [] (csvLine cells ++ unit '\r' :: unit '\n' :: rest) =
        keep (cells.flatMap piecesOf) (parseFrom false [] [] rest) := by
  by_cases hne : cells = []
  · -- the line of no cell is read as one of a single field, which is not kept
    subst hne
    refine ⟨rfl, fun rest => ?_⟩
    rw [csvLine, List.map_nil, List.intercalate_nil, List.nil_append, parseFrom_crlf]
    rfl
  · obtain ⟨fields, last, hfields, hread⟩ := parseFrom_csvLine hne []
    refine ⟨?_, fun rest => ?_⟩
    · have hend := hread [] (by simp)
      rw [List.append_nil, List.nil_append] at hend
      rw [hend, ← hfields, parseFrom.eq_def]
    · rw [hread _ (by simp; decide), parseFrom_crlf, List.nil_append, hfields]

/-- A table is read row by row. -/
theorem parseDelimited_lines (table : List (List Text)) :
    parseDelimited ([unit '\r', unit '\n'].intercalate (table.map csvLine)) =
      (table.map (·.flatMap piecesOf)).foldr keep [] := by
  rw [parseDelimited]
  induction table with
  | nil => decide
  | cons cells table ih =>
      rw [List.map_cons, List.map_cons, List.foldr_cons, ← ih]
      cases table with
      | nil =>
          rw [List.map_nil, List.intercalate_singleton, (parseFrom_line cells).1]
          rfl
      | cons cells' table =>
          rw [List.map_cons, List.intercalate_cons_cons, List.append_assoc, List.cons_append,
            List.cons_append, List.nil_append, (parseFrom_line cells).2]

/-- The rows that are kept are those that are not blank. -/
theorem foldr_keep (table : List (List Text)) :
    table.foldr keep [] = table.filter (¬BlankRow ·) := by
  induction table with
  | nil => rfl
  | cons row table ih =>
      rw [List.foldr_cons, ih, keep_eq, List.filter_cons]
      by_cases h : BlankRow row <;> simp [h]

/-! ## What is read of a table -/

/-- The pieces of a cell are blank together with it, for tabs are. -/
theorem blankRow_piecesOf (cell : Text) : BlankRow (piecesOf cell) ↔ Blank cell := by
  rw [piecesOf]
  split
  · simp [BlankRow]
  · clear * -
    induction cell with
    | nil => simp [BlankRow]
    | cons c cell ih =>
        rw [List.splitOn_cons_eq_if_modifyHead, blank_cons, ← ih]
        by_cases htab : c = unit '\t'
        · have hspace : isBlank (unit '\t') = true := by decide
          simp [BlankRow, htab, hspace]
        · -- the unit is one of the first piece
          obtain ⟨piece, pieces, hpieces⟩ :=
            List.exists_cons_of_ne_nil (List.splitOn_ne_nil (unit '\t') cell)
          simp [BlankRow, htab, hpieces, and_assoc]

/-- A row is blank when the pieces of its cells are. -/
theorem blankRow_flatMap (row : List Text) : BlankRow (row.flatMap piecesOf) ↔ BlankRow row := by
  rw [BlankRow, BlankRow]
  simp only [List.forall_mem_flatMap]
  exact forall₂_congr fun cell _ => blankRow_piecesOf cell

/-- A table of texts is read as the pieces of its cells, without the rows that are blank. -/
theorem parseDelimited_rowsToCsv (numberText : Num → Text) (headers : List Text)
    (rows : List (List Text)) :
    parseDelimited (rowsToCsv numberText headers (rows.map (·.map .string)) ⟨false, false⟩) =
      ((headers :: rows).filter (¬BlankRow ·)).map (·.flatMap piecesOf) := by
  have htext : ∀ row : List Text, (row.map .string).map (toText numberText false) = row := by
    intro row
    rw [List.map_map]
    exact List.map_id row
  have hcsv : rowsToCsv numberText headers (rows.map (·.map .string)) ⟨false, false⟩ =
      [unit '\r', unit '\n'].intercalate ((headers :: rows).map csvLine) := by
    simp [rowsToCsv, htext, Function.comp_def]
  rw [hcsv, parseDelimited_lines, foldr_keep, List.filter_map]
  congr 2
  funext row
  simp [blankRow_flatMap]

/-- A cell is read as it is unless it has a tab and nothing for which it goes between quotes. -/
theorem piecesOf_eq_singleton_iff (cell : Text) :
    piecesOf cell = [cell] ↔ (unit '\t' ∈ cell → cell.any needsQuotes = true) := by
  rw [piecesOf]
  by_cases hquotes : cell.any needsQuotes = true
  · simp [hquotes]
  · rw [if_neg hquotes]
    by_cases htab : unit '\t' ∈ cell
    · -- there is a piece on either side of the tab
      obtain ⟨before, after, rfl⟩ := List.append_of_mem htab
      rw [List.splitOn_append_cons_self]
      refine iff_of_false (fun hone => ?_) fun h => hquotes (h htab)
      have hlength := congrArg List.length hone
      have hbefore := List.length_pos_of_ne_nil (List.splitOn_ne_nil (unit '\t') before)
      have hafter := List.length_pos_of_ne_nil (List.splitOn_ne_nil (unit '\t') after)
      rw [List.length_append, List.length_singleton] at hlength
      omega
    · rw [List.splitOn_eq_singleton htab]
      exact iff_of_true rfl fun h => absurd h htab

/-- A row is read as it is exactly when each of its cells is, for no cell is read as less than one
field. -/
theorem flatMap_piecesOf_eq_self_iff (row : List Text) :
    row.flatMap piecesOf = row ↔ ∀ cell ∈ row, piecesOf cell = [cell] := by
  have hpos : ∀ cell, 0 < (piecesOf cell).length := by
    intro cell
    rw [piecesOf]
    split
    · exact Nat.one_pos
    · exact List.length_pos_of_ne_nil (List.splitOn_ne_nil _ _)
  have hlength : ∀ row : List Text, row.length ≤ (row.flatMap piecesOf).length := by
    intro row
    induction row with
    | nil => exact Nat.zero_le 0
    | cons cell row ih =>
        have hcell := hpos cell
        rw [List.flatMap_cons, List.length_append, List.length_cons]
        omega
  induction row with
  | nil => simp
  | cons cell row ih =>
      rw [List.flatMap_cons, List.forall_mem_cons]
      constructor
      · intro h
        -- more than one piece would be more than one field too many
        have hone : (piecesOf cell).length = 1 := by
          have hsum := congrArg List.length h
          have hcell := hpos cell
          have hrow := hlength row
          rw [List.length_append, List.length_cons] at hsum
          omega
        obtain ⟨hcell, hrow⟩ :=
          List.append_inj (h.trans List.singleton_append.symm) (hone.trans List.length_singleton.symm)
        exact ⟨hcell, ih.mp hrow⟩
      · rintro ⟨hcell, hrow⟩
        rw [hcell, ih.mpr hrow, List.singleton_append]

/-- A table of texts that is exported is read back, without its blank rows, exactly when each cell
of the other rows that holds a tab holds a quote, a comma or the end of a line as well: the export
puts a cell between quotes for these, and not for a tab, at which the import cuts it. -/
theorem reads_back_iff (numberText : Num → Text) (headers : List Text) (rows : List (List Text)) :
    parseDelimited (rowsToCsv numberText headers (rows.map (·.map .string)) ⟨false, false⟩) =
        (headers :: rows).filter (¬BlankRow ·) ↔
      ∀ row ∈ headers :: rows, ¬BlankRow row → ∀ cell ∈ row,
        unit '\t' ∈ cell → cell.any needsQuotes = true := by
  have hfixed : ∀ table : List (List Text), table.map (·.flatMap piecesOf) = table ↔
      ∀ row ∈ table, row.flatMap piecesOf = row := by
    intro table
    conv_lhs => rhs; rw [← List.map_id table]
    exact List.map_inj_left
  rw [parseDelimited_rowsToCsv, hfixed]
  simp only [List.mem_filter, decide_eq_true_eq, flatMap_piecesOf_eq_self_iff,
    piecesOf_eq_singleton_iff, and_imp]

/-- A cell with a tab between two letters is read as two. -/
theorem not_reads_back :
    ¬∀ (headers : List Text) (rows : List (List Text)), headers ≠ [] → (∀ row ∈ rows, row ≠ []) →
      parseDelimited
          (rowsToCsv (fun _ : Unit => []) headers (rows.map (·.map .string)) ⟨false, false⟩) =
        (headers :: rows).filter (¬BlankRow ·) := by
  intro h
  have htab := h [text "Name"] [[text "a\tb"]] (by decide) (by decide)
  exact absurd htab (by decide +kernel)

end Restock.Imports
