import Restock.Imports.SupplierRows

/-!
# The supplier import

A file of suppliers is decided row by row against the suppliers that are live
(`previewSupplierImport`, `applicableSupplierWrites` of `lib/suppliers/import.ts`). Names are
compared by what `normName` leaves of them: the letters a to z and the digits.

* `previewSupplierImport` — create, update, invalid or repeat, for every row;
* `applicableSupplierWrites`, `applyWrites` — the writes of a preview, and the suppliers after them;
* `RowIs` — what a row is, by its name and the rows before it;
* `LosslessAndIdempotent` — what an import promises: no supplier of the file is left out, none is
  guessed, and a second preview creates nothing;
* `losslessAndIdempotent_iff` — the names for which it keeps that.
-/

namespace Restock.Imports

open Json Utf16 Series

/-- `ImportSupplier`: a supplier that is live. -/
structure ImportSupplier where
  id : String
  name : Text
deriving DecidableEq

/-- The suppliers of a shop that are live, one of each id. -/
structure LiveSuppliers where
  suppliers : List ImportSupplier
  nodup : (suppliers.map ImportSupplier.id).Nodup
  id_ne : ∀ s ∈ suppliers, s.id ≠ ""

/-- `SupplierRowStatus`; `repeated` is `"repeat"`. -/
inductive SupplierRowStatus
  | create
  | update
  | invalid
  | repeated
deriving DecidableEq

/-- `SupplierImportRow`. -/
structure SupplierImportRow where
  /-- 1-based data-row number (header excluded). -/
  rowNumber : ℕ
  name : Option Text
  status : SupplierRowStatus
  /-- Set when the row matched an existing supplier. -/
  supplierId : Option String
  /-- The values that would be written. None on an invalid row. -/
  data : Option SupplierWriteData
  /-- Why the row can't be applied, or what the match was. -/
  note : Option Text

/-- The counts of a preview. -/
structure SupplierImportSummary where
  total : ℕ := 0
  create : ℕ := 0
  update : ℕ := 0
  invalid : ℕ := 0
  repeated : ℕ := 0

/-- `SupplierImportPreview`. -/
structure SupplierImportPreview where
  rows : List SupplierImportRow
  summary : SupplierImportSummary

/-- `IMPORT_ROW_MAX`. -/
def importRowMax : ℕ := 500

section Preview

variable (js : Js)

/-- The index the loop starts from: what is already saved, under the names that are not empty once
normalised. -/
def savedByName (existing : List ImportSupplier) : List (Text × Option String) :=
  existing.foldl (fun byName s =>
    if normName js s.name = [] then byName else setEntry byName (normName js s.name) (some s.id)) []

/-- What the loop over the rows keeps. -/
structure SupplierLoop where
  out : List SupplierImportRow
  summary : SupplierImportSummary
  /-- What is saved, and what rows before created. -/
  byName : List (Text × Option String)
  seenInFile : List Text

/-- One row of the loop. -/
def supplierStep (headerRow : List Text) (acc : SupplierLoop) (row : List Text) : SupplierLoop :=
  let summary := { acc.summary with total := acc.summary.total + 1 }
  let rowNumber := acc.out.length + 1
  match readRow js headerRow row with
  | .error note =>
      let name := rowName js headerRow row
      { acc with
        out := acc.out ++ [{
          rowNumber, name := if name = [] then none else some name, status := .invalid
          supplierId := none, data := none, note := some note }]
        summary := { summary with invalid := summary.invalid + 1 } }
  | .ok data =>
      let key := normName js data.name
      match getEntry acc.byName key with
      | some supplierId =>
          -- Already written by an earlier row of this file: applying both would write it twice.
          if key ∈ acc.seenInFile then
            { acc with
              out := acc.out ++ [{
                rowNumber, name := some data.name, status := .repeated, supplierId, data := some data
                note := some (text
                  "Same supplier appears earlier in this file — the first row wins.") }]
              summary := { summary with repeated := summary.repeated + 1 } }
          else
            { acc with
              out := acc.out ++ [{
                rowNumber, name := some data.name, status := .update, supplierId, data := some data
                note := some (text
                  "Matches a supplier you already have — its details will be updated.") }]
              summary := { summary with update := summary.update + 1 }
              seenInFile := key :: acc.seenInFile }
      | none =>
          { out := acc.out ++ [{
              rowNumber, name := some data.name, status := .create, supplierId := none
              data := some data, note := none }]
            summary := { summary with create := summary.create + 1 }
            byName := setEntry acc.byName key none
            seenInFile := key :: acc.seenInFile }

/-- The loop over the rows after the header. -/
def supplierLoop (existing : List ImportSupplier) (headerRow : List Text) (rows : List (List Text)) :
    SupplierLoop :=
  rows.foldl (supplierStep js headerRow) ⟨[], {}, savedByName js existing, []⟩

/-- `previewSupplierImport`. -/
def previewSupplierImport (t : Text) (existing : List ImportSupplier) :
    Except Text SupplierImportPreview :=
  match parseDelimited t with
  | headerRow :: row :: rows =>
      let header := [unit ',', unit ' '].intercalate headerRow
      if (mapSupplierHeaders js headerRow).lookup .name = none then
        .error (text "No supplier-name column found. Header was: " ++ header ++
          text ". Use a \"Name\" (or \"Supplier\" / \"Vendor\") column.")
      else if importRowMax < (row :: rows).length then
        .error (text ("That file has " ++ toString (row :: rows).length ++ " rows — import up to " ++
          toString importRowMax ++ " at a time."))
      else
        let loop := supplierLoop js existing headerRow (row :: rows)
        .ok ⟨loop.out, loop.summary⟩
  | _ => .error (text "Add a header row plus at least one supplier row.")

end Preview

/-! ## The writes -/

/-- `SupplierWrite`. -/
inductive SupplierWrite
  | create (data : SupplierWriteData)
  | update (supplierId : String) (data : SupplierWriteData)

/-- The write of a row: repeats and invalid rows have none. -/
def SupplierImportRow.write (r : SupplierImportRow) : Option SupplierWrite :=
  match r.data, r.status, r.supplierId with
  | some data, .create, _ => some (.create data)
  | some data, .update, some supplierId =>
      if supplierId = "" then none else some (.update supplierId data)
  | _, _, _ => none

/-- `applicableSupplierWrites`: creates and updates in file order. -/
def applicableSupplierWrites (preview : SupplierImportPreview) : List SupplierWrite :=
  preview.rows.filterMap SupplierImportRow.write

/-- One write of the transaction that applies a preview, by what a preview reads of suppliers: a new
supplier under an id of its own, or the name of the one that is updated. -/
def applyWrite (newId : ℕ → String) (live : List ImportSupplier) (w : SupplierWrite × ℕ) :
    List ImportSupplier :=
  match w.1 with
  | .create data => live ++ [⟨newId w.2, data.name⟩]
  | .update supplierId data =>
      live.map fun s => if s.id = supplierId then { s with name := data.name } else s

/-- The suppliers after the writes. -/
def applyWrites (newId : ℕ → String) (live : List ImportSupplier) (ws : List SupplierWrite) :
    List ImportSupplier :=
  ws.zipIdx.foldl (applyWrite newId) live

/-- Ids that no live supplier has. -/
structure FreshIds (live : LiveSuppliers) where
  newId : ℕ → String
  fresh : ∀ i, ∀ s ∈ live.suppliers, s.id ≠ newId i

/-! ## What is asked of an import -/

section Asked

variable (js : Js)

/-- The suppliers with a name that is the same once it is normalised. -/
def withSupplierName (live : List ImportSupplier) (name : Text) : List ImportSupplier :=
  live.filter fun s => normName js s.name = normName js name

/-- Every valid row whose name is not that of a row before is written. -/
def NothingLeftOut (same : Text → Text → Prop) (preview : SupplierImportPreview) : Prop :=
  ∀ (i : ℕ) (r : SupplierImportRow), preview.rows[i]? = some r → r.status ≠ .invalid →
    (∀ j < i, ∀ r' : SupplierImportRow, preview.rows[j]? = some r' →
      ∀ name ∈ r.name, ∀ name' ∈ r'.name, ¬same name' name) → r.write ≠ none

/-- A row updates a supplier only if it is the only live one with the name. -/
def NothingGuessed (live : List ImportSupplier) (preview : SupplierImportPreview) : Prop :=
  ∀ r ∈ preview.rows, r.status = .update → ∃ name s, r.name = some name ∧
    r.supplierId = some s.id ∧ withSupplierName js live name = [s]

/-- Another preview of the file, of the suppliers after the writes in any order, creates nothing. -/
def NothingTwice (live : LiveSuppliers) (ids : FreshIds live) (t : Text)
    (preview : SupplierImportPreview) : Prop :=
  ∀ after again,
    after.Perm (applyWrites ids.newId live.suppliers (applicableSupplierWrites preview)) →
    previewSupplierImport js t after = .ok again → ∀ r ∈ again.rows, r.status ≠ .create

/-- An import is lossless and idempotent: nothing is left out, nothing is guessed, and nothing is
created twice. When two names are the same supplier's is left open. -/
def LosslessAndIdempotent (same : Text → Text → Prop) (live : LiveSuppliers) (ids : FreshIds live)
    (t : Text) : Prop :=
  ∀ preview, previewSupplierImport js t live.suppliers = .ok preview →
    NothingLeftOut same preview ∧ NothingGuessed js live.suppliers preview ∧
      NothingTwice js live ids t preview

/-! ## What is asked of the names -/

/-- The rows of a file after its header, when the file is taken: it has a name column, and at least
one row and no more than the maximum. -/
def takenRows (t : Text) : Option (List Text × List (List Text)) :=
  match parseDelimited t with
  | headerRow :: row :: rows =>
      if (mapSupplierHeaders js headerRow).lookup .name = none then none
      else if importRowMax < (row :: rows).length then none
      else some (headerRow, row :: rows)
  | _ => none

/-- The name of a valid row, normalised. -/
def rowKey (headerRow row : List Text) : Option Text :=
  (readRow js headerRow row).toOption.map fun data => normName js data.name

/-- The normalised names of the valid rows of a file tell its suppliers: one that an earlier valid
row has comes after a row with the same supplier's name; no two live suppliers have it; and it is
not empty. -/
structure NamesTell (same : Text → Text → Prop) (live : List ImportSupplier) (headerRow : List Text)
    (rows : List (List Text)) : Prop where
  apart : ∀ (i : ℕ) (row : List Text) (key : Text), rows[i]? = some row →
    rowKey js headerRow row = some key →
    (∃ j < i, ∃ row' : List Text, rows[j]? = some row' ∧ rowKey js headerRow row' = some key) →
    ∃ j < i, ∃ row' : List Text, rows[j]? = some row' ∧ rowName js headerRow row' ≠ [] ∧
      same (rowName js headerRow row') (rowName js headerRow row)
  one : ∀ row ∈ rows, ∀ key, rowKey js headerRow row = some key → ∀ s ∈ live,
    normName js s.name = key → (live.filter fun s => normName js s.name = key) = [s]
  nonempty : ∀ row ∈ rows, rowKey js headerRow row ≠ some []

end Asked

/-! ## What a row is -/

section Rows

variable {js : Js}

variable (js) in
/-- What is saved under a name that is not empty once normalised: a live supplier with the name. -/
theorem getEntry_savedByName (existing : List ImportSupplier) (key : Text) :
    (∀ v, getEntry (savedByName js existing) key = some v →
      key ≠ [] ∧ ∃ s ∈ existing, v = some s.id ∧ normName js s.name = key) ∧
    (getEntry (savedByName js existing) key = none →
      ∀ s ∈ existing, normName js s.name = key → key = []) := by
  induction existing using List.reverseRecOn with
  | nil =>
      refine ⟨fun v hv => ?_, fun _ => List.forall_mem_nil _⟩
      cases hv
  | append_singleton existing s ih =>
      obtain ⟨hsome, hnone⟩ := ih
      rw [savedByName, List.foldl_concat, ← savedByName]
      simp only [List.mem_append, List.mem_singleton]
      by_cases hnil : normName js s.name = []
      · rw [if_pos hnil]
        refine ⟨fun v hv => ?_, fun h s' hs' hkey => ?_⟩
        · obtain ⟨hne, s', hs', heq⟩ := hsome v hv
          exact ⟨hne, s', Or.inl hs', heq⟩
        · rcases hs' with hs' | rfl
          · exact hnone h s' hs' hkey
          · exact hkey.symm.trans hnil
      · rw [if_neg hnil, getEntry_setEntry]
        by_cases hkey : key = normName js s.name
        · rw [if_pos hkey]
          refine ⟨fun v hv => ⟨hkey ▸ hnil, s, Or.inr rfl, ?_, hkey.symm⟩, fun hnone => ?_⟩
          · exact (Option.some.inj hv).symm
          · cases hnone
        · rw [if_neg hkey]
          refine ⟨fun v hv => ?_, fun h s' hs' heq => ?_⟩
          · obtain ⟨hne, s', hs', heq⟩ := hsome v hv
            exact ⟨hne, s', Or.inl hs', heq⟩
          · rcases hs' with hs' | rfl
            · exact hnone h s' hs' heq
            · exact absurd heq.symm hkey

variable (js) in
/-- A name is saved exactly when it is not empty and a live supplier has it. -/
theorem isSome_getEntry_savedByName (existing : List ImportSupplier) (key : Text) :
    (getEntry (savedByName js existing) key).isSome = true ↔
      key ≠ [] ∧ ∃ s ∈ existing, normName js s.name = key := by
  obtain ⟨hsome, hnone⟩ := getEntry_savedByName js existing key
  cases hget : getEntry (savedByName js existing) key with
  | some v =>
      obtain ⟨hne, s, hs, -, heq⟩ := hsome v hget
      exact iff_of_true rfl ⟨hne, s, hs, heq⟩
  | none =>
      refine iff_of_false Bool.false_ne_true ?_
      rintro ⟨hne, s, hs, heq⟩
      exact hne (hnone hget s hs heq)

variable (js) in
/-- The normalised names of the valid rows. -/
def rowKeys (headerRow : List Text) (rows : List (List Text)) : List Text :=
  rows.filterMap (rowKey js headerRow)

/-- The status of a valid row, by its normalised name and those of the rows before. -/
def statusOf (saved : List (Text × Option String)) (seen : List Text) (key : Text) :
    SupplierRowStatus :=
  if key ∈ seen then .repeated
  else if (getEntry saved key).isSome then .update
  else .create

variable (js) in
/-- What a row is, by the rows before it. -/
structure RowIs (saved : List (Text × Option String)) (headerRow : List Text)
    (before : List (List Text)) (row : List Text) (r : SupplierImportRow) : Prop where
  name : ∀ n, n ∈ r.name ↔ rowName js headerRow row = n ∧ n ≠ []
  invalid : rowKey js headerRow row = none → r.status = .invalid
  valid : ∀ key, rowKey js headerRow row = some key → ∃ data, r.data = some data ∧
    r.name = some data.name ∧ normName js data.name = key ∧
    r.status = statusOf saved (rowKeys js headerRow before) key ∧
    (key ∉ rowKeys js headerRow before → r.supplierId = (getEntry saved key).join)

/-- A row that cannot be read has no normalised name. -/
theorem rowKey_of_error {headerRow row : List Text} {note : Text}
    (h : readRow js headerRow row = .error note) : rowKey js headerRow row = none := by
  simp only [rowKey, h, Except.toOption, Option.map_none]

/-- A row that is read has the normalised name of its data. -/
theorem rowKey_of_ok {headerRow row : List Text} {data : SupplierWriteData}
    (h : readRow js headerRow row = .ok data) :
    rowKey js headerRow row = some (normName js data.name) := by
  simp only [rowKey, h, Except.toOption, Option.map_some]

/-- The normalised names with one more row. -/
theorem mem_rowKeys_append {headerRow row : List Text} {rows : List (List Text)} {key : Text} :
    key ∈ rowKeys js headerRow (rows ++ [row]) ↔
      key ∈ rowKeys js headerRow rows ∨ rowKey js headerRow row = some key := by
  rw [rowKeys, rowKeys, List.filterMap_append, List.mem_append]
  cases hkey : rowKey js headerRow row <;> simp [hkey, eq_comm]

variable (js) in
/-- What the loop has after some rows: a row for each, the names it has seen, and those that are
saved or were created. -/
structure LoopIs (saved : List (Text × Option String)) (headerRow : List Text)
    (rows : List (List Text)) (loop : SupplierLoop) : Prop where
  length : loop.out.length = rows.length
  rows_are : ∀ (i : ℕ) (row : List Text) (r : SupplierImportRow), rows[i]? = some row →
    loop.out[i]? = some r → RowIs js saved headerRow (rows.take i) row r
  seen : ∀ key, key ∈ loop.seenInFile ↔ key ∈ rowKeys js headerRow rows
  byName_seen : ∀ key ∈ rowKeys js headerRow rows, (getEntry loop.byName key).isSome = true
  byName_new : ∀ key ∉ rowKeys js headerRow rows, getEntry loop.byName key = getEntry saved key

section Step

variable {saved : List (Text × Option String)} {headerRow row : List Text}
  {rows : List (List Text)} {loop loop' : SupplierLoop} {r : SupplierImportRow}

/-- A row is pushed; its name is seen and found, and other names are found as before. -/
theorem LoopIs.push (h : LoopIs js saved headerRow rows loop) (hout : loop'.out = loop.out ++ [r])
    (hr : RowIs js saved headerRow rows row r)
    (hseen : ∀ key, key ∈ loop'.seenInFile ↔
      key ∈ loop.seenInFile ∨ rowKey js headerRow row = some key)
    (hfound : ∀ key, rowKey js headerRow row = some key →
      (getEntry loop'.byName key).isSome = true)
    (hother : ∀ key, rowKey js headerRow row ≠ some key →
      getEntry loop'.byName key = getEntry loop.byName key) :
    LoopIs js saved headerRow (rows ++ [row]) loop' where
  length := by rw [hout, List.length_append, List.length_append, h.length]; rfl
  rows_are i row' r' hrow hr' := by
    rw [hout] at hr'
    rcases lt_trichotomy i rows.length with hi | hi | hi
    · rw [List.getElem?_append_left hi] at hrow
      rw [List.getElem?_append_left (h.length.symm ▸ hi)] at hr'
      rw [List.take_append_of_le_length hi.le]
      exact h.rows_are i row' r' hrow hr'
    · subst hi
      rw [List.getElem?_concat_length, Option.some.injEq] at hrow
      rw [← h.length, List.getElem?_concat_length, Option.some.injEq] at hr'
      rw [List.take_left, ← hrow, ← hr']
      exact hr
    · rw [List.getElem?_eq_none (by rw [List.length_append, List.length_singleton]; omega)] at hrow
      cases hrow
  seen key := by rw [hseen, h.seen, mem_rowKeys_append]
  byName_seen key hkey := by
    by_cases hrow : rowKey js headerRow row = some key
    · exact hfound key hrow
    · rw [hother key hrow]
      exact h.byName_seen key ((mem_rowKeys_append.mp hkey).resolve_right hrow)
  byName_new key hkey := by
    rw [mem_rowKeys_append, not_or] at hkey
    rw [hother key hkey.2, h.byName_new key hkey.1]

/-- One row of the loop. -/
theorem loopIs_supplierStep (h : LoopIs js saved headerRow rows loop) :
    LoopIs js saved headerRow (rows ++ [row]) (supplierStep js headerRow loop row) := by
  unfold supplierStep
  cases hread : readRow js headerRow row with
  | error note =>
      have hkey := rowKey_of_error hread
      refine h.push rfl ⟨fun n => ?_, fun _ => rfl, by simp [hkey]⟩ (by simp [hkey])
        (by simp [hkey]) fun key _ => rfl
      by_cases hname : rowName js headerRow row = []
      · simp only [hname, if_true]
        exact iff_of_false (by simp) fun hn => hn.2 hn.1.symm
      · simp only [hname, if_false, Option.mem_def, Option.some.injEq]
        exact ⟨fun hn => ⟨hn, hn ▸ hname⟩, fun hn => hn.1⟩
  | ok data =>
      have hkey := rowKey_of_ok hread
      obtain ⟨hname, hne⟩ := readRow_name hread
      -- what the row is, but for its status
      have hvalid : ∀ {r : SupplierImportRow}, r.data = some data → r.name = some data.name →
          r.status = statusOf saved (rowKeys js headerRow rows) (normName js data.name) →
          (normName js data.name ∉ rowKeys js headerRow rows →
            r.supplierId = (getEntry saved (normName js data.name)).join) →
          RowIs js saved headerRow rows row r := by
        intro r hdata hrname hstatus hid
        refine ⟨fun n => ?_, by simp [hkey], fun key hk => ?_⟩
        · rw [hrname, Option.mem_def, Option.some.injEq, ← hname]
          exact ⟨fun hn => ⟨hn, hn ▸ hne⟩, fun hn => hn.1⟩
        · obtain rfl := Option.some.inj (hkey.symm.trans hk)
          exact ⟨data, hdata, hrname, rfl, hstatus, hid⟩
      have hseenCons : ∀ key, key ∈ normName js data.name :: loop.seenInFile ↔
          key ∈ loop.seenInFile ∨ rowKey js headerRow row = some key := by
        intro key
        rw [hkey, Option.some.injEq, List.mem_cons, or_comm, eq_comm]
      simp only
      cases hentry : getEntry loop.byName (normName js data.name) with
      | some supplierId =>
          have hfound : ∀ key, rowKey js headerRow row = some key →
              (getEntry loop.byName key).isSome = true := by
            intro key hk
            rw [← Option.some.inj (hkey.symm.trans hk), hentry]
            rfl
          simp only
          by_cases hseen : normName js data.name ∈ loop.seenInFile
          · -- the name is one of a row before
            have hmem := (h.seen _).mp hseen
            rw [if_pos hseen]
            refine h.push rfl (hvalid rfl rfl ?_ fun hnew => absurd hmem hnew) (fun key => ?_) hfound
              fun key _ => rfl
            · rw [statusOf, if_pos hmem]
            · rw [hkey, Option.some.injEq]
              exact ⟨Or.inl, fun hor => hor.elim id fun heq => heq ▸ hseen⟩
          · -- the name is one that is saved
            have hmem : normName js data.name ∉ rowKeys js headerRow rows := fun hin =>
              hseen ((h.seen _).mpr hin)
            have hsaved := (h.byName_new _ hmem).symm.trans hentry
            rw [if_neg hseen]
            refine h.push rfl (hvalid rfl rfl ?_ fun _ => ?_) hseenCons hfound fun key _ => rfl
            · rw [statusOf, if_neg hmem, hsaved]
              rfl
            · rw [hsaved]
              rfl
      | none =>
          -- the name is new, for those that are seen are found
          have hmem : normName js data.name ∉ rowKeys js headerRow rows := by
            intro hin
            have hsome := h.byName_seen _ hin
            rw [hentry] at hsome
            cases hsome
          have hsaved := (h.byName_new _ hmem).symm.trans hentry
          refine h.push rfl (hvalid rfl rfl ?_ fun _ => ?_) hseenCons (fun key hk => ?_)
            fun key hk => ?_
          · rw [statusOf, if_neg hmem, hsaved]
            rfl
          · rw [hsaved]
            rfl
          · rw [getEntry_setEntry, ← Option.some.inj (hkey.symm.trans hk), if_pos rfl]
            rfl
          · rw [getEntry_setEntry, if_neg fun heq : key = normName js data.name => hk (heq ▸ hkey)]

variable (js) in
/-- The whole loop. -/
theorem loopIs_supplierLoop (existing : List ImportSupplier) (headerRow : List Text)
    (rows : List (List Text)) :
    LoopIs js (savedByName js existing) headerRow rows
      (supplierLoop js existing headerRow rows) := by
  induction rows using List.reverseRecOn with
  | nil => exact ⟨rfl, by simp, fun key => Iff.rfl, nofun, fun _ _ => rfl⟩
  | append_singleton rows row ih =>
      rw [supplierLoop, List.foldl_concat]
      exact loopIs_supplierStep ih

end Step

/-- A preview is made of the rows that are taken. -/
theorem previewSupplierImport_eq_ok {t : Text} {existing : List ImportSupplier}
    {preview : SupplierImportPreview} :
    previewSupplierImport js t existing = .ok preview ↔
      ∃ headerRow rows, takenRows js t = some (headerRow, rows) ∧
        preview = ⟨(supplierLoop js existing headerRow rows).out,
          (supplierLoop js existing headerRow rows).summary⟩ := by
  rw [previewSupplierImport, takenRows]
  split
  · rename_i headerRow row rows hparse
    by_cases hname : (mapSupplierHeaders js headerRow).lookup .name = none
    · rw [if_pos hname, if_pos hname]
      exact iff_of_false nofun nofun
    · by_cases hmax : importRowMax < (row :: rows).length
      · rw [if_neg hname, if_neg hname, if_pos hmax, if_pos hmax]
        exact iff_of_false nofun nofun
      · rw [if_neg hname, if_neg hname, if_neg hmax, if_neg hmax]
        constructor
        · intro h
          exact ⟨headerRow, row :: rows, rfl, (Except.ok.inj h).symm⟩
        · rintro ⟨_, _, h, rfl⟩
          obtain ⟨rfl, rfl⟩ := Prod.mk.inj (Option.some.inj h)
          rfl
  · exact iff_of_false nofun nofun

/-- A file that is taken is previewed, whichever suppliers are live. -/
theorem previewSupplierImport_of_taken {t : Text} {headerRow : List Text} {rows : List (List Text)}
    (h : takenRows js t = some (headerRow, rows)) (existing : List ImportSupplier) :
    previewSupplierImport js t existing = .ok ⟨(supplierLoop js existing headerRow rows).out,
      (supplierLoop js existing headerRow rows).summary⟩ :=
  previewSupplierImport_eq_ok.mpr ⟨headerRow, rows, h, rfl⟩

/-! ## What a preview has -/

section Taken

variable {headerRow : List Text} {rows : List (List Text)} {existing : List ImportSupplier}

/-- The first valid row with a name: no row before it has the name. -/
theorem exists_first {key : Text} (h : key ∈ rowKeys js headerRow rows) :
    ∃ (i : ℕ) (row : List Text), rows[i]? = some row ∧ rowKey js headerRow row = some key ∧
      key ∉ rowKeys js headerRow (rows.take i) := by
  induction rows using List.reverseRecOn with
  | nil => exact absurd h List.not_mem_nil
  | append_singleton rows row ih =>
      by_cases hbefore : key ∈ rowKeys js headerRow rows
      · obtain ⟨i, row', hrow', hkey, hnew⟩ := ih hbefore
        have hi : i < rows.length := (List.getElem?_eq_some_iff.mp hrow').1
        refine ⟨i, row', ?_, hkey, ?_⟩
        · rw [List.getElem?_append_left hi, hrow']
        · rwa [List.take_append_of_le_length hi.le]
      · refine ⟨rows.length, row, List.getElem?_concat_length, ?_, ?_⟩
        · exact (mem_rowKeys_append.mp h).resolve_left hbefore
        · rwa [List.take_left]

/-- A name that is among the first ones is that of a row before. -/
theorem mem_rowKeys_take {key : Text} {i : ℕ} :
    key ∈ rowKeys js headerRow (rows.take i) ↔
      ∃ j < i, ∃ row : List Text, rows[j]? = some row ∧ rowKey js headerRow row = some key := by
  rw [rowKeys, List.mem_filterMap]
  constructor
  · rintro ⟨row, hmem, hkey⟩
    obtain ⟨j, hj⟩ := List.mem_iff_getElem?.mp hmem
    rw [List.getElem?_take] at hj
    split_ifs at hj with hlt
    exact ⟨j, hlt, row, hj, hkey⟩
  · rintro ⟨j, hj, row, hrow, hkey⟩
    refine ⟨row, List.mem_iff_getElem?.mpr ⟨j, ?_⟩, hkey⟩
    rw [List.getElem?_take, if_pos hj, hrow]

variable (js existing) in
/-- Each row of the file has its row of the preview. -/
theorem exists_rowIs (i : ℕ) {row : List Text} (hrow : rows[i]? = some row) :
    ∃ r, (supplierLoop js existing headerRow rows).out[i]? = some r ∧
      RowIs js (savedByName js existing) headerRow (rows.take i) row r := by
  have hloop := loopIs_supplierLoop js existing headerRow rows
  have hi : i < (supplierLoop js existing headerRow rows).out.length := by
    rw [hloop.length]
    exact (List.getElem?_eq_some_iff.mp hrow).1
  exact ⟨_, List.getElem?_eq_getElem hi, hloop.rows_are i row _ hrow (List.getElem?_eq_getElem hi)⟩

/-- Each row of the preview is that of a row of the file. -/
theorem rowIs_of_getElem? (i : ℕ) {r : SupplierImportRow}
    (hr : (supplierLoop js existing headerRow rows).out[i]? = some r) :
    ∃ row, rows[i]? = some row ∧
      RowIs js (savedByName js existing) headerRow (rows.take i) row r := by
  have hloop := loopIs_supplierLoop js existing headerRow rows
  have hi : i < rows.length := by
    rw [← hloop.length]
    exact (List.getElem?_eq_some_iff.mp hr).1
  exact ⟨_, List.getElem?_eq_getElem hi, hloop.rows_are i _ r (List.getElem?_eq_getElem hi) hr⟩

end Taken

/-! ## The suppliers after the writes -/

variable {live : LiveSuppliers}

variable (js) in
/-- A write keeps to its supplier: an update goes to a live one that has the name already. -/
def Fits (live : LiveSuppliers) : SupplierWrite → Prop
  | .create _ => True
  | .update supplierId data =>
      ∃ s ∈ live.suppliers, s.id = supplierId ∧ normName js s.name = normName js data.name

variable (js) in
/-- What the suppliers are after some writes: the live ones, with the names they had but for what is
not compared, and those that were created. -/
structure AppliedIs (live : LiveSuppliers) (ids : FreshIds live) (ws : List SupplierWrite)
    (after : List ImportSupplier) : Prop where
  known : ∀ s ∈ after, (∃ s₀ ∈ live.suppliers, s₀.id = s.id ∧
    normName js s₀.name = normName js s.name) ∨ ∃ i, s.id = ids.newId i
  names : ∀ key, (∃ s ∈ after, normName js s.name = key) ↔
    (∃ s ∈ live.suppliers, normName js s.name = key) ∨
      ∃ data, .create data ∈ ws ∧ normName js data.name = key

/-- One write. -/
theorem AppliedIs.applyWrite {ids : FreshIds live} {ws : List SupplierWrite}
    {after : List ImportSupplier} {w : SupplierWrite} (h : AppliedIs js live ids ws after)
    (hw : Fits js live w) (i : ℕ) :
    AppliedIs js live ids (ws ++ [w]) (applyWrite ids.newId after (w, i)) := by
  cases w with
  | create data =>
      refine ⟨?_, fun key => ?_⟩
      · refine List.forall_mem_append.mpr ⟨h.known, List.forall_mem_singleton.mpr ?_⟩
        exact Or.inr ⟨i, rfl⟩
      · simp only [Imports.applyWrite, List.mem_append, or_and_right, exists_or, h.names,
          List.mem_singleton, SupplierWrite.create.injEq, exists_eq_left, or_assoc]
  | update supplierId data =>
      obtain ⟨s₀, hs₀, rfl, hname⟩ := hw
      -- the one supplier of the id has the name already
      have hsame : ∀ s ∈ after, normName js
          (if s.id = s₀.id then { s with name := data.name } else s).name = normName js s.name := by
        intro s hs
        by_cases hid : s.id = s₀.id
        · rw [if_pos hid]
          rcases h.known s hs with ⟨s₁, hs₁, hid₁, hname₁⟩ | ⟨j, hj⟩
          · have heq : s₁ = s₀ := List.inj_on_of_nodup_map live.nodup hs₁ hs₀ (hid₁.trans hid)
            rw [← hname₁, heq, hname]
          · exact absurd (hid.symm.trans hj) (ids.fresh j s₀ hs₀)
        · rw [if_neg hid]
      have hid : ∀ s : ImportSupplier,
          (if s.id = s₀.id then { s with name := data.name } else s).id = s.id := by
        intro s
        split <;> rfl
      refine ⟨?_, fun key => ?_⟩
      · intro s hs
        obtain ⟨s', hs', rfl⟩ := List.mem_map.mp hs
        rw [hid, hsame s' hs']
        exact h.known s' hs'
      · have hcreate : ∀ d, .create d ∈ ws ++ [SupplierWrite.update s₀.id data] ↔
            .create d ∈ ws := by simp
        simp only [hcreate, ← h.names, Imports.applyWrite, List.mem_map, exists_exists_and_eq_and]
        exact exists_congr fun s => and_congr_right fun hs => by rw [hsame s hs]

variable (js) in
/-- All writes. -/
theorem appliedIs_applyWrites (ids : FreshIds live) {ws : List SupplierWrite}
    (h : ∀ w ∈ ws, Fits js live w) :
    AppliedIs js live ids ws (applyWrites ids.newId live.suppliers ws) := by
  rw [applyWrites]
  induction ws using List.reverseRecOn with
  | nil =>
      refine ⟨fun s hs => Or.inl ⟨s, hs, rfl, rfl⟩, fun key => ?_⟩
      simp
  | append_singleton ws w ih =>
      rw [List.forall_mem_append, List.forall_mem_singleton] at h
      rw [List.zipIdx_append, List.foldl_append]
      exact (ih h.1).applyWrite h.2 _

/-! ## What is written of a row -/

section Kept

variable {headerRow : List Text} {rows before : List (List Text)} {row : List Text}
  {r : SupplierImportRow} {key : Text}

/-- The supplier that a row updates is one with its name. -/
theorem RowIs.updates (h : RowIs js (savedByName js live.suppliers) headerRow before row r)
    (hstatus : r.status = .update) :
    ∃ data, r.data = some data ∧ r.name = some data.name ∧
      rowKey js headerRow row = some (normName js data.name) ∧
      normName js data.name ∉ rowKeys js headerRow before ∧
      ∃ s ∈ live.suppliers, r.supplierId = some s.id ∧ normName js s.name = normName js data.name := by
  cases hkey : rowKey js headerRow row with
  | none =>
      rw [h.invalid hkey] at hstatus
      cases hstatus
  | some key =>
      obtain ⟨data, hdata, hname, rfl, hrow, hid⟩ := h.valid key hkey
      rw [hstatus, statusOf] at hrow
      by_cases hseen : normName js data.name ∈ rowKeys js headerRow before
      · rw [if_pos hseen] at hrow
        cases hrow
      · rw [if_neg hseen] at hrow
        by_cases hsaved :
            (getEntry (savedByName js live.suppliers) (normName js data.name)).isSome = true
        · obtain ⟨v, hv⟩ := Option.isSome_iff_exists.mp hsaved
          obtain ⟨-, s, hs, rfl, hsname⟩ := (getEntry_savedByName js live.suppliers _).1 v hv
          refine ⟨data, hdata, hname, rfl, hseen, s, hs, ?_, hsname⟩
          rw [hid hseen, hv]
          rfl
        · rw [if_neg hsaved] at hrow
          cases hrow

/-- A valid row is written exactly when no valid row before it has its name. -/
theorem RowIs.write_ne_none_iff
    (h : RowIs js (savedByName js live.suppliers) headerRow before row r)
    (hkey : rowKey js headerRow row = some key) :
    r.write ≠ none ↔ key ∉ rowKeys js headerRow before := by
  obtain ⟨data, hdata, -, -, hstatus, -⟩ := h.valid key hkey
  by_cases hseen : key ∈ rowKeys js headerRow before
  · rw [statusOf, if_pos hseen] at hstatus
    refine iff_of_false (fun hw => hw ?_) (not_not_intro hseen)
    simp [SupplierImportRow.write, hdata, hstatus]
  · refine iff_of_true ?_ hseen
    rw [statusOf, if_neg hseen] at hstatus
    split at hstatus
    · obtain ⟨-, -, -, -, -, s, hs, hid, -⟩ := h.updates hstatus
      simp [SupplierImportRow.write, hdata, hstatus, hid, live.id_ne s hs]
    · simp [SupplierImportRow.write, hdata, hstatus]

/-- A valid row is created exactly when no valid row before it and no live supplier has its name, an
empty name being no supplier's. -/
theorem RowIs.create_iff {existing : List ImportSupplier}
    (h : RowIs js (savedByName js existing) headerRow before row r)
    (hkey : rowKey js headerRow row = some key) :
    r.status = .create ↔ key ∉ rowKeys js headerRow before ∧
      (key = [] ∨ ∀ s ∈ existing, normName js s.name ≠ key) := by
  obtain ⟨data, -, -, -, hstatus, -⟩ := h.valid key hkey
  rw [hstatus, statusOf]
  by_cases hseen : key ∈ rowKeys js headerRow before
  · rw [if_pos hseen]
    exact iff_of_false nofun fun hcreate => hcreate.1 hseen
  · rw [if_neg hseen]
    have hsaved := isSome_getEntry_savedByName js existing key
    by_cases hsome : (getEntry (savedByName js existing) key).isSome = true
    · obtain ⟨hne, s, hs, hname⟩ := hsaved.mp hsome
      rw [if_pos hsome]
      exact iff_of_false nofun fun hcreate => hcreate.2.elim hne fun hnone => hnone s hs hname
    · rw [if_neg hsome]
      refine iff_of_true rfl ⟨hseen, ?_⟩
      by_contra hcon
      rw [not_or] at hcon
      push Not at hcon
      exact hsome (hsaved.mpr hcon)

/-- A row is valid when its status is not that it is invalid. -/
theorem RowIs.exists_key {existing : List ImportSupplier}
    (h : RowIs js (savedByName js existing) headerRow before row r) (hstatus : r.status ≠ .invalid) :
    ∃ key, rowKey js headerRow row = some key :=
  Option.ne_none_iff_exists'.mp fun hnone => hstatus (h.invalid hnone)

end Kept

/-! ## When an import keeps its promises -/

section Promises

variable {headerRow : List Text} {rows : List (List Text)} {summary : SupplierImportSummary}

/-- Nothing is left out exactly when a name that comes again comes after a row with the same
supplier's name. -/
theorem nothingLeftOut_iff (same : Text → Text → Prop) :
    NothingLeftOut same ⟨(supplierLoop js live.suppliers headerRow rows).out, summary⟩ ↔
      ∀ (i : ℕ) (row : List Text) (key : Text), rows[i]? = some row →
        rowKey js headerRow row = some key →
        (∃ j < i, ∃ row' : List Text, rows[j]? = some row' ∧
          rowKey js headerRow row' = some key) →
        ∃ j < i, ∃ row' : List Text, rows[j]? = some row' ∧ rowName js headerRow row' ≠ [] ∧
          same (rowName js headerRow row') (rowName js headerRow row) := by
  constructor
  · intro h i row key hrow hkey hbefore
    obtain ⟨r, hr, his⟩ := exists_rowIs js live.suppliers i hrow
    have hnone : r.write = none := by
      by_contra hwrite
      exact (his.write_ne_none_iff hkey).mp hwrite (mem_rowKeys_take.mpr hbefore)
    obtain ⟨data, -, hname, -, hstatus, -⟩ := his.valid key hkey
    have hvalid : r.status ≠ .invalid := by
      rw [hstatus, statusOf, if_pos (mem_rowKeys_take.mpr hbefore)]
      nofun
    -- were no row before of the same name, the row would be written
    by_contra hcon
    refine h i r hr hvalid (fun j hj r' hr' name hn name' hn' hsame => ?_) hnone
    obtain ⟨row', hrow', his'⟩ := rowIs_of_getElem? j hr'
    obtain ⟨rfl, -⟩ := (his.name name).mp hn
    obtain ⟨rfl, hne⟩ := (his'.name name').mp hn'
    exact hcon ⟨j, hj, row', hrow', hne, hsame⟩
  · intro h i r hr hvalid hdiffer
    obtain ⟨row, hrow, his⟩ := rowIs_of_getElem? i hr
    obtain ⟨key, hkey⟩ := his.exists_key hvalid
    refine (his.write_ne_none_iff hkey).mpr fun hbefore => ?_
    obtain ⟨j, hj, row', hrow', hne, hsame⟩ := h i row key hrow hkey (mem_rowKeys_take.mp hbefore)
    obtain ⟨r', hr', his'⟩ := exists_rowIs js live.suppliers j hrow'
    obtain ⟨data, -, hname, -, -, -⟩ := his.valid key hkey
    have hmem : data.name ∈ r.name := hname
    obtain ⟨hrowName, -⟩ := (his.name data.name).mp hmem
    exact hdiffer j hj r' hr' data.name hmem _ ((his'.name _).mpr ⟨rfl, hne⟩) (hrowName ▸ hsame)

/-- Nothing is guessed when no two live suppliers have the name of a valid row. -/
theorem nothingGuessed_of_one
    (h : ∀ row ∈ rows, ∀ key, rowKey js headerRow row = some key → ∀ s ∈ live.suppliers,
      normName js s.name = key → (live.suppliers.filter fun s => normName js s.name = key) = [s]) :
    NothingGuessed js live.suppliers
      ⟨(supplierLoop js live.suppliers headerRow rows).out, summary⟩ := by
  intro r hr hstatus
  obtain ⟨i, hi⟩ := List.mem_iff_getElem?.mp hr
  obtain ⟨row, hrow, his⟩ := rowIs_of_getElem? i hi
  obtain ⟨data, -, hname, hkey, -, s, hs, hid, hsame⟩ := his.updates hstatus
  exact ⟨data.name, s, hname, hid, h row (List.mem_of_getElem? hrow) _ hkey s hs hsame⟩

/-- A name that is not empty and that several live suppliers have is guessed. -/
theorem one_of_nothingGuessed
    (h : NothingGuessed js live.suppliers
      ⟨(supplierLoop js live.suppliers headerRow rows).out, summary⟩)
    {key : Text} (hkey : key ∈ rowKeys js headerRow rows) (hne : key ≠ []) {s : ImportSupplier}
    (hs : s ∈ live.suppliers) (hname : normName js s.name = key) :
    (live.suppliers.filter fun s => normName js s.name = key) = [s] := by
  -- the first row with the name updates one of the suppliers
  obtain ⟨i, row, hrow, hrowKey, hnew⟩ := exists_first hkey
  obtain ⟨r, hr, his⟩ := exists_rowIs js live.suppliers i hrow
  obtain ⟨data, -, hrname, hdata, hstatus, -⟩ := his.valid key hrowKey
  rw [statusOf, if_neg hnew, if_pos ((isSome_getEntry_savedByName js _ _).mpr ⟨hne, s, hs, hname⟩)] at hstatus
  obtain ⟨name, s', hrname', -, hone⟩ := h r (List.mem_of_getElem? hr) hstatus
  obtain rfl := Option.some.inj (hrname.symm.trans hrname')
  rw [withSupplierName, hdata] at hone
  have hmem : s ∈ live.suppliers.filter fun s => normName js s.name = key :=
    List.mem_filter.mpr ⟨hs, decide_eq_true hname⟩
  rw [hone, List.mem_singleton] at hmem
  rw [hone, hmem]

/-- The writes of a preview keep to their suppliers. -/
theorem fits_of_mem_writes {w : SupplierWrite}
    (hw : w ∈ applicableSupplierWrites
      ⟨(supplierLoop js live.suppliers headerRow rows).out, summary⟩) : Fits js live w := by
  obtain ⟨r, hr, hwrite⟩ := List.mem_filterMap.mp hw
  obtain ⟨i, hi⟩ := List.mem_iff_getElem?.mp hr
  obtain ⟨row, -, his⟩ := rowIs_of_getElem? i hi
  rw [SupplierImportRow.write] at hwrite
  split at hwrite
  · obtain rfl := Option.some.inj hwrite
    trivial
  · rename_i data supplierId hdata hstatus hid
    split_ifs at hwrite
    obtain rfl := Option.some.inj hwrite
    obtain ⟨data', hdata', -, -, -, s, hs, hsid, hname⟩ := his.updates hstatus
    obtain rfl := Option.some.inj (hdata.symm.trans hdata')
    exact ⟨s, hs, Option.some.inj (hsid.symm.trans hid), hname⟩
  · cases hwrite

/-- After the writes, a name that is not empty and that a valid row has is a live supplier's. -/
theorem exists_supplier_after (summary : SupplierImportSummary) (ids : FreshIds live) {key : Text}
    (hkey : key ∈ rowKeys js headerRow rows) :
    ∃ s ∈ applyWrites ids.newId live.suppliers (applicableSupplierWrites
      ⟨(supplierLoop js live.suppliers headerRow rows).out, summary⟩), normName js s.name = key := by
  rw [(appliedIs_applyWrites js ids fun w hw => fits_of_mem_writes hw).names]
  -- the first row with the name creates its supplier, unless there is one already
  obtain ⟨i, row, hrow, hrowKey, hnew⟩ := exists_first hkey
  obtain ⟨r, hr, his⟩ := exists_rowIs js live.suppliers i hrow
  obtain ⟨data, hdata, -, hname, -, -⟩ := his.valid key hrowKey
  by_cases hcreate : r.status = .create
  · refine Or.inr ⟨data, List.mem_filterMap.mpr ⟨r, List.mem_of_getElem? hr, ?_⟩, hname⟩
    simp [SupplierImportRow.write, hdata, hcreate]
  · rw [his.create_iff hrowKey, not_and, not_or] at hcreate
    obtain ⟨-, hsome⟩ := hcreate hnew
    push Not at hsome
    exact Or.inl hsome

/-- Nothing is created twice exactly when no valid row has an empty name once normalised. -/
theorem nothingTwice_iff (ids : FreshIds live) {t : Text}
    (htaken : takenRows js t = some (headerRow, rows)) :
    NothingTwice js live ids t ⟨(supplierLoop js live.suppliers headerRow rows).out, summary⟩ ↔
      ∀ row ∈ rows, rowKey js headerRow row ≠ some [] := by
  constructor
  · intro h row hrow hkey
    -- the first row with an empty name is created again
    have hmem : ([] : Text) ∈ rowKeys js headerRow rows := List.mem_filterMap.mpr ⟨row, hrow, hkey⟩
    obtain ⟨i, row', hrow', hkey', hnew⟩ := exists_first hmem
    set after := applyWrites ids.newId live.suppliers (applicableSupplierWrites
      ⟨(supplierLoop js live.suppliers headerRow rows).out, summary⟩) with hafter
    obtain ⟨r, hr, his⟩ := exists_rowIs js after i hrow'
    exact h after _ (List.Perm.refl _) (previewSupplierImport_of_taken htaken after) r (List.mem_of_getElem? hr)
      ((his.create_iff hkey').mpr ⟨hnew, Or.inl rfl⟩)
  · intro h after again hperm hagain r hr hcreate
    obtain ⟨headerRow', rows', htaken', rfl⟩ := previewSupplierImport_eq_ok.mp hagain
    obtain ⟨rfl, rfl⟩ := Prod.mk.inj (Option.some.inj (htaken'.symm.trans htaken))
    obtain ⟨i, hi⟩ := List.mem_iff_getElem?.mp hr
    obtain ⟨row, hrow, his⟩ := rowIs_of_getElem? i hi
    obtain ⟨key, hkey⟩ := his.exists_key (by rw [hcreate]; nofun)
    obtain ⟨-, hnil | hnone⟩ := (his.create_iff hkey).mp hcreate
    · exact h row (List.mem_of_getElem? hrow) (hnil ▸ hkey)
    · have hmem : key ∈ rowKeys js headerRow' rows' :=
        List.mem_filterMap.mpr ⟨row, List.mem_of_getElem? hrow, hkey⟩
      obtain ⟨s, hs, hname⟩ := exists_supplier_after summary ids hmem
      exact hnone s (hperm.mem_iff.mpr hs) hname

end Promises

end Rows

/-- An import is lossless and idempotent exactly when its file is not taken, or the normalised names
of its valid rows tell the suppliers. -/
theorem losslessAndIdempotent_iff (js : Js) (same : Text → Text → Prop) (live : LiveSuppliers)
    (ids : FreshIds live) (t : Text) :
    LosslessAndIdempotent js same live ids t ↔
      ∀ headerRow rows, takenRows js t = some (headerRow, rows) →
        NamesTell js same live.suppliers headerRow rows := by
  constructor
  · intro h headerRow rows htaken
    obtain ⟨hout, hguess, htwice⟩ :=
      h _ (previewSupplierImport_of_taken htaken live.suppliers)
    have hnonempty := (nothingTwice_iff ids htaken).mp htwice
    refine ⟨(nothingLeftOut_iff same).mp hout, fun row hrow key hkey s hs hname => ?_, hnonempty⟩
    exact one_of_nothingGuessed hguess (List.mem_filterMap.mpr ⟨row, hrow, hkey⟩)
      (fun hnil => hnonempty row hrow (hnil ▸ hkey)) hs hname
  · intro h preview hpreview
    obtain ⟨headerRow, rows, htaken, rfl⟩ := previewSupplierImport_eq_ok.mp hpreview
    obtain ⟨hapart, hone, hnonempty⟩ := h headerRow rows htaken
    exact ⟨(nothingLeftOut_iff same).mpr hapart, nothingGuessed_of_one hone,
      (nothingTwice_iff ids htaken).mpr hnonempty⟩

/-- No supplier is live, and any id is new. -/
def noSuppliers : LiveSuppliers := ⟨[], by decide, by decide⟩

/-- Whichever names are the same supplier's, a supplier whose name has none of the letters a to z is
created again by the next import of its file. -/
theorem not_losslessAndIdempotent :
    ¬∃ same : Text → Text → Prop, LosslessAndIdempotent Js.ascii same noSuppliers
      ⟨fun _ => "new", nofun⟩ (text "Name\n北京") := by
  rintro ⟨same, h⟩
  have htaken : takenRows Js.ascii (text "Name\n北京") = some ([text "Name"], [[text "北京"]]) := by
    decide +kernel
  have hkey : rowKey Js.ascii [text "Name"] [text "北京"] = some [] := by
    decide +kernel
  have htwice := (h _ (previewSupplierImport_of_taken htaken [])).2.2
  exact (nothingTwice_iff _ htaken).mp htwice _ (List.mem_singleton_self _) hkey

end Restock.Imports
