import Restock.Utf16.Scalars

/-!
# Forms in addresses

Names and values as the query of an address spells them: the bytes of a text in UTF-8, a plus for a
space, a percent sign and two digits for most others, an equals sign after each name and an
ampersand between entries.

* `encodeText`, `decodeText` — a text, and what is read of it;
* `serialize`, `parse` — the entries of a form;
* `decodeText_encodeText`, `parse_serialize` — entries come back with their texts repaired.
-/

namespace Forms

open Json (Text unit)
open Utf16 (ofScalars repair scalars)

/-! ## Bytes -/

/-- A letter, a digit, or one of `*`, `-`, `.` and `_`, which stand for themselves. -/
def isPlain (b : ℕ) : Bool :=
  (0x30 ≤ b && b ≤ 0x39) || (0x41 ≤ b && b ≤ 0x5A) || (0x61 ≤ b && b ≤ 0x7A) ||
    b ∈ [0x2A, 0x2D, 0x2E, 0x5F]

/-- A digit of base sixteen, in upper case. -/
def hexDigit (n : ℕ) : ℕ := if n < 10 then 0x30 + n else 0x37 + n

/-- What a digit of base sixteen comes to, in either case. -/
def hexValue (b : ℕ) : Option ℕ :=
  if 0x30 ≤ b ∧ b ≤ 0x39 then some (b - 0x30)
  else if 0x41 ≤ b ∧ b ≤ 0x46 then some (b - 0x37)
  else if 0x61 ≤ b ∧ b ≤ 0x66 then some (b - 0x57)
  else none

/-- A byte of a text in a form. -/
def encodeByte (b : ℕ) : List ℕ :=
  if b = 0x20 then [0x2B]
  else if isPlain b then [b]
  else [0x25, hexDigit (b / 16), hexDigit (b % 16)]

/-- Pluses stand for spaces. -/
def plusToSpace (bs : List ℕ) : List ℕ := bs.map fun b => if b = 0x2B then 0x20 else b

/-- A percent sign and two digits stand for a byte; other percent signs stand for themselves. -/
def percentDecode : List ℕ → List ℕ
  | [] => []
  | [b] => [b]
  | [b, c] => [b, c]
  | b :: c :: d :: bs =>
      if b = 0x25 then
        match hexValue c, hexValue d with
        | some high, some low => (16 * high + low) :: percentDecode bs
        | _, _ => b :: percentDecode (c :: d :: bs)
      else b :: percentDecode (c :: d :: bs)

/-- A text in a form. -/
def encodeText (t : Text) : List ℕ := (Utf8.encode (scalars t)).flatMap encodeByte

/-- The text that is read in a form. -/
def decodeText (bs : List ℕ) : Text := ofScalars (Utf8.decode (percentDecode (plusToSpace bs)))

/-! ## Entries -/

/-- An entry: its name, an equals sign and its value. -/
def encodeEntry (entry : Text × Text) : List ℕ :=
  encodeText entry.1 ++ 0x3D :: encodeText entry.2

/-- The name up to the first equals sign, and the value after it. -/
def decodeEntry (bs : List ℕ) : Text × Text :=
  (decodeText (bs.takeWhile (· ≠ 0x3D)), decodeText ((bs.dropWhile (· ≠ 0x3D)).drop 1))

/-- `toString` of a `URLSearchParams`. -/
def serialize (entries : List (Text × Text)) : Text :=
  ([0x26].intercalate (entries.map encodeEntry)).map Nat.toUInt16

/-- The text without a question mark at its start. -/
def dropQuestionMark : Text → Text
  | [] => []
  | u :: t => if u = unit '?' then t else u :: t

/-- The entries of a `URLSearchParams` of a text. -/
def parse (t : Text) : List (Text × Text) :=
  (((Utf8.encode (scalars (dropQuestionMark t))).splitOn 0x26).filter
    fun bs => !bs.isEmpty).map decodeEntry

/-! ## What is read back -/

/-- Digits are read back. -/
theorem hexValue_hexDigit : ∀ n < 16, hexValue (hexDigit n) = some n := by decide

/-- Digits are letters and digits. -/
theorem isPlain_hexDigit : ∀ n < 16, isPlain (hexDigit n) = true := by decide

/-- What stands for itself is no sign of the form. -/
theorem ne_of_isPlain {b : ℕ} (h : isPlain b = true) :
    b < 0x80 ∧ b ≠ 0x25 ∧ b ≠ 0x26 ∧ b ≠ 0x2B ∧ b ≠ 0x3D ∧ b ≠ 0x3F := by
  simp [isPlain] at h
  omega

/-- A byte that is no percent sign stands for itself. -/
theorem percentDecode_cons {b : ℕ} (h : b ≠ 0x25) (bs : List ℕ) :
    percentDecode (b :: bs) = b :: percentDecode bs := by
  match bs with
  | [] => rfl
  | [c] => rfl
  | c :: d :: bs => rw [percentDecode, if_neg h]

/-- The bytes of a byte stand for it, whatever follows. -/
theorem percentDecode_encodeByte {b : ℕ} (hb : b < 256) (bs : List ℕ) :
    percentDecode (plusToSpace (encodeByte b ++ bs)) = b :: percentDecode (plusToSpace bs) := by
  rw [encodeByte]
  split
  · next hspace =>
      subst hspace
      exact percentDecode_cons (by decide) _
  · split
    · next hplain =>
        obtain ⟨-, hpercent, -, hplus, -⟩ := ne_of_isPlain hplain
        rw [plusToSpace, List.cons_append, List.map_cons, if_neg hplus]
        exact percentDecode_cons hpercent _
    · -- the digits are no pluses
      have hhigh := ne_of_isPlain (isPlain_hexDigit (b / 16) (by omega))
      have hlow := ne_of_isPlain (isPlain_hexDigit (b % 16) (by omega))
      simp only [plusToSpace, List.cons_append, List.nil_append, List.map_cons]
      rw [if_neg hhigh.2.2.2.1, if_neg hlow.2.2.2.1, if_neg (by decide), percentDecode,
        if_pos rfl, hexValue_hexDigit _ (by omega), hexValue_hexDigit _ (by omega)]
      dsimp only
      congr 1
      omega

/-- The bytes of bytes stand for them. -/
theorem percentDecode_encodeBytes {bs : List ℕ} (h : ∀ b ∈ bs, b < 256) :
    percentDecode (plusToSpace (bs.flatMap encodeByte)) = bs := by
  induction bs with
  | nil => rfl
  | cons b bs ih =>
      rw [List.forall_mem_cons] at h
      rw [List.flatMap_cons, percentDecode_encodeByte h.1, ih h.2]

/-- A text in a form is read back repaired. -/
theorem decodeText_encodeText (t : Text) : decodeText (encodeText t) = repair t := by
  have hscalars := Utf16.isScalar_of_mem_scalars t
  rw [decodeText, encodeText,
    percentDecode_encodeBytes fun b hb => Utf8.lt_of_mem_encode hscalars hb,
    Utf8.decode_encode hscalars, Utf16.ofScalars_scalars]

/-- A text in a form has no sign of the form. -/
theorem ne_of_mem_encodeText {t : Text} {b : ℕ} (hb : b ∈ encodeText t) :
    b < 0x80 ∧ b ≠ 0x26 ∧ b ≠ 0x3D ∧ b ≠ 0x3F := by
  obtain ⟨c, hc, hb⟩ := List.mem_flatMap.mp hb
  have hlt := Utf8.lt_of_mem_encode (Utf16.isScalar_of_mem_scalars t) hc
  have hplain : ∀ b, isPlain b = true → b < 0x80 ∧ b ≠ 0x26 ∧ b ≠ 0x3D ∧ b ≠ 0x3F := by
    intro b hplain
    obtain ⟨hascii, -, hamp, -, heq, hquestion⟩ := ne_of_isPlain hplain
    exact ⟨hascii, hamp, heq, hquestion⟩
  rw [encodeByte] at hb
  split at hb
  · simp at hb
    omega
  · split at hb
    · next h => exact List.mem_singleton.mp hb ▸ hplain c h
    · simp only [List.mem_cons, List.not_mem_nil, or_false] at hb
      rcases hb with rfl | rfl | rfl
      · decide
      · exact hplain _ (isPlain_hexDigit _ (by omega))
      · exact hplain _ (isPlain_hexDigit _ (by omega))

/-- An entry is read back repaired. -/
theorem decodeEntry_encodeEntry (entry : Text × Text) :
    decodeEntry (encodeEntry entry) = (repair entry.1, repair entry.2) := by
  have hname : ∀ b ∈ encodeText entry.1, (decide (b ≠ 0x3D)) = true := fun b hb =>
    decide_eq_true (ne_of_mem_encodeText hb).2.2.1
  rw [decodeEntry, encodeEntry, List.takeWhile_append_of_pos hname,
    List.dropWhile_append_of_pos hname, List.takeWhile_cons_of_neg (by simp),
    List.dropWhile_cons_of_neg (by simp), List.append_nil, List.drop_one, List.tail_cons,
    decodeText_encodeText, decodeText_encodeText]

/-- The bytes of entries are ASCII, and no question mark is among them. -/
theorem ne_of_mem_encodeEntry {entry : Text × Text} {b : ℕ} (hb : b ∈ encodeEntry entry) :
    b < 0x80 ∧ b ≠ 0x26 ∧ b ≠ 0x3F := by
  rcases List.mem_append.mp hb with hb | hb
  · have := ne_of_mem_encodeText hb
    omega
  · rcases List.mem_cons.mp hb with rfl | hb
    · decide
    · have := ne_of_mem_encodeText hb
      omega

/-- So are those of a form. -/
theorem ne_of_mem_intercalate {entries : List (Text × Text)} {b : ℕ}
    (hb : b ∈ [0x26].intercalate (entries.map encodeEntry)) : b < 0x80 ∧ b ≠ 0x3F := by
  induction entries with
  | nil => simp at hb
  | cons entry entries ih =>
      have hentry : b ∈ encodeEntry entry → b < 0x80 ∧ b ≠ 0x3F := fun hb =>
        ⟨(ne_of_mem_encodeEntry hb).1, (ne_of_mem_encodeEntry hb).2.2⟩
      rw [List.map_cons] at hb
      by_cases hlast : entries.map encodeEntry = []
      · rw [hlast, List.intercalate_singleton] at hb
        exact hentry hb
      · rw [List.intercalate_cons_of_ne_nil hlast, List.append_assoc] at hb
        simp only [List.mem_append, List.mem_singleton] at hb
        rcases hb with hb | rfl | hb
        · exact hentry hb
        · decide
        · exact ih hb

/-- The bytes of a form are its units. -/
theorem encode_serialize (entries : List (Text × Text)) :
    Utf8.encode (scalars (serialize entries)) = [0x26].intercalate (entries.map encodeEntry) := by
  have hunits : ∀ u ∈ serialize entries, u < 0x80 := by
    intro u hu
    obtain ⟨b, hb, rfl⟩ := List.mem_map.mp hu
    have hlt := (ne_of_mem_intercalate hb).1
    rw [UInt16.lt_iff_toNat_lt]
    simp
    omega
  have hbytes : (serialize entries).map UInt16.toNat =
      [0x26].intercalate (entries.map encodeEntry) := by
    rw [serialize, List.map_map]
    refine (List.map_congr_left fun b hb => ?_).trans (List.map_id _)
    have hlt := (ne_of_mem_intercalate hb).1
    simp
    omega
  rw [Utf16.scalars_ascii hunits, hbytes, Utf8.encode_ascii fun b hb => (ne_of_mem_intercalate hb).1]

/-- No question mark starts a form. -/
theorem dropQuestionMark_serialize (entries : List (Text × Text)) :
    dropQuestionMark (serialize entries) = serialize entries := by
  cases h : serialize entries with
  | nil => rfl
  | cons u t =>
      have hu : u ∈ serialize entries := h ▸ List.mem_cons_self
      obtain ⟨b, hb, rfl⟩ := List.mem_map.mp hu
      obtain ⟨hlt, hne⟩ := ne_of_mem_intercalate hb
      refine if_neg fun heq => hne ?_
      have := congrArg UInt16.toNat heq
      simp [unit] at this
      omega

/-- A form is read back with its texts repaired. -/
theorem parse_serialize (entries : List (Text × Text)) :
    parse (serialize entries) = entries.map fun entry => (repair entry.1, repair entry.2) := by
  rw [parse, dropQuestionMark_serialize, encode_serialize]
  by_cases hnil : entries = []
  · subst hnil
    rfl
  · have hsep : ∀ bs ∈ entries.map encodeEntry, 0x26 ∉ bs := by
      intro bs hbs hmem
      obtain ⟨entry, -, rfl⟩ := List.mem_map.mp hbs
      exact (ne_of_mem_encodeEntry hmem).2.1 rfl
    have hfull : ∀ bs ∈ entries.map encodeEntry, (!bs.isEmpty) = true := by
      intro bs hbs
      obtain ⟨entry, -, rfl⟩ := List.mem_map.mp hbs
      simp [encodeEntry]
    rw [List.splitOn_intercalate _ hsep (by simpa using hnil), List.filter_eq_self.mpr hfull,
      List.map_map]
    exact List.map_congr_left fun entry _ => decodeEntry_encodeEntry entry

/-- It is also after a question mark. -/
theorem parse_questionMark_serialize (entries : List (Text × Text)) :
    parse (unit '?' :: serialize entries) =
      entries.map fun entry => (repair entry.1, repair entry.2) := by
  rw [← parse_serialize, parse, parse, dropQuestionMark, if_pos rfl, dropQuestionMark_serialize]

end Forms
