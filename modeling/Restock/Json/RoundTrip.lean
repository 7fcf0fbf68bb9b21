import Mathlib.Data.List.TakeWhile
import Restock.Json.Text

/-!
# Written JSON is read back

* `Value.wellFormed` — the values a runtime can hold: finite numbers, objects without a key
  that comes twice;
* `run_stringify` — reading a written value leaves the automaton after that value, whatever is
  open around it;
* `parse_stringify` — a well-formed value that is written is read back.
-/

namespace Json

variable {N : Type} (fmt : NumberFormat N)

mutual

/-- A value with finite numbers, and objects without a key that comes twice. -/
def Value.wellFormed : Value N → Bool
  | .null => true
  | .bool _ => true
  | .number x => fmt.isFinite x
  | .string _ => true
  | .array vs => elementsWellFormed vs
  | .object ms => decide (ms.map Prod.fst).Nodup && membersWellFormed ms

/-- The elements of an array are well formed. -/
def elementsWellFormed : List (Value N) → Bool
  | [] => true
  | v :: vs => v.wellFormed && elementsWellFormed vs

/-- The members of an object are well formed. -/
def membersWellFormed : List (Text × Value N) → Bool
  | [] => true
  | (_, v) :: ms => v.wellFormed && membersWellFormed ms

end

theorem run_cons (c : UInt16) (t : Text) (st : State N) :
    run fmt (c :: t) st = (step fmt st c).bind (run fmt t) := rfl

section Steps

variable (stack : List (Frame N)) (c : UInt16)

theorem step_value : step fmt (.value, stack) c = stepValue c stack := rfl

theorem step_after (v : Value N) : step fmt (.after v, stack) c = stepAfter v c stack := rfl

theorem step_string (isKey : Bool) (read : Text) :
    step fmt (.string isKey read, stack) c =
      if c = unit '"' then closeString isKey read stack
      else if c = unit '\\' then some (.escape isKey read, stack)
      else if c < 32 then none
      else some (.string isKey (read ++ [c]), stack) := rfl

theorem step_number (read : Text) :
    step fmt (.number read, stack) c =
      if isNumeric c then some (.number (read ++ [c]), stack)
      else if isNumeral read then stepAfter (.number (fmt.ofText read)) c stack
      else none := rfl

end Steps

/-! ## Numerals -/

/-- Digits are parts of numerals. -/
theorem isNumeric_of_isDigit {c : UInt16} (h : isDigit c) : isNumeric c := by
  simp [isNumeric, h]

/-- Digits are nothing else. -/
theorem isNumeric_of_isDigits {t : Text} (h : isDigits t) : ∀ c ∈ t, isNumeric c := by
  intro c hc
  rw [isDigits, Bool.and_eq_true, List.all_eq_true] at h
  exact isNumeric_of_isDigit (h.2 c hc)

/-- A text is numeric when its leading digits are followed by numeric units. -/
theorem isNumeric_of_dropWhile {t : Text} (h : ∀ c ∈ t.dropWhile isDigit, isNumeric c) :
    ∀ c ∈ t, isNumeric c := by
  intro c hc
  rw [← List.takeWhile_append_dropWhile (p := isDigit) (l := t)] at hc
  rcases List.mem_append.mp hc with hc | hc
  · exact isNumeric_of_isDigit (List.mem_takeWhile_imp hc)
  · exact h c hc

/-- An exponent is made of what numerals are made of. -/
theorem isNumeric_of_isPower {t : Text} (h : isPower t) : ∀ c ∈ t, isNumeric c := by
  cases t with
  | nil => simp
  | cons e t =>
      rw [isPower, Bool.and_eq_true] at h
      have he : isNumeric e := by
        simp only [Bool.or_eq_true, decide_eq_true_eq] at h
        rcases h.1 with rfl | rfl <;> decide
      have ht : ∀ c ∈ t, isNumeric c := by
        cases t with
        | nil => simp
        | cons s t =>
            have hexp := h.2
            rw [isExponent] at hexp
            split at hexp
            · rename_i hs
              have hsign : isNumeric s := by
                simp only [Bool.or_eq_true, decide_eq_true_eq] at hs
                rcases hs with rfl | rfl <;> decide
              exact List.forall_mem_cons.mpr ⟨hsign, isNumeric_of_isDigits hexp⟩
            · exact isNumeric_of_isDigits hexp
      exact List.forall_mem_cons.mpr ⟨he, ht⟩

/-- So is what follows the whole part. -/
theorem isNumeric_of_isTail {t : Text} (h : isTail t) : ∀ c ∈ t, isNumeric c := by
  cases t with
  | nil => simp
  | cons c t =>
      rw [isTail] at h
      split at h
      · rename_i hc
        subst hc
        rw [Bool.and_eq_true] at h
        exact List.forall_mem_cons.mpr
          ⟨by decide, isNumeric_of_dropWhile (isNumeric_of_isPower h.2)⟩
      · exact isNumeric_of_isPower h

/-- A numeral without its sign starts with a digit. -/
theorem isUnsigned_cons {c : UInt16} {t : Text} (h : isUnsigned (c :: t)) :
    isDigit c ∧ ∀ d ∈ t, isNumeric d := by
  rw [isUnsigned] at h
  split at h
  · rename_i hc
    subst hc
    exact ⟨by decide, isNumeric_of_isTail h⟩
  · rw [Bool.and_eq_true] at h
    exact ⟨h.1, isNumeric_of_dropWhile (isNumeric_of_isTail h.2)⟩

/-- A numeral starts with its sign or a digit, and is made of numeric units. -/
theorem isNumeral_cons {t : Text} (h : isNumeral t) :
    ∃ c t', t = c :: t' ∧ (c = unit '-' ∨ isDigit c) ∧ ∀ d ∈ t', isNumeric d := by
  cases t with
  | nil => cases h
  | cons c t =>
      refine ⟨c, t, rfl, ?_⟩
      rw [isNumeral] at h
      split at h
      · rename_i hc
        refine ⟨Or.inl hc, ?_⟩
        cases t with
        | nil => simp
        | cons d t =>
            obtain ⟨hd, ht⟩ := isUnsigned_cons h
            exact List.forall_mem_cons.mpr ⟨isNumeric_of_isDigit hd, ht⟩
      · obtain ⟨hc, ht⟩ := isUnsigned_cons h
        exact ⟨Or.inr hc, ht⟩

/-- Numeric units are read into the numeral. -/
theorem run_numeric {t : Text} (h : ∀ c ∈ t, isNumeric c) (read rest : Text)
    (stack : List (Frame N)) :
    run fmt (t ++ rest) (.number read, stack) = run fmt rest (.number (read ++ t), stack) := by
  induction t generalizing read with
  | nil => simp
  | cons c t ih =>
      obtain ⟨hc, ht⟩ := List.forall_mem_cons.mp h
      rw [List.cons_append, run_cons, step_number, if_pos hc, Option.bind_some, ih ht,
        List.append_assoc, List.singleton_append]

/-- What may follow a value inside an array or an object, or at the end. -/
def Delimited (rest : Text) : Prop :=
  ∀ c ∈ rest.head?, c = unit ',' ∨ c = unit ']' ∨ c = unit '}'

/-- A numeral that is followed by a delimiter is a number. -/
theorem run_number {t rest : Text} (ht : isNumeral t) (hrest : Delimited rest)
    (stack : List (Frame N)) :
    run fmt rest (.number t, stack) = run fmt rest (.after (.number (fmt.ofText t)), stack) := by
  cases rest with
  | nil => cases stack <;> simp [run, finish, ht]
  | cons c rest =>
      have hc : isNumeric c = false := by
        rcases hrest c rfl with rfl | rfl | rfl <;> decide
      have hstep : step fmt (.number t, stack) c
          = stepAfter (.number (fmt.ofText t)) c stack := by
        rw [step_number, hc, if_neg Bool.false_ne_true, if_pos ht]
      rw [run_cons, run_cons, hstep, step_after]

/-! ## Strings -/

/-- A hexadecimal digit is read back. -/
theorem hexValue_hexDigit : ∀ d < 16, hexValue (hexDigit d) = some d := by decide

/-- A hexadecimal digit, with more to follow. -/
theorem step_hex {d : ℕ} (hd : d < 16) (isKey : Bool) (read : Text) (code missing : ℕ)
    (stack : List (Frame N)) :
    step fmt (.hex isKey read code (missing + 1), stack) (hexDigit d)
      = some (.hex isKey read (code * 16 + d) missing, stack) := by
  show (hexValue (hexDigit d)).map _ = _
  rw [hexValue_hexDigit d hd, Option.map_some]

/-- The last hexadecimal digit. -/
theorem step_hex_last {d : ℕ} (hd : d < 16) (isKey : Bool) (read : Text) (code : ℕ)
    (stack : List (Frame N)) :
    step fmt (.hex isKey read code 0, stack) (hexDigit d)
      = some (.string isKey (read ++ [(code * 16 + d).toUInt16]), stack) := by
  show (hexValue (hexDigit d)).map _ = _
  rw [hexValue_hexDigit d hd, Option.map_some]

/-- A unit written in hexadecimal digits is read into the string. -/
theorem run_unicodeEscape (c : UInt16) (isKey : Bool) (read rest : Text)
    (stack : List (Frame N)) :
    run fmt (unicodeEscape c ++ rest) (.string isKey read, stack)
      = run fmt rest (.string isKey (read ++ [c]), stack) := by
  have hc : c.toNat < 65536 := c.toNat_lt
  have hcode : ((((0 * 16 + c.toNat / 4096) * 16 + c.toNat / 256 % 16) * 16
      + c.toNat / 16 % 16) * 16 + c.toNat % 16) = c.toNat := by omega
  have h₃ : c.toNat / 4096 < 16 := by omega
  have h₂ : c.toNat / 256 % 16 < 16 := by omega
  have h₁ : c.toNat / 16 % 16 < 16 := by omega
  have h₀ : c.toNat % 16 < 16 := by omega
  have hopen : step fmt (.string isKey read, stack) (unit '\\')
      = some (.escape isKey read, stack) :=
    rfl
  have hu : step fmt (.escape isKey read, stack) (unit 'u')
      = some (.hex isKey read 0 3, stack) := rfl
  rw [unicodeEscape, List.cons_append, run_cons, hopen, Option.bind_some, List.cons_append,
    run_cons, hu, Option.bind_some, List.cons_append, run_cons, step_hex fmt h₃, Option.bind_some,
    List.cons_append, run_cons, step_hex fmt h₂, Option.bind_some, List.cons_append, run_cons,
    step_hex fmt h₁, Option.bind_some, List.cons_append, run_cons, step_hex_last fmt h₀,
    Option.bind_some, hcode, List.nil_append]
  simp

/-- A unit as it is written in a string is read into it. -/
theorem run_quoteUnit (c : UInt16) (isKey : Bool) (read rest : Text) (stack : List (Frame N)) :
    run fmt (quoteUnit c ++ rest) (.string isKey read, stack)
      = run fmt rest (.string isKey (read ++ [c]), stack) := by
  unfold quoteUnit
  split
  · subst_vars; rfl
  split
  · subst_vars; rfl
  split
  · subst_vars; rfl
  split
  · subst_vars; rfl
  split
  · subst_vars; rfl
  split
  · rename_i h
    simp only [Bool.or_eq_true, decide_eq_true_eq] at h
    rcases h with rfl | rfl <;> rfl
  split
  · exact run_unicodeEscape fmt c isKey read rest stack
  · rename_i hquote hplain
    simp only [Bool.or_eq_true, decide_eq_true_eq, not_or] at hquote hplain
    rw [List.singleton_append, run_cons, step_string, if_neg hquote.1, if_neg hquote.2,
      if_neg hplain.1.1, Option.bind_some]

/-- Half of a surrogate pair is read as it is. -/
theorem run_surrogate {c : UInt16} (h : isLead c ∨ isTrail c) (isKey : Bool) (read rest : Text)
    (stack : List (Frame N)) :
    run fmt (c :: rest) (.string isKey read, stack)
      = run fmt rest (.string isKey (read ++ [c]), stack) := by
  have hle : 0xD800 ≤ c := by
    simp only [isLead, isTrail, Bool.and_eq_true, decide_eq_true_eq] at h
    rcases h with h | h
    · exact h.1
    · exact UInt16.le_trans (by decide) h.1
  have hquote : c ≠ unit '"' := by rintro rfl; revert hle; decide
  have hslash : c ≠ unit '\\' := by rintro rfl; revert hle; decide
  have hcontrol : ¬ c < 32 := UInt16.not_lt.mpr (UInt16.le_trans (by decide) hle)
  rw [run_cons, step_string, if_neg hquote, if_neg hslash, if_neg hcontrol, Option.bind_some]

/-- The units of a string are read into it. -/
theorem run_quoteUnits (s : Text) (isKey : Bool) (read rest : Text) (stack : List (Frame N)) :
    run fmt (quoteUnits s ++ rest) (.string isKey read, stack)
      = run fmt rest (.string isKey (read ++ s), stack) := by
  induction s using quoteUnits.induct generalizing read with
  | case1 => simp [quoteUnits]
  | case2 c => rw [quoteUnits, run_quoteUnit]
  | case3 c d t hpair ih =>
      rw [Bool.and_eq_true] at hpair
      rw [quoteUnits, if_pos (by simp [hpair]), List.cons_append, List.cons_append,
        run_surrogate fmt (Or.inl hpair.1), run_surrogate fmt (Or.inr hpair.2), ih]
      simp
  | case4 c d t hpair ih =>
      rw [quoteUnits, if_neg hpair, List.append_assoc, run_quoteUnit, ih]
      simp

/-- The rest of a string, from behind its opening quote. -/
theorem run_quoteEnd (s : Text) (isKey : Bool) (rest : Text) (stack : List (Frame N)) :
    run fmt (quoteUnits s ++ [unit '"'] ++ rest) (.string isKey [], stack)
      = (closeString isKey s stack).bind (run fmt rest) := by
  rw [List.append_assoc, run_quoteUnits, List.nil_append, List.singleton_append, run_cons,
    step_string, if_pos rfl]

/-- A string is read as a value. -/
theorem run_quote (s rest : Text) (stack : List (Frame N)) :
    run fmt (quote s ++ rest) (.value, stack) = run fmt rest (.after (.string s), stack) := by
  have hopen : step fmt (.value, stack) (unit '"') = some (.string false [], stack) := rfl
  rw [quote, List.cons_append, run_cons, hopen, Option.bind_some, run_quoteEnd]
  rfl

/-- A string and a colon are read as a key. -/
theorem run_key {mode : Mode N} (hmode : mode = .key ∨ mode = .firstKey) (k rest : Text)
    (members : List (Text × Value N)) (old : Text) (stack : List (Frame N)) :
    run fmt (quote k ++ unit ':' :: rest) (mode, .object members old :: stack)
      = run fmt rest (.value, .object members k :: stack) := by
  have hopen : step fmt (mode, .object members old :: stack) (unit '"')
      = some (.string true [], .object members old :: stack) := by
    rcases hmode with rfl | rfl <;> rfl
  rw [quote, List.cons_append, run_cons, hopen, Option.bind_some, run_quoteEnd]
  rfl

/-! ## Values -/

/-- What is not a digit is another unit than a digit. -/
theorem ne_of_isDigit {c d : UInt16} (hc : isDigit c) (hd : isDigit d = false) : c ≠ d := by
  rintro rfl
  rw [hc] at hd
  cases hd

/-- A digit is no space. -/
theorem isSpace_of_isDigit {c : UInt16} (hc : isDigit c) : isSpace c = false := by
  have h₁ := ne_of_isDigit hc (d := 32) (by decide)
  have h₂ := ne_of_isDigit hc (d := 9) (by decide)
  have h₃ := ne_of_isDigit hc (d := 10) (by decide)
  have h₄ := ne_of_isDigit hc (d := 13) (by decide)
  simp [isSpace, h₁, h₂, h₃, h₄]

/-- A sign or a digit starts a numeral. -/
theorem stepValue_numeral {c : UInt16} (hc : c = unit '-' ∨ isDigit c) (stack : List (Frame N)) :
    stepValue c stack = some (.number [c], stack) := by
  rcases hc with rfl | hc
  · rfl
  · rw [stepValue, isSpace_of_isDigit hc, if_neg Bool.false_ne_true,
      if_neg (ne_of_isDigit hc (by decide)), if_neg (ne_of_isDigit hc (by decide)),
      if_neg (ne_of_isDigit hc (by decide)), if_neg (ne_of_isDigit hc (by decide)),
      if_neg (ne_of_isDigit hc (by decide)), if_neg (ne_of_isDigit hc (by decide)),
      if_pos (by rw [hc, Bool.or_true])]

/-- A written value does not start with a space or the end of an array. -/
theorem stringify_cons {v : Value N} (h : v.wellFormed fmt) :
    ∃ c t, stringify fmt v = c :: t ∧ isSpace c = false ∧ c ≠ unit ']' := by
  cases v with
  | null => exact ⟨unit 'n', text "ull", by rw [stringify]; rfl, by decide, by decide⟩
  | bool b =>
      cases b with
      | true => exact ⟨unit 't', text "rue", by rw [stringify]; rfl, by decide, by decide⟩
      | false => exact ⟨unit 'f', text "alse", by rw [stringify]; rfl, by decide, by decide⟩
  | number x =>
      rw [Value.wellFormed] at h
      obtain ⟨c, t, ht, hc, -⟩ := isNumeral_cons (fmt.isNumeral_toText x h)
      refine ⟨c, t, by rw [stringify, if_pos h, ht], ?_, ?_⟩
      · rcases hc with rfl | hc
        · decide
        · exact isSpace_of_isDigit hc
      · rintro rfl
        revert hc
        decide
  | string s => exact ⟨unit '"', _, by rw [stringify, quote], by decide, by decide⟩
  | array vs =>
      cases vs with
      | nil => exact ⟨unit '[', [unit ']'], by rw [stringify]; rfl, by decide, by decide⟩
      | cons v vs => exact ⟨unit '[', _, by rw [stringify], by decide, by decide⟩
  | object ms =>
      cases ms with
      | nil => exact ⟨unit '{', [unit '}'], by rw [stringify], by decide, by decide⟩
      | cons m ms => exact ⟨unit '{', _, by rw [stringify], by decide, by decide⟩

/-- The first element of an array is read as any value. -/
theorem run_first {v : Value N} (h : v.wellFormed fmt) (rest : Text) (stack : List (Frame N)) :
    run fmt (stringify fmt v ++ rest) (.first, stack)
      = run fmt (stringify fmt v ++ rest) (.value, stack) := by
  obtain ⟨c, t, ht, hspace, hend⟩ := stringify_cons fmt h
  have hstep : step fmt (.first, stack) c = stepValue c stack := by
    show (if isSpace c = true then _ else if c = unit ']' then _ else stepValue c stack) = _
    rw [hspace, if_neg Bool.false_ne_true, if_neg hend]
  rw [ht, List.cons_append, run_cons, run_cons, hstep, step_value]

/-- The end of an array follows a value. -/
theorem delimited_elementsTail (vs : List (Value N)) (rest : Text) :
    Delimited (elementsTail fmt vs ++ rest) := by
  cases vs <;> simp [elementsTail, Delimited]

/-- So does the end of an object. -/
theorem delimited_membersTail (ms : List (Text × Value N)) (rest : Text) :
    Delimited (membersTail fmt ms ++ rest) := by
  cases ms <;> simp [membersTail, Delimited]

/-- The next key of an object has not been read yet. -/
theorem key_notMem {read ms : List (Text × Value N)} {k : Text} {v : Value N}
    (h : ((read ++ (k, v) :: ms).map Prod.fst).Nodup) : k ∉ read.map Prod.fst := by
  rw [List.map_append, List.map_cons, List.nodup_append] at h
  exact fun hk => h.2.2 _ hk _ List.mem_cons_self rfl

/-- Setting a key that is not there adds it at the end. -/
theorem setEntry_of_notMem {members : List (Text × Value N)} {k : Text}
    (h : k ∉ members.map Prod.fst) (v : Value N) :
    Series.setEntry members k v = members ++ [(k, v)] := by
  induction members with
  | nil => rfl
  | cons m members ih =>
      rw [List.map_cons, List.mem_cons, not_or] at h
      rw [Series.setEntry, if_neg (Ne.symm h.1), ih h.2, List.cons_append]

mutual

/-- A value that was written is read. -/
theorem run_stringify : ∀ (v : Value N), v.wellFormed fmt → ∀ (rest : Text), Delimited rest →
    ∀ stack, run fmt (stringify fmt v ++ rest) (.value, stack) = run fmt rest (.after v, stack)
  | .null, _, rest, _, stack => by rw [stringify]; rfl
  | .bool true, _, rest, _, stack => by rw [stringify]; rfl
  | .bool false, _, rest, _, stack => by rw [stringify]; rfl
  | .number x, h, rest, hrest, stack => by
      rw [Value.wellFormed] at h
      have hnum := fmt.isNumeral_toText x h
      obtain ⟨c, t, ht, hc, hnumeric⟩ := isNumeral_cons hnum
      have hopen : step fmt (.value, stack) c = some (.number [c], stack) :=
        stepValue_numeral hc stack
      rw [stringify, if_pos h, ht, List.cons_append, run_cons, hopen, Option.bind_some,
        run_numeric fmt hnumeric, List.singleton_append, ← ht, run_number fmt hnum hrest,
        fmt.ofText_toText x h]
  | .string s, _, rest, _, stack => by rw [stringify, run_quote]
  | .array [], _, rest, _, stack => by rw [stringify]; rfl
  | .array (v :: vs), h, rest, _, stack => by
      rw [Value.wellFormed, elementsWellFormed, Bool.and_eq_true] at h
      have hopen : step fmt (.value, stack) (unit '[') = some (.first, .array [] :: stack) := rfl
      rw [stringify, List.cons_append, run_cons, hopen, Option.bind_some, List.append_assoc,
        run_first fmt h.1, run_stringify v h.1 _ (delimited_elementsTail fmt vs rest),
        run_elementsTail vs h.2, List.nil_append]
  | .object [], _, rest, _, stack => by rw [stringify]; rfl
  | .object ((k, v) :: ms), h, rest, _, stack => by
      rw [Value.wellFormed, membersWellFormed, Bool.and_eq_true, Bool.and_eq_true,
        decide_eq_true_eq] at h
      have hopen : step fmt (.value, stack) (unit '{') = some (.firstKey, .object [] [] :: stack) :=
        rfl
      rw [stringify, List.cons_append, run_cons, hopen, Option.bind_some, List.append_assoc,
        List.cons_append, run_key fmt (Or.inr rfl), List.append_assoc,
        run_stringify v h.2.1 _ (delimited_membersTail fmt ms rest),
        run_membersTail ms h.2.2 _ _ [] k v h.1, List.nil_append]

/-- The further elements of an array are read. -/
theorem run_elementsTail : ∀ (vs : List (Value N)), elementsWellFormed fmt vs →
    ∀ (rest : Text) stack (read : List (Value N)) (v : Value N),
      run fmt (elementsTail fmt vs ++ rest) (.after v, .array read :: stack)
        = run fmt rest (.after (.array (read ++ v :: vs)), stack)
  | [], _, rest, stack, read, v => by rw [elementsTail]; rfl
  | w :: vs, h, rest, stack, read, v => by
      rw [elementsWellFormed, Bool.and_eq_true] at h
      have hcomma : step fmt (.after v, .array read :: stack) (unit ',')
          = some (.value, .array (read ++ [v]) :: stack) := rfl
      rw [elementsTail, List.cons_append, run_cons, hcomma, Option.bind_some, List.append_assoc,
        run_stringify w h.1 _ (delimited_elementsTail fmt vs rest), run_elementsTail vs h.2]
      simp

/-- The further members of an object are read. -/
theorem run_membersTail : ∀ (ms : List (Text × Value N)), membersWellFormed fmt ms →
    ∀ (rest : Text) stack (read : List (Text × Value N)) (k : Text) (v : Value N),
      ((read ++ (k, v) :: ms).map Prod.fst).Nodup →
      run fmt (membersTail fmt ms ++ rest) (.after v, .object read k :: stack)
        = run fmt rest (.after (.object (read ++ (k, v) :: ms)), stack)
  | [], _, rest, stack, read, k, v, hnodup => by
      have hnew := key_notMem hnodup
      have hend : step fmt (.after v, .object read k :: stack) (unit '}')
          = some (.after (.object (Series.setEntry read k v)), stack) := rfl
      rw [membersTail, List.cons_append, run_cons, hend, Option.bind_some, List.nil_append,
        setEntry_of_notMem hnew]
  | (k', w) :: ms, h, rest, stack, read, k, v, hnodup => by
      rw [membersWellFormed, Bool.and_eq_true] at h
      have hnew := key_notMem hnodup
      have hcomma : step fmt (.after v, .object read k :: stack) (unit ',')
          = some (.key, .object (Series.setEntry read k v) [] :: stack) := rfl
      rw [membersTail, List.cons_append, run_cons, hcomma, Option.bind_some, List.append_assoc,
        List.cons_append, run_key fmt (Or.inl rfl), List.append_assoc,
        run_stringify w h.1 _ (delimited_membersTail fmt ms rest), setEntry_of_notMem hnew,
        run_membersTail ms h.2 _ _ _ k' w (by simpa using hnodup)]
      simp

end

/-- A well-formed value that is written is read back. -/
theorem parse_stringify {v : Value N} (h : v.wellFormed fmt) :
    parse fmt (stringify fmt v) = some v := by
  have hrun := run_stringify fmt v h [] (by simp [Delimited]) []
  rw [List.append_nil] at hrun
  rw [parse, hrun]
  rfl

end Json
