import Mathlib.Data.List.DropRight
import Mathlib.Tactic.Positivity
import Restock.Json.Text

/-!
# Blanks and decimal numerals in texts of code units

What a language runtime takes for blank in a text of UTF-16 code units, white space and the ends of
lines, all of them single units; and the forms in which a number is written.

* `isBlank`, `trim` — a blank unit, and a text without the blanks at its ends;
* `Blank` — a text of nothing else, which is one that is trimmed to nothing;
* `replaceRuns` — a text with one unit for every run of units of a kind;
* `words` — the pieces of a text between runs of blanks;
* `digitsValue`, `decimal` — the number that digits write, and the digits of a number;
* `decimalValue` — the number that digits with a dot among them, or none, write;
* `isThousands` — the form of a numeral whose digits are in groups of three, with commas between
  them and a fraction after them, or none;
* `IsNumeral` — a decimal numeral: plain digits or such groups, and a fraction or none.
-/

namespace Utf16

open Json

/-! ## Blanks -/

/-- White space, and the ends of lines. -/
def isBlank (c : UInt16) : Bool :=
  (9 ≤ c && c ≤ 13) || (0x2000 ≤ c && c ≤ 0x200a) ||
    c ∈ [0x20, 0xa0, 0x1680, 0x2028, 0x2029, 0x202f, 0x205f, 0x3000, 0xfeff]

/-- A text of blanks. -/
def Blank (t : Text) : Prop := ∀ c ∈ t, isBlank c = true

instance (t : Text) : Decidable (Blank t) := inferInstanceAs (Decidable (∀ c ∈ t, _))

/-- A text without the blanks at its ends. -/
def trim (t : Text) : Text := (t.dropWhile isBlank).rdropWhile isBlank

/-- A text with one unit in the place of every run of some: the runs begin where the unit before is
none of them. -/
def replaceRuns (p : UInt16 → Bool) (unit : UInt16) (t : Text) : Text :=
  go false t
where
  /-- The text after a unit of a run, or after another. -/
  go : Bool → Text → Text
    | _, [] => []
    | inRun, c :: t =>
        if p c then (if inRun then [] else [unit]) ++ go true t else c :: go false t

/-- The pieces of a text between its runs of blanks. -/
def words (t : Text) : List Text := (t.splitOnP isBlank).filter fun word => !word.isEmpty

/-- A unit that is seen in print is not blank. -/
theorem isBlank_eq_false {c : UInt16} (hlow : unit '!' ≤ c) (hhigh : c ≤ unit '~') :
    isBlank c = false := by
  have hfrom : 33 ≤ c.toNat := UInt16.le_iff_toNat_le.mp hlow
  have hto : c.toNat ≤ 126 := UInt16.le_iff_toNat_le.mp hhigh
  simp only [isBlank, Bool.or_eq_false_iff, Bool.and_eq_false_iff, decide_eq_false_iff_not,
    UInt16.le_iff_toNat_le, List.mem_cons, ← UInt16.toNat_inj]
  simp
  omega

/-- The text of no unit is blank. -/
@[simp] theorem blank_nil : Blank [] := List.forall_mem_nil _

/-- A text is blank with its first unit and the others. -/
@[simp] theorem blank_cons {c : UInt16} {t : Text} :
    Blank (c :: t) ↔ isBlank c = true ∧ Blank t := List.forall_mem_cons

/-- Two texts are blank together when both are. -/
@[simp] theorem blank_append {t u : Text} : Blank (t ++ u) ↔ Blank t ∧ Blank u :=
  List.forall_mem_append

/-- A trimmed text stands between blanks. -/
theorem exists_trim (t : Text) :
    ∃ before after, t = before ++ trim t ++ after ∧ Blank before ∧ Blank after := by
  refine ⟨t.takeWhile isBlank, (t.dropWhile isBlank).rtakeWhile isBlank, ?_, fun c hc => ?_,
    fun c hc => ?_⟩
  · rw [trim, List.append_assoc, List.rdropWhile_append_rtakeWhile,
      List.takeWhile_append_dropWhile]
  · exact List.mem_takeWhile_imp hc
  · exact List.mem_rtakeWhile_imp hc

/-- Units that are not blank are all found in the trimmed text, in their order. -/
theorem filter_trim {p : UInt16 → Bool} (hp : ∀ c, p c = true → isBlank c = false) (t : Text) :
    (trim t).filter p = t.filter p := by
  obtain ⟨before, after, ht, hbefore, hafter⟩ := exists_trim t
  have hnone : ∀ u, Blank u → u.filter p = [] := fun u hu =>
    List.filter_eq_nil_iff.mpr fun c hc hpc =>
      Bool.false_ne_true ((hp c hpc).symm.trans (hu c hc))
  conv_rhs => rw [ht, List.filter_append, List.filter_append, hnone before hbefore,
    hnone after hafter, List.nil_append, List.append_nil]

/-- Whether there is one is the same of the trimmed text. -/
theorem any_trim {p : UInt16 → Bool} (hp : ∀ c, p c = true → isBlank c = false) (t : Text) :
    (trim t).any p = t.any p := by
  have hany : ∀ u : Text, u.any p = (u.filter p).any p := fun u => by
    rw [List.any_filter]
    simp
  rw [hany, filter_trim hp, ← hany]

/-- Nothing is left of a blank text, and only of one. -/
theorem trim_eq_nil_iff {t : Text} : trim t = [] ↔ Blank t := by
  rw [trim, List.rdropWhile_eq_nil_iff]
  constructor
  · intro h
    -- what is dropped at the start is blank as well
    rw [← List.takeWhile_append_dropWhile (p := isBlank) (l := t), blank_append]
    exact ⟨fun c hc => List.mem_takeWhile_imp hc, h⟩
  · intro h c hc
    exact h c ((List.dropWhile_suffix isBlank).subset hc)

/-- A text that is trimmed to nothing is blank. -/
@[simp] theorem trim_isEmpty {t : Text} : (trim t).isEmpty = decide (Blank t) := by
  rw [← Bool.coe_iff_coe, List.isEmpty_iff, trim_eq_nil_iff, decide_eq_true_iff]

/-! ## Numerals -/

/-! ## Values -/

/-- The number that digits write. -/
def digitsValue (t : Text) : ℕ :=
  t.foldl (fun n c => 10 * n + (c.toNat - (unit '0').toNat)) 0

/-- The number that digits with a dot among them write, or digits alone. -/
def decimalValue (t : Text) : ℚ :=
  let fraction := (t.dropWhile (· ≠ unit '.')).tail
  digitsValue (t.takeWhile (· ≠ unit '.')) + digitsValue fraction / 10 ^ fraction.length

/-- The digits of a number. -/
def decimal (n : ℕ) : Text := (Nat.toDigits 10 n).map unit

/-- The unit of a digit. -/
theorem toNat_unit_of_isDigit {c : Char} (h : c.isDigit = true) :
    (unit c).toNat = c.toNat ∧ c.toNat < 0x80 := by
  have hle : c.toNat ≤ '9'.toNat := (Char.isDigit_iff_toNat.mp h).2
  have hlt : c.toNat < 0x80 := lt_of_le_of_lt hle (by decide)
  refine ⟨?_, hlt⟩
  simp [unit]
  omega

/-- The digits of a number are digits. -/
theorem isDigit_of_mem_decimal {n : ℕ} : ∀ u ∈ decimal n, isDigit u = true := by
  intro u hu
  obtain ⟨c, hc, rfl⟩ := List.mem_map.mp hu
  have hdigit := Nat.isDigit_of_mem_toDigits (by decide) (by decide) hc
  obtain ⟨hlow, hhigh⟩ := Char.isDigit_iff_toNat.mp hdigit
  rw [isDigit, Bool.and_eq_true, decide_eq_true_iff, decide_eq_true_iff, UInt16.le_iff_toNat_le,
    UInt16.le_iff_toNat_le, (toNat_unit_of_isDigit hdigit).1]
  exact ⟨hlow, hhigh⟩

/-- There is a digit. -/
theorem decimal_ne_nil (n : ℕ) : decimal n ≠ [] := by
  rw [decimal, Ne, List.map_eq_nil_iff]
  exact Nat.toDigits_ne_nil

/-- Digits are ASCII. -/
theorem lt_of_isDigit {u : UInt16} (h : isDigit u = true) : u < 0x80 ∧ u ≠ unit '-' := by
  rw [isDigit, Bool.and_eq_true, decide_eq_true_iff, decide_eq_true_iff, UInt16.le_iff_toNat_le,
    UInt16.le_iff_toNat_le] at h
  have hlow : 48 ≤ u.toNat := h.1
  have hhigh : u.toNat ≤ 57 := h.2
  refine ⟨?_, ?_⟩
  · rw [UInt16.lt_iff_toNat_lt]
    exact lt_of_le_of_lt hhigh (by decide)
  · rintro rfl
    exact absurd hlow (by decide)

/-- Digits write the number they are of. -/
theorem digitsValue_decimal (n : ℕ) : digitsValue (decimal n) = n := by
  have hvalue : ∀ (cs : List Char) (init : ℕ), (∀ c ∈ cs, c.isDigit = true) →
      (cs.map unit).foldl (fun n c => 10 * n + (c.toNat - (unit '0').toNat)) init =
        Nat.ofDigitChars 10 cs init := by
    intro cs
    induction cs with
    | nil => intro init _; rfl
    | cons c cs ih =>
        intro init h
        rw [List.forall_mem_cons] at h
        rw [List.map_cons, List.foldl_cons, (toNat_unit_of_isDigit h.1).1, ih _ h.2,
          Nat.ofDigitChars_cons]
        rfl
  rw [digitsValue, decimal, hvalue _ _ fun c hc =>
    Nat.isDigit_of_mem_toDigits (by decide) (by decide) hc, Nat.ofDigitChars_ten_toDigits]

variable {t : Text}

/-- Digits after a dot are so many tenths of the number they write. -/
theorem decimalValue_dot_cons (t : Text) :
    decimalValue (unit '.' :: t) = digitsValue t / 10 ^ t.length := by
  rw [decimalValue, List.takeWhile_cons_of_neg (by simp), List.dropWhile_cons_of_neg (by simp),
    List.tail_cons]
  exact zero_add _

/-- Digits without a dot write what they write. -/
theorem decimalValue_of_notMem (h : unit '.' ∉ t) : decimalValue t = digitsValue t := by
  have hall : ∀ c ∈ t, decide (c ≠ unit '.') = true := fun c hc =>
    decide_eq_true fun hdot => h (hdot ▸ hc)
  rw [decimalValue, List.takeWhile_eq_self_iff.mpr hall, List.dropWhile_eq_nil_iff.mpr hall]
  simp [digitsValue]

/-- A dot after them makes no difference. -/
theorem decimalValue_append_dot (h : unit '.' ∉ t) :
    decimalValue (t ++ [unit '.']) = decimalValue t := by
  have hall : ∀ c ∈ t, decide (c ≠ unit '.') = true := fun c hc =>
    decide_eq_true fun hdot => h (hdot ▸ hc)
  rw [decimalValue_of_notMem h, decimalValue, List.takeWhile_append_of_pos hall,
    List.dropWhile_append_of_pos hall]
  simp [digitsValue]

/-- A numeral writes no negative number. -/
theorem decimalValue_nonneg (t : Text) : 0 ≤ decimalValue t := by
  rw [decimalValue]
  positivity

/-! ## Forms -/

/-- Groups of three digits, each after a comma. -/
def isGroups : Text → Bool
  | [] => true
  | c :: d₁ :: d₂ :: d₃ :: t =>
      c = unit ',' && isDigit d₁ && isDigit d₂ && isDigit d₃ && isGroups t
  | _ => false

/-- Three digits at most, and groups of three after them. -/
def isGrouped (t : Text) : Bool :=
  let lead := t.takeWhile isDigit
  1 ≤ lead.length && lead.length ≤ 3 && isGroups (t.dropWhile isDigit)

/-- A dot and digits after it, or nothing. -/
def isFraction : Text → Bool
  | [] => true
  | c :: t => c = unit '.' && isDigits t

/-- Digits in groups of three and a fraction: `^[0-9]{1,3}(,[0-9]{3})*(\.[0-9]+)?$`. -/
def isThousands (t : Text) : Bool :=
  isGrouped (t.takeWhile (· ≠ unit '.')) && isFraction (t.dropWhile (· ≠ unit '.'))

/-- A decimal numeral: digits, plain or in groups of three, and a fraction or none. -/
def IsNumeral (t : Text) : Prop :=
  ∃ whole fraction, t = whole ++ fraction ∧ (isDigits whole = true ∨ isGrouped whole = true) ∧
    isFraction fraction = true

/-- The value of a numeral: that of its digits, the commas taken away. -/
def numeralValue (t : Text) : ℚ := decimalValue (t.filter (· ≠ unit ','))

/-- Begins with a digit and ends with one. -/
def BetweenDigits (t : Text) : Prop :=
  t.head?.any isDigit = true ∧ t.getLast?.any isDigit = true

instance (t : Text) : Decidable (BetweenDigits t) := inferInstanceAs (Decidable (_ ∧ _))

/-! ## What numerals are made of -/

/-- A unit that a numeral may be made of. -/
def isNumeralUnit (c : UInt16) : Bool := isDigit c || c = unit ',' || c = unit '.'

/-- Digits are some units that are each a digit. -/
theorem isDigits_iff : isDigits t = true ↔ t ≠ [] ∧ ∀ c ∈ t, isDigit c = true := by
  simp [isDigits]

/-- The last of digits is one. -/
theorem getLast?_any_of_forall (hne : t ≠ []) (h : ∀ c ∈ t, isDigit c = true) :
    t.getLast?.any isDigit = true := by
  rw [List.getLast?_eq_some_getLast hne]
  exact h _ (List.getLast_mem hne)

/-- The first of digits is one. -/
theorem head?_any_of_forall (hne : t ≠ []) (h : ∀ c ∈ t, isDigit c = true) :
    t.head?.any isDigit = true := by
  rw [List.head?_eq_some_head hne]
  exact h _ (List.head_mem hne)

/-- Groups are made of digits and commas, and end with a digit. -/
theorem isGroups_spec (h : isGroups t = true) :
    (∀ c ∈ t, isNumeralUnit c = true) ∧ (t ≠ [] → t.getLast?.any isDigit = true) := by
  induction t using isGroups.induct with
  | case1 => exact ⟨List.forall_mem_nil _, fun hne => absurd rfl hne⟩
  | case2 c d₁ d₂ d₃ t ih =>
      simp only [isGroups, Bool.and_eq_true, decide_eq_true_eq] at h
      obtain ⟨⟨⟨⟨rfl, h₁⟩, h₂⟩, h₃⟩, ht⟩ := h
      obtain ⟨hunits, hlast⟩ := ih ht
      refine ⟨by simpa [isNumeralUnit, h₁, h₂, h₃] using hunits, fun _ => ?_⟩
      -- the last unit is the third digit of the group, or that of what follows
      cases t with
      | nil => simpa using h₃
      | cons c' t => simpa [List.getLast?_cons_cons] using hlast (List.cons_ne_nil _ _)
  | case3 t hnil hcons => rw [isGroups.eq_3 t hnil hcons] at h; exact absurd h Bool.false_ne_true

/-- Digits in groups are digits and commas, between digits. -/
theorem isGrouped_spec (h : isGrouped t = true) :
    (∀ c ∈ t, isNumeralUnit c = true) ∧ BetweenDigits t := by
  simp only [isGrouped, Bool.and_eq_true, decide_eq_true_eq] at h
  obtain ⟨⟨hpos, -⟩, hgroups⟩ := h
  obtain ⟨hunits, hlast⟩ := isGroups_spec hgroups
  have hlead : ∀ c ∈ t.takeWhile isDigit, isDigit c = true := fun c hc => List.mem_takeWhile_imp hc
  have hne : t.takeWhile isDigit ≠ [] := List.ne_nil_of_length_pos hpos
  rw [← List.takeWhile_append_dropWhile (p := isDigit) (l := t)]
  refine ⟨?_, ?_, ?_⟩
  · refine List.forall_mem_append.mpr ⟨fun c hc => ?_, hunits⟩
    simp [isNumeralUnit, hlead c hc]
  · rw [List.head?_append, Option.any_or_of_any_left (head?_any_of_forall hne hlead)]
  · by_cases hrest : t.dropWhile isDigit = []
    · rw [hrest, List.append_nil]
      exact getLast?_any_of_forall hne hlead
    · rw [List.getLast?_append_of_ne_nil _ hrest]
      exact hlast hrest

/-- A fraction is a dot and digits, and ends with a digit. -/
theorem isFraction_spec (h : isFraction t = true) :
    (∀ c ∈ t, isNumeralUnit c = true) ∧ (t ≠ [] → t.getLast?.any isDigit = true) := by
  cases t with
  | nil => exact ⟨List.forall_mem_nil _, fun hne => absurd rfl hne⟩
  | cons c t =>
      simp only [isFraction, Bool.and_eq_true, decide_eq_true_eq, isDigits_iff] at h
      obtain ⟨rfl, hne, hdigits⟩ := h
      refine ⟨List.forall_mem_cons.mpr ⟨by decide, fun c hc => ?_⟩, fun _ => ?_⟩
      · simp [isNumeralUnit, hdigits c hc]
      · rw [List.getLast?_cons_of_ne_nil hne]
        exact getLast?_any_of_forall hne hdigits

/-- A numeral is made of digits, commas and dots, between digits. -/
theorem IsNumeral.spec (h : IsNumeral t) :
    (∀ c ∈ t, isNumeralUnit c = true) ∧ BetweenDigits t := by
  obtain ⟨whole, fraction, rfl, hwhole, hfraction⟩ := h
  have hspec : (∀ c ∈ whole, isNumeralUnit c = true) ∧ BetweenDigits whole := by
    rcases hwhole with hdigits | hgrouped
    · obtain ⟨hne, hall⟩ := isDigits_iff.mp hdigits
      refine ⟨fun c hc => ?_, head?_any_of_forall hne hall, getLast?_any_of_forall hne hall⟩
      simp [isNumeralUnit, hall c hc]
    · exact isGrouped_spec hgrouped
  obtain ⟨hunits, hlast⟩ := isFraction_spec hfraction
  refine ⟨List.forall_mem_append.mpr ⟨hspec.1, hunits⟩, ?_, ?_⟩
  · rw [List.head?_append, Option.any_or_of_any_left hspec.2.1]
  · by_cases hnil : fraction = []
    · rw [hnil, List.append_nil]
      exact hspec.2.2
    · rw [List.getLast?_append_of_ne_nil _ hnil]
      exact hlast hnil

/-- Groups with a fraction are a numeral. -/
theorem IsNumeral.of_isThousands (h : isThousands t = true) : IsNumeral t := by
  simp only [isThousands, Bool.and_eq_true] at h
  exact ⟨_, _, List.takeWhile_append_dropWhile.symm, Or.inr h.1, h.2⟩

/-- Digits with a dot among them at most, between digits, are a numeral. -/
theorem IsNumeral.of_dot (hunits : ∀ c ∈ t, isDigit c = true ∨ c = unit '.')
    (hdots : t.count (unit '.') ≤ 1) (h : BetweenDigits t) : IsNumeral t := by
  have hwhole : ∀ c ∈ t.takeWhile (· ≠ unit '.'), isDigit c = true := by
    intro c hc
    have hdot : c ≠ unit '.' := by simpa using List.mem_takeWhile_imp hc
    exact (hunits c ((List.takeWhile_prefix _).subset hc)).resolve_right hdot
  have hne : t.takeWhile (· ≠ unit '.') ≠ [] := by
    obtain ⟨hhead, -⟩ := h
    cases t with
    | nil => exact absurd hhead (by decide)
    | cons c t =>
        have hdigit : isDigit c = true := by simpa using hhead
        have hdot : c ≠ unit '.' := by rintro rfl; exact absurd hdigit (by decide)
        rw [List.takeWhile_cons_of_pos (by simpa using hdot)]
        exact List.cons_ne_nil _ _
  refine ⟨_, _, List.takeWhile_append_dropWhile.symm, Or.inl (isDigits_iff.mpr ⟨hne, hwhole⟩), ?_⟩
  -- what follows the whole part begins with the only dot
  rcases hfraction : t.dropWhile (· ≠ unit '.') with _ | ⟨c, rest⟩
  · rfl
  · have hc : c = unit '.' := by
      have hfirst := List.head?_dropWhile_not (· ≠ unit '.') t
      rw [hfraction] at hfirst
      simpa using hfirst
    have ht : t = t.takeWhile (· ≠ unit '.') ++ c :: rest := by
      rw [← hfraction, List.takeWhile_append_dropWhile]
    have hrest : ∀ d ∈ rest, isDigit d = true := by
      intro d hd
      have hmem : d ∈ t := by rw [ht]; simp [hd]
      refine (hunits d hmem).resolve_right ?_
      rintro rfl
      rw [ht, List.count_append, hc, List.count_cons_self] at hdots
      have := List.count_pos_iff.mpr hd
      omega
    have hrestne : rest ≠ [] := by
      rintro rfl
      have hlast := h.2
      rw [ht, List.getLast?_concat, hc] at hlast
      exact absurd hlast (by decide)
    rw [isFraction, hc, isDigits_iff.mpr ⟨hrestne, hrest⟩]
    decide

end Utf16
