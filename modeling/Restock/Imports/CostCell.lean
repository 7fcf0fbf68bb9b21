import Restock.Floats.Nearest
import Restock.Utf16.Numerals

/-!
# Cost cells

How the cost import reads the money in a cell (`parseCostCell` of `lib/cost/import.ts`): what is not
a digit, a comma or a dot is taken away, and what is left has to look like a number.

* `parseCostCell`, `parseCost` — a positive number, or a note about what to put right;
* `Currencies` — the symbols and codes that may stand before or after a number;
* `ReadExactly` — a number that is read is the one that the text writes, a currency apart;
* `Survives`, `CutAtEdges` — the text passes the checks on what is left of it; what is taken away
  stands before its first digit and after its last one, and no dot does before;
* `readExactly_iff` — a text is read exactly when, if it survives, it is cut at its edges only.
-/

namespace Restock.Imports

open Json Utf16

/-- `CostCell`: a positive number, or a note the owner can act on. -/
inductive CostCell
  | cost (n : ℚ)
  | refused (note : Text)
deriving DecidableEq

/-- The number of a cell, none with a note. -/
def CostCell.value : CostCell → Option ℚ
  | .cost n => some n
  | .refused _ => none

/-- A note about the text of a cell. -/
def costNote (t : Text) (ending : String) : CostCell :=
  .refused (text "Cost \"" ++ t ++ text ending)

/-- What marks a negative number. -/
def isSign (c : UInt16) : Bool := c = unit '-' || c = unit '(' || c = unit ')'

/-- `Number.parseFloat` of digits with a dot among them at most. -/
def parseFloat (t : Text) : Option ℚ := Floats.nearest (decimalValue t)

/-- `parseCostCell`: a cell without digits is missing, signs are refused, and what is left of the
others is read when it has one dot at most and its commas are thousands separators. -/
def parseCostCell (raw : Option Text) : CostCell :=
  let t := trim (raw.getD [])
  if t = [] then .refused (text "No cost given — add a purchase cost for this row.")
  else if !t.any isDigit then costNote t "\" isn't a number."
  else if (t.filter fun c => isNumeralUnit c || isSign c || c = unit ' ').any isSign then
    costNote t "\" is negative — enter what you pay for one unit, as a positive number."
  else
    let digits := t.filter isNumeralUnit
    if !digits.any isDigit then costNote t "\" isn't a number."
    else if 1 < digits.count (unit '.') then
      costNote t "\" has more than one decimal point — write it like 1,234.50."
    else if unit ',' ∈ digits ∧ ¬isThousands digits then
      costNote t
        "\" — use a dot for decimals and commas only for thousands, like 1,234.50."
    else
      match parseFloat (digits.filter (· ≠ unit ',')) with
      | none => costNote t "\" isn't a number."
      | some n =>
          if n = 0 then .refused (text "Cost is zero — enter the real purchase cost.") else .cost n

/-- `parseCost`: the number, none when the cell is unusable. -/
def parseCost (raw : Option Text) : Option ℚ := (parseCostCell raw).value

/-- Thousands and a currency are read, a sign is refused. -/
example : parseCost (some (text " KES 1,234.50 ")) = some (2469 / 2) ∧
    parseCost (some (text "(50)")) = none := by
  decide +kernel

/-! ## What is asked of a reading -/

/-- The symbols and the codes of currencies: none has a digit. -/
structure Currencies where
  IsMark : Text → Prop
  no_digit : ∀ mark, IsMark mark → ∀ c ∈ mark, isDigit c = false

/-- What may stand before or after a number: blanks, and a currency between them. -/
def Currencies.Margin (currencies : Currencies) (t : Text) : Prop :=
  ∃ before mark after, t = before ++ mark ++ after ∧ Blank before ∧ Blank after ∧
    (mark = [] ∨ currencies.IsMark mark)

/-- A number that is read is the value of the one positive numeral that the text is, apart from
what may stand before and after it. -/
def ReadExactly (currencies : Currencies) (s : Text) : Prop :=
  ∀ v, parseCost (some s) = some v →
    ∃ pre numeral post, s = pre ++ numeral ++ post ∧
      currencies.Margin pre ∧ currencies.Margin post ∧ IsNumeral numeral ∧
      0 < numeralValue numeral ∧ Floats.nearest (numeralValue numeral) = some v

/-! ## When a text is read exactly -/

/-- The text has a digit and no sign, and what is left of it is a number: one dot at most, commas
that are thousands separators, and neither zero nor out of the range of numbers. -/
def Survives (s : Text) : Prop :=
  s.any isDigit = true ∧ s.any isSign = false ∧ s.count (unit '.') ≤ 1 ∧
    (unit ',' ∈ s → isThousands (s.filter isNumeralUnit) = true) ∧
    Floats.nearest (numeralValue (s.filter isNumeralUnit)) ∉ [none, some 0]

/-- Between its first and its last digit the text holds digits, commas and dots only; before and
after them there are blanks and a currency at most, and no dot before. -/
def CutAtEdges (currencies : Currencies) (s : Text) : Prop :=
  ∃ pre core post, s = pre ++ core ++ post ∧
    currencies.Margin pre ∧ currencies.Margin post ∧ unit '.' ∉ pre ∧
    (∀ c ∈ core, isNumeralUnit c = true) ∧ BetweenDigits core

variable {s t : Text}

/-- A unit of a numeral and a sign are not blank. -/
theorem isBlank_of_isNumeralUnit {c : UInt16} (h : isNumeralUnit c = true ∨ isSign c = true) :
    isBlank c = false := by
  simp only [isNumeralUnit, isSign, isDigit, Bool.or_eq_true, Bool.and_eq_true,
    decide_eq_true_eq] at h
  rcases h with ((⟨hlow, hhigh⟩ | rfl) | rfl) | (rfl | rfl) | rfl
  · have hbang : unit '!' ≤ unit '0' := by decide
    have htilde : unit '9' ≤ unit '~' := by decide
    exact isBlank_eq_false (UInt16.le_trans hbang hlow) (UInt16.le_trans hhigh htilde)
  all_goals decide

/-- A digit is a unit of a numeral. -/
theorem isNumeralUnit_of_isDigit {c : UInt16} (h : isDigit c = true) : isNumeralUnit c = true := by
  simp [isNumeralUnit, h]

/-- A number is read from the texts that survive with that number. -/
theorem parseCost_eq_some_iff (s : Text) (v : ℚ) :
    parseCost (some s) = some v ↔
      s.any isDigit = true ∧ s.any isSign = false ∧ s.count (unit '.') ≤ 1 ∧
        (unit ',' ∈ s → isThousands (s.filter isNumeralUnit) = true) ∧
        Floats.nearest (numeralValue (s.filter isNumeralUnit)) = some v ∧ v ≠ 0 := by
  have hkept : (trim s).filter isNumeralUnit = s.filter isNumeralUnit :=
    filter_trim (fun c hc => isBlank_of_isNumeralUnit (Or.inl hc)) s
  have hdigit : (trim s).any isDigit = s.any isDigit :=
    any_trim (fun c hc => isBlank_of_isNumeralUnit (Or.inl (isNumeralUnit_of_isDigit hc))) s
  have hkeptDigit : (s.filter isNumeralUnit).any isDigit = s.any isDigit := by
    rw [List.any_filter]
    congr 1
    funext c
    by_cases hc : isDigit c = true <;> simp [hc, isNumeralUnit]
  have hsign : ((trim s).filter fun c => isNumeralUnit c || isSign c || c = unit ' ').any isSign =
      s.any isSign := by
    rw [List.any_filter, ← any_trim (fun c hc => isBlank_of_isNumeralUnit (Or.inr hc)) s]
    congr 1
    funext c
    by_cases hc : isSign c = true <;> simp [hc]
  have hdots : (s.filter isNumeralUnit).count (unit '.') = s.count (unit '.') :=
    List.count_filter (by decide)
  have hcomma : unit ',' ∈ s.filter isNumeralUnit ↔ unit ',' ∈ s := by
    rw [List.mem_filter]
    exact and_iff_left (by decide)
  have hempty : trim s = [] → s.any isDigit = false := fun h => by rw [← hdigit, h]; rfl
  have hnumber : (match parseFloat ((s.filter isNumeralUnit).filter (· ≠ unit ',')) with
      | none => costNote (trim s) "\" isn't a number."
      | some n =>
          if n = 0 then CostCell.refused (text "Cost is zero — enter the real purchase cost.")
          else CostCell.cost n).value = some v ↔
      Floats.nearest (numeralValue (s.filter isNumeralUnit)) = some v ∧ v ≠ 0 := by
    rw [parseFloat, ← numeralValue]
    cases Floats.nearest (numeralValue (s.filter isNumeralUnit)) with
    | none => simp [costNote, CostCell.value]
    | some n =>
        by_cases hn : n = 0
        · simp only [hn, if_true, CostCell.value, Option.some.injEq]
          exact iff_of_false (by simp) fun h => h.2 h.1.symm
        · simp only [hn, if_false, CostCell.value, Option.some.injEq]
          exact ⟨fun h => ⟨h, h ▸ hn⟩, fun h => h.1⟩
  -- the checks of the code, in their order
  simp only [parseCost, parseCostCell, Option.getD_some, hkept, hdigit, hsign, hkeptDigit, hdots,
    hcomma]
  by_cases h₁ : s.any isDigit = true
  swap
  · refine iff_of_false ?_ fun h => h₁ h.1
    by_cases hnil : trim s = [] <;> simp [hnil, h₁, costNote, CostCell.value]
  rw [if_neg fun h => by simp [hempty h] at h₁, h₁, Bool.not_true, if_neg Bool.false_ne_true]
  by_cases h₂ : s.any isSign = false
  swap
  · rw [if_pos (by simpa using h₂)]
    exact iff_of_false (by simp [costNote, CostCell.value]) fun h => h₂ h.2.1
  rw [h₂, if_neg Bool.false_ne_true, if_neg Bool.false_ne_true]
  by_cases h₃ : s.count (unit '.') ≤ 1
  swap
  · rw [if_pos (not_le.mp h₃)]
    exact iff_of_false (by simp [costNote, CostCell.value]) fun h => h₃ h.2.2.1
  rw [if_neg (not_lt.mpr h₃)]
  by_cases h₄ : unit ',' ∈ s → isThousands (s.filter isNumeralUnit) = true
  swap
  · rw [if_pos (by simpa using h₄)]
    exact iff_of_false (by simp [costNote, CostCell.value]) fun h => h₄ h.2.2.2.1
  rw [if_neg fun h => h.2 (h₄ h.1), hnumber]
  exact ⟨fun h => ⟨rfl, rfl, h₃, h₄, h⟩, fun h => h.2.2.2.2⟩

/-! ## What stands at the edges -/

/-- There is no digit in a margin. -/
theorem Currencies.Margin.no_digit {currencies : Currencies} (h : currencies.Margin t) :
    ∀ c ∈ t, isDigit c = false := by
  obtain ⟨before, mark, after, rfl, hbefore, hafter, hmark⟩ := h
  have hblank : ∀ u, Blank u → ∀ c ∈ u, isDigit c = false := by
    intro u hu c hc
    by_contra hdigit
    have hnot := isBlank_of_isNumeralUnit
      (Or.inl (isNumeralUnit_of_isDigit (Bool.eq_true_of_not_eq_false hdigit)))
    exact Bool.false_ne_true (hnot.symm.trans (hu c hc))
  intro c hc
  rw [List.mem_append, List.mem_append] at hc
  rcases hc with (hc | hc) | hc
  · exact hblank before hbefore c hc
  · rcases hmark with rfl | hmark
    · exact absurd hc List.not_mem_nil
    · exact currencies.no_digit mark hmark c hc
  · exact hblank after hafter c hc

/-- Without digits in them, there is nothing at the edges of what stands between digits. -/
theorem edges_of_betweenDigits {before core after : Text}
    (hbefore : ∀ c ∈ before, isDigit c = false) (hafter : ∀ c ∈ after, isDigit c = false)
    (h : BetweenDigits (before ++ core ++ after)) : before = [] ∧ after = [] := by
  obtain ⟨hfirst, hlast⟩ := h
  constructor
  · cases before with
    | nil => rfl
    | cons c before =>
        have hc : isDigit c = true := by simpa using hfirst
        exact absurd (hbefore c List.mem_cons_self) (by simp [hc])
  · cases after using List.reverseRecOn with
    | nil => rfl
    | append_singleton after c =>
        rw [← List.append_assoc, List.getLast?_concat] at hlast
        have hc : isDigit c = true := by simpa using hlast
        exact absurd (hafter c (by simp)) (by simp [hc])

/-- Units of a numeral that are neither digits nor commas are dots. -/
theorem eq_dots {u : Text} (hunits : ∀ c ∈ u, isNumeralUnit c = true)
    (hdigit : ∀ c ∈ u, isDigit c = false) (hcomma : unit ',' ∉ u) :
    u = List.replicate (u.count (unit '.')) (unit '.') := by
  have hall : ∀ c ∈ u, unit '.' = c := by
    intro c hc
    have hc' := hunits c hc
    simp only [isNumeralUnit, hdigit c hc, Bool.false_or, Bool.or_eq_true,
      decide_eq_true_eq] at hc'
    exact (hc'.resolve_left fun h => hcomma (h ▸ hc)).symm
  rw [List.count_eq_length.mpr hall]
  exact List.eq_replicate_iff.mpr ⟨rfl, fun c hc => (hall c hc).symm⟩

/-- Without commas, a numeral is valued as it stands. -/
theorem numeralValue_of_notMem {u : Text} (h : unit ',' ∉ u) : numeralValue u = decimalValue u := by
  rw [numeralValue, List.filter_eq_self.mpr]
  intro c hc
  exact decide_eq_true fun hcomma => h (hcomma ▸ hc)

section Edges

variable {pre core post : Text}

/-- What is left of a text that survives, when its digits stand in the middle: thousands with
nothing about them, or a text without commas and dots about it. -/
theorem filter_edges (hpre : ∀ c ∈ pre, isDigit c = false) (hpost : ∀ c ∈ post, isDigit c = false)
    (hcore : ∀ c ∈ core, isNumeralUnit c = true)
    (hcommas : unit ',' ∈ pre ++ core ++ post →
      isThousands ((pre ++ core ++ post).filter isNumeralUnit) = true) :
    (pre.filter isNumeralUnit = [] ∧ post.filter isNumeralUnit = [] ∧ isThousands core = true ∧
        (pre ++ core ++ post).filter isNumeralUnit = core) ∨
      unit ',' ∉ core ∧ (pre ++ core ++ post).filter isNumeralUnit =
        List.replicate (pre.count (unit '.')) (unit '.') ++ core ++
          List.replicate (post.count (unit '.')) (unit '.') := by
  have hfilter : (pre ++ core ++ post).filter isNumeralUnit =
      pre.filter isNumeralUnit ++ core ++ post.filter isNumeralUnit := by
    rw [List.filter_append, List.filter_append, List.filter_eq_self.mpr hcore]
  by_cases hcomma : unit ',' ∈ pre ++ core ++ post
  · -- thousands begin and end with digits, which are all in the middle
    have hthousands := hcommas hcomma
    rw [hfilter] at hthousands
    obtain ⟨hbefore, hafter⟩ := edges_of_betweenDigits
      (fun c hc => hpre c (List.mem_of_mem_filter hc))
      (fun c hc => hpost c (List.mem_of_mem_filter hc))
      (IsNumeral.of_isThousands hthousands).spec.2
    rw [hbefore, hafter, List.nil_append, List.append_nil] at hthousands hfilter
    exact Or.inl ⟨hbefore, hafter, hthousands, hfilter⟩
  · simp only [List.mem_append, not_or] at hcomma
    have hdots : ∀ u : Text, (∀ c ∈ u, isDigit c = false) → unit ',' ∉ u →
        u.filter isNumeralUnit = List.replicate (u.count (unit '.')) (unit '.') := by
      intro u hu hnone
      have hcount : (u.filter isNumeralUnit).count (unit '.') = u.count (unit '.') :=
        List.count_filter (by decide)
      rw [← hcount]
      exact eq_dots (fun c hc => (List.mem_filter.mp hc).2)
        (fun c hc => hu c (List.mem_of_mem_filter hc)) fun h => hnone (List.mem_of_mem_filter h)
    rw [hfilter, hdots pre hpre hcomma.1.1, hdots post hpost hcomma.2]
    exact Or.inr ⟨hcomma.1.2, rfl⟩

/-- What is cut at its edges only is read exactly. -/
theorem isNumeral_of_cutAtEdges (hpre : ∀ c ∈ pre, isDigit c = false)
    (hpost : ∀ c ∈ post, isDigit c = false) (hdot : unit '.' ∉ pre)
    (hcore : ∀ c ∈ core, isNumeralUnit c = true) (hbetween : BetweenDigits core)
    (hdots : (pre ++ core ++ post).count (unit '.') ≤ 1)
    (hcommas : unit ',' ∈ pre ++ core ++ post →
      isThousands ((pre ++ core ++ post).filter isNumeralUnit) = true) :
    IsNumeral core ∧
      numeralValue ((pre ++ core ++ post).filter isNumeralUnit) = numeralValue core := by
  rcases filter_edges hpre hpost hcore hcommas with ⟨-, -, hthousands, hleft⟩ | ⟨hcomma, hleft⟩
  · exact ⟨IsNumeral.of_isThousands hthousands, by rw [hleft]⟩
  · rw [List.count_append, List.count_append] at hdots
    have hunits : ∀ c ∈ core, isDigit c = true ∨ c = unit '.' := by
      intro c hc
      have hunit := hcore c hc
      simp only [isNumeralUnit, Bool.or_eq_true, decide_eq_true_eq] at hunit
      exact hunit.imp_left fun h => h.resolve_right fun h => hcomma (h ▸ hc)
    refine ⟨IsNumeral.of_dot hunits (by omega) hbetween, ?_⟩
    rw [hleft, List.count_eq_zero_of_not_mem hdot, List.replicate_zero, List.nil_append,
      numeralValue_of_notMem hcomma]
    -- a dot may stand after the number, when there is none in it
    by_cases hpostDot : unit '.' ∈ post
    · have hpos := List.count_pos_iff.mpr hpostDot
      have hone : post.count (unit '.') = 1 := by omega
      have hnone : unit '.' ∉ core := List.count_eq_zero.mp (by omega)
      rw [hone, List.replicate_one, numeralValue_of_notMem (by simp [hcomma]; decide),
        decimalValue_append_dot hnone]
    · rw [List.count_eq_zero_of_not_mem hpostDot, List.replicate_zero, List.append_nil,
        numeralValue_of_notMem hcomma]

/-- A dot before the number makes it a fraction, and another number. -/
theorem notMem_dot_of_nearest (hpre : ∀ c ∈ pre, isDigit c = false)
    (hpost : ∀ c ∈ post, isDigit c = false) (hcore : IsNumeral core)
    (hdots : (pre ++ core ++ post).count (unit '.') ≤ 1)
    (hcommas : unit ',' ∈ pre ++ core ++ post →
      isThousands ((pre ++ core ++ post).filter isNumeralUnit) = true) {v : ℚ}
    (hv : Floats.nearest (numeralValue ((pre ++ core ++ post).filter isNumeralUnit)) = some v)
    (hcoreValue : Floats.nearest (numeralValue core) = some v) (hne : v ≠ 0) :
    unit '.' ∉ pre := by
  intro hdot
  obtain ⟨hunits, hbetween⟩ := hcore.spec
  rcases filter_edges hpre hpost hunits hcommas with ⟨hnil, -⟩ | ⟨hcomma, hleft⟩
  · have hmem : unit '.' ∈ pre.filter isNumeralUnit := List.mem_filter.mpr ⟨hdot, by decide⟩
    rw [hnil] at hmem
    exact List.not_mem_nil hmem
  · -- the dot is the only one, so that the digits after it are all of the number
    rw [List.count_append, List.count_append] at hdots
    have hpos := List.count_pos_iff.mpr hdot
    have hone : pre.count (unit '.') = 1 := by omega
    have hzero : post.count (unit '.') = 0 := by omega
    have hnone : unit '.' ∉ core := List.count_eq_zero.mp (by omega)
    rw [hleft, hone, hzero, List.replicate_one, List.replicate_zero, List.append_nil,
      List.singleton_append, numeralValue_of_notMem (by simp [hcomma]; decide),
      decimalValue_dot_cons] at hv
    rw [numeralValue_of_notMem hcomma, decimalValue_of_notMem hnone] at hcoreValue
    have hlength : core.length ≠ 0 := by
      rintro h
      rw [List.length_eq_zero_iff.mp h] at hbetween
      exact absurd hbetween.1 (by decide)
    have hlt := Floats.lt_of_nearest (by positivity) (by positivity) hv hcoreValue hne
    have htenth : (10 : ℚ) * (digitsValue core / 10 ^ core.length) ≤ digitsValue core := by
      rw [← mul_div_assoc, div_le_iff₀ (by positivity), mul_comm]
      exact mul_le_mul_of_nonneg_left (le_self_pow₀ (by norm_num) hlength) (by positivity)
    exact absurd hlt (not_lt.mpr htenth)

end Edges

/-! ## Read exactly, or not -/

/-- A text is read exactly when, if it survives, what is taken away stands at its edges only. -/
theorem readExactly_iff (currencies : Currencies) (s : Text) :
    ReadExactly currencies s ↔ (Survives s → CutAtEdges currencies s) := by
  constructor
  · rintro h ⟨hdigit, hsign, hdots, hcommas, hvalue⟩
    obtain ⟨v, hv⟩ : ∃ v, Floats.nearest (numeralValue (s.filter isNumeralUnit)) = some v :=
      Option.ne_none_iff_exists'.mp fun h => hvalue (by simp [h])
    have hne : v ≠ 0 := fun h => hvalue (by simp [hv, h])
    obtain ⟨pre, core, post, rfl, hpre, hpost, hcore, -, hcoreValue⟩ :=
      h v ((parseCost_eq_some_iff s v).mpr ⟨hdigit, hsign, hdots, hcommas, hv, hne⟩)
    exact ⟨pre, core, post, rfl, hpre, hpost,
      notMem_dot_of_nearest hpre.no_digit hpost.no_digit hcore hdots hcommas hv hcoreValue hne,
      hcore.spec⟩
  · intro h v hv
    obtain ⟨hdigit, hsign, hdots, hcommas, hv, hne⟩ := (parseCost_eq_some_iff s v).mp hv
    obtain ⟨pre, core, post, rfl, hpre, hpost, hdot, hcore, hbetween⟩ :=
      h ⟨hdigit, hsign, hdots, hcommas, by simp [hv, hne]⟩
    obtain ⟨hnumeral, hvalue⟩ := isNumeral_of_cutAtEdges hpre.no_digit hpost.no_digit hdot hcore
      hbetween hdots hcommas
    rw [hvalue] at hv
    have hnonneg : 0 ≤ numeralValue core := decimalValue_nonneg _
    have hpos : 0 < numeralValue core := by
      have hbounds := Floats.bounds_of_nearest hnonneg hv hne
      linarith [hbounds.1, hbounds.2]
    exact ⟨pre, core, post, rfl, hpre, hpost, hnumeral, hpos, hv⟩

/-- Whatever the currencies are, two groups of digits are read as one number. -/
theorem not_readExactly :
    ¬∃ currencies : Currencies, ReadExactly currencies (text "12 34") := by
  rintro ⟨currencies, h⟩
  obtain ⟨pre, numeral, post, hs, hpre, hpost, hnumeral, -⟩ := h 1234 (by decide +kernel)
  have hbetween : BetweenDigits (pre ++ numeral ++ post) := by
    rw [← hs]
    decide +kernel
  obtain ⟨rfl, rfl⟩ := edges_of_betweenDigits hpre.no_digit hpost.no_digit hbetween
  -- the blank between the groups would be a unit of the numeral
  rw [List.nil_append, List.append_nil] at hs
  have hblank : unit ' ' ∈ numeral := by
    rw [← hs]
    decide +kernel
  exact absurd (hnumeral.spec.1 _ hblank) (by decide)

end Restock.Imports
