import Restock.Audit.Chain
import Restock.Series.Loops

/-!
# The trailing cap

`trailing_winsorize` of `clean/trailing.py`: a walk in time order that caps a value at a multiple of
the median of the capped values in the window before it.

* `trailingWinsorize` — the walk, on cells with their place in the mask;
* `winsorizeCell_fixed` — a cell that is within its cap is left alone;
* `map_toCell_winsorize` — the fifteenth step of the chain is this walk.
-/

namespace Restock.Audit

open Series (median scan)

/-- A place of a series: its value, nothing for NaN, and what the masks say of it. -/
structure Cell where
  value : Option ℚ
  /-- `skip_mask`, which is false throughout when it is not given. -/
  skip : Bool := false
  /-- `capped_flag`; an input has none. -/
  capped : Bool := false
  deriving DecidableEq, Repr

/-- The value that a cell adds to the windows after it. -/
def Cell.seen (c : Cell) : Option ℚ :=
  if c.skip then none else c.value

/-- A cell without its flag. -/
def Cell.unflagged (c : Cell) : Cell :=
  { c with capped := false }

section Code

variable (window : ℕ) (multiple : ℚ)

/-- `past`: the values in the window at the end of what is walked. -/
def pastOf (before : List Cell) : List ℚ :=
  (before.drop (before.length - window)).filterMap Cell.seen

/-- The cap at a place; nothing without a median above zero. -/
def capOf (before : List Cell) : Option ℚ :=
  let past := pastOf window before
  if past = [] ∨ median past ≤ 0 then none else some (multiple * median past)

/-- One turn of the walk. -/
def winsorizeCell (before : List Cell) (c : Cell) : Cell :=
  if c.skip then c.unflagged
  else
    match c.value, capOf window multiple before with
    | some value, some cap =>
        if cap < value then { c with value := some cap, capped := true } else c.unflagged
    | _, _ => c.unflagged

/-- `trailing_winsorize`. -/
def trailingWinsorize (cells : List Cell) : List Cell :=
  scan (winsorizeCell window multiple) cells

variable {window multiple}

/-! ## One turn -/

@[simp] theorem skip_winsorizeCell (before : List Cell) (c : Cell) :
    (winsorizeCell window multiple before c).skip = c.skip := by
  rw [winsorizeCell]
  split
  · rfl
  · split
    · split <;> rfl
    · rfl

/-- What a turn can do: it leaves the value, or it caps one that is above the cap. -/
theorem winsorizeCell_cases (before : List Cell) (c : Cell) :
    winsorizeCell window multiple before c = c.unflagged ∧
        (c.skip = false → ∀ value ∈ c.value, ∀ cap ∈ capOf window multiple before, value ≤ cap) ∨
      ∃ value cap, c.skip = false ∧ c.value = some value ∧ capOf window multiple before = some cap ∧
        cap < value ∧
        winsorizeCell window multiple before c = { c with value := some cap, capped := true } := by
  rw [winsorizeCell]
  by_cases hskip : c.skip = true
  · rw [if_pos hskip]
    exact Or.inl ⟨rfl, fun h => absurd (hskip.symm.trans h) Bool.noConfusion⟩
  · rw [if_neg hskip]
    cases hvalue : c.value with
    | none => exact Or.inl ⟨rfl, fun _ value h => absurd h (Option.not_mem_none value)⟩
    | some value =>
        cases hcap : capOf window multiple before with
        | none => exact Or.inl ⟨rfl, fun _ _ _ cap h => absurd h (Option.not_mem_none cap)⟩
        | some cap =>
            dsimp only
            by_cases hlt : cap < value
            · rw [if_pos hlt]
              exact Or.inr ⟨value, cap, Bool.eq_false_iff.mpr hskip, rfl, rfl, hlt, rfl⟩
            · rw [if_neg hlt]
              refine Or.inl ⟨rfl, fun _ v hv k hk => ?_⟩
              rw [← Option.some.inj hv, ← Option.some.inj hk]
              exact not_lt.mp hlt

/-- A cell that is within its cap is left alone. -/
theorem winsorizeCell_fixed {before : List Cell} {c : Cell}
    (h : c.skip = false → ∀ value ∈ c.value, ∀ cap ∈ capOf window multiple before, value ≤ cap) :
    winsorizeCell window multiple before c = c.unflagged := by
  rcases winsorizeCell_cases before c with ⟨hkeep, -⟩ | ⟨value, cap, hskip, hv, hcap, hlt, -⟩
  · exact hkeep
  · exact absurd (h hskip value hv cap hcap) (not_le.mpr hlt)

/-- What a turn puts out is within its cap. -/
theorem le_cap_winsorizeCell {before : List Cell} {c : Cell} (hskip : c.skip = false)
    {value cap : ℚ} (hv : (winsorizeCell window multiple before c).value = some value)
    (hcap : capOf window multiple before = some cap) : value ≤ cap := by
  rcases winsorizeCell_cases before c with ⟨hkeep, hle⟩ | ⟨_, _, -, -, hcap', -, hturn⟩
  · rw [hkeep] at hv
    exact hle hskip value hv cap hcap
  · rw [hturn] at hv
    rw [← Option.some.inj hv, Option.some.inj (hcap'.symm.trans hcap)]

variable (window multiple) in
/-- A turn never increases a value, and flags the cell exactly where it changes the value. -/
theorem winsorizeCell_value (before : List Cell) (c : Cell) :
    (∀ value ∈ c.value, ∃ value' ∈ (winsorizeCell window multiple before c).value,
      value' ≤ value) ∧
    ((c.skip = true ∨ c.value = none) →
      (winsorizeCell window multiple before c).value = c.value) ∧
    ((winsorizeCell window multiple before c).capped = true ↔
      (winsorizeCell window multiple before c).value ≠ c.value) := by
  rcases winsorizeCell_cases before c with ⟨hkeep, -⟩ | ⟨value, cap, hskip, hvalue, -, hlt, hturn⟩
  · rw [hkeep]
    exact ⟨fun value hv => ⟨value, hv, le_refl value⟩, fun _ => rfl,
      fun h => absurd h Bool.noConfusion, fun h => absurd rfl h⟩
  · rw [hturn, hvalue, hskip]
    refine ⟨fun v hv => ⟨cap, rfl, ?_⟩, ?_, fun _ heq => ?_, fun _ => rfl⟩
    · rw [← Option.some.inj hv]
      exact hlt.le
    · rintro (h | h) <;> cases h
    · exact hlt.ne (Option.some.inj heq)

/-- The windows do not look at the flags. -/
@[simp] theorem capOf_map_unflagged (before : List Cell) :
    capOf window multiple (before.map Cell.unflagged) = capOf window multiple before := by
  have hpast : pastOf window (before.map Cell.unflagged) = pastOf window before := by
    rw [pastOf, pastOf, List.length_map, ← List.map_drop, List.filterMap_map]
    rfl
  rw [capOf, capOf, hpast]

/-! ## The walk -/

variable (window multiple) in
/-- What the walk puts out at a place: the value of a cell that is within its cap, or the cap. -/
theorem getElem?_trailingWinsorize {cells : List Cell} {t : ℕ} {c : Cell} (h : cells[t]? = some c) :
    (trailingWinsorize window multiple cells)[t]? =
      some (winsorizeCell window multiple
        ((trailingWinsorize window multiple cells).take t) c) := by
  rw [trailingWinsorize, Series.getElem?_scan, h, Option.map_some]

/-- The cap at a place is the multiple of the median of its window, where that is above zero. -/
theorem capOf_eq_some {before : List Cell} (h : 0 < median (pastOf window before)) :
    capOf window multiple before = some (multiple * median (pastOf window before)) := by
  have hne : pastOf window before ≠ [] := by
    rintro hnil
    rw [hnil] at h
    exact lt_irrefl 0 h
  rw [capOf, if_neg (not_or.mpr ⟨hne, not_le.mpr h⟩)]

/-- The walk does not look at the flags of its input. -/
theorem trailingWinsorize_map_unflagged (cells : List Cell) :
    trailingWinsorize window multiple (cells.map Cell.unflagged) =
      trailingWinsorize window multiple cells := by
  have hmap := Series.map_scan (winsorizeCell window multiple) (winsorizeCell window multiple) id
    Cell.unflagged (fun before c => by rw [List.map_id]; rfl) cells
  rw [trailingWinsorize, ← hmap, List.map_id, trailingWinsorize]

/-- Walked again, the output of the walk stays as it is, and nothing is flagged. -/
theorem trailingWinsorize_again (cells : List Cell) :
    trailingWinsorize window multiple (trailingWinsorize window multiple cells) =
      (trailingWinsorize window multiple cells).map Cell.unflagged := by
  rw [← trailingWinsorize_map_unflagged, trailingWinsorize]
  refine Series.scan_eq_self fun t row hrow => ?_
  rw [List.getElem?_map, Option.map_eq_some_iff] at hrow
  obtain ⟨out, hout, rfl⟩ := hrow
  have hlt : t < cells.length := by
    have := (List.getElem?_eq_some_iff.mp hout).1
    rwa [trailingWinsorize, Series.length_scan] at this
  have hturn := getElem?_trailingWinsorize window multiple (List.getElem?_eq_getElem hlt)
  rw [hout] at hturn
  -- the window holds the values it held the first time, and the cell is within its cap by then
  refine winsorizeCell_fixed fun hskip value hv cap hcap => ?_
  rw [← List.map_take, capOf_map_unflagged] at hcap
  rw [Option.some.inj hturn] at hskip hv
  exact le_cap_winsorizeCell ((skip_winsorizeCell _ _).symm.trans hskip) hv hcap

/-- **The trailing cap is an idempotent contraction.** At every place the walk keeps the mask and
whether there is a value, never increases the value, changes it exactly where it flags the cell, and
leaves it within the multiple of the median of the outputs in its window; walked again, its output
stays as it is, and nothing is flagged. -/
theorem trailingWinsorize_contraction (window : ℕ) (multiple : ℚ) (cells : List Cell) :
    (trailingWinsorize window multiple cells).length = cells.length ∧
    (∀ t cell row, cells[t]? = some cell →
      (trailingWinsorize window multiple cells)[t]? = some row →
        row.skip = cell.skip ∧
        (∀ value ∈ cell.value, ∃ value' ∈ row.value, value' ≤ value) ∧
        (cell.skip = true ∨ cell.value = none → row.value = cell.value) ∧
        (row.capped = true ↔ row.value ≠ cell.value) ∧
        (row.skip = false →
          0 < median (pastOf window ((trailingWinsorize window multiple cells).take t)) →
          ∀ value ∈ row.value, value ≤
            multiple * median (pastOf window ((trailingWinsorize window multiple cells).take t)))) ∧
    trailingWinsorize window multiple (trailingWinsorize window multiple cells) =
      (trailingWinsorize window multiple cells).map Cell.unflagged := by
  refine ⟨Series.length_scan _ cells, fun t cell row hcell hrow => ?_,
    trailingWinsorize_again cells⟩
  rw [getElem?_trailingWinsorize window multiple hcell] at hrow
  obtain rfl := Option.some.inj hrow
  set before := (trailingWinsorize window multiple cells).take t
  obtain ⟨hle, hkeep, hflag⟩ := winsorizeCell_value window multiple before cell
  refine ⟨skip_winsorizeCell before cell, hle, hkeep, hflag, fun hskip hmedian value hv => ?_⟩
  rw [skip_winsorizeCell] at hskip
  exact le_cap_winsorizeCell hskip hv (capOf_eq_some hmedian)

/-! ## The step of the chain -/

/-- A row of the panel as a cell. -/
def PanelRow.toCell (r : PanelRow) : Cell where
  value := some r.unitsCorrected
  skip := r.skip
  capped := r.winsorizeCappedFlag

end Code

section Step

variable (config : Config)

/-- The cap of a row of the panel is the cap of its cell. -/
theorem winsorizeCap_eq (before : List PanelRow) :
    winsorizeCap config before =
      capOf config.baseline.windowWeeks.toNat config.baseline.winsorizeMultiple
        (before.map PanelRow.toCell) := by
  have hpast : ∀ rows : List PanelRow, (rows.filter fun r => !r.skip).map PanelRow.unitsCorrected =
      (rows.map PanelRow.toCell).filterMap Cell.seen := by
    intro rows
    induction rows with
    | nil => rfl
    | cons r rows ih =>
        rw [List.filter_cons, List.map_cons, List.filterMap_cons]
        cases hskip : r.skip with
        | true =>
            have hseen : r.toCell.seen = none := if_pos hskip
            rw [hseen, if_neg (by simp), ih]
        | false =>
            have hseen : r.toCell.seen = some r.unitsCorrected :=
              if_neg (by simp [PanelRow.toCell, hskip])
            rw [hseen, if_pos (by simp), List.map_cons, ih]
  rw [winsorizeCap, capOf, pastOf, List.length_map, ← List.map_drop, ← hpast]

/-- A turn of the step is a turn of the walk. -/
theorem toCell_winsorizeRow (before : List PanelRow) (r : PanelRow) :
    (winsorizeRow config before r).toCell =
      winsorizeCell config.baseline.windowWeeks.toNat config.baseline.winsorizeMultiple
        (before.map PanelRow.toCell) r.toCell := by
  rw [winsorizeRow, winsorizeCell, ← winsorizeCap_eq]
  cases hskip : r.skip with
  | true =>
      rw [if_pos rfl, if_pos (show r.toCell.skip = true from hskip)]
      rfl
  | false =>
      have hcell : ¬ r.toCell.skip = true := by simp [PanelRow.toCell, hskip]
      rw [if_neg Bool.noConfusion, if_neg hcell]
      cases winsorizeCap config before with
      | none => rfl
      | some cap =>
          dsimp only [PanelRow.toCell]
          split <;> rfl

/-- `step_15_winsorize` is `trailing_winsorize` with the promotions and bulk orders masked. -/
theorem map_toCell_winsorize (rows : List PanelRow) :
    (winsorize config rows).map PanelRow.toCell =
      trailingWinsorize config.baseline.windowWeeks.toNat config.baseline.winsorizeMultiple
        (rows.map PanelRow.toCell) :=
  Series.map_scan (winsorizeRow config) _ PanelRow.toCell PanelRow.toCell
    (toCell_winsorizeRow config) rows

end Step

end Restock.Audit
