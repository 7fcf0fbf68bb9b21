import Restock.Audit.Overrides

/-!
# Combinations and intermittent demand

`decide` handles a SKU by its rule of intermittency when its flag is set or its class of steadiness
is Z. The check that keeps it from combinations (`_combo_ok`) reads the flag alone, and the champion
that is checked is that of the SKU's routing segment.

* `SegmentsFrame`, `skuRows` — the frames `decide` is fed, and the rows its loop goes through;
* `ThirdRule` — the SKUs handled by the rule;
* `Overrules`, `pickModel_cases` — when a champion takes the place of the default;
* `Uncombined` — the SKUs that get no combination;
* `decide_noCombo_iff` — that no SKU of the rule gets one exactly when all of them are such.
-/

namespace Restock.Audit

/-! ## The frames -/

/-- A row of the segments frame. A cell that is missing is absent. -/
structure SegmentCells where
  series : SeriesKey
  abc : Option String := none
  xyz : Option String := none
  lifecycle : Option String := none
  segment : Option String := none
  intermittentFlag : Bool := false
  deriving DecidableEq, Repr

/-- The segments frame, which may lack columns. -/
structure SegmentsFrame where
  rows : List SegmentCells
  hasAbc : Bool := true
  hasXyz : Bool := true
  hasLifecycle : Bool := true
  hasFlag : Bool := true
  hasSegment : Bool := true
  deriving DecidableEq, Repr

section Frames

variable (py : Py)

/-- `str` of a cell. -/
def cellText (cell : Option String) : String :=
  cell.getD py.missing

/-- A row with the defaults of the columns that are missing. -/
def SegmentsFrame.filled (frame : SegmentsFrame) (r : SegmentCells) : SegmentCells where
  series := r.series
  abc := if frame.hasAbc then r.abc else some "C"
  xyz := if frame.hasXyz then r.xyz else some "Z"
  lifecycle := if frame.hasLifecycle then r.lifecycle else some "active"
  segment := if frame.hasSegment then r.segment else none
  intermittentFlag := if frame.hasFlag then r.intermittentFlag else false

/-- `_route`: the routing segment of a row in a frame that carries none. -/
def routeOfCells (r : SegmentCells) : String :=
  if r.intermittentFlag then "intermittent"
  else if r.lifecycle = some "new" ∨ r.lifecycle = some "dormant" then cellText py r.lifecycle
  else cellText py r.abc ++ cellText py r.xyz

/-- The usable weeks that the baseline frame has for a series, one for each of its rows, and zero
when it has none. -/
def usableWeeksOf (baseline : List (SeriesKey × Option ℤ)) (series : SeriesKey) : List ℤ :=
  match baseline.filter fun b => b.1 = series with
  | [] => [0]
  | rows => rows.map fun b => b.2.getD 0

/-- The weeks of a series with sales, of the raw units of the panel. -/
def nonzeroWeeksOf (panel : List (SeriesKey × Option ℚ)) (series : SeriesKey) : ℕ :=
  (panel.filter fun p => p.1 = series ∧ 0 < p.2.getD 0).length

/-- The rows that the loop of `decide` goes through. -/
def skuRows (segments : SegmentsFrame) (baseline : List (SeriesKey × Option ℤ))
    (panel : List (SeriesKey × Option ℚ)) : List SkuRow :=
  let rows := segments.rows.map segments.filled
  let derived := rows.all fun r => r.segment.isNone
  rows.flatMap fun r =>
    (usableWeeksOf baseline r.series).map fun usableWeeks =>
      { series := r.series
        abc := cellText py r.abc
        xyz := cellText py r.xyz
        lifecycle := cellText py r.lifecycle
        segment := if derived then routeOfCells py r else cellText py r.segment
        intermittentFlag := r.intermittentFlag
        usableWeeks
        nonzeroWeeks := nonzeroWeeksOf panel r.series }

end Frames

/-! ## The rule of intermittency -/

/-- A combination's id starts with a C. -/
def IsCombo (model : String) : Prop :=
  model.toList.head? = some 'C'

instance (model : String) : Decidable (IsCombo model) :=
  inferInstanceAs (Decidable (_ = _))

section Code

variable (py : Py) (policy : Policy) (routing : Option Routing)

/-- The SKU is handled by the third rule: it has enough history, is neither dormant nor new, and
its flag is set or it is of class Z. -/
structure ThirdRule (row : SkuRow) : Prop where
  sufficient : ¬ policy.Thin row
  active : row.lifecycle ≠ "dormant" ∧ row.lifecycle ≠ "new"
  intermittent : row.intermittentFlag = true ∨ row.xyz = "Z"

/-- A champion of the SKU's routing segment that clears the bar against the default of
intermittent demand. -/
def Overrules (row : SkuRow) (champion : String) : Prop :=
  ∃ route, (routing.bind fun segments => segments.lookup row.segment) = some route ∧
    champion = challengerOf route policy.autopick.intermittentDefault ∧
    (overrideClears py policy champion policy.autopick.intermittentDefault route).1 = true

/-- What keeps a SKU of the rule from combinations. A champion that clears the bar is no
combination, unless the flag is set, and where the default is a combination, a champion that is
none takes its place. -/
structure Uncombined (row : SkuRow) : Prop where
  champion : ∀ champion, Overrules py policy routing row champion → IsCombo champion →
    row.intermittentFlag = true
  default : IsCombo policy.autopick.intermittentDefault →
    ∃ champion, Overrules py policy routing row champion ∧ ¬ IsCombo champion

variable {policy routing} {row : SkuRow}

/-- A policy that excludes intermittent SKUs lets a combination pass when the flag is not set. -/
theorem comboOk_iff (hexclude : policy.autopick.excludeIntermittentFromCombos = true)
    (model : String) (flag : Bool) :
    comboOk policy model flag = true ↔ ¬ (IsCombo model ∧ flag = true) := by
  rw [comboOk, hexclude, Bool.and_true, IsCombo]
  split
  case isTrue hbase => exact iff_of_true rfl fun h => hbase h.1
  case isFalse hcombo =>
      rw [not_ne_iff] at hcombo
      simp [hcombo]

variable (routing) in
/-- The model of a SKU of the rule: the champion that overrules the default, if it may, and the
default otherwise. -/
theorem pickModel_cases (h : ThirdRule policy row)
    (hexclude : policy.autopick.excludeIntermittentFromCombos = true) :
    (∃ champion, Overrules py policy routing row champion ∧
        ¬ (IsCombo champion ∧ row.intermittentFlag = true) ∧
        (pickModel py policy routing row).model = champion) ∨
      ((∀ champion, Overrules py policy routing row champion →
          IsCombo champion ∧ row.intermittentFlag = true) ∧
        (pickModel py policy routing row).model = policy.autopick.intermittentDefault) := by
  have hdefault : segmentDefaultModel policy row =
      (policy.autopick.intermittentDefault, "intermittent") := if_pos h.intermittent
  rw [pickModel, hdefault]
  dsimp only
  cases hroute : routing.bind fun segments => segments.lookup row.segment with
  | none =>
      -- without a row of the segment nothing overrules
      refine Or.inr ⟨?_, rfl⟩
      rintro _ ⟨route, hroute', -⟩
      rw [hroute] at hroute'
      cases hroute'
  | some route =>
      have hunique : ∀ champion, Overrules py policy routing row champion →
          champion = challengerOf route policy.autopick.intermittentDefault ∧
          (overrideClears py policy champion policy.autopick.intermittentDefault route).1 =
            true := by
        rintro _ ⟨route', hroute', hchampion⟩
        rw [hroute] at hroute'
        cases hroute'
        exact hchampion
      dsimp only
      cases hok : comboOk policy (challengerOf route policy.autopick.intermittentDefault)
          row.intermittentFlag with
      | false =>
          -- the champion is refused for what it is, whether or not it clears the bar
          refine Or.inr ⟨fun champion hover => ?_, rfl⟩
          rw [(hunique champion hover).1]
          by_contra hcombo
          rw [(comboOk_iff hexclude _ _).mpr hcombo] at hok
          cases hok
      | true =>
          rw [Bool.not_true, if_neg Bool.false_ne_true]
          cases hclears : (overrideClears py policy
              (challengerOf route policy.autopick.intermittentDefault)
              policy.autopick.intermittentDefault route).1 with
          | true =>
              rw [if_pos rfl]
              exact Or.inl ⟨_, ⟨route, hroute, rfl, hclears⟩,
                (comboOk_iff hexclude _ _).mp hok, rfl⟩
          | false =>
              rw [if_neg Bool.false_ne_true]
              refine Or.inr ⟨fun champion hover => ?_, rfl⟩
              obtain ⟨rfl, hcleared⟩ := hunique champion hover
              rw [hclears] at hcleared
              cases hcleared

/-- A SKU of the rule gets no combination exactly when something keeps it from them. -/
theorem pickModel_noCombo_iff (h : ThirdRule policy row)
    (hexclude : policy.autopick.excludeIntermittentFromCombos = true) :
    ¬ IsCombo (pickModel py policy routing row).model ↔ Uncombined py policy routing row := by
  rcases pickModel_cases py routing h hexclude with
    ⟨champion, hover, hallowed, hmodel⟩ | ⟨hnone, hmodel⟩
  · rw [hmodel]
    constructor
    · intro hbase
      refine ⟨fun other hother hcombo => ?_, fun _ => ⟨champion, hover, hbase⟩⟩
      -- the segment has one champion
      obtain ⟨route, hroute, rfl, -⟩ := hover
      obtain ⟨route', hroute', rfl, -⟩ := hother
      rw [hroute] at hroute'
      cases hroute'
      exact absurd hcombo hbase
    · exact fun huncombined hcombo => hallowed ⟨hcombo, huncombined.champion champion hover hcombo⟩
  · rw [hmodel]
    constructor
    · exact fun hbase => ⟨fun champion hover _ => (hnone champion hover).2,
        fun hcombo => absurd hcombo hbase⟩
    · intro huncombined hcombo
      obtain ⟨champion, hover, hbase⟩ := huncombined.default hcombo
      exact hbase (hnone champion hover).1

/-- The rule leaves the choice of the model to `_pick_model`. -/
theorem ThirdRule.model (h : ThirdRule policy row) (file : FileFacts) :
    (decideSku py policy file routing row).model = (pickModel py policy routing row).model := by
  rw [decideSku_model, gateModel, if_neg h.sufficient, if_neg h.active.1, if_neg h.active.2,
    Option.getD_none]

end Code

/-- **Combinations and intermittent demand.** For all frames, every routing and every policy that
excludes intermittent SKUs from combinations, every SKU handled by the rule of intermittency gets a
model that is no combination exactly when each of them is kept from combinations: by its flag, or
for want of a combination that clears the bar. -/
theorem decide_noCombo_iff (py : Py) (policy : Policy) (file : FileFacts)
    (routing : Option Routing) (segments : SegmentsFrame) (baseline : List (SeriesKey × Option ℤ))
    (panel : List (SeriesKey × Option ℚ))
    (hexclude : policy.autopick.excludeIntermittentFromCombos = true) :
    (∀ row decision, (row, decision) ∈ (skuRows py segments baseline panel).zip
        (decisionsFor py policy file routing (skuRows py segments baseline panel)) →
        ThirdRule policy row → ¬ IsCombo decision.model) ↔
      ∀ row ∈ skuRows py segments baseline panel, ThirdRule policy row →
        Uncombined py policy routing row := by
  refine forall_congr' fun row => ?_
  simp only [mem_zip_decisionsFor, and_imp, forall_eq_apply_imp_iff]
  refine imp_congr_right fun _ => imp_congr_right fun hrule => ?_
  rw [hrule.model py file]
  exact pickModel_noCombo_iff py hrule hexclude

/-! ## An erratic SKU -/

/-- A SKU of class CZ whose flag is not set. -/
def erraticMug : SegmentsFrame where
  rows :=
    [{ series := ⟨"MUG", "MAIN"⟩
       abc := some "C"
       xyz := some "Z"
       lifecycle := some "active"
       segment := some "CZ" }]

/-- Its segment's champion is a combination with half the error of the default. -/
def medianRouting : Routing :=
  [("CZ",
    { champion := "C1"
      fallback := "M5"
      valWape := some (3 / 10)
      ruleDefaultValWape := some (.number (3 / 5)) })]

/-- The defaults exclude intermittent SKUs from combinations, and the theorem applies to a SKU
that keeps the default. -/
theorem decide_noCombo_erraticMug_unrouted :
    ({} : Policy).autopick.excludeIntermittentFromCombos = true ∧
    ∀ row decision,
      (row, decision) ∈ (skuRows .decimal erraticMug [(⟨"MUG", "MAIN"⟩, some 80)] []).zip
        (decisionsFor .decimal {} {} none
          (skuRows .decimal erraticMug [(⟨"MUG", "MAIN"⟩, some 80)] [])) →
      ThirdRule {} row → ¬ IsCombo decision.model := by
  refine ⟨rfl, (decide_noCombo_iff .decimal {} {} none erraticMug _ [] rfl).mpr ?_⟩
  intro row _ _
  refine ⟨?_, fun hcombo => absurd hcombo (by decide)⟩
  rintro champion ⟨route, hroute, -⟩
  cases hroute

/-- The SKU is handled by the rule of intermittency and gets the combination. -/
theorem decide_combo_erraticMug :
    ({} : Policy).autopick.excludeIntermittentFromCombos = true ∧
    ¬ ∀ row decision,
      (row, decision) ∈ (skuRows .decimal erraticMug [(⟨"MUG", "MAIN"⟩, some 80)] []).zip
        (decisionsFor .decimal {} {} (some medianRouting)
          (skuRows .decimal erraticMug [(⟨"MUG", "MAIN"⟩, some 80)] [])) →
      ThirdRule {} row → ¬ IsCombo decision.model := by
  refine ⟨rfl, fun h => ?_⟩
  have hrows : skuRows .decimal erraticMug [(⟨"MUG", "MAIN"⟩, some 80)] [] =
      [{ series := ⟨"MUG", "MAIN"⟩
         abc := "C"
         xyz := "Z"
         lifecycle := "active"
         segment := "CZ"
         intermittentFlag := false
         usableWeeks := 80
         nonzeroWeeks := 0 }] := by
    decide +kernel
  rw [hrows] at h
  refine h _ _ (List.mem_singleton_self _) ⟨by decide, by decide, by decide⟩ ?_
  decide +kernel

end Restock.Audit
