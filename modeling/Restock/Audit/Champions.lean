import Restock.Audit.Segments

/-!
# The champions

`routing.pick_champions` picks a model for everything (S0), one for each routing segment (S1), and
one for each series (S2), by the errors of the selection block. A series keeps its segment's
champion unless its own winner clears three guardrails.

* `ChampionRow` — a row of the champions;
* `ranked` — the models of some scores by their error;
* `segmentChampion`, `skuChampion` — a champion of S1, and one of S2;
* `pickChampions` — the code;
* `pickChampions_congr` — the champions depend on the segments of the scored series alone.
-/

namespace Restock.Audit.Selection

/-- A strategy of selection. -/
inductive Strategy
  | S0
  | S1
  | S2
  deriving DecidableEq, Repr

/-- What a champion is picked for. -/
inductive Scope
  | global
  | segment
  | sku
  deriving DecidableEq, Repr

/-- A row of the champions. -/
structure ChampionRow where
  strategy : Strategy
  scope : Scope
  scopeValue : String
  championModelId : String
  deriving DecidableEq, Repr

/-- `_merge_segment`: the segment of a series, or `ALL` without one. -/
def segmentOf (segments : List SegmentRow) (series : SeriesKey) : String :=
  ((segments.find? fun g => g.series = series).map SegmentRow.segment).getD "ALL"

/-- The models of some scores that have an error, by their error and their id. -/
def ranked (rows : List ScoreRow) : List (String × ℚ) :=
  ((rows.map ScoreRow.modelId).eraseDups.filterMap fun modelId =>
      (wapeOf (rows.filter fun r => r.modelId = modelId)).map fun wape =>
        (modelId, wape)).insertionSort
    fun a b => a.2 < b.2 ∨ (a.2 = b.2 ∧ a.1 ≤ b.1)

section Code

variable (config : Config) (intermittentOk : Option (List String))

/-- The champion of a segment, of its scores. The segment of intermittent demand is left to models
that handle it. -/
def segmentChampion (segment : String) (rows : List ScoreRow) : String :=
  let cand :=
    if segment = "intermittent" then
      match intermittentOk with
      | some ok => (ranked rows).filter fun c => c.1 ∈ ok
      | none => ranked rows
    else ranked rows
  match cand.head? with
  | some champion => champion.1
  | none =>
      if segment = "intermittent" then config.models.intermittentDefault
      else config.models.defaultChampion

/-- `s.tail(n)`, which leaves out the first ones when `n` is negative. -/
def tail {α : Type} (n : ℤ) (xs : List α) : List α :=
  if 0 ≤ n then xs.drop (xs.length - n.toNat) else xs.drop (-n).toNat

/-- `origin_winner`: the best model at every origin of a series that has one, in order. -/
def originWinners (rows : List ScoreRow) : List String :=
  ((rows.map ScoreRow.originDate).eraseDups.insertionSort (· ≤ ·)).filterMap fun date =>
    (ranked (rows.filter fun r => r.originDate = date)).head?.map Prod.fst

/-- The winner was scored at enough origins. -/
def enoughOrigins (rows : List ScoreRow) (winner : String) : Bool :=
  let dates := (rows.filter fun r => r.modelId = winner).map ScoreRow.originDate
  config.selection.perSkuOverride.minOrigins ≤ dates.eraseDups.length

/-- The winner's error is lower than that of the segment's champion by the margin. -/
def clearsMargin (rows : List ScoreRow) (segChampion : String) (winnerWape : ℚ) : Bool :=
  match wapeOf (rows.filter fun r => r.modelId = segChampion) with
  | some wape =>
      0 < wape ∧ config.selection.perSkuOverride.minMarginPct ≤ 100 * (wape - winnerWape) / wape
  | none => false

/-- The winner won at each of the last origins. -/
def stableWinner (rows : List ScoreRow) (winner : String) : Bool :=
  let windows := config.selection.perSkuOverride.requireStabilityWindows
  let lastK := tail windows (originWinners rows)
  windows ≤ lastK.length && lastK.all fun modelId => modelId = winner

/-- The champion of a series, of its scores. -/
def skuChampion (segChampion : String) (rows : List ScoreRow) : String :=
  match (ranked rows).head? with
  | none => segChampion
  | some winner =>
      if winner.1 = segChampion then segChampion
      else if enoughOrigins config rows winner.1 && clearsMargin config rows segChampion winner.2 &&
          stableWinner config rows winner.1 then winner.1
      else segChampion

/-- The scores of a segment. -/
def segmentRows (segments : List SegmentRow) (rows : List ScoreRow) (segment : String) :
    List ScoreRow :=
  rows.filter fun r => segmentOf segments r.series = segment

/-- The rows of S1: a champion for each segment that has a score. -/
def segmentChampions (segments : List SegmentRow) (rows : List ScoreRow) : List ChampionRow :=
  ((rows.map fun r => segmentOf segments r.series).eraseDups.insertionSort (· ≤ ·)).map
    fun segment =>
      { strategy := .S1
        scope := .segment
        scopeValue := segment
        championModelId :=
          segmentChampion config intermittentOk segment (segmentRows segments rows segment) }

/-- The rows of S2: a champion for each series that has a score. -/
def skuChampions (segments : List SegmentRow) (rows : List ScoreRow) : List ChampionRow :=
  ((rows.map ScoreRow.series).eraseDups.insertionSort seriesLe).map fun series =>
    let segment := segmentOf segments series
    { strategy := .S2
      scope := .sku
      scopeValue := series.sku ++ "|" ++ series.location
      championModelId := skuChampion config
        (segmentChampion config intermittentOk segment (segmentRows segments rows segment))
        (rows.filter fun r => r.series = series) }

/-- The row of S0. -/
def globalChampion : ChampionRow :=
  { strategy := .S0
    scope := .global
    scopeValue := "ALL"
    championModelId := config.models.defaultChampion }

/-- `pick_champions`. -/
def pickChampions (segments : List SegmentRow) (scores : List ScoreRow) : List ChampionRow :=
  let rows := withTerms scores
  globalChampion config ::
    if rows = [] then []
    else
      segmentChampions config intermittentOk segments rows ++
        skuChampions config intermittentOk segments rows

/-! ## What the champions depend on -/

variable {config intermittentOk}

/-- The champions depend on the segments of the scored series alone. -/
theorem pickChampions_congr {g g' : List SegmentRow} {scores : List ScoreRow}
    (h : ∀ r ∈ withTerms scores, segmentOf g r.series = segmentOf g' r.series) :
    pickChampions config intermittentOk g scores =
      pickChampions config intermittentOk g' scores := by
  have hrows : ∀ segment, segmentRows g (withTerms scores) segment =
      segmentRows g' (withTerms scores) segment := by
    intro segment
    refine List.filter_congr fun r hr => ?_
    rw [h r hr]
  have hsegments : ((withTerms scores).map fun r => segmentOf g r.series) =
      (withTerms scores).map fun r => segmentOf g' r.series :=
    List.map_congr_left h
  have hfirst : segmentChampions config intermittentOk g (withTerms scores) =
      segmentChampions config intermittentOk g' (withTerms scores) := by
    simp only [segmentChampions, hsegments, hrows]
  have hsecond : skuChampions config intermittentOk g (withTerms scores) =
      skuChampions config intermittentOk g' (withTerms scores) := by
    rw [skuChampions, skuChampions]
    refine List.map_congr_left fun series hseries => ?_
    -- a series of the list has a score, so that its segment is the same
    rw [List.mem_insertionSort, List.mem_eraseDups, List.mem_map] at hseries
    obtain ⟨r, hr, rfl⟩ := hseries
    simp only [h r hr, hrows]
  rw [pickChampions, pickChampions, hfirst, hsecond]

/-- The segments that S1 has a champion for are those of the scored series. -/
theorem mem_scopeValue_pickChampions {segments : List SegmentRow} {scores : List ScoreRow}
    (segment : String) :
    (∃ c ∈ pickChampions config intermittentOk segments scores,
        c.strategy = .S1 ∧ c.scopeValue = segment) ↔
      ∃ r ∈ withTerms scores, segmentOf segments r.series = segment := by
  rw [pickChampions]
  constructor
  · rintro ⟨c, hc, hstrategy, rfl⟩
    rcases List.mem_cons.mp hc with rfl | hc
    · cases hstrategy
    · split at hc
      · cases hc
      · rcases List.mem_append.mp hc with hc | hc
        · obtain ⟨segment, hsegment, rfl⟩ := List.mem_map.mp hc
          rw [List.mem_insertionSort, List.mem_eraseDups, List.mem_map] at hsegment
          exact hsegment
        · obtain ⟨series, -, rfl⟩ := List.mem_map.mp hc
          cases hstrategy
  · rintro ⟨r, hr, rfl⟩
    have hne : withTerms scores ≠ [] := List.ne_nil_of_mem hr
    rw [if_neg hne]
    refine ⟨_, List.mem_cons_of_mem _ (List.mem_append_left _ (List.mem_map_of_mem ?_)), rfl, rfl⟩
    rw [List.mem_insertionSort, List.mem_eraseDups]
    exact List.mem_map_of_mem hr

end Code

end Restock.Audit.Selection
