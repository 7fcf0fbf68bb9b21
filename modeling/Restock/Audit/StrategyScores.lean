import Restock.Audit.SegmentWinners

/-!
# The rows of a strategy

`routing.strategy_scores` keeps of every series the scored rows of the champion a strategy gave it.
The champions of S2 are stored under a key that is glued from the SKU and the location of the
series, so two series whose keys agree are scored on one champion.

* `skuKey`, `strategyScores` — the code;
* `segmentWinner`, `seriesWinner`, `ownChampion` — the champion a series was given;
* `EarnedOverride` — what lets a series have a champion of its own;
* `strategyRows_pickChampions` — the champions of a strategy;
* `lookedUp_eq_ownChampion` — what is looked up where no keys are shared;
* `scoredOnOwn_iff` — that the strategies are scored on the champions they chose exactly when no
  two series share a key.
-/

namespace Restock.Audit.Selection

open Series (setEntries lookup_setEntries_map)

/-! ## The code -/

/-- The key under which the champion of a series is stored. -/
def skuKey (series : SeriesKey) : String :=
  series.sku ++ "|" ++ series.location

section Code

variable (segments : List SegmentRow) (champions : List ChampionRow)

/-- The champions of a strategy. -/
def strategyRows (strategy : Strategy) : List ChampionRow :=
  champions.filter fun c => c.strategy = strategy

/-- The champions of a strategy by what they were picked for. -/
def championMap (strategy : Strategy) : List (String × String) :=
  setEntries [] ((strategyRows champions strategy).map fun c => (c.scopeValue, c.championModelId))

/-- The champion of S0. -/
def defaultOf : Option String :=
  (strategyRows champions .S0).head?.map ChampionRow.championModelId

/-- The champion that is looked up for a series: its own, that of its segment, or the default. -/
def lookedUp (strategy : Strategy) (series : SeriesKey) : Option String :=
  let segmentChampion := (championMap champions .S1).lookup (segmentOf segments series)
  match strategy with
  | .S0 => defaultOf champions
  | .S1 => segmentChampion.or (defaultOf champions)
  | .S2 =>
      (((championMap champions .S2).lookup (skuKey series)).or segmentChampion).or
        (defaultOf champions)

/-- `strategy_scores`. -/
def strategyScores (scores : List ScoreRow) : List (Strategy × ScoreRow) :=
  let scored := scores.filter ScoreRow.scored
  [Strategy.S0, .S1, .S2].flatMap fun strategy =>
    if strategyRows champions strategy = [] then []
    else
      (scored.filter fun r =>
        lookedUp segments champions strategy r.series = some r.modelId).map fun r => (strategy, r)

end Code

/-! ## The champion a series was given -/

section Own

variable (config : Config) (intermittentOk : Option (List String)) (segments : List SegmentRow)
  (sel : List ScoreRow)

/-- The scores of a series. -/
def seriesRows (series : SeriesKey) : List ScoreRow :=
  (withTerms sel).filter fun r => r.series = series

/-- The S1 champion of a series: that of its segment, or the default when no series of the segment
has a score. -/
def segmentWinner (series : SeriesKey) : String :=
  let segment := segmentOf segments series
  if segment ∈ (withTerms sel).map fun r => segmentOf segments r.series then
    segmentChampion config intermittentOk segment (segmentRows segments (withTerms sel) segment)
  else config.models.defaultChampion

/-- The S2 champion of a series: the one it was given, or that of its segment when it has no
score. -/
def seriesWinner (series : SeriesKey) : String :=
  if series ∈ (withTerms sel).map ScoreRow.series then
    skuChampion config (segmentWinner config intermittentOk segments sel series)
      (seriesRows sel series)
  else segmentWinner config intermittentOk segments sel series

/-- The champion that a strategy gave a series. Without scores there is one of S0 alone. -/
def ownChampion (strategy : Strategy) (series : SeriesKey) : Option String :=
  match strategy with
  | .S0 => some config.models.defaultChampion
  | .S1 =>
      if withTerms sel = [] then none
      else some (segmentWinner config intermittentOk segments sel series)
  | .S2 =>
      if withTerms sel = [] then none
      else some (seriesWinner config intermittentOk segments sel series)

/-- The scored rows of every series' own champion under each of the strategies. -/
def ownRows (scores : List ScoreRow) : List (Strategy × ScoreRow) :=
  [Strategy.S0, .S1, .S2].flatMap fun strategy =>
    ((scores.filter ScoreRow.scored).filter fun r =>
      ownChampion config intermittentOk segments sel strategy r.series =
        some r.modelId).map fun r => (strategy, r)

/-- What lets a series have a model of its own instead of its segment's champion. -/
structure EarnedOverride (rows : List ScoreRow) (segChampion model : String) : Prop where
  /-- The model is scored at enough origins. -/
  origins : config.selection.perSkuOverride.minOrigins ≤
    ((modelRows rows model).map ScoreRow.originDate).eraseDups.length
  /-- Its error is lower than the other's by the margin. -/
  margin : ∃ wape segWape, wapeOf (modelRows rows model) = some wape ∧
    wapeOf (modelRows rows segChampion) = some segWape ∧ 0 < segWape ∧
    config.selection.perSkuOverride.minMarginPct ≤ 100 * (segWape - wape) / segWape
  /-- It won each of the last origins, of which there are enough. -/
  stable : config.selection.perSkuOverride.requireStabilityWindows ≤
      (tail config.selection.perSkuOverride.requireStabilityWindows (originWinners rows)).length ∧
    ∀ winner ∈ tail config.selection.perSkuOverride.requireStabilityWindows (originWinners rows),
      winner = model

/-- The strategies are scored on the champions they chose. -/
structure ScoredOnOwn (scores : List ScoreRow) : Prop where
  /-- Every scored series is given its segment's champion, or one that earned it. -/
  assigned : ∀ series ∈ (withTerms sel).map ScoreRow.series,
    ⟨.S2, .sku, skuKey series, seriesWinner config intermittentOk segments sel series⟩ ∈
      pickChampions config intermittentOk segments sel ∧
    (seriesWinner config intermittentOk segments sel series =
        segmentWinner config intermittentOk segments sel series ∨
      EarnedOverride config (seriesRows sel series)
        (segmentWinner config intermittentOk segments sel series)
        (seriesWinner config intermittentOk segments sel series))
  /-- The rows of a strategy are those of each series' own champion. -/
  attributed : strategyScores segments (pickChampions config intermittentOk segments sel) scores =
    ownRows config intermittentOk segments sel scores

end Own

/-! ## The champions that are picked -/

section Picked

variable {config : Config} {intermittentOk : Option (List String)} {segments : List SegmentRow}
  {sel : List ScoreRow}

/-- A series is given the champion of its segment, or one that earned it. -/
theorem skuChampion_earned (config : Config) (segChampion : String) (rows : List ScoreRow) :
    skuChampion config segChampion rows = segChampion ∨
      EarnedOverride config rows segChampion (skuChampion config segChampion rows) := by
  rw [skuChampion]
  cases hhead : (ranked rows).head? with
  | none => exact Or.inl rfl
  | some winner =>
      dsimp only
      split
      case isTrue => exact Or.inl rfl
      case isFalse hother =>
          split
          case isFalse => exact Or.inl rfl
          case isTrue hguards =>
              rw [Bool.and_eq_true, Bool.and_eq_true] at hguards
              obtain ⟨⟨horigins, hmargin⟩, hstable⟩ := hguards
              refine Or.inr ⟨of_decide_eq_true horigins, ?_, ?_⟩
              · rw [clearsMargin] at hmargin
                split at hmargin
                case h_1 segWape hsegWape =>
                    obtain ⟨hpos, hclears⟩ := of_decide_eq_true hmargin
                    exact ⟨winner.2, segWape, mem_ranked_of_head? hhead, hsegWape, hpos, hclears⟩
                case h_2 => cases hmargin
              · rw [stableWinner, Bool.and_eq_true] at hstable
                obtain ⟨henough, hall⟩ := hstable
                exact ⟨of_decide_eq_true henough, fun other hmem =>
                  of_decide_eq_true (List.all_eq_true.mp hall other hmem)⟩

/-- The champions of each strategy. -/
theorem strategyRows_pickChampions (strategy : Strategy) :
    strategyRows (pickChampions config intermittentOk segments sel) strategy =
      match strategy with
      | .S0 => [globalChampion config]
      | .S1 =>
          if withTerms sel = [] then []
          else segmentChampions config intermittentOk segments (withTerms sel)
      | .S2 =>
          if withTerms sel = [] then []
          else skuChampions config intermittentOk segments (withTerms sel) := by
  have hsegment : ∀ c ∈ segmentChampions config intermittentOk segments (withTerms sel),
      c.strategy = .S1 := by
    intro c hc
    obtain ⟨_, -, rfl⟩ := List.mem_map.mp hc
    rfl
  have hsku : ∀ c ∈ skuChampions config intermittentOk segments (withTerms sel),
      c.strategy = .S2 := by
    intro c hc
    obtain ⟨_, -, rfl⟩ := List.mem_map.mp hc
    rfl
  have hkeep : ∀ {rows : List ChampionRow} {own st : Strategy}, (∀ c ∈ rows, c.strategy = own) →
      rows.filter (fun c => c.strategy = st) = if own = st then rows else [] := by
    intro rows own st hrows
    split
    case isTrue heq => exact List.filter_eq_self.mpr fun c hc => decide_eq_true (heq ▸ hrows c hc)
    case isFalse hne =>
        exact List.filter_eq_nil_iff.mpr fun c hc h => hne ((hrows c hc) ▸ of_decide_eq_true h)
  rw [strategyRows, pickChampions]
  -- Without scores the only row is that of S0; else each strategy keeps its own part.
  split
  case isTrue => cases strategy <;> rfl
  case isFalse =>
      rw [List.filter_cons, List.filter_append, hkeep hsegment, hkeep hsku]
      cases strategy with
      | S0 => rfl
      | S1 => exact List.append_nil _
      | S2 => rfl

/-- S1's map has the champion of each segment with a score. -/
theorem lookup_championMap_segment (hne : withTerms sel ≠ []) (series : SeriesKey) :
    ((championMap (pickChampions config intermittentOk segments sel) .S1).lookup
        (segmentOf segments series)).getD config.models.defaultChampion =
      segmentWinner config intermittentOk segments sel series := by
  rw [championMap, strategyRows_pickChampions]
  dsimp only
  rw [if_neg hne, segmentChampions, List.map_map]
  refine (congrArg (fun o => Option.getD o _) (lookup_setEntries_map [] (fun s : String => s)
    (fun s => segmentChampion config intermittentOk s (segmentRows segments (withTerms sel) s))
    fun _ _ heq => heq)).trans ?_
  rw [segmentWinner]
  simp only [List.mem_insertionSort, List.mem_eraseDups]
  split <;> rfl

/-- The champion that a scored series was given, as the code computes it. -/
theorem seriesWinner_of_mem {series : SeriesKey}
    (h : series ∈ (withTerms sel).map ScoreRow.series) :
    skuChampion config
        (segmentChampion config intermittentOk (segmentOf segments series)
          (segmentRows segments (withTerms sel) (segmentOf segments series)))
        ((withTerms sel).filter fun r => r.series = series) =
      seriesWinner config intermittentOk segments sel series := by
  have hsegment : segmentOf segments series ∈
      (withTerms sel).map fun r => segmentOf segments r.series := by
    obtain ⟨r, hr, rfl⟩ := List.mem_map.mp h
    exact List.mem_map_of_mem hr
  rw [seriesWinner, if_pos h, segmentWinner]
  rw [if_pos hsegment]
  rfl

/-- S2's rows: one for each scored series. -/
theorem skuChampions_eq :
    skuChampions config intermittentOk segments (withTerms sel) =
      (((withTerms sel).map ScoreRow.series).eraseDups.insertionSort seriesLe).map fun series =>
        ⟨.S2, .sku, skuKey series, seriesWinner config intermittentOk segments sel series⟩ := by
  rw [skuChampions]
  refine List.map_congr_left fun series hseries => ?_
  rw [List.mem_insertionSort, List.mem_eraseDups] at hseries
  dsimp only
  rw [seriesWinner_of_mem hseries]
  rfl

/-- Every scored series has its row. -/
theorem mem_pickChampions_sku {series : SeriesKey}
    (h : series ∈ (withTerms sel).map ScoreRow.series) :
    ⟨.S2, .sku, skuKey series, seriesWinner config intermittentOk segments sel series⟩ ∈
      pickChampions config intermittentOk segments sel := by
  have hne : withTerms sel ≠ [] := by
    rintro hnil
    rw [hnil] at h
    cases h
  rw [pickChampions]
  rw [if_neg hne, skuChampions_eq]
  refine List.mem_cons_of_mem _ (List.mem_append_right _ (List.mem_map_of_mem ?_))
  rw [List.mem_insertionSort, List.mem_eraseDups]
  exact h

/-- What is looked up is the champion that a series was given, where no other scored series shares
its key. -/
theorem lookedUp_eq_ownChampion {strategy : Strategy} {series : SeriesKey}
    (hrows : strategyRows (pickChampions config intermittentOk segments sel) strategy ≠ [])
    (hkey : ∀ other ∈ (withTerms sel).map ScoreRow.series,
      skuKey other = skuKey series → other = series) :
    lookedUp segments (pickChampions config intermittentOk segments sel) strategy series =
      ownChampion config intermittentOk segments sel strategy series := by
  have hdefault : defaultOf (pickChampions config intermittentOk segments sel) =
      some config.models.defaultChampion := by
    rw [defaultOf, strategyRows_pickChampions]
    rfl
  have hor : ∀ o : Option String, o.or (some config.models.defaultChampion) =
      some (o.getD config.models.defaultChampion) := fun o => by cases o <;> rfl
  rw [strategyRows_pickChampions] at hrows
  cases strategy with
  | S0 => exact hdefault
  | S1 =>
      have hne : withTerms sel ≠ [] := fun hnil => hrows (if_pos hnil)
      rw [lookedUp, ownChampion, if_neg hne, hdefault]
      rw [hor, lookup_championMap_segment hne]
  | S2 =>
      have hne : withTerms sel ≠ [] := fun hnil => hrows (if_pos hnil)
      have hown : (championMap (pickChampions config intermittentOk segments sel) .S2).lookup
          (skuKey series) = if series ∈ (withTerms sel).map ScoreRow.series then
            some (seriesWinner config intermittentOk segments sel series) else none := by
        rw [championMap, strategyRows_pickChampions]
        dsimp only
        rw [if_neg hne, skuChampions_eq, List.map_map]
        refine (lookup_setEntries_map [] skuKey
          (seriesWinner config intermittentOk segments sel) ?_).trans ?_
        · intro other hother
          rw [List.mem_insertionSort, List.mem_eraseDups] at hother
          exact hkey other hother
        · simp only [List.mem_insertionSort, List.mem_eraseDups]
          rfl
      rw [lookedUp, ownChampion, if_neg hne, hdefault, hown]
      split
      case isTrue => rfl
      case isFalse hunscored =>
          rw [Option.none_or, hor, lookup_championMap_segment hne, seriesWinner,
            if_neg hunscored]

/-- Rows for the keys of some scores, one for each, are there where the scores are. -/
theorem rows_ne_nil {κ : Type} [BEq κ] [LawfulBEq κ] {scores : List ScoreRow} (hne : scores ≠ [])
    (key : ScoreRow → κ) (le : κ → κ → Prop) [DecidableRel le] (row : κ → ChampionRow) :
    ((scores.map key).eraseDups.insertionSort le).map row ≠ [] := by
  obtain ⟨r, hr⟩ := List.exists_mem_of_ne_nil _ hne
  refine List.ne_nil_of_mem (List.mem_map_of_mem (a := key r) ?_)
  rw [List.mem_insertionSort, List.mem_eraseDups]
  exact List.mem_map_of_mem hr

/-- Where no strategy has a champion for a series, none is its own. -/
theorem ownChampion_eq_none {strategy : Strategy} (series : SeriesKey)
    (h : strategyRows (pickChampions config intermittentOk segments sel) strategy = []) :
    ownChampion config intermittentOk segments sel strategy series = none := by
  rw [strategyRows_pickChampions] at h
  cases strategy with
  | S0 => cases h
  | S1 => exact if_pos (of_not_not fun hne => rows_ne_nil hne _ _ _ ((if_neg hne).symm.trans h))
  | S2 => exact if_pos (of_not_not fun hne => rows_ne_nil hne _ _ _ ((if_neg hne).symm.trans h))

/-- Where the strategies are scored on their own champions, the own one of a scored row is looked
up. -/
theorem ScoredOnOwn.finds {scores : List ScoreRow}
    (h : ScoredOnOwn config intermittentOk segments sel scores) {strategy : Strategy} {r : ScoreRow}
    (hr : r ∈ scores) (hscored : r.scored = true)
    (hown : ownChampion config intermittentOk segments sel strategy r.series = some r.modelId) :
    lookedUp segments (pickChampions config intermittentOk segments sel) strategy r.series =
      some r.modelId := by
  have hin : (strategy, r) ∈ ownRows config intermittentOk segments sel scores := by
    have hstrategy : strategy ∈ [Strategy.S0, .S1, .S2] := by cases strategy <;> simp
    exact List.mem_flatMap.mpr ⟨strategy, hstrategy, List.mem_map_of_mem (List.mem_filter.mpr
      ⟨List.mem_filter.mpr ⟨hr, hscored⟩, decide_eq_true hown⟩)⟩
  rw [← h.attributed, strategyScores] at hin
  obtain ⟨strategy', -, hrows⟩ := List.mem_flatMap.mp hin
  split at hrows
  · cases hrows
  · obtain ⟨r', hr', heq⟩ := List.mem_map.mp hrows
    obtain ⟨rfl, rfl⟩ := Prod.mk.inj heq
    exact of_decide_eq_true (List.mem_filter.mp hr').2

/-- Tables in which no two series share a key are scored on the champions that were picked. -/
theorem scoredOnOwn_of_injOn {names : Set SeriesKey} (hkeys : Set.InjOn skuKey names)
    {scores : List ScoreRow} (hsel : ∀ r ∈ sel, r.series ∈ names)
    (hscores : ∀ r ∈ scores, r.series ∈ names) :
    ScoredOnOwn config intermittentOk segments sel scores := by
  have hnames : ∀ series ∈ (withTerms sel).map ScoreRow.series, series ∈ names := by
    intro series hseries
    obtain ⟨r, hr, rfl⟩ := List.mem_map.mp hseries
    exact hsel r (List.mem_filter.mp hr).1
  refine ⟨fun series hseries => ⟨mem_pickChampions_sku hseries, ?_⟩, ?_⟩
  · rw [seriesWinner, if_pos hseries]
    exact skuChampion_earned config _ _
  · rw [strategyScores, ownRows]
    refine List.flatMap_congr fun strategy _ => ?_
    split
    case isTrue hnil =>
        rw [List.filter_eq_nil_iff.mpr fun r _ => ?_, List.map_nil]
        rw [ownChampion_eq_none r.series hnil]
        exact Bool.false_ne_true
    case isFalse hrows =>
        congr 1
        refine List.filter_congr fun r hr => ?_
        rw [lookedUp_eq_ownChampion hrows fun other hother heq =>
          hkeys (hnames other hother) (hscores r (List.mem_filter.mp hr).1) heq]

end Picked

/-! ## Two series that share a key -/

section Shared

/-- A series with its routing segment. -/
def segmentedAs (series : SeriesKey) (segment : String) : SegmentRow :=
  { steadySegment with series, segment }

/-- A scored week of a series, which a model predicts exactly. -/
def exactWeek (series : SeriesKey) (modelId : String) : ScoreRow where
  block := .selection
  originDate := 0
  modelId
  series
  horizon := 1
  yTrue := some 1
  yPred := some 1
  scored := true
  figures := fun _ => ⟨rfl, rfl⟩

/-- Two series in segments of their own, each predicted by a model of its own. -/
def twoSegments (a b : SeriesKey) : List SegmentRow :=
  [segmentedAs a "AX", segmentedAs b "BX"]

/-- Their scores. -/
def twoExact (a b : SeriesKey) : List ScoreRow :=
  [exactWeek a "M1", exactWeek b "M2"]

variable {config : Config} {intermittentOk : Option (List String)} {a b : SeriesKey}

/-- A model that is scored alone is the first one. -/
theorem head?_ranked_of_model {rows : List ScoreRow} {modelId : String} {wape : ℚ}
    (hall : ∀ r ∈ rows, r.modelId = modelId) (hwape : wapeOf rows = some wape) :
    (ranked rows).head? = some (modelId, wape) := by
  have hown : modelRows rows modelId = rows :=
    List.filter_eq_self.mpr fun r hr => decide_eq_true (hall r hr)
  have hmem : (modelId, wape) ∈ ranked rows := mem_ranked.mpr (hown.symm ▸ hwape)
  cases hhead : (ranked rows).head? with
  | none =>
      rw [List.head?_eq_none_iff.mp hhead] at hmem
      cases hmem
  | some winner =>
      have hwinner := mem_ranked_of_head? hhead
      have hid : winner.1 = modelId := by
        by_contra hne
        -- another model has no rows
        have hnil : modelRows rows winner.1 = [] :=
          List.filter_eq_nil_iff.mpr fun r hr h =>
            hne ((of_decide_eq_true h).symm.trans (hall r hr))
        rw [hnil] at hwinner
        cases hwinner
      rw [hid, hown, hwape] at hwinner
      rw [← hid, Option.some.inj hwinner]

theorem head?_ranked_exactWeek (series : SeriesKey) (modelId : String) :
    (ranked [exactWeek series modelId]).head? = some (modelId, 0) := by
  refine head?_ranked_of_model (fun r hr => ?_) ?_
  · rw [List.mem_singleton.mp hr]
    rfl
  · simp [wapeOf, exactWeek, ScoreRow.ay, ScoreRow.ae]

theorem withTerms_twoExact (a b : SeriesKey) : withTerms (twoExact a b) = twoExact a b :=
  rfl

/-- A series that is alone in its segment has its own model for a champion. -/
theorem seriesWinner_of_alone {segments : List SegmentRow} {sel : List ScoreRow}
    {series : SeriesKey} {modelId : String}
    (hmem : series ∈ (withTerms sel).map ScoreRow.series)
    (hsegment : segmentOf segments series ≠ "intermittent")
    (halone : segmentRows segments (withTerms sel) (segmentOf segments series) =
      [exactWeek series modelId])
    (hseries : seriesRows sel series = [exactWeek series modelId]) :
    seriesWinner config intermittentOk segments sel series = modelId := by
  have hin : segmentOf segments series ∈
      (withTerms sel).map fun r => segmentOf segments r.series := by
    obtain ⟨r, hr, rfl⟩ := List.mem_map.mp hmem
    exact List.mem_map_of_mem hr
  have hwinner : segmentWinner config intermittentOk segments sel series = modelId := by
    rw [segmentWinner, if_pos hin, halone, segmentChampion_eq hsegment, head?_ranked_exactWeek]
    rfl
  rw [seriesWinner, if_pos hmem, hwinner, hseries, skuChampion, head?_ranked_exactWeek]
  exact if_pos rfl

variable (config intermittentOk) in
/-- Either series is given the model that predicts it. -/
theorem seriesWinner_twoExact (h : a ≠ b) :
    seriesWinner config intermittentOk (twoSegments a b) (twoExact a b) a = "M1" ∧
      seriesWinner config intermittentOk (twoSegments a b) (twoExact a b) b = "M2" := by
  have ha : segmentOf (twoSegments a b) a = "AX" := by
    simp [segmentOf, twoSegments, segmentedAs]
  have hb : segmentOf (twoSegments a b) b = "BX" := by
    simp [segmentOf, twoSegments, segmentedAs, h]
  constructor
  · apply seriesWinner_of_alone
    · rw [withTerms_twoExact]
      simp [twoExact, exactWeek]
    · rw [ha]
      decide
    · rw [ha, segmentRows, withTerms_twoExact]
      simp [twoExact, exactWeek, ha, hb]
    · rw [seriesRows, withTerms_twoExact]
      simp [twoExact, exactWeek, h.symm]
  · apply seriesWinner_of_alone
    · rw [withTerms_twoExact]
      simp [twoExact, exactWeek]
    · rw [hb]
      decide
    · rw [hb, segmentRows, withTerms_twoExact]
      simp [twoExact, exactWeek, ha, hb]
    · rw [seriesRows, withTerms_twoExact]
      simp [twoExact, exactWeek, h]

variable (config intermittentOk) in
/-- What is looked up for two series that share a key is the same, when one of them is scored. -/
theorem lookedUp_congr (segments : List SegmentRow) {sel : List ScoreRow}
    (hmem : a ∈ (withTerms sel).map ScoreRow.series) (hkey : skuKey a = skuKey b) :
    lookedUp segments (pickChampions config intermittentOk segments sel) .S2 a =
      lookedUp segments (pickChampions config intermittentOk segments sel) .S2 b := by
  set champions := pickChampions config intermittentOk segments sel with hchampions
  have hstored : skuKey a ∈ (championMap champions .S2).map Prod.fst := by
    rw [championMap, Series.mem_keys_setEntries]
    refine Or.inr (List.mem_map.mpr ⟨_, List.mem_map_of_mem (List.mem_filter.mpr
      ⟨mem_pickChampions_sku hmem, rfl⟩), rfl⟩)
  have hsome : ((championMap champions .S2).lookup (skuKey a)).isSome := by
    obtain ⟨e, he, heq⟩ := List.mem_map.mp hstored
    exact List.lookup_isSome_iff.mpr ⟨e, he, beq_iff_eq.mpr heq.symm⟩
  obtain ⟨champion, hchampion⟩ := Option.isSome_iff_exists.mp hsome
  rw [lookedUp, lookedUp, ← hkey, hchampion]
  rfl

/-- Two series that share a key are not both scored on their own champions. -/
theorem not_scoredOnOwn_of_key (h : a ≠ b) (hkey : skuKey a = skuKey b) :
    ¬ ScoredOnOwn config intermittentOk (twoSegments a b) (twoExact a b) (twoExact a b) := by
  intro hscored
  have hown : ∀ series, ownChampion config intermittentOk (twoSegments a b) (twoExact a b) .S2
      series =
        some (seriesWinner config intermittentOk (twoSegments a b) (twoExact a b) series) := by
    intro series
    have hne : withTerms (twoExact a b) ≠ [] := by
      rw [withTerms_twoExact]
      exact List.cons_ne_nil _ _
    rw [ownChampion, if_neg hne]
  obtain ⟨hwinnerA, hwinnerB⟩ := seriesWinner_twoExact config intermittentOk h
  have hA := hscored.finds (r := exactWeek a "M1") (by simp [twoExact]) rfl
    ((hown a).trans (congrArg some hwinnerA))
  have hB := hscored.finds (r := exactWeek b "M2") (by simp [twoExact]) rfl
    ((hown b).trans (congrArg some hwinnerB))
  have hin : a ∈ (withTerms (twoExact a b)).map ScoreRow.series := by
    rw [withTerms_twoExact]
    simp [twoExact, exactWeek]
  -- one champion is looked up for both
  have hsame := lookedUp_congr config intermittentOk (twoSegments a b) hin hkey
  have hmodels : "M1" = "M2" := Option.some.inj (hA.symm.trans (hsame.trans hB))
  exact absurd hmodels (by decide)

end Shared

/-- **Strategies are scored on the champions they chose.** For every configuration and any names
of series, all tables over these names are scored on the champions that were picked exactly when no
two of the names share the key that is glued from SKU and location. -/
theorem scoredOnOwn_iff (config : Config) (intermittentOk : Option (List String))
    (names : Set SeriesKey) :
    (∀ segments sel scores, (∀ r ∈ sel, r.series ∈ names) → (∀ r ∈ scores, r.series ∈ names) →
        ScoredOnOwn config intermittentOk segments sel scores) ↔ Set.InjOn skuKey names := by
  constructor
  · intro hall a ha b hb hkey
    by_contra hne
    have hnames : ∀ r ∈ twoExact a b, r.series ∈ names := by
      intro r hr
      rcases List.mem_cons.mp hr with rfl | hr
      · exact ha
      · rw [List.mem_singleton.mp hr]
        exact hb
    exact not_scoredOnOwn_of_key hne hkey (hall (twoSegments a b) _ _ hnames hnames)
  · exact fun hkeys segments sel scores => scoredOnOwn_of_injOn hkeys

/-- A bar in the SKU and one in the location: two series share a key, and the rows of one are those
of the other's champion. -/
theorem not_scoredOnOwn_bars :
    ¬ ScoredOnOwn {} none (twoSegments ⟨"TEE|RED", "MAIN"⟩ ⟨"TEE", "RED|MAIN"⟩)
      (twoExact ⟨"TEE|RED", "MAIN"⟩ ⟨"TEE", "RED|MAIN"⟩)
      (twoExact ⟨"TEE|RED", "MAIN"⟩ ⟨"TEE", "RED|MAIN"⟩) :=
  not_scoredOnOwn_of_key (by decide) (by decide)

end Restock.Audit.Selection
