import Restock.Audit.Config
import Restock.Series.Entries
import Restock.Series.Groups

/-!
# The policy's decisions

A policy names the default model of every kind of SKU. The backtest has a champion for every
routing segment, and may put it in the default's place when it clears a margin on the validation
block. The champion's error is attached by `routing.routing_table`, the default's by
`cli._enrich_routing`, and the two are compared by `decisions._override_clears`.

* `routingTable`, `enrichRouting` — the figures attached to a segment;
* `segmentDefaultModel`, `overrideClears`, `pickModel` — the choice of a model;
* `decideSku`, `decisionsFor` — the decision about a SKU, and the decisions of a file.
-/

namespace Restock.Audit

open Series (setEntries)

/-! ## The policy -/

/-- `DataSufficiencyCfg`, with what is assumed of thin history. -/
structure DataSufficiencyCfg where
  minWeeksForecastable : ℤ := 13
  minWeeksBacktest : ℤ := 49
  minWeeksValidated : ℤ := 65
  minNonzeroWeeks : ℤ := 4
  thinHistory : String := "cluster_analog"
  deriving DecidableEq, Repr

/-- `ActionsCfg`. -/
structure ActionsCfg where
  dormant : String := "run_down"
  new : String := "launch_watch"
  intermittentHigh : String := "buffer_rule"
  intermittentOther : String := "pool_rule"
  aSteady : String := "forecast_review"
  aVariable : String := "forecast_buffer"
  bSteady : String := "forecast_auto"
  default : String := "pool_rule"
  deriving DecidableEq, Repr

/-- `SegmentDefaultsCfg`. -/
structure SegmentDefaultsCfg where
  intermittent : String := "M9"
  smoothA : String := "M7"
  smoothB : String := "M5"
  erratic : String := "M5"
  new : String := "cluster_analog"
  dormant : String := "none"
  globalDefault : String := "M5"
  deriving DecidableEq, Repr

/-- `OverrideCfg`. -/
structure OverrideCfg where
  minRelativeWapeGain : ℚ := 1 / 10
  maxBiasAbsPct : ℚ := 20
  requireBeatsNaiveFloor : Bool := true
  requireValidated : Bool := true
  deriving DecidableEq, Repr

/-- `AutopickCfg`. -/
structure AutopickCfg where
  segmentDefaults : SegmentDefaultsCfg := {}
  intermittentDefault : String := "M9"
  override : OverrideCfg := {}
  excludeIntermittentFromCombos : Bool := true
  deriving DecidableEq, Repr

/-- `Policy`, with the thresholds of prices, promotions and classes that texts name. -/
structure Policy where
  dataSufficiency : DataSufficiencyCfg := {}
  minPriceCoveragePct : ℚ := 80
  missingPrice : String := "units_only"
  priceDropThresholdPct : ℚ := 15
  dormancyWeeks : ℤ := 8
  newWeeks : ℤ := 8
  actions : ActionsCfg := {}
  autopick : AutopickCfg := {}
  deriving DecidableEq, Repr

/-! ## The figures of a segment -/

/-- What the routing table holds of a segment. -/
structure SegmentRoute where
  champion : String
  fallback : String
  /-- The champion's error on the validation block. -/
  valWape : Option ℚ
  ruleDefaultValWape : Option Figure := none
  fallbackValWape : Option Figure := none
  biasAbsPct : Option Figure := none
  beatsNaive : Option Bool := none
  deriving DecidableEq, Repr

/-- The segments of the routing table. -/
abbrev Routing : Type := List (String × SegmentRoute)

section Figures

variable (val : List ScoreRow) (modelId : String)

/-- The scored rows of a model. -/
def scoredOf : List ScoreRow :=
  (withTerms val).filter fun r => r.modelId = modelId

/-- `val_wape_by_model`: the error of a model that was scored. -/
def valWapeOf : Option ℚ :=
  wapeOf (scoredOf val modelId)

/-- The entry of a model in the loop's `wape`: nothing for a model that was not scored. -/
def wapeFigure : Option Figure :=
  let rows := scoredOf val modelId
  if rows = [] then none
  else some (ratio (rows.map ScoreRow.ae).sum (rows.map ScoreRow.ay).sum)

/-- The entry of a model in the loop's `bias`, without its sign. -/
def biasFigure : Option Figure :=
  let rows := scoredOf val modelId
  if rows = [] then none
  else
    let surplus := (rows.map fun r => r.yPred.getD 0).sum - (rows.map fun r => r.yTrue.getD 0).sum
    some (ratio (100 * surplus) (rows.map ScoreRow.ay).sum)

end Figures

/-- `routing.routing_table`: the champion of every segment with its error on the validation
block. -/
def routingTable (config : Config) (champions : List (String × String)) (val : List ScoreRow) :
    Routing :=
  setEntries [] <| champions.map fun c =>
    let fallback := if c.1 = "intermittent" then config.models.intermittentDefault
      else config.models.defaultChampion
    (c.1,
      { champion := c.2
        fallback := if fallback ≠ c.2 then fallback
          else if c.2 ≠ config.models.defaultChampion then config.models.defaultChampion
          else config.selection.floorModel
        valWape := (valWapeOf val c.2).map (roundTo 4) })

/-- `seg_default_model.get(segment, sd.global_default)`: the model whose error is attached to a
segment. -/
def attachedModel (policy : Policy) (segment : String) : String :=
  let sd := policy.autopick.segmentDefaults
  match segment with
  | "intermittent" => sd.intermittent
  | "smooth_a" => sd.smoothA
  | "smooth_b" => sd.smoothB
  | "erratic" => sd.erratic
  | _ => sd.globalDefault

/-- `cli._enrich_routing`: the error of the segment's default and the champion's bias are
attached, unless nothing was scored. -/
def enrichRouting (policy : Policy) (val : List ScoreRow) (segments : Routing) : Routing :=
  if val = [] then segments
  else segments.map fun e =>
    (e.1,
      { e.2 with
        ruleDefaultValWape := (wapeFigure val (attachedModel policy e.1)).map (Figure.roundTo 4)
        biasAbsPct :=
          match biasFigure val e.2.champion with
          | some bias => some (bias.roundTo 2)
          | none => e.2.biasAbsPct })

/-! ## The choice of a model -/

section Code

variable (py : Py) (policy : Policy)

/-- A row of the segments frame, with what the other frames say of its series. -/
structure SkuRow where
  series : SeriesKey
  abc : String
  xyz : String
  lifecycle : String
  segment : String
  intermittentFlag : Bool
  /-- Usable weeks of the baseline, zero when it has none. -/
  usableWeeks : ℤ
  /-- Weeks of the panel with sales. -/
  nonzeroWeeks : ℤ
  deriving DecidableEq, Repr

/-- `_combo_ok`: an intermittent SKU may be kept from combinations. -/
def comboOk (model : String) (isIntermittent : Bool) : Bool :=
  if model.toList.head? ≠ some 'C' then true
  else !(isIntermittent && policy.autopick.excludeIntermittentFromCombos)

/-- `_segment_default_model`: the rule default of a SKU, and the entry it comes from. -/
def segmentDefaultModel (row : SkuRow) : String × String :=
  let sd := policy.autopick.segmentDefaults
  if row.intermittentFlag ∨ row.xyz = "Z" then (policy.autopick.intermittentDefault, "intermittent")
  else if row.lifecycle = "dormant" then (sd.dormant, "dormant")
  else if row.lifecycle = "new" then (sd.new, "new")
  else if row.abc = "A" then (sd.smoothA, "smooth_a")
  else if row.abc = "B" then (sd.smoothB, "smooth_b")
  else (sd.globalDefault, "global_default")

/-- `gain < margin`, and the text of the gain: a gain over a default that is not a number is
undefined, and less than nothing. -/
def relativeGain (defaultWape : Figure) (valWape : ℚ) : Option ℚ :=
  match defaultWape with
  | .number d => some ((d - valWape) / d)
  | _ => none

/-- The text of a gain in percent. -/
def gainText (gain : Option ℚ) : String :=
  match gain with
  | some gain => py.fixed0 (gain * 100)
  | none => "nan"

/-- The figure is above a bound. -/
def Figure.exceeds (bound : ℚ) : Figure → Bool
  | .number q => bound < q
  | .infinite => true
  | .undefined => false

/-- The text of a figure without decimals. -/
def Figure.text (py : Py) : Figure → String
  | .number q => py.fixed0 q
  | .infinite => "inf"
  | .undefined => "nan"

/-- `_override_clears`: whether the challenger clears the bar against the default's attached
error, and why not. -/
def overrideClears (challenger ruleDefault : String) (route : SegmentRoute) : Bool × String :=
  let ov := policy.autopick.override
  if challenger = ruleDefault then (false, "backtest champion equals the rule default")
  else if ov.requireValidated ∧ route.valWape = none then
    (false, "backtest challenger " ++ challenger ++ " was not validated")
  else
    match route.valWape, route.ruleDefaultValWape.or route.fallbackValWape with
    | some valWape, some defaultWape =>
        if !defaultWape.exceeds 0 ∧ defaultWape ≠ .undefined then
          (false, "backtest challenger " ++ challenger
            ++ " lacked a comparable WAPE baseline to measure the override margin")
        else
          let gain := relativeGain defaultWape valWape
          if gain.any (· < ov.minRelativeWapeGain) then
            (false, "backtest challenger " ++ challenger ++ " beat the rule default by "
              ++ gainText py gain ++ "% (< " ++ py.fixed0 (ov.minRelativeWapeGain * 100)
              ++ "% override margin)")
          else if route.biasAbsPct.any (Figure.exceeds ov.maxBiasAbsPct) then
            (false, "backtest challenger " ++ challenger ++ " biased "
              ++ ((route.biasAbsPct.map (Figure.text py)).getD "") ++ "% (> "
              ++ py.fixed0 ov.maxBiasAbsPct ++ "% cap)")
          else if ov.requireBeatsNaiveFloor ∧ route.beatsNaive = some false then
            (false, "backtest challenger " ++ challenger ++ " did not beat the naive floor")
          else
            (true, "backtest challenger " ++ challenger ++ " cleared the override margin ("
              ++ gainText py gain ++ "% WAPE gain, validated)")
    | _, _ =>
        (false, "backtest challenger " ++ challenger
          ++ " lacked a comparable WAPE baseline to measure the override margin")

/-- The champion of a route; an empty id stands for the rule default. -/
def challengerOf (route : SegmentRoute) (ruleModel : String) : String :=
  if route.champion = "" then ruleModel else route.champion

/-- A model that was picked, why, and whether the backtest overrode the rule. -/
structure Pick where
  model : String
  reason : String
  fromValidatedOverride : Bool
  deriving DecidableEq, Repr

/-- `_pick_model`: rules first; the backtest only overrides when it clears the bar. -/
def pickModel (routing : Option Routing) (row : SkuRow) : Pick :=
  let (ruleModel, key) := segmentDefaultModel policy row
  let frag := "model " ++ ruleModel ++ " is the " ++ key ++ " rule default"
  match routing.bind fun segments => segments.lookup row.segment with
  | none => ⟨ruleModel, frag, false⟩
  | some route =>
      let challenger := challengerOf route ruleModel
      if !comboOk policy challenger row.intermittentFlag then
        ⟨ruleModel, frag ++ "; backtest champion " ++ challenger
          ++ " is a combo, excluded for intermittent SKUs", false⟩
      else
        let (clears, note) := overrideClears py policy challenger ruleModel route
        if clears then
          ⟨challenger, "backtest champion " ++ challenger ++ " overrides " ++ ruleModel ++ ": "
            ++ note, true⟩
        else ⟨ruleModel, frag ++ "; " ++ note, false⟩

/-! ## Decisions -/

/-- `_STANCE_BY_ACTION`. -/
def stanceByAction (action default : String) : String :=
  match action with
  | "forecast_review" => "forecast"
  | "forecast_buffer" => "forecast"
  | "forecast_auto" => "forecast"
  | "buffer_rule" => "rule"
  | "pool_rule" => "rule"
  | "run_down" => "none"
  | "no_action" => "none"
  | "launch_watch" => "launch"
  | _ => default

/-- `_confidence`, with censoring that is always acceptable. -/
def confidence (action : String) (fromValidatedOverride strongRuleDefault : Bool)
    (usableWeeks : ℤ) (thin : Bool) : String :=
  if thin then "low"
  else if (fromValidatedOverride || strongRuleDefault) ∧
      policy.dataSufficiency.minWeeksValidated ≤ usableWeeks then "high"
  else if action = "run_down" ∨ action = "no_action" then "low"
  else "medium"

/-- What the caller says of the whole file. -/
structure FileFacts where
  priceCoveragePct : Option ℚ := none
  hasCategory : Bool := false
  hasPromoCalendar : Bool := false
  deriving DecidableEq, Repr

/-- What is assumed of every SKU. -/
def fileAssumptions (file : FileFacts) : List String :=
  (match file.priceCoveragePct with
    | none => []
    | some pct =>
        if pct < policy.minPriceCoveragePct then
          if policy.missingPrice = "units_only" then
            ["price coverage " ++ py.fixed0 pct ++ "% below the "
              ++ py.fixed0 policy.minPriceCoveragePct
              ++ "% threshold; units-only, no money figures"]
          else ["price coverage " ++ py.fixed0 pct ++ "% below threshold; money figures skipped"]
        else [])
  ++ (if file.hasPromoCalendar then []
    else ["no promo calendar supplied; promos derived from price drops >= "
      ++ py.fixed0 policy.priceDropThresholdPct ++ "%"])
  ++ if file.hasCategory then []
    else ["no category column; SKUs clustered by demand correlation for pooling"]

/-- The decision about a SKU. -/
structure Decision where
  series : SeriesKey
  action : String
  model : String
  stance : String
  confidence : String
  reason : String
  assumptions : List String
  deriving DecidableEq, Repr

/-- Too little history to forecast a SKU. -/
def Policy.Thin (policy : Policy) (row : SkuRow) : Prop :=
  row.usableWeeks < policy.dataSufficiency.minWeeksForecastable ∧
    row.nonzeroWeeks < policy.dataSufficiency.minNonzeroWeeks

instance (row : SkuRow) : Decidable (policy.Thin row) :=
  inferInstanceAs (Decidable (_ ∧ _))

/-- One turn of the loop of `decide`. -/
def decideSku (file : FileFacts) (routing : Option Routing) (row : SkuRow) : Decision :=
  let ds := policy.dataSufficiency
  let sd := policy.autopick.segmentDefaults
  let uw := toString row.usableWeeks
  let nzw := toString row.nonzeroWeeks
  let assumptions := fileAssumptions py policy file ++
    if row.usableWeeks < ds.minWeeksBacktest then
      ["history too short for model selection; using rule-default models"]
    else []
  if policy.Thin row then
    -- the gate of data sufficiency
    if ds.thinHistory = "cluster_analog" then
      { series := row.series
        action := "pool_rule"
        model := sd.new
        stance := "rule"
        confidence := confidence policy "pool_rule" false false row.usableWeeks true
        reason := "not forecastable: only " ++ uw ++ " usable weeks (< "
          ++ toString ds.minWeeksForecastable ++ ") and " ++ nzw ++ " non-zero weeks (< "
          ++ toString ds.minNonzeroWeeks ++ "); borrowing a cluster analog per "
          ++ "data_sufficiency.assume.thin_history=cluster_analog"
        assumptions := assumptions
          ++ ["thin history; forecast borrowed from a cluster/category analog"] }
    else
      { series := row.series
        action := "no_action"
        model := sd.dormant
        stance := "none"
        confidence := confidence policy "no_action" false false row.usableWeeks true
        reason := "not forecastable: only " ++ uw ++ " usable weeks and " ++ nzw ++ " non-zero "
          ++ "weeks; no forecast per data_sufficiency.assume.thin_history=no_forecast"
        assumptions }
  else if row.lifecycle = "dormant" then
    let action := policy.actions.dormant
    { series := row.series
      action
      model := sd.dormant
      stance := stanceByAction action "none"
      confidence := confidence policy action false false row.usableWeeks false
      reason := "lifecycle dormant (no sale in >= " ++ toString policy.dormancyWeeks
        ++ " weeks) -> " ++ action ++ "; no model, run down / write off"
      assumptions }
  else if row.lifecycle = "new" then
    let action := policy.actions.new
    { series := row.series
      action
      model := sd.new
      stance := stanceByAction action "launch"
      confidence := confidence policy action false false row.usableWeeks false
      reason := "lifecycle new (first sale within " ++ toString policy.newWeeks ++ " weeks) -> "
        ++ action ++ "; launch curve, watch weekly"
      assumptions }
  else
    let pick := pickModel py policy routing row
    if row.intermittentFlag ∨ row.xyz = "Z" then
      let (action, why) :=
        if row.abc = "A" then
          (policy.actions.intermittentHigh,
            "high value but intermittent/erratic; buffer heavily")
        else
          (policy.actions.intermittentOther,
            "intermittent/erratic, mid/low value; pool by category")
      { series := row.series
        action
        model := pick.model
        stance := stanceByAction action "rule"
        confidence :=
          confidence policy action pick.fromValidatedOverride false row.usableWeeks false
        reason := "intermittent/erratic (intermittent_flag="
          ++ (if row.intermittentFlag then "True" else "False") ++ ", xyz=" ++ row.xyz
          ++ ") and abc=" ++ row.abc ++ " -> " ++ action ++ "; " ++ why ++ ". " ++ pick.reason
        assumptions }
    else
      let (action, strong) :=
        if row.abc = "A" ∧ row.xyz = "X" then (policy.actions.aSteady, true)
        else if row.abc = "A" then (policy.actions.aVariable, true)
        else if row.abc = "B" ∧ row.xyz = "X" then (policy.actions.bSteady, false)
        else (policy.actions.default, false)
      { series := row.series
        action
        model := pick.model
        stance := stanceByAction action "forecast"
        confidence :=
          confidence policy action pick.fromValidatedOverride strong row.usableWeeks false
        reason := "value x steadiness (abc=" ++ row.abc ++ ", xyz=" ++ row.xyz ++ ", active) -> "
          ++ action ++ ". " ++ pick.reason
        assumptions }

/-- `decisions.decide`, one decision per SKU, without its summary. -/
def decisionsFor (file : FileFacts) (routing : Option Routing) (segments : List SkuRow) :
    List Decision :=
  segments.map (decideSku py policy file routing)

end Code

end Restock.Audit
