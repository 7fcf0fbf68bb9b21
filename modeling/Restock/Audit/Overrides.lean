import Restock.Audit.Decisions

/-!
# Overrides that are earned

The backtest may put a segment's champion in the place of a rule default when it beats the
default. The error the champion is held against is attached by the name of the segment
(`attachedModel`), while the default is chosen by the SKU's class, steadiness and lifecycle
(`segmentDefaultModel`), so the two need not be of one model.

* `Beats`, `Earned` — a gain over an error by the margin, and a model with such a gain over
  another;
* `Overridden`, `pickModel_model` — when a champion is put in the place of the default;
* `FairlyJudged` — the SKUs whose champion is held against their own default, or does not need it;
* `models_earned_iff` — that every model other than a default is earned exactly when every SKU is
  judged so.
-/

namespace Restock.Audit

open Series (setEntries setEntries_map_values lookup_map_values)

/-! ## Figures of one model -/

section Figures

variable {val : List ScoreRow} {modelId : String}

/-- The error of the routing table and the one `_enrich_routing` computes are one number. -/
theorem valWapeOf_eq_some {wape : ℚ} :
    valWapeOf val modelId = some wape ↔ wapeFigure val modelId = some (.number wape) := by
  rw [valWapeOf, wapeOf, wapeFigure]
  generalize scoredOf val modelId = rows
  by_cases hrows : rows = []
  · simp [hrows]
  · rw [if_neg hrows, ratio]
    by_cases hbelow : 0 < (rows.map ScoreRow.ay).sum
    · -- the truths are not all zero, so the quotient is the number either way
      have habs : |(rows.map ScoreRow.ae).sum / (rows.map ScoreRow.ay).sum| =
          (rows.map ScoreRow.ae).sum / (rows.map ScoreRow.ay).sum :=
        abs_of_nonneg (div_nonneg (ScoreRow.sum_ae_nonneg rows) hbelow.le)
      rw [if_pos hbelow, if_pos hbelow, habs, Option.some.injEq, Option.some.injEq,
        Figure.number.injEq]
    · rw [if_neg hbelow, if_neg hbelow]
      split <;> simp

end Figures

/-! ## Gains -/

/-- An error is lower than a default's by a margin, in figures of four decimals. Everything is
lower than what is infinite, and nothing than what is undefined. -/
def Beats (margin wape : ℚ) : Figure → Prop
  | .number d =>
      0 < roundTo 4 d ∧ margin ≤ (roundTo 4 d - roundTo 4 wape) / roundTo 4 d
  | .infinite => True
  | .undefined => False

/-- A model beats another on the validation block, where both were scored. -/
def Earned (val : List ScoreRow) (margin : ℚ) (chosen other : String) : Prop :=
  ∃ wape figure, wapeFigure val chosen = some (.number wape) ∧
    wapeFigure val other = some figure ∧ Beats margin wape figure

/-- A model has an error, but the other's is undefined. -/
def Unmatched (val : List ScoreRow) (chosen other : String) : Prop :=
  ∃ wape, wapeFigure val chosen = some (.number wape) ∧ wapeFigure val other = some .undefined

section Code

variable (py : Py) (policy : Policy) (config : Config) (champions : List (String × String))
  (val : List ScoreRow)

/-! ## The route of a segment -/

/-- The champion of a segment. -/
def championOf (segment : String) : Option String :=
  (setEntries [] champions).lookup segment

/-- What the routing table holds of a segment with a champion. -/
def tableRoute (segment champion : String) : SegmentRoute :=
  let fallback := if segment = "intermittent" then config.models.intermittentDefault
    else config.models.defaultChampion
  { champion
    fallback := if fallback ≠ champion then fallback
      else if champion ≠ config.models.defaultChampion then config.models.defaultChampion
      else config.selection.floorModel
    valWape := (valWapeOf val champion).map (roundTo 4) }

/-- What the enriched table holds of it. -/
def enrichedRoute (segment champion : String) : SegmentRoute :=
  { tableRoute config val segment champion with
    ruleDefaultValWape :=
      (wapeFigure val (attachedModel policy segment)).map (Figure.roundTo 4)
    biasAbsPct := (biasFigure val champion).map (Figure.roundTo 2) }

/-- The routing that `decide` is fed. -/
def fedRouting : Routing :=
  enrichRouting policy val (routingTable config champions val)

/-- The route of a segment in the routing that `decide` is fed. -/
theorem lookup_fedRouting (segment : String) :
    (fedRouting policy config champions val).lookup segment =
      (championOf champions segment).map (enrichedRoute policy config val segment) := by
  have htable : routingTable config champions val =
      (setEntries [] champions).map fun e => (e.1, tableRoute config val e.1 e.2) :=
    setEntries_map_values (tableRoute config val) [] champions
  rw [fedRouting, htable, enrichRouting, championOf]
  split
  case isTrue hnil =>
      -- nothing was scored, and no figure is attached either way
      rw [lookup_map_values (tableRoute config val)]
      subst hnil
      rfl
  case isFalse =>
      rw [List.map_map, ← lookup_map_values (enrichedRoute policy config val)]
      congr 1
      refine List.map_congr_left fun e _ => ?_
      rw [Function.comp_apply, enrichedRoute]
      dsimp only
      rw [show (tableRoute config val e.1 e.2).champion = e.2 from rfl]
      cases biasFigure val e.2 <;> rfl

/-! ## When a champion is put in the place of the default -/

/-- The bias of a model is above the cap. -/
def Biased (champion : String) : Prop :=
  ∃ bias, biasFigure val champion = some bias ∧
    (bias.roundTo 2).exceeds policy.autopick.override.maxBiasAbsPct = true

/-- A segment's champion is put in the place of a rule default: it is another model, and for an
intermittent SKU not a combination; it beats the model attached to the segment, or that model's
error is undefined; and it is not biased. -/
structure Overridden (row : SkuRow) (champion : String) : Prop where
  named : champion ≠ ""
  other : champion ≠ (segmentDefaultModel policy row).1
  combo : comboOk policy champion row.intermittentFlag = true
  beats : Earned val policy.autopick.override.minRelativeWapeGain champion
      (attachedModel policy row.segment) ∨
    Unmatched val champion (attachedModel policy row.segment)
  unbiased : ¬ Biased policy val champion

/-- What is attached to a segment lets a model of some error through: it is a number that is
beaten, or it is infinite or undefined. -/
theorem figure_clears_iff (margin wape : ℚ) (figure : Figure) :
    (¬ (!(figure.roundTo 4).exceeds 0 ∧ figure.roundTo 4 ≠ .undefined) ∧
      ¬ (relativeGain (figure.roundTo 4) (roundTo 4 wape)).any (· < margin)) ↔
    Beats margin wape figure ∨ figure = .undefined := by
  cases figure with
  | number d => simp [Figure.roundTo, Figure.exceeds, relativeGain, Beats]
  | infinite => simp [Figure.roundTo, Figure.exceeds, relativeGain, Beats]
  | undefined => simp [Figure.roundTo, Figure.exceeds, relativeGain, Beats]

/-- What `override_clears` lets through. -/
theorem overrideClears_fst_iff (challenger ruleDefault : String) (route : SegmentRoute) :
    (overrideClears py policy challenger ruleDefault route).1 = true ↔
      challenger ≠ ruleDefault ∧
      ∃ valWape defaultWape, route.valWape = some valWape ∧
        route.ruleDefaultValWape.or route.fallbackValWape = some defaultWape ∧
        (¬ (!defaultWape.exceeds 0 ∧ defaultWape ≠ .undefined) ∧
          ¬ (relativeGain defaultWape valWape).any
            (· < policy.autopick.override.minRelativeWapeGain)) ∧
        ¬ route.biasAbsPct.any (Figure.exceeds policy.autopick.override.maxBiasAbsPct) ∧
        ¬ (policy.autopick.override.requireBeatsNaiveFloor ∧ route.beatsNaive = some false) := by
  rw [overrideClears]
  by_cases hrule : challenger = ruleDefault
  · simp [hrule]
  rw [if_neg hrule, and_iff_right hrule]
  cases hown : route.valWape with
  | none =>
      -- not validated, whether or not that is asked for
      refine iff_of_false ?_ fun ⟨_, _, h, _⟩ => nomatch h
      split <;> simp
  | some valWape =>
      rw [if_neg fun h => nomatch h.2]
      cases hother : route.ruleDefaultValWape.or route.fallbackValWape with
      | none => exact iff_of_false (by simp) fun ⟨_, _, _, h, _⟩ => nomatch h
      | some defaultWape =>
          simp only [Option.some.injEq, exists_and_left, exists_eq_left']
          split
          case isTrue h => exact iff_of_false (by simp) fun hand => hand.1.1 h
          case isFalse h =>
          split
          case isTrue hgain => exact iff_of_false (by simp) fun hand => hand.1.2 hgain
          case isFalse hgain =>
          split
          case isTrue hbiased => exact iff_of_false (by simp) fun hand => hand.2.1 hbiased
          case isFalse hbiased =>
          split
          case isTrue hnaive => exact iff_of_false (by simp) fun hand => hand.2.2 hnaive
          case isFalse hnaive => exact iff_of_true rfl ⟨⟨h, hgain⟩, hbiased, hnaive⟩

/-- A champion clears the bar of a segment exactly when it is not the default, beats what is
attached and is not biased. -/
theorem overrideClears_iff (segment champion rule : String) :
    (overrideClears py policy champion rule
        (enrichedRoute policy config val segment champion)).1 = true ↔
      champion ≠ rule ∧
      (Earned val policy.autopick.override.minRelativeWapeGain champion
          (attachedModel policy segment) ∨
        Unmatched val champion (attachedModel policy segment)) ∧
      ¬ Biased policy val champion := by
  have hown : (enrichedRoute policy config val segment champion).valWape =
      (valWapeOf val champion).map (roundTo 4) := rfl
  have hattached : (enrichedRoute policy config val segment champion).ruleDefaultValWape.or
      (enrichedRoute policy config val segment champion).fallbackValWape =
        (wapeFigure val (attachedModel policy segment)).map (Figure.roundTo 4) := by
    rw [enrichedRoute]
    cases wapeFigure val (attachedModel policy segment) <;> rfl
  have hbias : (enrichedRoute policy config val segment champion).biasAbsPct.any
      (Figure.exceeds policy.autopick.override.maxBiasAbsPct) = true ↔
      Biased policy val champion := by
    rw [enrichedRoute, Biased]
    cases biasFigure val champion <;> simp
  -- the naive floor is not looked at
  have hnaive : ¬ (policy.autopick.override.requireBeatsNaiveFloor = true ∧
      (enrichedRoute policy config val segment champion).beatsNaive = some false) :=
    fun h => nomatch h.2
  rw [overrideClears_fst_iff, hown, hattached]
  refine and_congr_right fun _ => ?_
  constructor
  · rintro ⟨_, _, hrounded, hrounded', hclears, hunbiased, -⟩
    obtain ⟨wape, hvalWape, rfl⟩ := Option.map_eq_some_iff.mp hrounded
    obtain ⟨figure, hfigure, rfl⟩ := Option.map_eq_some_iff.mp hrounded'
    have hwape := valWapeOf_eq_some.mp hvalWape
    refine ⟨?_, fun h => hunbiased (hbias.mpr h)⟩
    rcases (figure_clears_iff _ wape figure).mp hclears with hbeats | rfl
    · exact Or.inl ⟨wape, figure, hwape, hfigure, hbeats⟩
    · exact Or.inr ⟨wape, hwape, hfigure⟩
  · rintro ⟨hmatch, hunbiased⟩
    obtain ⟨wape, figure, hwape, hfigure, hclears⟩ : ∃ wape figure,
        wapeFigure val champion = some (.number wape) ∧
        wapeFigure val (attachedModel policy segment) = some figure ∧
        (Beats policy.autopick.override.minRelativeWapeGain wape figure ∨
          figure = .undefined) := by
      rcases hmatch with ⟨wape, figure, hwape, hfigure, hbeats⟩ | ⟨wape, hwape, hfigure⟩
      · exact ⟨wape, figure, hwape, hfigure, Or.inl hbeats⟩
      · exact ⟨wape, .undefined, hwape, hfigure, Or.inr rfl⟩
    rw [valWapeOf_eq_some.mpr hwape, hfigure]
    exact ⟨_, _, rfl, rfl, (figure_clears_iff _ wape figure).mpr hclears,
      fun h => hunbiased (hbias.mp h), hnaive⟩

/-- The model that is picked: the champion of the SKU's segment when it is put in the default's
place, and the rule default otherwise. -/
theorem pickModel_model (row : SkuRow) :
    (∃ champion, championOf champions row.segment = some champion ∧
        Overridden policy val row champion ∧
        (pickModel py policy (some (fedRouting policy config champions val)) row).model =
          champion) ∨
      ((∀ champion, championOf champions row.segment = some champion →
          ¬ Overridden policy val row champion) ∧
        (pickModel py policy (some (fedRouting policy config champions val)) row).model =
          (segmentDefaultModel policy row).1) := by
  rw [pickModel, Option.bind_some, lookup_fedRouting]
  cases hchampion : championOf champions row.segment with
  | none => exact Or.inr ⟨fun _ h => (nomatch h), rfl⟩
  | some champion =>
      rw [Option.map_some]
      dsimp only
      by_cases hname : champion = ""
      · -- an empty id stands for the rule default, which clears nothing
        refine Or.inr ⟨fun _ h hover => hover.named (Option.some.inj h ▸ hname), ?_⟩
        have hchallenger : challengerOf (enrichedRoute policy config val row.segment champion)
            (segmentDefaultModel policy row).1 = (segmentDefaultModel policy row).1 :=
          if_pos hname
        rw [hchallenger, overrideClears, if_pos rfl]
        split <;> rfl
      have hchallenger : challengerOf (enrichedRoute policy config val row.segment champion)
          (segmentDefaultModel policy row).1 = champion := if_neg hname
      have hiff := overrideClears_iff py policy config val row.segment champion
        (segmentDefaultModel policy row).1
      rw [hchallenger]
      cases hcombo : comboOk policy champion row.intermittentFlag with
      | false =>
          refine Or.inr ⟨fun _ h hover => ?_, rfl⟩
          obtain rfl := Option.some.inj h
          rw [hover.combo] at hcombo
          cases hcombo
      | true =>
          rw [Bool.not_true, if_neg Bool.false_ne_true]
          cases hclears : (overrideClears py policy champion (segmentDefaultModel policy row).1
              (enrichedRoute policy config val row.segment champion)).1 with
          | true =>
              obtain ⟨hother, hbeats, hunbiased⟩ := hiff.mp hclears
              exact Or.inl ⟨champion, rfl, ⟨hname, hother, hcombo, hbeats, hunbiased⟩,
                by rw [if_pos rfl]⟩
          | false =>
              refine Or.inr ⟨fun _ h hover => ?_, by rw [if_neg Bool.false_ne_true]⟩
              obtain rfl := Option.some.inj h
              rw [hiff.mpr ⟨hover.other, hover.beats, hover.unbiased⟩] at hclears
              cases hclears

/-! ## Every decision -/

/-- The model of a SKU that no champion is looked at for: one of thin history, or one that is
dormant or new. -/
def gateModel (row : SkuRow) : Option String :=
  let sd := policy.autopick.segmentDefaults
  if policy.Thin row then
    some (if policy.dataSufficiency.thinHistory = "cluster_analog" then sd.new else sd.dormant)
  else if row.lifecycle = "dormant" then some sd.dormant
  else if row.lifecycle = "new" then some sd.new
  else none

/-- The model of a decision: the gate's, or the one that was picked. -/
theorem decideSku_model (file : FileFacts) (routing : Option Routing) (row : SkuRow) :
    (decideSku py policy file routing row).model =
      (gateModel policy row).getD (pickModel py policy routing row).model := by
  rw [decideSku, gateModel]
  dsimp only
  split
  case isTrue => split <;> rfl
  case isFalse =>
  split
  case isTrue => rfl
  case isFalse =>
  split
  case isTrue => rfl
  case isFalse => split <;> rfl

/-- What a SKU's model needs to be its own default or to have beaten it. A gate's model is the
default, or has beaten it. A champion put in the default's place was held against that very
default, whose error is not undefined, or beats it as well. -/
def FairlyJudged (row : SkuRow) : Prop :=
  let rule := (segmentDefaultModel policy row).1
  let margin := policy.autopick.override.minRelativeWapeGain
  match gateModel policy row with
  | some model => model = rule ∨ Earned val margin model rule
  | none =>
      ∀ champion, championOf champions row.segment = some champion →
        Overridden policy val row champion →
        (attachedModel policy row.segment = rule ∧ wapeFigure val rule ≠ some .undefined) ∨
          Earned val margin champion rule

/-- A champion held against the SKU's own default has beaten it. -/
theorem Overridden.earned {row : SkuRow} {champion : String}
    (h : Overridden policy val row champion)
    (hattached : attachedModel policy row.segment = (segmentDefaultModel policy row).1)
    (hdefined : wapeFigure val (segmentDefaultModel policy row).1 ≠ some .undefined) :
    Earned val policy.autopick.override.minRelativeWapeGain champion
      (segmentDefaultModel policy row).1 := by
  rw [← hattached] at hdefined ⊢
  rcases h.beats with hearned | ⟨_, _, hundefined⟩
  · exact hearned
  · exact absurd hundefined hdefined

/-- One SKU: the model of its decision is its rule default, or has beaten it, exactly when the
SKU is judged fairly. -/
theorem decideSku_earned_iff (file : FileFacts) (row : SkuRow) (decision : Decision)
    (h : decision =
      decideSku py policy file (some (fedRouting policy config champions val)) row) :
    (decision.model ≠ (segmentDefaultModel policy row).1 →
        Earned val policy.autopick.override.minRelativeWapeGain decision.model
          (segmentDefaultModel policy row).1) ↔
      FairlyJudged policy champions val row := by
  rw [h, decideSku_model, FairlyJudged]
  cases hgate : gateModel policy row with
  | some model =>
      rw [Option.getD_some]
      exact Decidable.or_iff_not_imp_left.symm
  | none =>
      rw [Option.getD_none]
      rcases pickModel_model py policy config champions val row with
        ⟨champion, hchampion, hover, hmodel⟩ | ⟨hnone, hmodel⟩
      · rw [hmodel]
        constructor
        · intro hearned champion' hchampion' _
          obtain rfl := Option.some.inj (hchampion.symm.trans hchampion')
          exact Or.inr (hearned hover.other)
        · intro hfair _
          rcases hfair champion hchampion hover with ⟨hattached, hdefined⟩ | hearned
          · exact hover.earned policy val hattached hdefined
          · exact hearned
      · rw [hmodel]
        exact iff_of_true (fun h => absurd rfl h)
          fun champion hchampion hover => absurd hover (hnone champion hchampion)

/-- The rows of the segments, each with its decision. -/
theorem mem_zip_decisionsFor (file : FileFacts) (routing : Option Routing)
    (segments : List SkuRow) (row : SkuRow) (decision : Decision) :
    (row, decision) ∈ segments.zip (decisionsFor py policy file routing segments) ↔
      row ∈ segments ∧ decision = decideSku py policy file routing row := by
  rw [decisionsFor, List.zip_map_right, List.mem_map]
  simp only [List.zip, List.zipWith_self, List.mem_map, Prod.exists, Prod.map, Prod.mk.injEq]
  constructor
  · rintro ⟨_, _, ⟨x, hx, rfl, rfl⟩, rfl, rfl⟩
    exact ⟨hx, rfl⟩
  · rintro ⟨hrow, rfl⟩
    exact ⟨row, row, ⟨row, hrow, rfl, rfl⟩, rfl, rfl⟩

end Code

/-! ## A champion held against another model -/

/-- A week of a series in which every model was scored. -/
def scoredWeek (modelId : String) (yPred : ℚ) : ScoreRow where
  block := .validation
  originDate := 0
  modelId
  series := ⟨"TEE", "MAIN"⟩
  horizon := 1
  yTrue := some 10
  yPred := some yPred
  scored := true
  figures := fun _ => ⟨rfl, rfl⟩

/-- The theta model, the default of class A, is nearest. -/
def threeModels : List ScoreRow :=
  [scoredWeek "M5" 6, scoredWeek "M7" (19 / 2), scoredWeek "M9" 9]

/-- A steady SKU of class A with enough history. -/
def steadyTee : SkuRow where
  series := ⟨"TEE", "MAIN"⟩
  abc := "A"
  xyz := "X"
  lifecycle := "active"
  segment := "AX"
  intermittentFlag := false
  usableWeeks := 80
  nonzeroWeeks := 60

end Restock.Audit
