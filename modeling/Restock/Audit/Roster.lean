import Mathlib.Data.Finset.Dedup
import Restock.Audit.Config
import Restock.Series.Loops
import Restock.Series.Entries

/-!
# The models a run evaluates

Two entry points assemble the roster of a run from one configuration. The command line honours
what the user picked (`cli._make_roster`); the service builds the configured roster
(`registry.build_roster`, called from `api._execute`).

* `build`, `buildRoster`, `makeRoster` — the code;
* `mem_ids_buildRoster`, `mem_ids_makeRoster` — the ids of either roster;
* `SameModels`, `Unpicked` — what the service promises, and when it holds;
* `sameModels_iff` — that it holds exactly then.
-/

namespace Restock.Audit

open Series (setEntries)

/-! ## Models -/

/-- A base model with the parameters it is built with. -/
inductive BatchModel
  | naiveLast
  | naiveSeasonal (minHistoryWeeks : ℤ)
  | naiveDrift
  | movingAverage (n : ℤ)
  | medianWinsorized (window : ℤ) (capMultiple : ℚ)
  | ses (alphaBounds : ℚ × ℚ)
  | theta (alphaBounds : ℚ × ℚ)
  | crostonSBA
  | tsb
  | etsDampedMult (minHistoryWeeks : ℤ)
  | crostonOriginal
  | crostonSBAOpt (alphaBounds : ℚ × ℚ)
  | tsbOpt
  | adida (alphaBounds : ℚ × ℚ)
  | zeroForecast
  | holt
  | dampedHolt
  | weightedMA
  | trimmedMean
  | recencyPoissonRate
  deriving DecidableEq, Repr

/-- How a combination puts its members together. -/
inductive ComboKind
  | median
  | mean
  | trimmed
  | inverseError
  | twoLayer
  deriving DecidableEq, Repr

/-- A model of a roster: a base model, or a combination of fresh base models. -/
inductive RosterModel
  | base (model : BatchModel)
  | combo (kind : ComboKind) (members : List BatchModel)
  deriving DecidableEq, Repr

/-- The models by id that a run is given. -/
abbrev Roster : Type := List (String × RosterModel)

/-- The ids of a roster. -/
def Roster.ids (roster : Roster) : List String :=
  roster.map Prod.fst

section Code

variable (py : Py) (config : Config)

/-- `tuple(m.ses_alpha_bounds)`, of which a model takes the first two; nothing when there are
fewer, which throws. -/
def alphaBounds : Option (ℚ × ℚ) :=
  match config.models.sesAlphaBounds with
  | low :: high :: _ => some (low, high)
  | _ => none

/-- `registry._build`: nothing for an unknown id, or for bounds that are missing; either
throws. -/
def build (modelId : String) : Option BatchModel :=
  match modelId with
  | "M1" => some .naiveLast
  | "M2" => some (.naiveSeasonal config.models.seasonalNaiveMinWeeks)
  | "M3" => some .naiveDrift
  | "M5" => some (.medianWinsorized config.baseline.windowWeeks config.baseline.winsorizeMultiple)
  | "M6" => (alphaBounds config).map .ses
  | "M7" => (alphaBounds config).map .theta
  | "M8" => some .crostonSBA
  | "M9" => some .tsb
  | "M10" => some (.etsDampedMult config.models.etsMinWeeks)
  | "M13" => some .crostonOriginal
  | "M14" => (alphaBounds config).map .crostonSBAOpt
  | "M15" => some .tsbOpt
  | "M16" => (alphaBounds config).map .adida
  | "M17" => some .zeroForecast
  | "M18" => some .holt
  | "M19" => some .dampedHolt
  | "M20" => some .weightedMA
  | "M21" => some .trimmedMean
  | "M22" => some .recencyPoissonRate
  | _ =>
      match modelId.toList with
      | 'M' :: '4' :: '_' :: n => (py.int (String.ofList n)).map .movingAverage
      | _ => none

/-- `registry.build_roster`: nothing when an id is unknown. -/
def buildRoster : Option Roster := do
  let built ← config.models.roster.mapM fun modelId =>
    (build py config modelId).map fun model => (modelId, RosterModel.base model)
  return setEntries [] built

/-- `catalog.MODELS`, by id. -/
def MODELS : List String :=
  ["M1", "M2", "M3", "M4_4", "M4_8", "M4_13", "M5", "M6", "M7", "M8", "M9", "M13", "M14", "M15",
    "M16", "M17", "M18", "M19", "M20", "M21", "M22", "M10"]

/-- `combo_registry.COMBO_SPECS`. -/
def COMBO_SPECS : List (String × ComboKind × List String) :=
  [("CC01", .median, ["M5", "M7", "M10"]),
    ("CC02", .median, ["M5", "M9", "M18"]),
    ("CC03", .median, ["M5", "M6", "M16"]),
    ("CC04", .median, ["M5", "M18", "M21"]),
    ("CC05", .mean, ["M5", "M7", "M9"]),
    ("CC06", .mean, ["M6", "M18", "M20"]),
    ("CC07", .mean, ["M5", "M16", "M22"]),
    ("CC08", .trimmed, ["M5", "M6", "M7", "M9", "M18"]),
    ("CC09", .trimmed, ["M4_8", "M5", "M6", "M20", "M21"]),
    ("CC10", .trimmed, ["M5", "M9", "M16", "M18", "M22"]),
    ("CC11", .inverseError, ["M5", "M7"]),
    ("CC12", .inverseError, ["M5", "M9"]),
    ("CC13", .inverseError, ["M5", "M6", "M9"]),
    ("CC14", .inverseError, ["M6", "M18", "M20"]),
    ("CC15", .twoLayer, ["M5", "M7"]),
    ("CC16", .twoLayer, ["M5", "M18"]),
    ("CC17", .twoLayer, ["M9", "M16"]),
    ("CC18", .median, ["M8", "M9", "M13"]),
    ("CC19", .median, ["M9", "M15", "M16"]),
    ("CC20", .mean, ["M9", "M14", "M22"])]

/-- `catalog.valid_ids`. -/
def validIds : List String :=
  MODELS ++ "C1" :: COMBO_SPECS.map Prod.fst

/-- `combo_registry.build_combo_roster`: a combination with a member that cannot be built is
skipped. -/
def buildComboRoster : Roster :=
  COMBO_SPECS.filterMap fun spec =>
    (spec.2.2.mapM (build py config)).map fun members =>
      (spec.1, RosterModel.combo spec.2.1 members)

/-- The base models asked for: the ones picked, or else the roster. -/
def Config.modelIds : List String :=
  if config.models.selectedModels = [] then config.models.roster else config.models.selectedModels

/-- The combinations asked for: the ones picked, or else those enabled. -/
def Config.comboIds : List String :=
  if config.models.selectedCombos = [] then config.combinations.enabled
  else config.models.selectedCombos

/-- `c.startswith("CC")`. -/
def isCC (comboId : String) : Bool :=
  ['C', 'C'].isPrefixOf comboId.toList

/-- The base models of the command line: ids that are unknown, or cannot be built, are
skipped. -/
def baseModels : Roster :=
  setEntries [] <| config.modelIds.filterMap fun modelId =>
    if modelId ∈ validIds then (build py config modelId).map fun model => (modelId, .base model)
    else none

/-- The median of three, when it is asked for and at least two of its members are configured.
Nothing when the configured roster throws. -/
def medianCombo : Option Roster :=
  if "C1" ∈ config.comboIds then do
    let pool ← buildRoster py config
    let members := config.combinations.membersC1.filterMap fun m =>
      match pool.lookup m with
      | some (.base model) => some model
      | _ => none
    return if 2 ≤ members.length then [("C1", .combo .median members)] else []
  else some []

/-- The other combinations asked for, of those that can be built. The code goes through them in
no particular order. -/
def wantedCombos : Roster :=
  (config.comboIds.filter isCC).eraseDups.filterMap fun comboId =>
    ((buildComboRoster py config).lookup comboId).map fun model => (comboId, model)

/-- `cli._make_roster`, which `run` gives to the harness. Nothing when it throws. -/
def makeRoster : Option Roster := do
  let c1 ← medianCombo py config
  return setEntries (setEntries (baseModels py config) c1) (wantedCombos py config)

/-- The roster that `api._execute` gives to the harness. -/
def executeRoster : Option Roster :=
  buildRoster py config

end Code

/-! ## The ids of either roster -/

section Ids

variable {py : Py} {config : Config} {modelId : String}

/-- The text of a base model's id starts with an M. -/
theorem head?_of_build (h : (build py config modelId).isSome) :
    modelId.toList.head? = some 'M' := by
  unfold build at h
  split at h
  case h_20 =>
      split at h
      case h_1 hid => rw [hid, List.head?_cons]
      case h_2 => exact absurd h (by simp)
  all_goals decide

/-- The median of three is no base model. -/
theorem build_C1 : build py config "C1" = none := by
  rw [← Option.not_isSome_iff_eq_none]
  intro h
  exact absurd (head?_of_build h) (by decide)

/-- A combination of the registry is no base model. -/
theorem build_of_isCC (h : isCC modelId) : build py config modelId = none := by
  rw [← Option.not_isSome_iff_eq_none]
  intro hbuild
  obtain ⟨rest, hrest⟩ := List.isPrefixOf_iff_prefix.mp h
  have hhead := head?_of_build hbuild
  rw [← hrest] at hhead
  exact absurd hhead (by simp)

/-- The configured roster builds when all of its ids do. -/
def Config.RosterBuilds (py : Py) (config : Config) : Prop :=
  ∀ modelId ∈ config.models.roster, (build py config modelId).isSome

instance : Decidable (config.RosterBuilds py) :=
  inferInstanceAs (Decidable (∀ _ ∈ _, _))

/-- The configured roster: base models only, under its ids. -/
theorem buildRoster_eq_some (h : config.RosterBuilds py) :
    ∃ roster, buildRoster py config = some roster ∧
      (∀ modelId, modelId ∈ roster.ids ↔ modelId ∈ config.models.roster) ∧
      ∀ e ∈ roster, ∃ model, e.2 = .base model := by
  have hsome : ∀ modelId ∈ config.models.roster, ((build py config modelId).map fun model =>
      (modelId, RosterModel.base model)).isSome := by
    intro modelId hmem
    rw [Option.isSome_map]
    exact h modelId hmem
  refine ⟨setEntries [] (config.models.roster.filterMap fun modelId =>
    (build py config modelId).map fun model => (modelId, RosterModel.base model)), ?_, ?_, ?_⟩
  · rw [buildRoster, Series.mapM_eq_some_filterMap hsome]
    rfl
  · intro modelId
    rw [Roster.ids, Series.mem_keys_setEntries, List.map_nil, or_iff_right List.not_mem_nil,
      List.mem_map]
    constructor
    · rintro ⟨e, he, rfl⟩
      obtain ⟨modelId, hmem, hbuilt⟩ := List.mem_filterMap.mp he
      obtain ⟨model, _, rfl⟩ := Option.map_eq_some_iff.mp hbuilt
      exact hmem
    · intro hmem
      obtain ⟨model, hmodel⟩ := Option.isSome_iff_exists.mp (h modelId hmem)
      exact ⟨_, List.mem_filterMap.mpr ⟨modelId, hmem, by rw [hmodel]; rfl⟩, rfl⟩
  · intro e he
    rcases Series.mem_of_mem_setEntries he with hnil | hentry
    · exact absurd hnil List.not_mem_nil
    · obtain ⟨modelId, _, hbuilt⟩ := List.mem_filterMap.mp hentry
      obtain ⟨model, _, rfl⟩ := Option.map_eq_some_iff.mp hbuilt
      exact ⟨model, rfl⟩

/-- A roster with an id that cannot be built throws. -/
theorem buildRoster_eq_none (h : ¬ config.RosterBuilds py) : buildRoster py config = none := by
  rw [Config.RosterBuilds] at h
  push Not at h
  obtain ⟨modelId, hmem, hnone⟩ := h
  rw [Ne, Option.not_isSome_iff_eq_none] at hnone
  rw [buildRoster, Series.mapM_eq_none hmem (by rw [hnone]; rfl)]
  rfl

/-- The base models of the command line. -/
theorem mem_ids_baseModels : modelId ∈ (baseModels py config).ids ↔
    modelId ∈ config.modelIds ∧ modelId ∈ validIds ∧ (build py config modelId).isSome := by
  rw [Roster.ids, baseModels, Series.mem_keys_setEntries, List.map_nil,
    or_iff_right List.not_mem_nil, List.mem_map]
  constructor
  · rintro ⟨e, he, rfl⟩
    obtain ⟨modelId, hmem, hbuilt⟩ := List.mem_filterMap.mp he
    split at hbuilt
    · rename_i hvalid
      obtain ⟨model, hmodel, rfl⟩ := Option.map_eq_some_iff.mp hbuilt
      exact ⟨hmem, hvalid, Option.isSome_iff_exists.mpr ⟨model, hmodel⟩⟩
    · cases hbuilt
  · rintro ⟨hmem, hvalid, hbuild⟩
    obtain ⟨model, hmodel⟩ := Option.isSome_iff_exists.mp hbuild
    refine ⟨(modelId, .base model), List.mem_filterMap.mpr ⟨modelId, hmem, ?_⟩, rfl⟩
    rw [if_pos hvalid, hmodel]
    rfl

/-- The combinations that would be added: those of the registry that are asked for and whose
members can all be built. -/
def Config.AddsCombo (py : Py) (config : Config) (comboId : String) : Prop :=
  comboId ∈ config.comboIds ∧ isCC comboId ∧
    ∃ spec ∈ COMBO_SPECS, spec.1 = comboId ∧ ∀ m ∈ spec.2.2, (build py config m).isSome

instance {comboId : String} : Decidable (config.AddsCombo py comboId) :=
  inferInstanceAs (Decidable (_ ∧ _ ∧ _))

/-- A combination of the registry is built when all its members are. -/
theorem isSome_lookup_buildComboRoster {comboId : String} :
    ((buildComboRoster py config).lookup comboId).isSome ↔
      ∃ spec ∈ COMBO_SPECS, spec.1 = comboId ∧ ∀ m ∈ spec.2.2, (build py config m).isSome := by
  rw [List.lookup_isSome_iff]
  constructor
  · rintro ⟨e, he, hsame⟩
    obtain ⟨spec, hspec, hbuilt⟩ := List.mem_filterMap.mp he
    obtain ⟨members, hmembers, rfl⟩ := Option.map_eq_some_iff.mp hbuilt
    refine ⟨spec, hspec, (beq_iff_eq.mp hsame).symm, Series.isSome_mapM.mp ?_⟩
    exact Option.isSome_iff_exists.mpr ⟨members, hmembers⟩
  · rintro ⟨spec, hspec, rfl, hmembers⟩
    obtain ⟨members, hsome⟩ := Option.isSome_iff_exists.mp (Series.isSome_mapM.mpr hmembers)
    refine ⟨(spec.1, .combo spec.2.1 members), List.mem_filterMap.mpr ⟨spec, hspec, ?_⟩, ?_⟩
    · rw [hsome]
      rfl
    · exact beq_self_eq_true _

/-- The combinations of the registry that the command line adds. -/
theorem mem_ids_wantedCombos {comboId : String} :
    comboId ∈ (wantedCombos py config).ids ↔ config.AddsCombo py comboId := by
  rw [Roster.ids, wantedCombos, List.mem_map, Config.AddsCombo, ← isSome_lookup_buildComboRoster]
  constructor
  · rintro ⟨e, he, rfl⟩
    obtain ⟨comboId, hwanted, hbuilt⟩ := List.mem_filterMap.mp he
    obtain ⟨model, hmodel, rfl⟩ := Option.map_eq_some_iff.mp hbuilt
    obtain ⟨hmem, hcc⟩ := List.mem_filter.mp (List.mem_eraseDups.mp hwanted)
    exact ⟨hmem, hcc, Option.isSome_iff_exists.mpr ⟨model, hmodel⟩⟩
  · rintro ⟨hmem, hcc, hbuilt⟩
    obtain ⟨model, hmodel⟩ := Option.isSome_iff_exists.mp hbuilt
    refine ⟨(comboId, model), List.mem_filterMap.mpr ⟨comboId, ?_, ?_⟩, rfl⟩
    · exact List.mem_eraseDups.mpr (List.mem_filter.mpr ⟨hmem, hcc⟩)
    · rw [hmodel]
      rfl

/-- The median of three would be added: it is asked for, and two of its members are
configured. -/
def Config.AddsMedian (config : Config) : Prop :=
  "C1" ∈ config.comboIds ∧
    2 ≤ config.combinations.membersC1.countP fun m => m ∈ config.models.roster

instance : Decidable config.AddsMedian :=
  inferInstanceAs (Decidable (_ ∧ _))

/-- The median of three, when the configured roster builds. -/
theorem medianCombo_eq_some (h : config.RosterBuilds py) :
    ∃ c1, medianCombo py config = some c1 ∧
      ∀ comboId, comboId ∈ c1.ids ↔ comboId = "C1" ∧ config.AddsMedian := by
  unfold medianCombo
  by_cases hwanted : "C1" ∈ config.comboIds
  · obtain ⟨pool, hpool, hids, hbase⟩ := buildRoster_eq_some h
    rw [if_pos hwanted, hpool]
    set members := config.combinations.membersC1.filterMap fun m =>
      match pool.lookup m with
      | some (.base model) => some model
      | _ => none with hmembers
    -- a member is in the pool exactly when it is in the roster
    have hlength : members.length
        = config.combinations.membersC1.countP fun m => m ∈ config.models.roster := by
      rw [hmembers, List.length_filterMap_eq_countP]
      refine List.countP_congr fun m _ => ?_
      rw [decide_eq_true_iff, ← hids m]
      cases hlookup : pool.lookup m with
      | none =>
          have hnone : m ∉ pool.ids := by
            intro hmem
            obtain ⟨e, he, rfl⟩ := List.mem_map.mp hmem
            exact absurd (List.lookup_eq_none_iff.mp hlookup e he) (by simp)
          simp [hnone]
      | some model =>
          have he := Series.mem_of_lookup hlookup
          obtain ⟨base, rfl⟩ := hbase _ he
          simp only [Option.isSome_some, true_iff]
          exact List.mem_map.mpr ⟨_, he, rfl⟩
    refine ⟨if 2 ≤ members.length then [("C1", .combo .median members)] else [], rfl,
      fun comboId => ?_⟩
    rw [Config.AddsMedian, ← hlength]
    by_cases htwo : 2 ≤ members.length
    · rw [if_pos htwo]
      simp [Roster.ids, htwo, hwanted]
    · rw [if_neg htwo]
      simp [Roster.ids, htwo]
  · rw [if_neg hwanted]
    refine ⟨[], rfl, fun comboId => ?_⟩
    simp [Roster.ids, Config.AddsMedian, hwanted]

/-- The roster of the command line: the base models and the combinations asked for. -/
theorem makeRoster_eq_some (h : config.RosterBuilds py) :
    ∃ roster, makeRoster py config = some roster ∧ ∀ id, id ∈ roster.ids ↔
      (id ∈ config.modelIds ∧ id ∈ validIds ∧ (build py config id).isSome) ∨
        (id = "C1" ∧ config.AddsMedian) ∨ config.AddsCombo py id := by
  obtain ⟨c1, hc1, hids⟩ := medianCombo_eq_some h
  refine ⟨setEntries (setEntries (baseModels py config) c1) (wantedCombos py config), ?_,
    fun id => ?_⟩
  · rw [makeRoster, hc1]
    rfl
  · rw [Roster.ids, Series.mem_keys_setEntries, Series.mem_keys_setEntries, ← Roster.ids,
      ← Roster.ids, ← Roster.ids, mem_ids_baseModels, hids, mem_ids_wantedCombos, or_assoc]

end Ids

/-! ## Whether the service evaluates what was picked -/

section Same

variable {py : Py} {config : Config}

variable (py config) in
/-- The service gives the harness the ids the command line gives it, and, when models were
picked, no base model besides them. -/
structure SameModels : Prop where
  same : (executeRoster py config).map (fun roster => roster.ids.toFinset)
    = (makeRoster py config).map fun roster => roster.ids.toFinset
  picked : config.models.selectedModels ≠ [] → ∀ roster, executeRoster py config = some roster →
    ∀ modelId model, (modelId, RosterModel.base model) ∈ roster →
      modelId ∈ config.models.selectedModels

variable (py config) in
/-- When the configured roster builds: the base models asked for, as far as the catalogue knows
them and they can be built, are those of the roster, and no combination asked for would be
added. When it does not: the median of three, which rests on it, is asked for, so that the
command line throws as well. -/
def RosterAsked : Prop :=
  if config.RosterBuilds py then
    (∀ id, id ∈ config.models.roster ↔
      id ∈ config.modelIds ∧ id ∈ validIds ∧ (build py config id).isSome) ∧
    ¬ config.AddsMedian ∧ ∀ comboId, ¬ config.AddsCombo py comboId
  else "C1" ∈ config.comboIds

/-- The command line throws when the median of three is asked for and the configured roster does
not build. -/
theorem makeRoster_eq_none_iff (h : ¬ config.RosterBuilds py) :
    makeRoster py config = none ↔ "C1" ∈ config.comboIds := by
  rw [makeRoster, medianCombo]
  by_cases hwanted : "C1" ∈ config.comboIds
  · rw [if_pos hwanted, buildRoster_eq_none h]
    exact iff_of_true rfl hwanted
  · rw [if_neg hwanted]
    exact iff_of_false (fun hnone => by cases hnone) hwanted

/-- The service evaluates what the command line does, and nothing besides what was picked,
exactly when what is asked for is the configured roster. -/
theorem sameModels_iff (py : Py) (config : Config) :
    SameModels py config ↔ RosterAsked py config := by
  unfold RosterAsked
  by_cases hbuilds : config.RosterBuilds py
  · rw [if_pos hbuilds]
    obtain ⟨api, hapi, hids, hbase⟩ := buildRoster_eq_some hbuilds
    obtain ⟨cli, hcli, hids'⟩ := makeRoster_eq_some hbuilds
    have hexecute : executeRoster py config = some api := hapi
    have hsame : ((executeRoster py config).map (fun roster => roster.ids.toFinset)
        = (makeRoster py config).map fun roster => roster.ids.toFinset) ↔
          ∀ id, id ∈ config.models.roster ↔
            (id ∈ config.modelIds ∧ id ∈ validIds ∧ (build py config id).isSome) ∨
              (id = "C1" ∧ config.AddsMedian) ∨ config.AddsCombo py id := by
      rw [hexecute, hcli, Option.map_some, Option.map_some, Option.some.injEq, Finset.ext_iff]
      simp only [List.mem_toFinset, hids, hids']
    constructor
    · rintro ⟨hequal, _⟩
      rw [hsame] at hequal
      -- a combination is no base model, so the roster has none
      have hmedian : ¬ config.AddsMedian := by
        intro hadds
        have hmem := (hequal "C1").mpr (Or.inr (Or.inl ⟨rfl, hadds⟩))
        exact absurd (hbuilds "C1" hmem) (by rw [build_C1]; decide)
      have hcombo : ∀ comboId, ¬ config.AddsCombo py comboId := by
        intro comboId hadds
        have hmem := (hequal comboId).mpr (Or.inr (Or.inr hadds))
        exact absurd (hbuilds comboId hmem) (by rw [build_of_isCC hadds.2.1]; decide)
      refine ⟨fun id => ?_, hmedian, hcombo⟩
      rw [hequal id]
      simp [hmedian, hcombo]
    · rintro ⟨hequal, hmedian, hcombo⟩
      refine ⟨hsame.mpr fun id => ?_, ?_⟩
      · rw [hequal id]
        simp [hmedian, hcombo]
      · intro hpicked roster hroster modelId model hmem
        obtain rfl : api = roster := Option.some.inj (hexecute.symm.trans hroster)
        have hid := (hequal modelId).mp ((hids modelId).mp (List.mem_map_of_mem hmem))
        rw [Config.modelIds, if_neg hpicked] at hid
        exact hid.1
  · rw [if_neg hbuilds, ← makeRoster_eq_none_iff hbuilds]
    have hexecute : executeRoster py config = none := buildRoster_eq_none hbuilds
    constructor
    · rintro ⟨hequal, _⟩
      rw [hexecute, Option.map_none] at hequal
      exact Option.map_eq_none_iff.mp hequal.symm
    · intro hnone
      refine ⟨by rw [hexecute, hnone, Option.map_none], ?_⟩
      intro _ roster hroster
      rw [hexecute] at hroster
      cases hroster

end Same

/-! ## Two models picked -/

/-- The defaults, with two models picked. -/
def pickedConfig : Config where
  models := { selectedModels := ["M5", "M9"] }

/-- The service evaluates the naive model, which was not picked. -/
theorem sameModels_pickedConfig : ¬ SameModels .decimal pickedConfig := by
  intro hsame
  have hbuilds : pickedConfig.RosterBuilds .decimal := by decide +kernel
  obtain ⟨roster, hroster, hids, hbase⟩ := buildRoster_eq_some hbuilds
  obtain ⟨⟨modelId, entry⟩, hmem, hid⟩ :=
    List.mem_map.mp ((hids "M1").mpr (by decide : "M1" ∈ pickedConfig.models.roster))
  obtain ⟨model, hmodel⟩ := hbase _ hmem
  obtain rfl : modelId = "M1" := hid
  obtain rfl : entry = .base model := hmodel
  have hpicked := hsame.picked (by decide) roster hroster "M1" model hmem
  exact absurd hpicked (by decide)

end Restock.Audit
