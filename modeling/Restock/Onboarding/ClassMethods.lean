import Restock.Forecast.Backtest
import Restock.Forecast.Settings
import Restock.Series.Best
import Restock.Utf16.Numerals

/-!
# The method of each class, from the engine's segments

`packages/forecast-run/src/onboarding-audit.ts`: the audit engine names a champion model for each
demand segment, and the onboarding collapses them to one demand method for each class.

* `engineModelToDemandMethod` — the method a model stands for;
* `segmentChampionsToClasses` — the champion of the segment with the least error, among those whose
  names start with the letter of the class;
* `OwnDecides` — only a class's own segments decide its method;
* `Undisturbed`, `ownDecides_iff` — they do exactly when no other segment gets in between, and ALL,
  which starts with the letter of a class, stays away from the segments of that class.
-/

namespace Restock.Onboarding

open Forecast (AbcCategory ByClass DemandMethod)
open Json (Text text unit)
open Series (FirstLeast firstLeast takeLess)

/-! ## The code -/

/-- `RoutingSegment`: the champion of a segment and its error, when it was validated. -/
structure RoutingSegment where
  champion : Text
  valWape : Option ℚ
  deriving DecidableEq, Repr

/-- `RoutingTable`: the segments, in the order of the object, under names that are told apart. -/
structure RoutingTable where
  segments : List (Text × RoutingSegment)
  nodup : (segments.map Prod.fst).Nodup

/-- `CHAMPION_DEFAULT`, from `packages/forecast/src/layered.ts`. -/
def CHAMPION_DEFAULT : DemandMethod := .runRate

/-- `RECENT_HEAVY_MODELS`. -/
def RECENT_HEAVY_MODELS : List Text :=
  ["m8", "m9", "m13", "m14", "m15", "m16", "m22", "m3", "m1"].map text

/-- `toLowerCase` of the letters of ASCII: no other letter becomes one of them. -/
def lowerUnit (c : UInt16) : UInt16 := if unit 'A' ≤ c ∧ c ≤ unit 'Z' then c + 32 else c

/-- `engineModelToDemandMethod`. -/
def engineModelToDemandMethod (modelId : Text) : DemandMethod :=
  let id := (Utf16.trim modelId).map lowerUnit
  let base := if text "m4_" <+: id then text "m4" else id
  if base ∈ RECENT_HEAVY_MODELS then .recentHeavy else .runRate

/-- The letter of a class. -/
def letterOf : AbcCategory → UInt16
  | .A => unit 'A'
  | .B => unit 'B'
  | .C => unit 'C'

/-- What a segment is compared by: its error, the worst when there is none. -/
def score (entry : Text × RoutingSegment) : WithTop ℚ :=
  match entry.2.valWape with
  | none => ⊤
  | some valWape => valWape

/-- `segments["ALL"]`. -/
def RoutingTable.all (routing : RoutingTable) : Option RoutingSegment :=
  (routing.segments.find? fun entry => entry.1 = text "ALL").map Prod.snd

/-- `pick`: the method of a class. -/
def pick (routing : RoutingTable) (letter : UInt16) : DemandMethod :=
  let best := routing.segments.foldl (fun best entry =>
    if entry.1.head? = some letter then takeLess score best entry else best) none
  match best with
  | some entry => engineModelToDemandMethod entry.2.champion
  | none =>
      match routing.all with
      | some all =>
          if all.champion.isEmpty then CHAMPION_DEFAULT else engineModelToDemandMethod all.champion
      | none => CHAMPION_DEFAULT

/-- `segmentChampionsToClasses`. -/
def segmentChampionsToClasses (routing : RoutingTable) : ByClass DemandMethod where
  A := pick routing (letterOf .A)
  B := pick routing (letterOf .B)
  C := pick routing (letterOf .C)

/-! ## What is said of it -/

/-- The method of a class in a result. -/
def methodOf (classes : ByClass DemandMethod) : AbcCategory → DemandMethod
  | .A => classes.A
  | .B => classes.B
  | .C => classes.C

/-- The names of a class's own segments. -/
def ownNames (c : AbcCategory) : List Text :=
  [[letterOf c, unit 'X'], [letterOf c, unit 'Y'], [letterOf c, unit 'Z']]

section Segments

variable (routing : RoutingTable) (c : AbcCategory)

/-- A class's own segments. -/
def ownSegments : List (Text × RoutingSegment) :=
  routing.segments.filter fun entry => entry.1 ∈ ownNames c

/-- The segments whose names start with the letter of a class. -/
def startingSegments : List (Text × RoutingSegment) :=
  routing.segments.filter fun entry => entry.1.head? = some (letterOf c)

/-- A segment is one of a class's own with the least error. -/
def OwnLeast (entry : Text × RoutingSegment) : Prop :=
  entry ∈ ownSegments routing c ∧ ∀ other ∈ ownSegments routing c, score entry ≤ score other

/-- What a class without segments of its own falls back on: the method of ALL's champion, or the
default. -/
def fallback : DemandMethod :=
  match routing.all with
  | some all => engineModelToDemandMethod all.champion
  | none => CHAMPION_DEFAULT

/-- The table with other contents of ALL. -/
def RoutingTable.setAll (all : RoutingSegment) : RoutingTable where
  segments := routing.segments.map fun entry =>
    if entry.1 = text "ALL" then (entry.1, all) else entry
  nodup := by
    have hnames : (routing.segments.map fun entry =>
        if entry.1 = text "ALL" then (entry.1, all) else entry).map Prod.fst =
          routing.segments.map Prod.fst := by
      rw [List.map_map]
      refine List.map_congr_left fun entry _ => ?_
      simp only [Function.comp_apply]
      split <;> rfl
    rw [hnames]
    exact routing.nodup

end Segments

/-- Only a class's own segments decide its method. -/
structure OwnDecides (routing : RoutingTable) : Prop where
  /-- A class with segments of its own has the method of one with the least error. -/
  own : ∀ c, ownSegments routing c ≠ [] → ∃ entry, OwnLeast routing c entry ∧
    methodOf (segmentChampionsToClasses routing) c = engineModelToDemandMethod entry.2.champion
  /-- A class without has the method of ALL's champion, or the default. -/
  others : ∀ c, ownSegments routing c = [] →
    methodOf (segmentChampionsToClasses routing) c = fallback routing
  /-- Other contents of ALL change nothing for a class with segments of its own. -/
  change : ∀ c all, ownSegments routing c ≠ [] →
    methodOf (segmentChampionsToClasses (routing.setAll all)) c =
      methodOf (segmentChampionsToClasses routing) c

/-- No segment that is not a class's own gets in between. -/
structure Undisturbed (routing : RoutingTable) : Prop where
  /-- ALL, which starts with an A, is not in a table with segments of class A. -/
  allApart : ownSegments routing .A ≠ [] → text "ALL" ∉ routing.segments.map Prod.fst
  /-- A segment of another name that is the first with the least error among those that start with
  the letter of a class has a champion of the method the class has without it. -/
  foreign : ∀ c entry, FirstLeast score (startingSegments routing c) entry →
    entry.1 ∉ ownNames c →
      (ownSegments routing c = [] →
        engineModelToDemandMethod entry.2.champion = fallback routing) ∧
      (ownSegments routing c ≠ [] → ∃ own, OwnLeast routing c own ∧
        engineModelToDemandMethod entry.2.champion = engineModelToDemandMethod own.2.champion)

/-! ## The segment that is picked -/

section Picked

variable {routing : RoutingTable} {c : AbcCategory}

/-- The method of a class is the one that is picked for its letter. -/
theorem methodOf_classes (routing : RoutingTable) (c : AbcCategory) :
    methodOf (segmentChampionsToClasses routing) c = pick routing (letterOf c) := by
  cases c <;> rfl

/-- No name is the name of a model. -/
theorem engineModelToDemandMethod_nil : engineModelToDemandMethod [] = CHAMPION_DEFAULT := by
  decide

/-- The loop looks at the segments that start with the letter. -/
theorem foldl_pick (routing : RoutingTable) (c : AbcCategory) :
    routing.segments.foldl (fun best entry =>
        if entry.1.head? = some (letterOf c) then takeLess score best entry else best) none =
      firstLeast score (startingSegments routing c) := by
  rw [firstLeast, startingSegments, List.foldl_filter]
  simp only [decide_eq_true_eq]

/-- The first segment with the least error, among those that start with the letter, is picked. -/
theorem methodOf_of_firstLeast {entry : Text × RoutingSegment}
    (h : FirstLeast score (startingSegments routing c) entry) :
    methodOf (segmentChampionsToClasses routing) c =
      engineModelToDemandMethod entry.2.champion := by
  rw [methodOf_classes, pick, foldl_pick, Series.firstLeast_eq_some_iff.mpr h]

/-- Without any, the class falls back. -/
theorem methodOf_of_nil (h : startingSegments routing c = []) :
    methodOf (segmentChampionsToClasses routing) c = fallback routing := by
  rw [methodOf_classes, pick, foldl_pick, Series.firstLeast_eq_none_iff.mpr h, fallback]
  dsimp only
  cases routing.all with
  | none => rfl
  | some all =>
      by_cases hempty : all.champion.isEmpty = true
      · simp [List.isEmpty_iff.mp hempty, engineModelToDemandMethod_nil]
      · simp [hempty]

/-- Some segment is picked when there are some. -/
theorem exists_firstLeast (h : startingSegments routing c ≠ []) :
    ∃ entry, FirstLeast score (startingSegments routing c) entry := by
  cases hfound : firstLeast score (startingSegments routing c) with
  | none => exact absurd (Series.firstLeast_eq_none_iff.mp hfound) h
  | some entry => exact ⟨entry, Series.firstLeast_eq_some_iff.mp hfound⟩

/-- A class's own segments start with its letter. -/
theorem mem_startingSegments_of_own {entry : Text × RoutingSegment}
    (h : entry ∈ ownSegments routing c) : entry ∈ startingSegments routing c := by
  obtain ⟨hmem, hname⟩ := List.mem_filter.mp h
  refine List.mem_filter.mpr ⟨hmem, ?_⟩
  simp only [ownNames, List.mem_cons, List.not_mem_nil, or_false, decide_eq_true_eq] at hname ⊢
  rcases hname with hname | hname | hname <;> rw [hname] <;> rfl

/-- So a class with segments of its own has some that start with its letter. -/
theorem startingSegments_ne_nil (h : ownSegments routing c ≠ []) :
    startingSegments routing c ≠ [] := by
  obtain ⟨entry, hentry⟩ := List.exists_mem_of_ne_nil _ h
  exact List.ne_nil_of_mem (mem_startingSegments_of_own hentry)

/-- One of a class's own segments that is picked has the least error of them. -/
theorem ownLeast_of_firstLeast {entry : Text × RoutingSegment}
    (h : FirstLeast score (startingSegments routing c) entry) (hname : entry.1 ∈ ownNames c) :
    OwnLeast routing c entry := by
  refine ⟨List.mem_filter.mpr ⟨(List.mem_filter.mp h.mem).1, decide_eq_true hname⟩, ?_⟩
  exact fun other hother => h.le (mem_startingSegments_of_own hother)

end Picked

/-! ## Other contents of ALL -/

section All

variable {routing : RoutingTable} {c : AbcCategory} {all : RoutingSegment}

/-- Without ALL there is nothing to change. -/
theorem setAll_eq_self (h : text "ALL" ∉ routing.segments.map Prod.fst) :
    routing.setAll all = routing := by
  have hsegments : (routing.setAll all).segments = routing.segments := by
    refine (List.map_congr_left fun entry hentry => ?_).trans (List.map_id _)
    refine if_neg fun hname => h ?_
    rw [← hname]
    exact List.mem_map_of_mem hentry
  cases routing
  simpa only [RoutingTable.mk.injEq, RoutingTable.setAll] using hsegments

/-- A class whose letter does not start ALL sees no change. -/
theorem startingSegments_setAll (h : letterOf c ≠ unit 'A') :
    startingSegments (routing.setAll all) c = startingSegments routing c := by
  have hhead : ¬ (text "ALL").head? = some (letterOf c) := fun hhead =>
    h (Option.some.inj hhead).symm
  have hlist : ∀ entries : List (Text × RoutingSegment),
      (entries.map fun entry => if entry.1 = text "ALL" then (entry.1, all) else entry).filter
          (fun entry => entry.1.head? = some (letterOf c)) =
        entries.filter fun entry => entry.1.head? = some (letterOf c) := by
    intro entries
    induction entries with
    | nil => rfl
    | cons entry rest ih =>
        rw [List.map_cons, List.filter_cons, List.filter_cons, ih]
        by_cases hname : entry.1 = text "ALL"
        · simp [hname, hhead]
        · simp [hname]
  exact hlist routing.segments

/-- Some number is less than every error. -/
theorem exists_lt_scores (entries : List (Text × RoutingSegment)) :
    ∃ low : ℚ, ∀ entry ∈ entries, (low : WithTop ℚ) < score entry := by
  induction entries with
  | nil => exact ⟨0, List.forall_mem_nil _⟩
  | cons entry entries ih =>
      obtain ⟨low, hlow⟩ := ih
      cases hwape : entry.2.valWape with
      | none =>
          refine ⟨low, List.forall_mem_cons.mpr ⟨?_, hlow⟩⟩
          rw [score, hwape]
          exact WithTop.coe_lt_top low
      | some valWape =>
          refine ⟨min low (valWape - 1), List.forall_mem_cons.mpr ⟨?_, fun other hother => ?_⟩⟩
          · rw [score, hwape]
            exact WithTop.coe_lt_coe.mpr ((min_le_right _ _).trans_lt (sub_one_lt valWape))
          · exact (WithTop.coe_le_coe.mpr (min_le_left _ _)).trans_lt (hlow other hother)

/-- Every method is that of some model. -/
theorem exists_champion (method : DemandMethod) :
    ∃ champion, engineModelToDemandMethod champion = method := by
  cases method with
  | runRate => exact ⟨text "M2", by decide⟩
  | recentHeavy => exact ⟨text "M9", by decide⟩

/-- With ALL in the table, contents of it give class A any method. -/
theorem exists_setAll (h : text "ALL" ∈ routing.segments.map Prod.fst) (method : DemandMethod) :
    ∃ all, methodOf (segmentChampionsToClasses (routing.setAll all)) .A = method := by
  obtain ⟨champion, hchampion⟩ := exists_champion method
  obtain ⟨low, hlow⟩ := exists_lt_scores (startingSegments routing .A)
  obtain ⟨entry, hentry, hname⟩ := List.mem_map.mp h
  obtain ⟨before, after, hsplit⟩ := List.append_of_mem hentry
  have hbefore : entry.1 ∉ before.map Prod.fst := by
    have hnodup := routing.nodup
    rw [hsplit, List.map_append, List.map_cons, List.nodup_append] at hnodup
    exact fun hmem => hnodup.2.2 _ hmem _ List.mem_cons_self rfl
  have hother : ∀ other ∈ routing.segments, other.1.head? = some (letterOf .A) →
      (low : WithTop ℚ) < score other := fun other hmem hhead =>
    hlow other (List.mem_filter.mpr ⟨hmem, decide_eq_true hhead⟩)
  obtain ⟨all, hall⟩ : ∃ all : RoutingSegment, all = { champion, valWape := some low } :=
    ⟨_, rfl⟩
  have hscore : ∀ name, score (name, all) = (low : WithTop ℚ) := fun name => by
    rw [hall]
    rfl
  have hfirst : FirstLeast score (startingSegments (routing.setAll all) .A) (text "ALL", all) := by
    refine ⟨(before.map fun e => if e.1 = text "ALL" then (e.1, all) else e).filter
        fun e => e.1.head? = some (letterOf .A),
      (after.map fun e => if e.1 = text "ALL" then (e.1, all) else e).filter
        fun e => e.1.head? = some (letterOf .A), ?_, ?_, ?_⟩
    · have hletter : decide ((text "ALL").head? = some (letterOf .A)) = true :=
        decide_eq_true rfl
      rw [startingSegments, RoutingTable.setAll]
      dsimp only
      rw [hsplit, List.map_append, List.map_cons, List.filter_append, if_pos hname, hname,
        List.filter_cons, if_pos hletter]
    · -- ALL is not before itself, so what is before it is as it was, and greater
      intro other hmem
      obtain ⟨hmem, hhead⟩ := List.mem_filter.mp hmem
      obtain ⟨e, he, rfl⟩ := List.mem_map.mp hmem
      have hne : e.1 ≠ text "ALL" := by
        rw [← hname]
        exact fun heq => hbefore (heq ▸ List.mem_map_of_mem he)
      rw [if_neg hne] at hhead ⊢
      rw [hscore]
      exact hother e (hsplit ▸ List.mem_append_left _ he) (of_decide_eq_true hhead)
    · intro other hmem
      obtain ⟨hmem, hhead⟩ := List.mem_filter.mp hmem
      obtain ⟨e, he, rfl⟩ := List.mem_map.mp hmem
      rw [hscore]
      by_cases heq : e.1 = text "ALL"
      · rw [if_pos heq, hscore]
      · rw [if_neg heq] at hhead ⊢
        refine (hother e ?_ (of_decide_eq_true hhead)).le
        rw [hsplit]
        exact List.mem_append_right _ (List.mem_cons_of_mem _ he)
  refine ⟨all, ?_⟩
  rw [methodOf_of_firstLeast hfirst, hall, hchampion]

end All

/-! ## When a class decides for itself -/

/-- For all tables: only a class's own segments decide its method exactly when no other segment gets
in between. -/
theorem ownDecides_iff (routing : RoutingTable) : OwnDecides routing ↔ Undisturbed routing := by
  constructor
  · intro h
    refine ⟨fun hown hall => ?_, fun c entry hfirst _ => ⟨fun hnone => ?_, fun hown => ?_⟩⟩
    · -- the other method is given by some contents of ALL
      obtain ⟨method, hmethod⟩ : ∃ method : DemandMethod,
          method ≠ methodOf (segmentChampionsToClasses routing) .A := by
        cases methodOf (segmentChampionsToClasses routing) .A with
        | runRate => exact ⟨.recentHeavy, by decide⟩
        | recentHeavy => exact ⟨.runRate, by decide⟩
      obtain ⟨all, hset⟩ := exists_setAll hall method
      exact hmethod (hset ▸ h.change .A all hown)
    · rw [← methodOf_of_firstLeast hfirst]
      exact h.others c hnone
    · obtain ⟨own, hleast, heq⟩ := h.own c hown
      exact ⟨own, hleast, (methodOf_of_firstLeast hfirst).symm.trans heq⟩
  · intro h
    refine ⟨fun c hown => ?_, fun c hnone => ?_, fun c all hown => ?_⟩
    · obtain ⟨entry, hfirst⟩ := exists_firstLeast (startingSegments_ne_nil hown)
      rw [methodOf_of_firstLeast hfirst]
      by_cases hname : entry.1 ∈ ownNames c
      · exact ⟨entry, ownLeast_of_firstLeast hfirst hname, rfl⟩
      · exact (h.foreign c entry hfirst hname).2 hown
    · by_cases hstarting : startingSegments routing c = []
      · exact methodOf_of_nil hstarting
      · obtain ⟨entry, hfirst⟩ := exists_firstLeast hstarting
        have hname : entry.1 ∉ ownNames c := by
          intro hname
          have := (ownLeast_of_firstLeast hfirst hname).1
          rw [hnone] at this
          cases this
        rw [methodOf_of_firstLeast hfirst]
        exact (h.foreign c entry hfirst hname).1 hnone
    · by_cases hletter : letterOf c = unit 'A'
      · have hclass : c = .A := by
          cases c with
          | A => rfl
          | B => exact absurd hletter (by decide)
          | C => exact absurd hletter (by decide)
        subst hclass
        rw [setAll_eq_self (h.allApart hown)]
      · obtain ⟨entry, hfirst⟩ := exists_firstLeast (startingSegments_ne_nil hown)
        rw [methodOf_of_firstLeast hfirst]
        refine methodOf_of_firstLeast ?_
        rw [startingSegments_setAll hletter]
        exact hfirst

/-- A table with a segment of class A, and the model of all products, which has a lower error. -/
def allTable : RoutingTable where
  segments := [(text "AX", { champion := text "M6", valWape := some (22 / 125) }),
    (text "ALL", { champion := text "M9", valWape := some (3 / 20) })]
  nodup := by decide

/-- Class A has the method of ALL's champion in it, and not of its own. -/
theorem not_ownDecides : ¬ OwnDecides allTable := by
  intro h
  obtain ⟨entry, ⟨hmem, -⟩, heq⟩ := h.own .A (by decide)
  have hown : ownSegments allTable .A =
      [(text "AX", { champion := text "M6", valWape := some (22 / 125) })] := by decide +kernel
  rw [hown] at hmem
  rw [List.mem_singleton.mp hmem] at heq
  exact absurd heq (by decide +kernel)

end Restock.Onboarding
