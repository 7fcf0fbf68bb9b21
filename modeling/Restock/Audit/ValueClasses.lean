import Restock.Audit.Segments
import Restock.Series.Slices

/-!
# The classes by value

The class of a series goes by the share of its location's value that it and those above it have.
A series that is ahead of another is never in a worse class. But a series counts itself, so one that
has most of the value of its location is in a class of the tail, with nothing above it.

* `classOfShare`, `mem_abcClasses` — the class at a place of the ranking;
* `abc_of_mem` — the classes of the segments are those of their locations' rankings;
* `ClassesFollowValue`, `classesFollowValue_iff` — that the classes follow the values, and when they
  do.
-/

namespace Restock.Audit

/-! ## The ranking of a location -/

/-- The order in which the series of a location are ranked. -/
def rankLe (a b : SeriesKey × ℚ) : Prop :=
  b.2 < a.2 ∨ (a.2 = b.2 ∧ a.1.sku ≤ b.1.sku)

instance : DecidableRel rankLe := fun a b =>
  inferInstanceAs (Decidable (b.2 < a.2 ∨ (a.2 = b.2 ∧ a.1.sku ≤ b.1.sku)))

instance : Std.Total rankLe where
  total a b := by
    rcases lt_trichotomy a.2 b.2 with h | h | h
    · exact Or.inr (Or.inl h)
    · rcases le_total a.1.sku b.1.sku with h' | h'
      · exact Or.inl (Or.inr ⟨h, h'⟩)
      · exact Or.inr (Or.inr ⟨h.symm, h'⟩)
    · exact Or.inl (Or.inl h)

instance : IsTrans (SeriesKey × ℚ) rankLe where
  trans a b c hab hbc := by
    rcases hab with h | ⟨h, hs⟩
    · rcases hbc with h' | ⟨h', -⟩
      · exact Or.inl (h'.trans h)
      · exact Or.inl (h' ▸ h)
    · rcases hbc with h' | ⟨h', hs'⟩
      · exact Or.inl (h ▸ h')
      · exact Or.inr ⟨h.trans h', hs.trans hs'⟩

/-- How good a class is. -/
def AbcClass.rank : AbcClass → ℕ
  | A => 2
  | B => 1
  | C => 0

/-- The class of a cumulative share. -/
def classOfShare (abcA abcB share : ℚ) : AbcClass :=
  if share ≤ abcA + epsShare then .A else if share ≤ abcB + epsShare then .B else .C

theorem classOfShare_eq_A_iff {abcA abcB share : ℚ} :
    classOfShare abcA abcB share = .A ↔ share ≤ abcA + epsShare := by
  rw [classOfShare]
  split
  case isTrue h => exact iff_of_true rfl h
  case isFalse h =>
      refine iff_of_false ?_ h
      split <;> exact fun heq => AbcClass.noConfusion heq

/-- A smaller share is in no worse a class. -/
theorem rank_classOfShare_antitone (abcA abcB : ℚ) {a b : ℚ} (h : a ≤ b) :
    (classOfShare abcA abcB b).rank ≤ (classOfShare abcA abcB a).rank := by
  rw [classOfShare, classOfShare]
  split_ifs <;> first | decide | (exfalso; linarith)

/-- The values of a location in the order of the ranking, those below zero as zero. -/
def rankedValues (part : List (SeriesKey × ℚ)) : List ℚ :=
  (part.insertionSort rankLe).map fun e => max 0 e.2

/-- The value of a location. -/
def totalValue (part : List (SeriesKey × ℚ)) : ℚ :=
  (part.map fun e => max 0 e.2).sum

theorem sum_rankedValues (part : List (SeriesKey × ℚ)) :
    (rankedValues part).sum = totalValue part :=
  ((List.perm_insertionSort rankLe part).map _).sum_eq

theorem rankedValues_nonneg {part : List (SeriesKey × ℚ)} : ∀ v ∈ rankedValues part, 0 ≤ v := by
  intro v hv
  obtain ⟨e, -, rfl⟩ := List.mem_map.mp hv
  exact le_max_left 0 e.2

/-- The class at a place of the ranking. -/
theorem mem_abcClasses (abcA abcB : ℚ) {part : List (SeriesKey × ℚ)} (htotal : 0 < totalValue part)
    {i : ℕ} {e : SeriesKey × ℚ} (he : (part.insertionSort rankLe)[i]? = some e) :
    (e.1, classOfShare abcA abcB (((rankedValues part).take (i + 1)).sum / totalValue part)) ∈
      abcClasses abcA abcB part := by
  rw [← sum_rankedValues] at htotal ⊢
  refine List.mem_iff_getElem?.mpr ⟨i, ?_⟩
  rw [abcClasses]
  have horder : (part.insertionSort fun a b => b.2 < a.2 ∨ (a.2 = b.2 ∧ a.1.sku ≤ b.1.sku)) =
      part.insertionSort rankLe := rfl
  dsimp only
  rw [horder, List.getElem?_mapIdx, he, Option.map_some]
  have hpos : 0 < ((part.insertionSort rankLe).map fun e => max 0 e.2).sum := htotal
  rw [if_pos hpos]
  rfl

/-- A location's classes are of its series. -/
theorem map_fst_abcClasses_perm (abcA abcB : ℚ) (part : List (SeriesKey × ℚ)) :
    ((abcClasses abcA abcB part).map Prod.fst).Perm (part.map Prod.fst) := by
  have hfst : (abcClasses abcA abcB part).map Prod.fst =
      (part.insertionSort rankLe).map Prod.fst := by
    rw [abcClasses]
    apply List.ext_getElem
    · simp only [List.length_map, List.length_mapIdx, List.length_insertionSort]
    · intro i _ _
      simp only [List.getElem_map, List.getElem_mapIdx]
      rfl
  rw [hfst]
  exact (List.perm_insertionSort rankLe part).map _

/-! ## The segments of a panel -/

/-- The value of every series of a panel, over the weeks up to its last one. The other figures of a
series, and so their thresholds, have no part in it. -/
def trailingValues (priceLookup : List (String × ℚ)) (panel : List PanelRow) :
    List (SeriesKey × ℚ) :=
  match (panel.map PanelRow.weekStart).max? with
  | some asOf => valuesOf priceLookup ((panelSeries panel).map (seriesFigures id {} 0 0 asOf panel))
  | none => []

/-- The part of a location. -/
def partOf (values : List (SeriesKey × ℚ)) (location : String) : List (SeriesKey × ℚ) :=
  values.filter fun e => e.1.location = location

/-- The series that have a value. -/
theorem map_fst_valuesOf (priceLookup : List (String × ℚ)) (figures : List SeriesFigures) :
    (valuesOf priceLookup figures).map Prod.fst = figures.map SeriesFigures.series := by
  rw [valuesOf]
  split
  · rw [List.map_map]
    rfl
  · rw [List.map_map, List.map_map]
    rfl

/-- The values go by the units and prices alone. -/
theorem valuesOf_map_congr {α : Type} {f g : α → SeriesFigures} (priceLookup : List (String × ℚ))
    (xs : List α) (hseries : ∀ x, (f x).series = (g x).series)
    (hunits : ∀ x, (f x).units52 = (g x).units52)
    (hprice : ∀ x, (f x).repPrice = (g x).repPrice) :
    valuesOf priceLookup (xs.map f) = valuesOf priceLookup (xs.map g) := by
  simp only [valuesOf, List.map_map, List.filterMap_map, Function.comp_def, hseries, hunits, hprice]

section Code

variable {sqrt : ℚ → ℚ} {scfg : SegmentsCfg} {priceLookup : List (String × ℚ)}
  {panel : List PanelRow} {segments : List SegmentRow}

/-- The series of a panel that has segments have one value each. -/
theorem map_fst_trailingValues {asOf : ℤ}
    (hasOf : (panel.map PanelRow.weekStart).max? = some asOf) :
    (trailingValues priceLookup panel).map Prod.fst = panelSeries panel := by
  rw [trailingValues, hasOf]
  dsimp only
  rw [map_fst_valuesOf, List.map_map]
  exact List.map_id _

theorem nodup_panelSeries : (panelSeries panel).Nodup :=
  (List.perm_insertionSort _ _).nodup_iff.mpr (Series.nodup_eraseDups _)

/-- The classes of the segments are those of their locations' rankings. -/
theorem abc_of_mem (h : computeSegments sqrt scfg priceLookup panel = some segments)
    {abcA abcB : ℚ} (hthresholds : scfg.abcThresholds = [abcA, abcB]) {r : SegmentRow}
    (hr : r ∈ segments) :
    r.abc = ((abcClasses abcA abcB
      (partOf (trailingValues priceLookup panel) r.series.location)).lookup r.series).getD .C := by
  rw [computeSegments, hthresholds] at h
  split at h
  case h_2 => cases h
  case h_1 low high _ _ asOf _ heq hasOf =>
      obtain ⟨rfl, rfl⟩ : abcA = _ ∧ abcB = _ := by simpa using heq
      rw [← Option.some.inj h] at hr
      obtain ⟨f, hf, rfl⟩ := List.mem_map.mp hr
      have hvalues : valuesOf priceLookup
          ((panelSeries panel).map (seriesFigures sqrt scfg low high asOf panel)) =
            trailingValues priceLookup panel := by
        rw [trailingValues, hasOf]
        exact valuesOf_map_congr priceLookup _ (fun _ => rfl) (fun _ => rfl) fun _ => rfl
      dsimp only
      rw [hvalues]
      rfl

/-- The series that have a value are those of the segments. -/
theorem map_fst_trailingValues_eq
    (h : computeSegments sqrt scfg priceLookup panel = some segments) :
    (trailingValues priceLookup panel).map Prod.fst = segments.map SegmentRow.series := by
  obtain ⟨asOf, hasOf⟩ : ∃ asOf, (panel.map PanelRow.weekStart).max? = some asOf := by
    rw [computeSegments] at h
    split at h
    case h_1 hmax => exact ⟨_, hmax⟩
    case h_2 => cases h
  rw [map_fst_trailingValues hasOf, map_series_computeSegments sqrt scfg h]

/-- A series has one value. -/
theorem nodup_trailingValues (h : computeSegments sqrt scfg priceLookup panel = some segments) :
    ((trailingValues priceLookup panel).map Prod.fst).Nodup := by
  rw [map_fst_trailingValues_eq h, map_series_computeSegments sqrt scfg h]
  exact nodup_panelSeries

/-- The segment at a place of the ranking of its location has the class of the place. -/
theorem abc_of_place (h : computeSegments sqrt scfg priceLookup panel = some segments)
    {abcA abcB : ℚ} (hthresholds : scfg.abcThresholds = [abcA, abcB]) {r : SegmentRow}
    (hr : r ∈ segments) {location : String} (hlocation : r.series.location = location)
    (htotal : 0 < totalValue (partOf (trailingValues priceLookup panel) location)) {i : ℕ}
    {value : ℚ}
    (hi : ((partOf (trailingValues priceLookup panel) location).insertionSort rankLe)[i]? =
      some (r.series, value)) :
    r.abc = classOfShare abcA abcB
      (((rankedValues (partOf (trailingValues priceLookup panel) location)).take (i + 1)).sum /
        totalValue (partOf (trailingValues priceLookup panel) location)) := by
  subst hlocation
  have hclasses : ((abcClasses abcA abcB (partOf (trailingValues priceLookup panel)
      r.series.location)).map Prod.fst).Nodup := by
    refine (map_fst_abcClasses_perm abcA abcB _).nodup_iff.mpr
      ((nodup_trailingValues h).sublist ?_)
    exact List.filter_sublist.map _
  rw [abc_of_mem h hthresholds hr,
    Series.lookup_of_mem hclasses (mem_abcClasses abcA abcB htotal hi), Option.getD_some]

/-- A segment stands in the ranking of its location, with its value. -/
theorem exists_place (h : computeSegments sqrt scfg priceLookup panel = some segments)
    {r : SegmentRow} (hr : r ∈ segments) {location : String}
    (hlocation : r.series.location = location) :
    ∃ (i : ℕ) (value : ℚ),
      (trailingValues priceLookup panel).lookup r.series = some value ∧
      ((partOf (trailingValues priceLookup panel) location).insertionSort rankLe)[i]? =
        some (r.series, value) := by
  have hseries : r.series ∈ (trailingValues priceLookup panel).map Prod.fst := by
    rw [map_fst_trailingValues_eq h]
    exact List.mem_map_of_mem hr
  obtain ⟨⟨_, value⟩, hmem, rfl⟩ := List.mem_map.mp hseries
  have hpart : (r.series, value) ∈ partOf (trailingValues priceLookup panel) location :=
    List.mem_filter.mpr ⟨hmem, decide_eq_true hlocation⟩
  obtain ⟨i, hi⟩ := List.mem_iff_getElem?.mp ((List.mem_insertionSort rankLe).mpr hpart)
  exact ⟨i, value, Series.lookup_of_mem (nodup_trailingValues h) hmem, hi⟩

/-! ## Classes and values -/

/-- The value of a series. -/
def valueOf (values : List (SeriesKey × ℚ)) (series : SeriesKey) : ℚ :=
  (values.lookup series).getD 0

/-- At every location that has a value, a series of greater value is in no worse a class than one of
less, and one of the greatest value is in class A. -/
structure ClassesFollowValue (values : List (SeriesKey × ℚ)) (segments : List SegmentRow) :
    Prop where
  ordered : ∀ location, 0 < totalValue (partOf values location) →
    ∀ r ∈ segments, ∀ r' ∈ segments, r.series.location = location →
      r'.series.location = location → valueOf values r.series < valueOf values r'.series →
        r.abc.rank ≤ r'.abc.rank
  first : ∀ location, 0 < totalValue (partOf values location) →
    ∃ r ∈ segments, r.series.location = location ∧ r.abc = .A ∧
      ∀ r' ∈ segments, r'.series.location = location →
        valueOf values r'.series ≤ valueOf values r.series

/-- A series of greater value is in no worse a class, whatever the values. -/
theorem rank_le_of_value_lt (h : computeSegments sqrt scfg priceLookup panel = some segments)
    {abcA abcB : ℚ} (hthresholds : scfg.abcThresholds = [abcA, abcB]) {location : String}
    (htotal : 0 < totalValue (partOf (trailingValues priceLookup panel) location))
    {r r' : SegmentRow} (hr : r ∈ segments) (hr' : r' ∈ segments)
    (hlocation : r.series.location = location) (hlocation' : r'.series.location = location)
    (hlt : valueOf (trailingValues priceLookup panel) r.series
      < valueOf (trailingValues priceLookup panel) r'.series) : r.abc.rank ≤ r'.abc.rank := by
  obtain ⟨i, v, hv, hi⟩ := exists_place h hr hlocation
  obtain ⟨i', v', hv', hi'⟩ := exists_place h hr' hlocation'
  rw [valueOf, valueOf, hv, hv', Option.getD_some, Option.getD_some] at hlt
  -- the greater value stands first in the ranking
  have hplace : i' ≤ i := by
    by_contra hgt
    obtain ⟨hlen, hget⟩ := List.getElem?_eq_some_iff.mp hi
    obtain ⟨hlen', hget'⟩ := List.getElem?_eq_some_iff.mp hi'
    have hsorted := List.pairwise_iff_getElem.mp
      (List.pairwise_insertionSort rankLe (partOf (trailingValues priceLookup panel) location))
      i i' hlen hlen' (not_le.mp hgt)
    rw [hget, hget'] at hsorted
    rcases hsorted with hless | ⟨heq, -⟩
    · exact absurd hless (not_lt.mpr hlt.le)
    · exact absurd heq hlt.ne
  rw [abc_of_place h hthresholds hr hlocation htotal hi,
    abc_of_place h hthresholds hr' hlocation' htotal hi']
  refine rank_classOfShare_antitone abcA abcB (div_le_div_of_nonneg_right ?_ htotal.le)
  exact Series.sum_take_mono rankedValues_nonneg (by omega)

/-- A series in class A has no more than the share of the class. -/
theorem value_le_of_abc_eq_A (h : computeSegments sqrt scfg priceLookup panel = some segments)
    {abcA abcB : ℚ} (hthresholds : scfg.abcThresholds = [abcA, abcB]) {location : String}
    (htotal : 0 < totalValue (partOf (trailingValues priceLookup panel) location))
    {r : SegmentRow} (hr : r ∈ segments) (hlocation : r.series.location = location)
    (hA : r.abc = .A) : valueOf (trailingValues priceLookup panel) r.series ≤
      (abcA + epsShare) * totalValue (partOf (trailingValues priceLookup panel) location) := by
  obtain ⟨i, v, hv, hi⟩ := exists_place h hr hlocation
  rw [abc_of_place h hthresholds hr hlocation htotal hi, classOfShare_eq_A_iff,
    div_le_iff₀ htotal] at hA
  rw [valueOf, hv, Option.getD_some]
  refine le_trans ?_ hA
  -- what is summed up to a place has the value there as a part
  have hget : (rankedValues (partOf (trailingValues priceLookup panel) location))[i]? =
      some (max 0 v) := by
    rw [rankedValues, List.getElem?_map, hi, Option.map_some]
  obtain ⟨hlen, hval⟩ := List.getElem?_eq_some_iff.mp hget
  have hmem : max 0 v ∈ (rankedValues
      (partOf (trailingValues priceLookup panel) location)).take (i + 1) := by
    rw [List.mem_take_iff_getElem]
    exact ⟨i, by omega, hval⟩
  exact (le_max_right 0 v).trans (List.single_le_sum
    (fun x hx => rankedValues_nonneg x (List.mem_of_mem_take hx)) _ hmem)

/-- The series that is ranked first at a location: its value is the greatest, and it is in class A
when it has no more than the share of the class. -/
theorem exists_ranked_first (h : computeSegments sqrt scfg priceLookup panel = some segments)
    {abcA abcB : ℚ} (hthresholds : scfg.abcThresholds = [abcA, abcB]) {location : String}
    (htotal : 0 < totalValue (partOf (trailingValues priceLookup panel) location)) :
    ∃ r ∈ segments, r.series.location = location ∧
      (valueOf (trailingValues priceLookup panel) r.series ≤
        (abcA + epsShare) * totalValue (partOf (trailingValues priceLookup panel) location) →
          r.abc = .A) ∧
      ∀ r' ∈ segments, r'.series.location = location →
        valueOf (trailingValues priceLookup panel) r'.series ≤
          valueOf (trailingValues priceLookup panel) r.series := by
  set part := partOf (trailingValues priceLookup panel) location with hpart
  -- a location that has a value has a first series
  obtain ⟨e, hfirst⟩ : ∃ e, (part.insertionSort rankLe)[0]? = some e := by
    cases hnil : part.insertionSort rankLe with
    | nil =>
        rw [← sum_rankedValues, rankedValues, hnil] at htotal
        exact absurd htotal (lt_irrefl 0)
    | cons e rest => exact ⟨e, rfl⟩
  have hmem : e ∈ part := (List.mem_insertionSort rankLe).mp (List.mem_of_getElem? hfirst)
  obtain ⟨hvalues, hlocation⟩ := List.mem_filter.mp hmem
  have hsegment : e.1 ∈ segments.map SegmentRow.series := by
    rw [← map_fst_trailingValues_eq h]
    exact List.mem_map_of_mem hvalues
  obtain ⟨r, hr, hseries⟩ := List.mem_map.mp hsegment
  rw [← hseries, decide_eq_true_iff] at hlocation
  have hvalue : valueOf (trailingValues priceLookup panel) r.series = e.2 := by
    rw [valueOf, hseries, Series.lookup_of_mem (nodup_trailingValues h) hvalues, Option.getD_some]
  have hgreatest : ∀ e' ∈ part, e'.2 ≤ e.2 := by
    intro e' he'
    obtain ⟨i, hi⟩ := List.mem_iff_getElem?.mp ((List.mem_insertionSort rankLe).mpr he')
    obtain ⟨hlen, hget⟩ := List.getElem?_eq_some_iff.mp hi
    obtain ⟨hlen₀, hget₀⟩ := List.getElem?_eq_some_iff.mp hfirst
    rcases Nat.eq_zero_or_pos i with rfl | hpos
    · rw [← hget, ← hget₀]
    · have hsorted := List.pairwise_iff_getElem.mp (List.pairwise_insertionSort rankLe part)
        0 i hlen₀ hlen hpos
      rw [hget, hget₀] at hsorted
      rcases hsorted with hlt | ⟨heq, -⟩
      · exact hlt.le
      · exact heq.ge
  refine ⟨r, hr, hlocation, fun hshare => ?_, fun r' hr' hlocation' => ?_⟩
  · rw [hvalue] at hshare
    -- the greatest value is above zero, as their sum is
    have hpos : 0 < e.2 := by
      by_contra hle
      have hzero : totalValue part = 0 := by
        refine List.sum_eq_zero fun v hv => ?_
        obtain ⟨e', he', rfl⟩ := List.mem_map.mp hv
        exact max_eq_left ((hgreatest e' he').trans (not_lt.mp hle))
      exact absurd htotal hzero.not_gt
    have hplace : (part.insertionSort rankLe)[0]? = some (r.series, e.2) := by
      rw [hfirst, hseries]
    have hsum : ((rankedValues part).take 1).sum = e.2 := by
      have hget : (rankedValues part)[0]? = some (max 0 e.2) := by
        rw [rankedValues, List.getElem?_map, hfirst, Option.map_some]
      rw [List.take_one, List.head?_eq_getElem?, hget]
      simp [max_eq_right hpos.le]
    rw [abc_of_place h hthresholds hr hlocation htotal hplace, classOfShare_eq_A_iff, ← hpart,
      zero_add, hsum, div_le_iff₀ htotal]
    exact hshare
  · obtain ⟨i, v, hv, hi⟩ := exists_place h hr' hlocation'
    rw [hvalue, valueOf, hv, Option.getD_some]
    exact hgreatest _ ((List.mem_insertionSort rankLe).mp (List.mem_of_getElem? hi))

/-- **The audit's classes follow the values exactly where no series has more than the share of class
A.** For every panel, price lookup and thresholds, a series of greater value is in no worse a class
at every location that has a value; and one of the greatest value is in class A there exactly when
no series of the location has a greater share of its value than the first threshold. -/
theorem classesFollowValue_iff (h : computeSegments sqrt scfg priceLookup panel = some segments)
    {abcA abcB : ℚ} (hthresholds : scfg.abcThresholds = [abcA, abcB]) :
    ClassesFollowValue (trailingValues priceLookup panel) segments ↔
      ∀ location, 0 < totalValue (partOf (trailingValues priceLookup panel) location) →
        ∀ r ∈ segments, r.series.location = location →
          valueOf (trailingValues priceLookup panel) r.series ≤ (abcA + epsShare) *
            totalValue (partOf (trailingValues priceLookup panel) location) := by
  constructor
  · intro hfollow location htotal r hr hlocation
    obtain ⟨first, hfirst, hlocation', hA, hgreatest⟩ := hfollow.first location htotal
    exact (hgreatest r hr hlocation).trans
      (value_le_of_abc_eq_A h hthresholds htotal hfirst hlocation' hA)
  · intro hshares
    constructor
    case ordered =>
      intro location htotal r hr r' hr' hlocation hlocation' hlt
      exact rank_le_of_value_lt h hthresholds htotal hr hr' hlocation hlocation' hlt
    case first =>
      intro location htotal
      obtain ⟨r, hr, hlocation, hA, hgreatest⟩ := exists_ranked_first h hthresholds htotal
      exact ⟨r, hr, hlocation, hA (hshares location htotal r hr hlocation), hgreatest⟩

end Code

/-! ## A location with one good seller -/

/-- The week of a series of a panel. -/
private def soldWeek (sku : String) (units : ℚ) : PanelRow where
  series := { sku, location := "MAIN" }
  weekStart := 4
  unitsRaw := units
  unitsCorrected := units

/-- Two series that sell the same share their location's value, and the classes follow it. -/
theorem classesFollowValue_twoSellers :
    ∃ segments, computeSegments id {} [] [soldWeek "S1" 5, soldWeek "S2" 5] = some segments ∧
      ClassesFollowValue (trailingValues [] [soldWeek "S1" 5, soldWeek "S2" 5]) segments := by
  have hsome : (computeSegments id {} [] [soldWeek "S1" 5, soldWeek "S2" 5]).isSome = true := by
    decide +kernel
  obtain ⟨segments, hsegments⟩ := Option.isSome_iff_exists.mp hsome
  refine ⟨segments, hsegments, (classesFollowValue_iff hsegments rfl).mpr ?_⟩
  rintro location - r hr rfl
  have hshares : ∀ series ∈ panelSeries [soldWeek "S1" 5, soldWeek "S2" 5],
      valueOf (trailingValues [] [soldWeek "S1" 5, soldWeek "S2" 5]) series ≤
        (4 / 5 + epsShare) * totalValue (partOf
          (trailingValues [] [soldWeek "S1" 5, soldWeek "S2" 5]) series.location) := by
    decide +kernel
  refine hshares r.series ?_
  rw [← map_series_computeSegments id {} hsegments]
  exact List.mem_map_of_mem hr

/-- A series that is alone at its location has all of its value, and is in class C. -/
theorem classesFollowValue_oneSeller :
    ∃ segments, computeSegments id {} [] [soldWeek "SOLO" 5] = some segments ∧
      ¬ ClassesFollowValue (trailingValues [] [soldWeek "SOLO" 5]) segments := by
  have hclasses : (computeSegments id {} [] [soldWeek "SOLO" 5]).map
      (List.map SegmentRow.abc) = some [.C] := by
    decide +kernel
  obtain ⟨segments, hsegments, hC⟩ := Option.map_eq_some_iff.mp hclasses
  refine ⟨segments, hsegments, fun hfollow => ?_⟩
  obtain ⟨r, hr, -, hA, -⟩ := hfollow.first "MAIN" (by decide +kernel)
  have hmem : r.abc ∈ segments.map SegmentRow.abc := List.mem_map_of_mem hr
  rw [hC, List.mem_singleton, hA] at hmem
  cases hmem

end Restock.Audit
