import Restock.Forecast.Settings
import Restock.Series.Entries
import Restock.Series.Slices

/-!
# The classes of a catalogue

The classes cut the catalogue where the revenue of the products above reaches a share of the whole.
A product that is known to sell slowly, or to have sold in a brief burst, is held back from what its
revenue would give it.

* `abcRank_abcClass` — a class is the lowest of three: by revenue, by rate and by span;
* `assignAbc_pareto` — the classes by revenue are the shortest prefixes that reach their shares, the
  fields only hold products back, and a product that is ahead in everything is in no worse class.
-/

namespace Restock.Forecast

open Series

/-! ## Classes in order -/

/-- How good a class is. -/
def abcRank (cls : String) : ℕ :=
  if cls = "A" then 2 else if cls = "B" then 1 else 0

/-- The rank of a share of revenue. -/
def shareRank (share : ℚ) : ℕ :=
  if share < 7 / 10 then 2 else if share < 9 / 10 then 1 else 0

/-- The best a rate allows. -/
def rateRank (runRate : Option ℚ) : ℕ :=
  if runRate.any (· < MIN_RUN_RATE_FOR_B) then 0
  else if runRate.any (· < MIN_RUN_RATE_FOR_A) then 1
  else 2

/-- The best a span of sales allows. -/
def spanRank (saleSpanDays : Option ℚ) : ℕ :=
  if saleSpanDays.any (· < MIN_SALE_SPAN_DAYS_FOR_A) then 1 else 2

/-- A rate too slow for B is too slow for A. -/
theorem slow_of_slow {runRate : Option ℚ}
    (h : runRate.any (· < MIN_RUN_RATE_FOR_B) = true) :
    runRate.any (· < MIN_RUN_RATE_FOR_A) = true := by
  rw [Option.any_eq_true] at h ⊢
  obtain ⟨rate, hrate, hlt⟩ := h
  refine ⟨rate, hrate, ?_⟩
  rw [decide_eq_true_eq] at hlt ⊢
  refine hlt.trans ?_
  norm_num [MIN_RUN_RATE_FOR_A, MIN_RUN_RATE_FOR_B]

/-- A class is the lowest of what the revenue, the rate and the span of a product allow. -/
theorem abcRank_abcClass {total : ℚ} (htotal : 0 < total) (above : ℚ) (p : AbcInput) :
    abcRank (abcClass total above p)
      = min (shareRank (above / total)) (min (rateRank p.runRate) (spanRank p.saleSpanDays)) := by
  have hslow : p.runRate.any (· < MIN_RUN_RATE_FOR_B) = true →
      p.runRate.any (· < MIN_RUN_RATE_FOR_A) = true := slow_of_slow
  rw [abcClass, if_pos htotal, shareRank, rateRank, spanRank]
  -- the class depends on the rate and the span through three comparisons only
  generalize p.runRate.any (· < MIN_RUN_RATE_FOR_A) = slow at *
  generalize p.runRate.any (· < MIN_RUN_RATE_FOR_B) = slower at *
  generalize p.saleSpanDays.any (· < MIN_SALE_SPAN_DAYS_FOR_A) = brief
  split
  · cases slow <;> cases slower <;> cases brief <;> simp_all [abcRank]
  · split <;> cases slow <;> cases slower <;> cases brief <;> simp_all [abcRank]

/-- More above a product is no better for it. -/
theorem shareRank_antitone {a b : ℚ} (h : a ≤ b) : shareRank b ≤ shareRank a := by
  rw [shareRank, shareRank]
  split_ifs <;> first | omega | linarith

/-- A faster rate allows no less. -/
theorem rateRank_mono {a b : ℚ} (h : a ≤ b) : rateRank (some a) ≤ rateRank (some b) := by
  simp only [rateRank, Option.any_some, decide_eq_true_eq]
  split_ifs <;> first | omega | linarith

/-- A longer span allows no less. -/
theorem spanRank_mono {a b : ℚ} (h : a ≤ b) : spanRank (some a) ≤ spanRank (some b) := by
  simp only [spanRank, Option.any_some, decide_eq_true_eq]
  split_ifs <;> first | omega | linarith

/-! ## The walk over the ranking -/

/-- Products in order of revenue. -/
def byRevenue (products : List AbcInput) : List AbcInput :=
  products.insertionSort fun a b => b.revenue ≤ a.revenue

/-- The class of each product goes by the revenue of those before it. -/
theorem getElem?_assignFrom (total above : ℚ) (ps : List AbcInput) (i : ℕ) :
    (assignFrom total above ps)[i]? = ps[i]?.map fun p =>
      (p.id, abcClass total (above + ((ps.map AbcInput.revenue).take i).sum) p) := by
  induction ps generalizing above i with
  | nil => rfl
  | cons p ps ih =>
      cases i with
      | zero => simp [assignFrom]
      | succ i =>
          -- the walk goes on with the revenue of the first product above it
          rw [assignFrom, List.getElem?_cons_succ, ih, List.getElem?_cons_succ, List.map_cons,
            List.take_succ_cons, List.sum_cons]
          simp only [add_assoc]

section Catalogue

variable (products : List AbcInput)

/-- The revenue of the catalogue. -/
def totalRevenue : ℚ :=
  (products.map AbcInput.revenue).sum

/-- A product as it is ranked by its revenue alone. -/
def AbcInput.plain (p : AbcInput) : AbcInput :=
  { p with runRate := none, saleSpanDays := none }

/-- A is the shortest prefix of the ranking with seven tenths of the revenue, A and B together are
the shortest with nine tenths, and C is the rest. -/
def CutByRevenue : Prop :=
  ∃ a b, ShortestReaching ((byRevenue products).map AbcInput.revenue)
      (7 / 10 * totalRevenue products) a
    ∧ ShortestReaching ((byRevenue products).map AbcInput.revenue)
      (9 / 10 * totalRevenue products) b
    ∧ assignAbc products = (byRevenue products).mapIdx fun i p =>
      (p.id, if i < a then "A" else if i < b then "B" else "C")

/-- A product of one catalogue is in no better class than a product of another. -/
def NoBetter (id : ProductId) (others : List AbcInput) (other : ProductId) : Prop :=
  ∃ cls cls', (assignAbc products).lookup id = some cls
    ∧ (assignAbc others).lookup other = some cls' ∧ abcRank cls ≤ abcRank cls'

/-- The ranking has the products of the catalogue. -/
theorem byRevenue_perm : (byRevenue products).Perm products :=
  List.perm_insertionSort _ products

/-- What is summed on the way is the revenue of the catalogue. -/
theorem sum_byRevenue : ((byRevenue products).map AbcInput.revenue).sum = totalRevenue products :=
  ((byRevenue_perm products).map _).sum_eq

/-- The ranking descends. -/
theorem pairwise_byRevenue :
    ((byRevenue products).map AbcInput.revenue).Pairwise (· ≥ ·) := by
  rw [List.pairwise_map]
  have htotal : Std.Total fun a b : AbcInput => b.revenue ≤ a.revenue :=
    ⟨fun a b => le_total b.revenue a.revenue⟩
  have htrans : IsTrans AbcInput fun a b => b.revenue ≤ a.revenue :=
    ⟨fun _ _ _ hab hbc => hbc.trans hab⟩
  exact List.pairwise_insertionSort _ products

/-- Ranking by revenue does not look at the fields. -/
theorem byRevenue_plain : byRevenue (products.map AbcInput.plain)
    = (byRevenue products).map AbcInput.plain := by
  rw [byRevenue, byRevenue]
  exact (List.map_insertionSort _ _ AbcInput.plain products fun _ _ _ _ => Iff.rfl).symm

/-- Nor does the revenue. -/
theorem revenues_plain (ps : List AbcInput) :
    (ps.map AbcInput.plain).map AbcInput.revenue = ps.map AbcInput.revenue := by
  rw [List.map_map]
  rfl

variable {products}

/-- Every product has a place in the ranking. -/
theorem exists_place {p : AbcInput} (hp : p ∈ products) :
    ∃ i : ℕ, (byRevenue products)[i]? = some p :=
  List.mem_iff_getElem?.mp ((byRevenue_perm products).mem_iff.mpr hp)

/-- The class of a product by its place in the ranking. -/
theorem lookup_assignAbc (hids : (products.map AbcInput.id).Nodup) {i : ℕ} {p : AbcInput}
    (hp : (byRevenue products)[i]? = some p) :
    (assignAbc products).lookup p.id = some (abcClass (totalRevenue products)
      (((byRevenue products).map AbcInput.revenue).take i).sum p) := by
  have hplace : (assignAbc products)[i]? = some (p.id, abcClass (totalRevenue products)
      (((byRevenue products).map AbcInput.revenue).take i).sum p) := by
    rw [assignAbc, ← byRevenue, sum_byRevenue, getElem?_assignFrom, hp, zero_add]
    rfl
  -- ids are distinct, so looking one up finds its place
  have hkeys : ∀ (total above : ℚ) (ps : List AbcInput),
      (assignFrom total above ps).map Prod.fst = ps.map AbcInput.id := by
    intro total above ps
    induction ps generalizing above with
    | nil => rfl
    | cons p ps ih => rw [assignFrom, List.map_cons, List.map_cons, ih]
  refine lookup_of_mem ?_ (List.mem_iff_getElem?.mpr ⟨i, hplace⟩)
  rw [assignAbc, hkeys]
  exact (((byRevenue_perm products).map AbcInput.id).nodup_iff).mpr hids

/-- The rank of a product by its place in the ranking. -/
theorem exists_class (hids : (products.map AbcInput.id).Nodup) (htotal : 0 < totalRevenue products)
    {i : ℕ} {p : AbcInput} (hp : (byRevenue products)[i]? = some p) :
    ∃ cls, (assignAbc products).lookup p.id = some cls ∧ abcRank cls
      = min (shareRank ((((byRevenue products).map AbcInput.revenue).take i).sum
          / totalRevenue products)) (min (rateRank p.runRate) (spanRank p.saleSpanDays)) :=
  ⟨_, lookup_assignAbc hids hp, abcRank_abcClass htotal _ p⟩

/-- Revenue alone cuts the ranking at two shortest prefixes. -/
theorem assignAbc_of_plain (hrevenue : ∀ p ∈ products, 0 ≤ p.revenue)
    (htotal : 0 < totalRevenue products)
    (hplain : ∀ p ∈ products, p.runRate = none ∧ p.saleSpanDays = none) :
    CutByRevenue products := by
  set revenues := (byRevenue products).map AbcInput.revenue with hrevenues
  have hnonneg : ∀ x ∈ revenues, 0 ≤ x := by
    intro x hx
    obtain ⟨p, hp, rfl⟩ := List.mem_map.mp hx
    exact hrevenue p ((byRevenue_perm products).mem_iff.mp hp)
  have hsum : revenues.sum = totalRevenue products := sum_byRevenue products
  obtain ⟨a, ha⟩ : ∃ a, ShortestReaching revenues (7 / 10 * totalRevenue products) a := by
    apply exists_shortestReaching
    rw [hsum]
    linarith
  obtain ⟨b, hb⟩ : ∃ b, ShortestReaching revenues (9 / 10 * totalRevenue products) b := by
    apply exists_shortestReaching
    rw [hsum]
    linarith
  -- place by place
  refine ⟨a, b, ha, hb, List.ext_getElem? fun i => ?_⟩
  rw [assignAbc, ← byRevenue, sum_byRevenue, getElem?_assignFrom, List.getElem?_mapIdx]
  cases hp : (byRevenue products)[i]? with
  | none => rfl
  | some p =>
      have hmem := (byRevenue_perm products).mem_iff.mp (List.mem_iff_getElem?.mpr ⟨i, hp⟩)
      obtain ⟨hrate, hspan⟩ := hplain p hmem
      -- the share above a place is what the cut goes by
      have hcut : ∀ share : ℚ, (revenues.take i).sum / totalRevenue products < share
          ↔ (revenues.take i).sum < share * totalRevenue products :=
        fun share => div_lt_iff₀ htotal
      simp only [Option.map_some, Option.some.injEq, Prod.mk.injEq, true_and, zero_add]
      rw [abcClass, if_pos htotal, hrate, hspan]
      simp only [Option.any_none, Bool.false_eq_true, and_false, if_false]
      simp only [← hrevenues, hcut, ha.lt_iff hnonneg, hb.lt_iff hnonneg]

/-- The fields of a product only hold it back. -/
theorem abcRank_le_plain (hids : (products.map AbcInput.id).Nodup)
    (htotal : 0 < totalRevenue products) {p : AbcInput} (hp : p ∈ products) :
    NoBetter products p.id (products.map AbcInput.plain) p.id := by
  obtain ⟨i, hplace⟩ := exists_place hp
  have hplaceOfPlain : (byRevenue (products.map AbcInput.plain))[i]? = some p.plain := by
    rw [byRevenue_plain, List.getElem?_map, hplace]
    rfl
  have hidsOfPlain : ((products.map AbcInput.plain).map AbcInput.id).Nodup := by
    rw [List.map_map]
    exact hids
  have htotalOfPlain : totalRevenue (products.map AbcInput.plain) = totalRevenue products := by
    rw [totalRevenue, revenues_plain, totalRevenue]
  obtain ⟨cls, hcls, hrank⟩ := exists_class hids htotal hplace
  obtain ⟨revenueCls, hrevenueCls, hrevenueRank⟩ :=
    exists_class hidsOfPlain (htotalOfPlain ▸ htotal) hplaceOfPlain
  refine ⟨cls, revenueCls, hcls, hrevenueCls, ?_⟩
  rw [hrank, hrevenueRank, htotalOfPlain, byRevenue_plain, revenues_plain]
  -- without the fields nothing but the share counts
  have hshare : ∀ share, shareRank share ≤ 2 := by
    intro share
    rw [shareRank]
    split_ifs <;> omega
  have hfree : min (rateRank p.plain.runRate) (spanRank p.plain.saleSpanDays) = 2 := rfl
  rw [hfree, min_eq_left (hshare _)]
  exact min_le_left _ _

/-- A product that is ahead in revenue, and not behind in rate and span, is in no worse class. -/
theorem abcRank_le_of_ahead (hids : (products.map AbcInput.id).Nodup)
    (hrevenue : ∀ p ∈ products, 0 ≤ p.revenue) (htotal : 0 < totalRevenue products)
    {p q : AbcInput} (hp : p ∈ products) (hq : q ∈ products) (hahead : q.revenue < p.revenue)
    {pRate qRate pSpan qSpan : ℚ} (hpRate : p.runRate = some pRate)
    (hqRate : q.runRate = some qRate) (hpSpan : p.saleSpanDays = some pSpan)
    (hqSpan : q.saleSpanDays = some qSpan) (hrate : qRate ≤ pRate)
    (hspan : qSpan ≤ pSpan) : NoBetter products q.id products p.id := by
  obtain ⟨i, hi⟩ := exists_place hp
  obtain ⟨j, hj⟩ := exists_place hq
  obtain ⟨cls, hcls, hrank⟩ := exists_class hids htotal hi
  obtain ⟨other, hother, hotherRank⟩ := exists_class hids htotal hj
  refine ⟨other, cls, hother, hcls, ?_⟩
  -- more revenue stands further up, with less above it
  have habove : (((byRevenue products).map AbcInput.revenue).take i).sum
      ≤ (((byRevenue products).map AbcInput.revenue).take j).sum := by
    refine sum_take_le_of_lt (a := p.revenue) (b := q.revenue) (pairwise_byRevenue products) ?_
      (by rw [List.getElem?_map, hi]; rfl) (by rw [List.getElem?_map, hj]; rfl) hahead
    intro x hx
    obtain ⟨r, hr, rfl⟩ := List.mem_map.mp hx
    exact hrevenue r ((byRevenue_perm products).mem_iff.mp hr)
  rw [hrank, hotherRank, hpRate, hqRate, hpSpan, hqSpan]
  exact min_le_min (shareRank_antitone (div_le_div_of_nonneg_right habove htotal.le))
    (min_le_min (rateRank_mono hrate) (spanRank_mono hspan))

end Catalogue

/-- Three products of which the second sells slowly. -/
def threeProducts : List AbcInput :=
  [{ id := 1, revenue := 10, runRate := some 1, saleSpanDays := some 30 },
    { id := 2, revenue := 60, runRate := some (1 / 5), saleSpanDays := some 30 },
    { id := 3, revenue := 30, runRate := some 1, saleSpanDays := some 30 }]

example : assignAbc threeProducts = [(2, "B"), (3, "A"), (1, "C")] := by decide +kernel

end Restock.Forecast
