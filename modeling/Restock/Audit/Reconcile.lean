import Restock.Audit.Cells
import Restock.Series.Entries

/-!
# The panel reconciles to the transactions

Every line of a validated frame is either split off with a reason or counted in one cell of the
panel, and the panel holds nothing else: a cell has the units of its lines, floored at zero, and
stands for every week from a series' first line to its last.

* `splitExcluded_perm`, `netted_spec` — what the transaction steps do to the lines;
* `Kept` — a line of the working frame and the line it came from;
* `Reconciled`, `runChain_reconciled` — that the panel reconciles.
-/

namespace Restock.Audit

/-! ## Lines that are split off -/

/-- Splitting off lines keeps every line. -/
theorem splitExcluded_lines_perm (marked : List (TxLine × Option ExcludeReason)) :
    ((splitExcluded marked).1 ++ (splitExcluded marked).2.map ExcludedLine.line).Perm
      (marked.map Prod.fst) := by
  induction marked with
  | nil => exact List.Perm.refl _
  | cons m marked ih =>
      obtain ⟨l, reason⟩ := m
      cases reason with
      | none => simpa [splitExcluded] using ih.cons l
      | some reason =>
          have hmiddle : ((splitExcluded marked).1 ++
              l :: (splitExcluded marked).2.map ExcludedLine.line).Perm
                (l :: ((splitExcluded marked).1 ++
                  (splitExcluded marked).2.map ExcludedLine.line)) := List.perm_middle
          simpa [splitExcluded] using hmiddle.trans (ih.cons l)

/-- Splitting off lines keeps every label. -/
theorem splitExcluded_perm (marked : List (TxLine × Option ExcludeReason)) :
    (((splitExcluded marked).1.map TxLine.label) ++
      (splitExcluded marked).2.map fun e => e.line.label).Perm
        (marked.map fun m => m.1.label) := by
  have hlabels := (splitExcluded_lines_perm marked).map TxLine.label
  rw [List.map_append, List.map_map, List.map_map] at hlabels
  exact hlabels

/-- A row that is kept has no reason. -/
theorem mem_splitExcluded_fst {marked : List (TxLine × Option ExcludeReason)} {l : TxLine} :
    l ∈ (splitExcluded marked).1 ↔ (l, none) ∈ marked := by
  simp [splitExcluded, List.mem_filterMap]

/-- A row that is split off has its reason. -/
theorem mem_splitExcluded_snd {marked : List (TxLine × Option ExcludeReason)} {e : ExcludedLine} :
    e ∈ (splitExcluded marked).2 ↔ (e.line, some e.reason) ∈ marked := by
  simp only [splitExcluded, List.mem_filterMap, Option.map_eq_some_iff]
  constructor
  · rintro ⟨⟨l, _⟩, hmem, reason, rfl, rfl⟩
    exact hmem
  · intro hmem
    exact ⟨_, hmem, e.reason, rfl, rfl⟩

/-- Marking duplicates keeps the lines. -/
theorem map_fst_markDuplicates
    (seen : List (ℤ × String × String × Option String × ℚ × Option ℚ)) (lines : List TxLine) :
    (markDuplicates seen lines).map Prod.fst = lines := by
  induction lines generalizing seen with
  | nil => rfl
  | cons l lines ih => rw [markDuplicates, List.map_cons, ih]

/-- A mark of a duplicate says so. -/
theorem reason_of_mem_markDuplicates
    {seen : List (ℤ × String × String × Option String × ℚ × Option ℚ)} {lines : List TxLine}
    {l : TxLine} {reason : ExcludeReason} (h : (l, some reason) ∈ markDuplicates seen lines) :
    reason = .duplicate := by
  induction lines generalizing seen with
  | nil => cases h
  | cons l' lines ih =>
      rw [markDuplicates, List.mem_cons] at h
      rcases h with heq | hrest
      · have hreason := congrArg Prod.snd heq
        dsimp only at hreason
        split at hreason
        · exact Option.some.inj hreason
        · cases hreason
      · exact ih hrest

section Code

variable (py : Py) (config : Config)

/-- A line that is no demand is not marked as a bulk order. -/
theorem markNonDemand_ne_bulkOrder (hasCustomerType hasLineType : Bool) (l : TxLine) :
    (markNonDemand py config hasCustomerType hasLineType l).2 ≠ some .bulkOrder := by
  rw [markNonDemand]
  dsimp only
  split
  · simp
  · split <;> simp

/-! ## Returns -/

/-- The date a return is moved to is that of a sale of its series, not after the return and within
the window. -/
theorem exists_sale_of_priorSale {lines : List TxLine} {ret : TxLine} {sale : ℤ}
    (h : priorSale config lines ret = some sale) :
    ∃ s ∈ lines, 0 < s.qty ∧ s.series = ret.series ∧ s.date = sale ∧ sale ≤ ret.date ∧
      ret.date - sale ≤ returnsWindow config := by
  rw [priorSale, Option.filter_eq_some_iff, decide_eq_true_iff] at h
  obtain ⟨hmax, hwindow⟩ := h
  obtain ⟨hmem, _⟩ := List.max?_eq_some_iff.mp hmax
  obtain ⟨s, hs, rfl⟩ := List.mem_map.mp hmem
  obtain ⟨hs, hkeep⟩ := List.mem_filter.mp hs
  obtain ⟨hqty, hseries, hle⟩ := of_decide_eq_true hkeep
  exact ⟨s, hs, hqty, hseries, rfl, hle, hwindow⟩

/-- A label that is moved is that of a return, moved to an earlier sale of its series within the
window. -/
theorem mem_movedReturns {lines : List TxLine} {label : ℕ} {sale : ℤ}
    (h : (label, sale) ∈ movedReturns config lines) :
    ∃ ret ∈ lines, ret.label = label ∧ ret.qty < 0 ∧ sale < ret.date ∧
      ret.date - sale ≤ returnsWindow config ∧
      ∃ s ∈ lines, 0 < s.qty ∧ s.series = ret.series ∧ s.date = sale := by
  obtain ⟨ret, hret, hmoved⟩ := List.mem_filterMap.mp h
  split at hmoved
  case isFalse => cases hmoved
  case isTrue hqty =>
  split at hmoved
  case h_2 => cases hmoved
  case h_1 sale' hprior =>
  split at hmoved
  case isFalse => cases hmoved
  case isTrue hne =>
      obtain ⟨hlabel, hsale⟩ := Prod.mk.inj (Option.some.inj hmoved)
      subst hsale
      obtain ⟨s, hs, hpos, hseries, hdate, hle, hwindow⟩ := exists_sale_of_priorSale config hprior
      exact ⟨ret, hret, hlabel, hqty, lt_of_le_of_ne hle hne, hwindow, s, hs, hpos, hseries, hdate⟩

/-- A line after the returns were moved, and the line it was before: everything but the date stays,
and the date only changes for a return, which goes back to an earlier sale of its series within the
window. -/
structure Netted (after : List TxLine) (l₀ l : TxLine) : Prop where
  same : l = { l₀ with date := l.date }
  date : l.date = l₀.date ∨
    (l₀.qty < 0 ∧ l.date < l₀.date ∧ l₀.date - l.date ≤ returnsWindow config ∧
      ∃ s ∈ after, 0 < s.qty ∧ s.series = l.series ∧ s.date = l.date)

/-- Lines of one label are one line. -/
theorem eq_of_label_eq {lines : List TxLine} (h : (lines.map TxLine.label).Nodup) {a b : TxLine}
    (ha : a ∈ lines) (hb : b ∈ lines) (hlabel : a.label = b.label) : a = b :=
  List.inj_on_of_nodup_map h ha hb hlabel

/-- `step_05_net_returns` keeps the labels, and every line is there as `Netted` says. -/
theorem netReturns_spec {lines after : List TxLine} (hlabels : (lines.map TxLine.label).Nodup)
    (h : netReturns config lines = some after) :
    after.map TxLine.label = lines.map TxLine.label ∧
      ∀ l ∈ after, ∃ l₀ ∈ lines, Netted config after l₀ l := by
  rw [netReturns] at h
  split at h
  case isTrue => cases h
  case isFalse =>
  have hafter := Option.some.inj h
  -- a sale is not moved, since the row of its label is no return
  have hsale : ∀ s ∈ lines, 0 < s.qty → s ∈ after := by
    intro s hs hpos
    rw [← hafter, List.mem_map]
    refine ⟨s, hs, ?_⟩
    cases hlookup : (movedReturns config lines).lookup s.label with
    | none => rfl
    | some sale =>
        obtain ⟨ret, hret, hlabel, hneg, _⟩ :=
          mem_movedReturns config (Series.mem_of_lookup hlookup)
        obtain rfl := eq_of_label_eq hlabels hret hs hlabel
        exact absurd hneg (not_lt.mpr hpos.le)
  refine ⟨?_, fun l hl => ?_⟩
  · rw [← hafter, List.map_map]
    refine List.map_congr_left fun l _ => ?_
    rw [Function.comp_apply]
    split <;> rfl
  · rw [← hafter] at hl
    obtain ⟨l₀, hl₀, rfl⟩ := List.mem_map.mp hl
    refine ⟨l₀, hl₀, ?_⟩
    cases hlookup : (movedReturns config lines).lookup l₀.label with
    | none => exact ⟨rfl, Or.inl rfl⟩
    | some sale =>
        obtain ⟨ret, hret, hlabel, hneg, hlt, hwindow, s, hs, hpos, hseries, hdate⟩ :=
          mem_movedReturns config (Series.mem_of_lookup hlookup)
        obtain rfl := eq_of_label_eq hlabels hret hl₀ hlabel
        exact ⟨rfl, Or.inr ⟨hneg, hlt, hwindow, s, hsale s hs hpos, hpos, hseries, hdate⟩⟩

/-! ## The working frame -/

/-- What the transaction steps make of the lines: the labels of those kept and of those split off
are the labels of the frame, and each of them is a line of the frame, renamed or not. -/
structure TxAccount (frame : TxFrame) (skuMapping : List (String × String)) (netted : List TxLine)
    (excluded : List ExcludedLine) : Prop where
  labels : (netted.map TxLine.label ++
    (excluded.filter fun e => e.reason ≠ .bulkOrder).map fun e => e.line.label).Perm
      (frame.lines.map TxLine.label)
  kept : ∀ l ∈ netted, ∃ l₀ ∈ frame.lines, Netted config netted (renameSku skuMapping l₀) l
  excluded : ∀ e ∈ excluded, e.reason ≠ .bulkOrder →
    ∃ l₀ ∈ frame.lines, e.line = l₀ ∨ e.line = renameSku skuMapping l₀

section Split

variable (frame : TxFrame) (skuMapping : List (String × String))

/-- The frame without exact duplicates, and these. -/
def splitDuplicates : List TxLine × List ExcludedLine :=
  splitExcluded (markDuplicates [] frame.lines)

/-- The renamed frame without the lines that are no demand, and these. -/
def splitNonDemand : List TxLine × List ExcludedLine :=
  splitExcluded (((splitDuplicates frame).1.map (renameSku skuMapping)).map
    (markNonDemand py config frame.hasCustomerType frame.hasLineType))

/-- The labels of the demand and of the two kinds of lines split off are those of the frame. -/
theorem labels_split_perm :
    ((splitNonDemand py config frame skuMapping).1.map TxLine.label ++
      ((splitDuplicates frame).2 ++ (splitNonDemand py config frame skuMapping).2).map
        fun e => e.line.label).Perm (frame.lines.map TxLine.label) := by
  have hunique := splitExcluded_perm (markDuplicates [] frame.lines)
  have hdemand := splitExcluded_perm (((splitDuplicates frame).1.map (renameSku skuMapping)).map
    (markNonDemand py config frame.hasCustomerType frame.hasLineType))
  have hmarks : (markDuplicates [] frame.lines).map (fun m => m.1.label) =
      frame.lines.map TxLine.label := by
    conv_rhs => rw [← map_fst_markDuplicates [] frame.lines, List.map_map]
    rfl
  -- renaming and marking keep the labels
  have hkept : (((splitDuplicates frame).1.map (renameSku skuMapping)).map
      (markNonDemand py config frame.hasCustomerType frame.hasLineType)).map (fun m => m.1.label) =
      (splitDuplicates frame).1.map TxLine.label := by
    rw [List.map_map, List.map_map]
    rfl
  rw [hmarks] at hunique
  rw [hkept] at hdemand
  rw [List.map_append, ← List.append_assoc]
  refine (List.perm_append_comm.append_right _).trans ?_
  rw [List.append_assoc]
  exact (hdemand.append_left _).trans (List.perm_append_comm.trans hunique)

/-- A line that is no duplicate, or is one, is a line of the frame. -/
theorem mem_of_mem_splitDuplicates {l : TxLine} {reason : Option ExcludeReason}
    (h : (l, reason) ∈ markDuplicates [] frame.lines) : l ∈ frame.lines := by
  rw [← map_fst_markDuplicates [] frame.lines]
  exact List.mem_map_of_mem h

/-- A line that is demand, or is not, is a renamed line of the frame. -/
theorem exists_of_mem_markNonDemand {l : TxLine} {reason : Option ExcludeReason}
    (h : (l, reason) ∈ ((splitDuplicates frame).1.map (renameSku skuMapping)).map
      (markNonDemand py config frame.hasCustomerType frame.hasLineType)) :
    reason ≠ some .bulkOrder ∧ ∃ l₀ ∈ frame.lines, l = renameSku skuMapping l₀ := by
  obtain ⟨l', hl', heq⟩ := List.mem_map.mp h
  obtain ⟨l₀, hl₀, rfl⟩ := List.mem_map.mp hl'
  have hline : renameSku skuMapping l₀ = l := congrArg Prod.fst heq
  have hreason : (markNonDemand py config frame.hasCustomerType frame.hasLineType
      (renameSku skuMapping l₀)).2 = reason := congrArg Prod.snd heq
  refine ⟨hreason ▸ markNonDemand_ne_bulkOrder py config _ _ _, l₀, ?_, hline.symm⟩
  exact mem_of_mem_splitDuplicates frame (mem_splitExcluded_fst.mp hl₀)

end Split

variable {config}

/-- What the transaction steps return without bundles. -/
theorem runTxSteps_eq_some {frame : TxFrame} {skuMapping : List (String × String)} {tx : TxSteps}
    (h : runTxSteps py config frame skuMapping [] = some tx) :
    ∃ netted, netReturns config (splitNonDemand py config frame skuMapping).1 = some netted ∧
      tx = { netted
             lines := explodeBundles [] (flagBulk config netted)
             excluded := (splitDuplicates frame).2 ++
              (splitNonDemand py config frame skuMapping).2 ++
              ((flagBulk config netted).filter FlaggedLine.bulk).map fun l =>
                ⟨l.line, .bulkOrder⟩ } := by
  rw [runTxSteps] at h
  dsimp only at h
  rw [Option.bind_eq_bind, Option.bind_eq_some_iff] at h
  obtain ⟨netted, hnetted, h⟩ := h
  rw [Option.pure_def, Option.some.injEq] at h
  exact ⟨netted, hnetted, h.symm⟩

/-- Without bundles the flagged frame has the netted lines, and every line is accounted for. -/
theorem runTxSteps_account {frame : TxFrame} {skuMapping : List (String × String)} {tx : TxSteps}
    (h : runTxSteps py config frame skuMapping [] = some tx) :
    tx.lines.map FlaggedLine.line = tx.netted ∧
      TxAccount config frame skuMapping tx.netted tx.excluded := by
  obtain ⟨netted, hnetted, rfl⟩ := runTxSteps_eq_some py h
  have hperm := labels_split_perm py config frame skuMapping
  have hnodup : ((splitNonDemand py config frame skuMapping).1.map TxLine.label).Nodup :=
    (List.nodup_append.mp (hperm.nodup_iff.mpr frame.labels)).1
  obtain ⟨hlabels, hnets⟩ := netReturns_spec config hnodup hnetted
  have hsplit : ∀ e ∈ (splitDuplicates frame).2 ++ (splitNonDemand py config frame skuMapping).2,
      e.reason ≠ .bulkOrder ∧
        ∃ l₀ ∈ frame.lines, e.line = l₀ ∨ e.line = renameSku skuMapping l₀ := by
    intro e he
    rcases List.mem_append.mp he with hdup | hdemand
    · have hmem := mem_splitExcluded_snd.mp hdup
      refine ⟨?_, e.line, mem_of_mem_splitDuplicates frame hmem, Or.inl rfl⟩
      rw [reason_of_mem_markDuplicates hmem]
      simp
    · obtain ⟨hreason, l₀, hl₀, hline⟩ := exists_of_mem_markNonDemand py config frame skuMapping
        (mem_splitExcluded_snd.mp hdemand)
      exact ⟨fun heq => hreason (by rw [heq]), l₀, hl₀, Or.inr hline⟩
  have hbulk : ((splitDuplicates frame).2 ++ (splitNonDemand py config frame skuMapping).2 ++
      ((flagBulk config netted).filter FlaggedLine.bulk).map fun l =>
        (⟨l.line, .bulkOrder⟩ : ExcludedLine)).filter (fun e => e.reason ≠ .bulkOrder) =
      (splitDuplicates frame).2 ++ (splitNonDemand py config frame skuMapping).2 := by
    rw [List.filter_append, List.filter_eq_self.mpr fun e he => decide_eq_true (hsplit e he).1,
      List.filter_eq_nil_iff.mpr ?_, List.append_nil]
    intro e he
    obtain ⟨_, _, rfl⟩ := List.mem_map.mp he
    simp
  refine ⟨?_, ?_, ?_, ?_⟩
  · -- without a bundle map nothing is taken apart
    show (explodeBundles [] (flagBulk config netted)).map FlaggedLine.line = netted
    rw [explodeBundles, flagBulk, List.flatMap_nil, List.append_nil, List.filter_eq_self.mpr ?_,
      List.map_map]
    · exact List.map_id' netted
    · simp
  · dsimp only
    rw [hbulk, hlabels]
    exact hperm
  · intro l hl
    obtain ⟨l', hl', hnet⟩ := hnets l hl
    obtain ⟨_, l₀, hl₀, rfl⟩ := exists_of_mem_markNonDemand py config frame skuMapping
      (mem_splitExcluded_fst.mp hl')
    exact ⟨l₀, hl₀, hnet⟩
  · intro e he hreason
    have hmem : e ∈ (splitDuplicates frame).2 ++ (splitNonDemand py config frame skuMapping).2 := by
      rw [← hbulk]
      exact List.mem_filter.mpr ⟨he, decide_eq_true hreason⟩
    exact (hsplit e hmem).2

/-! ## The whole chain -/

/-- A level shift starts at a week that was looked at, when a week at least is asked for. -/
theorem shiftFrom_lt {consecutive : ℤ} (hpos : 1 ≤ consecutive) {i run shift : ℤ}
    {rows : List PanelRow} (h : shiftFrom consecutive i run rows = some shift) :
    shift < i + rows.length := by
  induction rows generalizing i run with
  | nil => cases h
  | cons r rows ih =>
      rw [shiftFrom] at h
      generalize (if r.winsorizeCappedFlag = true then run + 1 else 0) = run' at h
      split at h
      · have := Option.some.inj h
        rw [List.length_cons]
        omega
      · have := ih h
        rw [List.length_cons]
        omega

/-- The chain returns for windows that are not negative or empty. -/
theorem exists_runChain (source : AvailabilitySource) (frame : TxFrame)
    (skuMapping : List (String × String)) (bundleMap : List (String × List (String × ℚ)))
    (hreturns : 0 ≤ config.demand.returnsWindowWeeks) (hwindow : 1 ≤ config.baseline.windowWeeks)
    (hshift : 1 ≤ config.baseline.levelShiftConsecutiveWeeks) :
    ∃ result, runChain config py source frame skuMapping bundleMap = some result := by
  have htx : ∃ tx, runTxSteps py config frame skuMapping bundleMap = some tx := by
    rw [runTxSteps]
    dsimp only
    rw [netReturns, if_neg fun h => not_lt.mpr hreturns h.1]
    exact ⟨_, rfl⟩
  obtain ⟨tx, htx⟩ := htx
  have hquiet : ∀ rows, levelShiftThrows config rows = false := by
    intro rows
    rw [levelShiftThrows]
    cases hfrom : shiftFrom config.baseline.levelShiftConsecutiveWeeks 0 0 rows with
    | none => rfl
    | some shift =>
        have := shiftFrom_lt hshift hfrom
        rw [Option.any_some, decide_eq_false_iff_not]
        omega
  rw [runChain, htx]
  simp only [Option.bind_eq_bind, Option.bind_some]
  rw [if_neg fun h => not_lt.mpr hwindow h.2, if_neg (by simp [hquiet])]
  exact ⟨_, rfl⟩

/-- The panel of a chain reconciles to the lines of its frame. -/
structure Reconciled (config : Config) (frame : TxFrame) (skuMapping : List (String × String))
    (result : CleanResult) (netted : List TxLine) : Prop where
  /-- Every line is split off with a reason or counted, and not both. -/
  account : TxAccount config frame skuMapping netted result.excluded
  /-- A line that is counted has one row. -/
  counted : ∀ l ∈ netted, ∃! r, r ∈ result.panel ∧ r.cell = l.cell
  /-- A row has the units of its cell's lines. -/
  units : ∀ r ∈ result.panel,
    r.unitsRaw = max 0 ((netted.filter fun l => l.cell = r.cell).map TxLine.qty).sum
  /-- No cell has two rows. -/
  once : (result.panel.map PanelRow.cell).Nodup
  /-- The weeks of a series are the Mondays from its first line to its last. -/
  weeks : ∀ cell : SeriesKey × ℤ, (∃ r ∈ result.panel, r.cell = cell) ↔
    (cell.2 + 3) % 7 = 0 ∧ ∃ l ∈ netted, ∃ l' ∈ netted, l.series = cell.1 ∧ l'.series = cell.1 ∧
      l.week ≤ cell.2 ∧ cell.2 ≤ l'.week

/-- The panel reconciles to the lines that are left after the transaction steps. -/
theorem exists_reconciled {source : AvailabilitySource} {frame : TxFrame}
    {skuMapping : List (String × String)} {result : CleanResult}
    (h : runChain config py source frame skuMapping [] = some result) :
    ∃ tx, runTxSteps py config frame skuMapping [] = some tx ∧
      Reconciled config frame skuMapping result tx.netted := by
  obtain ⟨tx, htx, hexcluded, hcore⟩ := panel_core_perm config h
  obtain ⟨hlines, haccount⟩ := runTxSteps_account py htx
  have hcores : ∀ core, (∃ r ∈ result.panel, r.core = core) ↔
      ∃ r ∈ fillZeroWeeks (aggregateWeekly tx.lines), r.core = core := by
    intro core
    rw [← List.mem_map, hcore.mem_iff, List.mem_map]
  have honce : (result.panel.map PanelRow.cell).Nodup := by
    have hcells : ∀ rows : List PanelRow,
        rows.map PanelRow.cell = (rows.map PanelRow.core).map Prod.fst := fun rows => by
      rw [List.map_map]
      rfl
    rw [hcells, (hcore.map Prod.fst).nodup_iff, ← hcells]
    exact nodup_cells_fillZeroWeeks tx.lines
  have hweeks : ∀ cell : SeriesKey × ℤ, (∃ r ∈ result.panel, r.cell = cell) ↔
      (cell.2 + 3) % 7 = 0 ∧ ∃ l ∈ tx.netted, ∃ l' ∈ tx.netted, l.series = cell.1 ∧
        l'.series = cell.1 ∧ l.week ≤ cell.2 ∧ cell.2 ≤ l'.week := by
    intro cell
    have hfilled : (∃ r ∈ result.panel, r.cell = cell) ↔
        ∃ r ∈ fillZeroWeeks (aggregateWeekly tx.lines), r.cell = cell := by
      constructor
      · rintro ⟨r, hr, hcell⟩
        obtain ⟨r', hr', heq⟩ := (hcores r.core).mp ⟨r, hr, rfl⟩
        exact ⟨r', hr', (congrArg Prod.fst heq).trans hcell⟩
      · rintro ⟨r, hr, hcell⟩
        obtain ⟨r', hr', heq⟩ := (hcores r.core).mpr ⟨r, hr, rfl⟩
        exact ⟨r', hr', (congrArg Prod.fst heq).trans hcell⟩
    rw [hfilled, exists_mem_fillZeroWeeks, ← hlines]
    simp only [List.mem_map, exists_exists_and_eq_and]
  refine ⟨tx, htx, hexcluded ▸ haccount, fun l hl => ?_, fun r hr => ?_, honce, hweeks⟩
  · -- the cell of a line is a week of its series, and has one row
    have hmonday : (l.week + 3) % 7 = 0 := by
      rw [TxLine.week, mondayOf]
      omega
    obtain ⟨r, hr, hcell⟩ := (hweeks l.cell).mpr
      ⟨hmonday, l, hl, l, hl, rfl, rfl, le_refl _, le_refl _⟩
    refine ⟨r, ⟨hr, hcell⟩, ?_⟩
    rintro r' ⟨hr', hcell'⟩
    exact List.inj_on_of_nodup_map honce hr' hr (hcell'.trans hcell.symm)
  · obtain ⟨r', hr', heq⟩ := (hcores r.core).mp ⟨r, hr, rfl⟩
    have hcell : r'.cell = r.cell := congrArg Prod.fst heq
    have hunits : r'.unitsRaw = r.unitsRaw := congrArg Prod.snd heq
    rw [← hunits, unitsRaw_of_mem_fillZeroWeeks tx.lines hr', hcell, cellUnits, ← hlines,
      List.filter_map, List.map_map]
    rfl

/-- For every validated frame and mapping, without bundles, a chain that returns emits a panel that
reconciles to the frame. -/
theorem runChain_reconciled (source : AvailabilitySource) (frame : TxFrame)
    (skuMapping : List (String × String)) (result : CleanResult)
    (h : runChain config py source frame skuMapping [] = some result) :
    ∃ netted, Reconciled config frame skuMapping result netted := by
  obtain ⟨tx, -, hreconciled⟩ := exists_reconciled py h
  exact ⟨tx.netted, hreconciled⟩

end Code

/-! ## A small frame -/

/-- An instant of a day of 2024, counted from its first Monday. -/
def noonOf (day : ℤ) : ℤ :=
  (19723 + day) * nsPerDay + nsPerDay / 2

/-- Sales of a tee under its old and its new name, one of them twice, a staff order, and a return of
the sale of the week before the last. -/
def teeFrame : TxFrame where
  lines :=
    [{ label := 0, date := noonOf 0, sku := "TEE-OLD", location := "ALL", qty := 3 },
      { label := 1, date := noonOf 0, sku := "TEE-OLD", location := "ALL", qty := 3 },
      { label := 2, date := noonOf 15, sku := "TEE", location := "ALL", qty := 5 },
      { label := 3, date := noonOf 16, sku := "TEE", location := "ALL", qty := 1,
        customerType := some "Staff" },
      { label := 4, date := noonOf 22, sku := "TEE", location := "ALL", qty := -2 }]
  hasCustomerType := true
  hasLineType := false
  labels := by decide

theorem runChain_reconciled_teeFrame :
    ∃ result, runChain {} .decimal (inferred .decimal) teeFrame [("TEE-OLD", "TEE")] [] =
        some result ∧
      result.panel.map PanelRow.unitsRaw = [3, 0, 3] ∧
      ∃ netted, Reconciled {} teeFrame [("TEE-OLD", "TEE")] result netted := by
  have hsome : ((runChain {} .decimal (inferred .decimal) teeFrame [("TEE-OLD", "TEE")] []).map
      fun result => result.panel.map PanelRow.unitsRaw) = some [3, 0, 3] := by decide +kernel
  obtain ⟨result, hresult, hunits⟩ := Option.map_eq_some_iff.mp hsome
  exact ⟨result, hresult, hunits, runChain_reconciled .decimal (inferred .decimal) teeFrame
    [("TEE-OLD", "TEE")] result hresult⟩

end Restock.Audit
