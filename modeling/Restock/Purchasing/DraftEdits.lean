import Restock.Purchasing.EditLines
import Restock.Purchasing.Send

/-!
# Edits of one draft

Edits of the lines of one draft, in any number and interleaved in any way at READ
COMMITTED, possibly with sends of it. An edit rewrites the subtotal from the lines it read
first, while it only writes its own line, so two edits of different lines do not notice
each other.

* `DraftCall` — an edit or a send, and its program;
* `LinesAddUp` — the order is what its lines come to;
* `EditsFresh` — the commits of edits whose order has the other lines they read;
* `linesAddUp_of_fresh` — in runs of such commits the order adds up in every state reached;
* `removals_leave_no_line` — a run that leaves a draft without lines and with a subtotal.
-/

namespace Restock

open Store

/-- A call on one draft. -/
inductive DraftCall
  | setQuantity (lineId : LineId) (quantity : ℚ)
  | removeLine (lineId : LineId)
  | send (mailConfigured : Bool) (now : Time)

/-- What a call answers. -/
inductive DraftAnswer
  | edited (result : EditPoLinesResult)
  | sent (result : SendPoResult)

/-- The program of a call. -/
def DraftCall.program (poId : PoId) : DraftCall → OpProgram PoEmail DraftAnswer
  | .setQuantity lineId quantity => Session.program do
      return .edited (← setPoLineQuantity poId lineId quantity)
  | .removeLine lineId => Session.program do
      return .edited (← removePoLine poId lineId)
  | .send mailConfigured now => Session.program do
      return .sent (← sendPoToSupplier mailConfigured poId now)

/-- The line a call edits. -/
def DraftCall.editedLine : DraftCall → Option LineId
  | .setQuantity lineId _ => some lineId
  | .removeLine lineId => some lineId
  | .send .. => none

/-! ## What the lines come to -/

/-- The value of a line. -/
def PurchaseOrderLine.value (l : PurchaseOrderLine) : ℚ :=
  l.quantity * l.unitCostKes

/-- The order is what its lines come to: its subtotal is the sum of their quantities times
their unit costs, every line total is its own, and there is a line. -/
structure Db.LinesAddUp (db : Db) (poId : PoId) : Prop where
  subtotal : ∀ po, db.purchaseOrders.find poId = some po →
    po.subtotalKes = ((db.linesOf poId).map PurchaseOrderLine.value).sum
  lineTotals : ∀ l ∈ db.linesOf poId, l.lineTotalKes = l.value
  nonempty : db.linesOf poId ≠ []

/-- The subtotal the code writes is the sum of the values. -/
theorem linesSubtotal_eq (lines : List PurchaseOrderLine) :
    linesSubtotal lines = (lines.map PurchaseOrderLine.value).sum :=
  subtotal_eq_sum _

section Lines

variable {lines : List PurchaseOrderLine} {line : PurchaseOrderLine} {quantity : ℤ}

/-- Lines with other ids are all there are without the line. -/
theorem linesWithout_eq_self {lineId : LineId} (h : ∀ l ∈ lines, l.id ≠ lineId) :
    linesWithout lineId lines = lines :=
  List.filter_eq_self.mpr fun l hl => by simpa using h l hl

/-- Giving a line another quantity makes the sum of the values its new value and those of
the other lines. -/
theorem sum_value_setQuantity {f : PurchaseOrderLine → PurchaseOrderLine}
    (hvalue : ∀ l, (f l).value = quantity * l.unitCostKes)
    (hnodup : (lines.map PurchaseOrderLine.id).Nodup) (hline : line ∈ lines) :
    ((lines.map fun l => if l.id = line.id then f l else l).map PurchaseOrderLine.value).sum
      = quantity * line.unitCostKes
        + ((linesWithout line.id lines).map PurchaseOrderLine.value).sum := by
  induction lines with
  | nil => cases hline
  | cons l lines ih =>
      rw [List.map_cons, List.nodup_cons] at hnodup
      rcases List.mem_cons.mp hline with rfl | hmem
      · -- the line comes first: no other carries its id
        have hothers : ∀ l ∈ lines, l.id ≠ line.id := fun l hl hid =>
          hnodup.1 (hid ▸ List.mem_map_of_mem hl)
        have hsame : (lines.map fun l => if l.id = line.id then f l else l) = lines :=
          (List.map_congr_left fun l hl => if_neg (hothers l hl)).trans (List.map_id _)
        have hwithout : linesWithout line.id (line :: lines) = lines := by
          rw [linesWithout, List.filter_cons_of_neg (by simp)]
          exact linesWithout_eq_self hothers
        rw [hwithout, List.map_cons, hsame, if_pos rfl, List.map_cons, List.sum_cons, hvalue]
      · have hne : l.id ≠ line.id := fun hid => hnodup.1 (hid ▸ List.mem_map_of_mem hmem)
        have hwithout : linesWithout line.id (l :: lines) = l :: linesWithout line.id lines := by
          rw [linesWithout, List.filter_cons_of_pos (by simpa using hne)]
          rfl
        rw [hwithout, List.map_cons, if_neg hne, List.map_cons, List.sum_cons, ih hnodup.2 hmem,
          List.map_cons, List.sum_cons]
        exact add_left_comm _ _ _

/-- An order with another line than the one removed keeps a line. -/
theorem linesWithout_ne_nil (hnodup : (lines.map PurchaseOrderLine.id).Nodup)
    (hline : line ∈ lines) (hlength : lines.length ≠ 1) : linesWithout line.id lines ≠ [] := by
  intro hnil
  have hall : ∀ l ∈ lines, l.id = line.id := by
    simpa [linesWithout] using List.filter_eq_nil_iff.mp hnil
  have hrepeat : lines.map PurchaseOrderLine.id = List.replicate lines.length line.id :=
    List.eq_replicate_iff.mpr ⟨List.length_map .., by simpa using hall⟩
  rw [hrepeat, List.nodup_replicate] at hnodup
  have hpos := List.length_pos_of_mem hline
  omega

end Lines

/-- The lines of an order after one got another quantity. -/
theorem linesOf_withQuantity (db : Db) (poId : PoId) (quantity : ℤ) (line : PurchaseOrderLine) :
    (db.withQuantity quantity line).linesOf poId
      = (db.linesOf poId).map fun l =>
          if l.id = line.id then l.setQuantity quantity line.unitCostKes else l := by
  rw [Db.linesOf, Db.withQuantity, Table.rows_update _ _ fun _ => by rfl, Db.linesOf,
    List.filter_map]
  have horder : ((fun l : PurchaseOrderLine => decide (l.purchaseOrderId = poId)) ∘ fun l =>
      if decide (l.id = line.id) then l.setQuantity quantity line.unitCostKes else l)
        = fun l => decide (l.purchaseOrderId = poId) := by
    funext l
    by_cases h : l.id = line.id <;> simp [h, PurchaseOrderLine.setQuantity]
  rw [horder]
  simp

/-- The lines of an order after one was removed. -/
theorem linesOf_withoutLine (db s : Db) (poId : PoId) (line : PurchaseOrderLine) :
    (Db.withoutLine poId line s db).linesOf poId = linesWithout line.id (db.linesOf poId) := by
  show ((db.lines.rows.filter fun l => !decide (l.id = line.id)).filter
    fun l => l.purchaseOrderId = poId) = _
  rw [linesWithout, Db.linesOf, List.filter_filter, List.filter_filter]
  refine List.filter_congr fun l _ => ?_
  simp [Bool.and_comm]

/-! ## Edits that commit over the lines they read -/

section Runs

variable {ι : Type} (calls : ι → DraftCall) (poId : PoId)

/-- The commits of edits over an order whose other lines are as the edit read them, in its
second statement. -/
def EditsFresh : CommitCondition Db RowKey ι := fun i seen ws db =>
  ws ≠ [] → ∀ lineId ∈ (calls i).editedLine, ∀ s ∈ seen[1]?,
    linesWithout lineId (s.linesOf poId) = linesWithout lineId (db.linesOf poId)

instance (i : ι) (seen : List Db) (ws : List (Write Db RowKey)) (db : Db) :
    Decidable (EditsFresh calls poId i seen ws db) :=
  inferInstanceAs (Decidable (ws ≠ [] → ∀ lineId ∈ (calls i).editedLine, ∀ s ∈ seen[1]?, _))

/-- The lines of the second state are lines of the first, on the same orders and at the same
unit costs. -/
def LinesKept (s t : Db) : Prop :=
  ∀ l' ∈ t.lines.rows, ∃ l ∈ s.lines.rows,
    l.id = l'.id ∧ l.purchaseOrderId = l'.purchaseOrderId ∧ l.unitCostKes = l'.unitCostKes

theorem LinesKept.refl (s : Db) : LinesKept s s :=
  fun l hl => ⟨l, hl, rfl, rfl, rfl⟩

theorem LinesKept.trans {s t u : Db} (h : LinesKept s t) (h' : LinesKept t u) :
    LinesKept s u := by
  intro l'' hl''
  obtain ⟨l', hl', hid', hpo', hcost'⟩ := h' l'' hl''
  obtain ⟨l, hl, hid, hpo, hcost⟩ := h l' hl'
  exact ⟨l, hl, hid.trans hid', hpo.trans hpo', hcost.trans hcost'⟩

/-- What the calls on a draft keep to as far as its value goes. -/
def valueContract : Contract Db RowKey LockName PoEmail DraftAnswer ι where
  Inv db := db.LinesAddUp poId
  Guar := LinesKept
  ok := EditsFresh calls poId
  AtCommit _ _ _ _ _ := True
  AtCall _ _ _ := True

theorem valueContract_reflexive : (valueContract calls poId).Reflexive where
  guar := LinesKept.refl
  atCommit _ _ _ _ := trivial

variable {calls poId}

/-- An order whose row was rewritten without touching its subtotal still adds up. -/
theorem linesAddUp_mapOrder {db : Db} (h : db.LinesAddUp poId) {f : PurchaseOrder → PurchaseOrder}
    (hid : ∀ p, (f p).id = p.id) (hsubtotal : ∀ p, (f p).subtotalKes = p.subtotalKes) :
    (db.mapOrder poId f).LinesAddUp poId where
  subtotal po hpo := by
    cases hfind : db.purchaseOrders.find poId with
    | none =>
        have hnone : (db.mapOrder poId f).purchaseOrders.find poId = none := by
          rw [Db.mapOrder, Table.find_update _ _ hid, hfind]
          rfl
        rw [hnone] at hpo
        cases hpo
    | some row =>
        obtain rfl : f row = po := Option.some.inj ((Db.find_mapOrder hfind hid).symm.trans hpo)
        rw [hsubtotal, h.subtotal row hfind]
        rfl
  lineTotals := h.lineTotals
  nonempty := h.nonempty

/-- The line an edit read and the row it writes at its commit are one line at one unit
cost. -/
theorem edited_row {s t : Db} {lineId : LineId} {line : PurchaseOrderLine}
    (hline : ((s.linesOf poId).find? fun l => l.id = lineId) = some line)
    (hkept : LinesKept s t) (hstored : (t.lines.find line.id).isSome) :
    ∃ row ∈ t.linesOf poId, row.id = line.id ∧ row.unitCostKes = line.unitCostKes := by
  obtain ⟨row, hrow⟩ := Option.isSome_iff_exists.mp hstored
  obtain ⟨hmem, hid⟩ := Table.find_eq_some.mp hrow
  obtain ⟨l, hl, hlid, hlpo, hlcost⟩ := hkept row hmem
  have hlineOf : line ∈ s.linesOf poId := List.mem_of_find?_eq_some hline
  obtain ⟨hlineMem, hlinePo⟩ := List.mem_filter.mp hlineOf
  obtain rfl : l = line := Table.eq_of_key_eq hl hlineMem (hlid.trans hid)
  refine ⟨row, List.mem_filter.mpr ⟨hmem, ?_⟩, hid, hlcost.symm⟩
  rw [← hlpo]
  exact hlinePo

section Commits

variable {i : ι} {lineId : LineId} {ok : EditPoLinesResult → OpProgram PoEmail DraftAnswer}

/-- Interference keeps lines. -/
theorem linesKept_of_rely {keys : List RowKey} {s t : Db}
    (h : (valueContract calls poId).Rely keys s t) : LinesKept s t :=
  h.lift (LinesKept.refl s) fun _ _ hab hguar _ => hab.trans hguar

/-- The commit of a new quantity over fresh lines adds up. -/
theorem editCommits_setQuantity (hcall : lineId ∈ (calls i).editedLine) (quantity : ℤ) :
    EditCommits (valueContract calls poId) i poId lineId (fun _ => none)
      (fun line _ db => db.withQuantity quantity line) (linesWithQuantity lineId quantity)
      [] ok := by
  rintro s₀ s₁ more s t line po r hline - - hinv hrely₁ hrely₂ hfind - hstored ⟨ws, hne, hok⟩
  obtain rfl : line.id = lineId := by simpa using List.find?_some hline
  have hfresh : linesWithout line.id (s₁.linesOf poId) = linesWithout line.id (t.linesOf poId) :=
    hok hne line.id hcall s₁ rfl
  obtain ⟨row, hrow, hid, hcost⟩ :=
    edited_row hline (linesKept_of_rely (hrely₁.trans hrely₂)) hstored
  have hlines : (t.withQuantity quantity line).linesOf poId = (t.linesOf poId).map fun l =>
      if l.id = row.id then l.setQuantity quantity line.unitCostKes else l := by
    rw [linesOf_withQuantity, hid]
  refine ⟨⟨fun p hp => ?_, fun l hl => ?_, ?_⟩, fun l hl => ?_, trivial⟩
  · -- the subtotal written is the sum over the lines read, the sum due that over the lines now
    let subtotal := linesSubtotal (linesWithQuantity line.id quantity (s₁.linesOf poId))
    have hp' : ((t.withQuantity quantity line).mapOrder poId (·.setSubtotal
        subtotal)).purchaseOrders.find poId = some _ := Db.find_mapOrder hfind fun _ => rfl
    obtain rfl := Option.some.inj (hp'.symm.trans hp)
    have hwritten := sum_value_setQuantity (f := fun l => { l with quantity }) (fun l => rfl)
      (s₁.nodup_linesOf poId) (List.mem_of_find?_eq_some hline)
    have hdue := sum_value_setQuantity (f := (·.setQuantity quantity line.unitCostKes))
      (fun l => rfl)
      (t.nodup_linesOf poId) hrow
    show linesSubtotal (linesWithQuantity line.id quantity (s₁.linesOf poId)) = _
    rw [linesSubtotal_eq, Db.linesOf_mapOrder, hlines, hdue, hid, ← hfresh, hcost, ← hwritten]
    rfl
  · rw [Db.linesOf_mapOrder, hlines] at hl
    obtain ⟨l', hl', rfl⟩ := List.mem_map.mp hl
    by_cases hid' : l'.id = row.id
    · obtain rfl : l' = row := Table.eq_of_key_eq (List.mem_filter.mp hl').1
        (List.mem_filter.mp hrow).1 hid'
      rw [if_pos rfl, ← hcost]
      rfl
    · rw [if_neg hid']
      exact hinv.lineTotals l' hl'
  · rw [Db.linesOf_mapOrder, hlines]
    simpa using hinv.nonempty
  · replace hl : l ∈ (t.withQuantity quantity line).lines.rows := hl
    rw [Db.withQuantity, Table.rows_update _ _ fun _ => by rfl] at hl
    obtain ⟨l', hl', rfl⟩ := List.mem_map.mp hl
    refine ⟨l', hl', ?_⟩
    by_cases hid' : l'.id = line.id <;> simp [hid', PurchaseOrderLine.setQuantity]

/-- The commit of a removal over fresh lines adds up. -/
theorem editCommits_removeLine (hcall : lineId ∈ (calls i).editedLine) :
    EditCommits (valueContract calls poId) i poId lineId lastLineProblem
      (fun line s db => Db.withoutLine poId line s db) (linesWithout lineId) [] ok := by
  rintro s₀ s₁ more s t line po r hline hcheck - hinv - - hfind - - ⟨ws, hne, hok⟩
  obtain rfl : line.id = lineId := by simpa using List.find?_some hline
  have hfresh : linesWithout line.id (s₁.linesOf poId) = linesWithout line.id (t.linesOf poId) :=
    hok hne line.id hcall s₁ rfl
  have hlength : (s₁.linesOf poId).length ≠ 1 := by
    intro h
    simp [lastLineProblem, h] at hcheck
  have hlines := linesOf_withoutLine t s poId line
  refine ⟨⟨fun p hp => ?_, fun l hl => ?_, ?_⟩, fun l hl => ?_, trivial⟩
  · have hp' : ((Db.withoutLine poId line s t).mapOrder poId (·.setSubtotal
        (linesSubtotal (linesWithout line.id (s₁.linesOf poId))))).purchaseOrders.find poId
          = some _ := Db.find_mapOrder hfind fun _ => rfl
    obtain rfl := Option.some.inj (hp'.symm.trans hp)
    rw [Db.linesOf_mapOrder, hlines, ← hfresh]
    exact linesSubtotal_eq _
  · rw [Db.linesOf_mapOrder, hlines] at hl
    exact hinv.lineTotals l (List.mem_filter.mp hl).1
  · rw [Db.linesOf_mapOrder, hlines, ← hfresh]
    exact linesWithout_ne_nil (s₁.nodup_linesOf poId) (List.mem_of_find?_eq_some hline) hlength
  · exact ⟨l, (List.mem_filter.mp hl).1, rfl, rfl, rfl⟩

end Commits

/-- Every call on a draft keeps to the contract. -/
theorem safe_draftCall (calls : ι → DraftCall) (poId : PoId) (i : ι) (db : Db) :
    (valueContract calls poId).Safe i ((calls i).program poId) [] [] db := by
  have hΓ := valueContract_reflexive calls poId
  cases hcall : calls i with
  | setQuantity lineId quantity =>
      exact safe_setPoLineQuantity hΓ (fun _ _ _ => trivial) (fun _ _ _ => trivial)
        (editCommits_setQuantity (by rw [hcall]; rfl) quantity.num)
  | removeLine lineId =>
      exact safe_removePoLine hΓ (fun _ _ _ => trivial) (fun _ _ _ => trivial)
        (editCommits_removeLine (by rw [hcall]; rfl))
  | send mailConfigured now =>
      -- a send writes no line and no subtotal
      refine safe_sendPoToSupplier hΓ ⟨?_, ?_, fun _ _ => trivial⟩ (fun _ _ _ => trivial)
        (fun _ _ _ => trivial) ?_
      · intro seen s t next eta hinv
        exact ⟨⟨hinv.subtotal, hinv.lineTotals, hinv.nonempty⟩, LinesKept.refl t, trivial⟩
      · intro seen t po next hinv _ _
        exact ⟨linesAddUp_mapOrder hinv (fun _ => rfl) fun _ => rfl, LinesKept.refl t, trivial⟩
      · intro s₀ s₁ s₂ s₃ s t po row supplier shopName recipient expectedAt k hinv _ _ _ _ _
        exact ⟨linesAddUp_mapOrder hinv (fun _ => rfl) fun _ => rfl, LinesKept.refl t, trivial⟩

/-- When every edit commits over the other lines it read, a draft that adds up at the start
adds up in every state reached, in particular once all edits have finished. -/
theorem linesAddUp_of_fresh [DecidableEq ι] (calls : ι → DraftCall) {poId : PoId} {db : Db}
    (hstart : db.LinesAddUp poId) {σ : Config Db RowKey LockName PoEmail DraftAnswer ι}
    (hrun : RunWhere (EditsFresh calls poId)
      (Config.initial db fun i => (calls i).program poId) σ) : σ.db.LinesAddUp poId :=
  (Contract.good_run
    (Contract.good_initial hstart fun i => safe_draftCall calls poId i db) hrun).inv

end Runs

/-! ## Two removals at the same time -/

/-- A draft of two lines. -/
def twoLineDraft : Db where
  purchaseOrders := ⟨[{ id := 1, subtotalKes := 8 }], by decide⟩
  lines := ⟨[
    { id := 1, purchaseOrderId := 1, productId := 1, quantity := 5, unitCostKes := 1,
      lineTotalKes := 5 },
    { id := 2, purchaseOrderId := 1, productId := 2, quantity := 3, unitCostKes := 1,
      lineTotalKes := 3 }], by decide⟩

/-- Two clients remove one line each. -/
def removeBoth : Bool → DraftCall
  | false => .removeLine 1
  | true => .removeLine 2

/-- The draft adds up at the start. -/
theorem twoLineDraft_addsUp : twoLineDraft.LinesAddUp 1 where
  subtotal := by
    have h : ∀ po ∈ twoLineDraft.purchaseOrders.find 1,
        po.subtotalKes = ((twoLineDraft.linesOf 1).map PurchaseOrderLine.value).sum := by
      decide +kernel
    exact h
  lineTotals := by decide +kernel
  nonempty := by decide

/-- Both removals find the other line still there, and leave a draft without lines. -/
theorem removals_leave_no_line :
    ¬ ∀ (calls : Bool → DraftCall) (poId : PoId) (db : Db), (∀ i, (calls i).editedLine.isSome) →
      db.LinesAddUp poId → ∀ σ, Run (Config.initial db fun i => (calls i).program poId) σ →
        (∀ i, (σ.clients i).program.isOver) → σ.db.LinesAddUp poId := by
  intro hall
  obtain ⟨σ, hrun, hover, hnone⟩ :=
    exists_run_of_schedule [false, true] (fun _ _ _ _ => True)
      (List.replicate 2 (false, true) ++ List.replicate 6 (true, true)
        ++ List.replicate 4 (false, true))
      (Config.initial twoLineDraft fun i => (removeBoth i).program 1)
      (fun σ => (∀ i, (σ.clients i).program.isOver) ∧ σ.db.linesOf 1 = [])
      (by decide) (by decide +kernel)
  exact (hall removeBoth 1 twoLineDraft (by decide) twoLineDraft_addsUp σ hrun hover).nonempty
    hnone

/-- One removal after the other: the second finds the last line and is refused. -/
theorem removals_in_turn :
    ∃ σ, RunWhere (EditsFresh removeBoth 1)
        (Config.initial twoLineDraft fun i => (removeBoth i).program 1) σ ∧
      σ.db ≠ twoLineDraft ∧ σ.db.LinesAddUp 1 := by
  obtain ⟨σ, hrun, hne⟩ :=
    exists_run_of_schedule [false, true] (EditsFresh removeBoth 1)
      (List.replicate 6 (false, true) ++ List.replicate 3 (true, true))
      (Config.initial twoLineDraft fun i => (removeBoth i).program 1)
      (fun σ => σ.db ≠ twoLineDraft) (by decide) (by decide +kernel)
  exact ⟨σ, hrun, hne, linesAddUp_of_fresh removeBoth twoLineDraft_addsUp hrun⟩

end Restock
