import Restock.Purchasing.Cancel
import Restock.Purchasing.PoMath

/-!
# Changing the lines of a draft

`apps/web/lib/po/edit-po-lines.ts`: a draft line gets another quantity or is dropped, and
the subtotal of the order is rewritten from the lines as they were read at the start of the
transaction. The last write is guarded by the status of the order; when it finds no draft,
the transaction is rolled back. The audit event written after the commit is left out.

* `setPoLineQuantity`, `removePoLine` — the code, both the same transaction around a
  different write;
* `EditCommits` — what has to be checked of that transaction under a contract: its commit,
  given what the write does to the database;
* `safe_setPoLineQuantity`, `safe_removePoLine` — an edit is safe when its commit is.
-/

namespace Restock

open Store

variable {M R : Type}

/-- Why an edit was refused. -/
inductive EditRefusal
  | notFound
  | notEditable
  | badLine
  | badQty
  | lastLine
  deriving DecidableEq, Repr

/-- `EditPoLinesResult`. -/
inductive EditPoLinesResult
  | ok (lineCount : ℕ) (subtotalKes : ℚ)
  | refused (reason : EditRefusal)
  deriving DecidableEq, Repr

/-- The order under an id is a draft. -/
def isDraft (poId : PoId) (po : PurchaseOrder) : Bool :=
  po.id = poId ∧ po.status = .draft

/-- An order with another subtotal. -/
def PurchaseOrder.setSubtotal (subtotalKes : ℚ) (po : PurchaseOrder) : PurchaseOrder :=
  { po with subtotalKes }

/-- What the lines of an order come to, at their quantities and unit costs. -/
def linesSubtotal (lines : List PurchaseOrderLine) : ℚ :=
  subtotal (lines.map fun l => l.quantity * l.unitCostKes)

/-- Rewrite the subtotal of a draft; throws when the order is no longer one. -/
def rewriteSubtotal (poId : PoId) (lines : List PurchaseOrderLine) : Op M R ℚ := do
  let subtotalKes := linesSubtotal lines
  let touched ← Session.updateMany PurchaseOrder (isDraft poId) (·.setSubtotal subtotalKes)
  if touched = 0 then throw .noLongerDraft
  return subtotalKes

/-- The answer when the draft was sent underneath an edit; other exceptions pass. -/
def notEditableIfSent : Failure → Op M R EditPoLinesResult
  | .noLongerDraft => return .refused .notEditable
  | e => throw e

/-- One edit of a draft line: check, write, and rewrite the subtotal from `next`, the lines
as they should be after the write. -/
def editPoLine (poId : PoId) (lineId : LineId)
    (check : List PurchaseOrderLine → Option EditRefusal)
    (write : PurchaseOrderLine → Op M R Unit)
    (next : List PurchaseOrderLine → List PurchaseOrderLine) : Op M R EditPoLinesResult :=
  tryCatch
    (Session.transaction do
      let some (po, lines) ← findPurchaseOrder poId
        | return .refused .notFound
      if po.status ≠ .draft then
        return .refused .notEditable
      let some line := lines.find? fun l => l.id = lineId
        | return .refused .badLine
      if let some reason := check lines then
        return .refused reason
      write line
      let subtotalKes ← rewriteSubtotal poId (next lines)
      return .ok (next lines).length subtotalKes)
    notEditableIfSent

/-- A line with another quantity, re-priced. `recommendedQty` is deliberately untouched. -/
def PurchaseOrderLine.setQuantity (quantity : ℤ) (unitCostKes : ℚ) (l : PurchaseOrderLine) :
    PurchaseOrderLine :=
  { l with quantity, lineTotalKes := quantity * unitCostKes }

/-- The lines in memory with another quantity on one of them. -/
def linesWithQuantity (lineId : LineId) (quantity : ℤ) (lines : List PurchaseOrderLine) :
    List PurchaseOrderLine :=
  lines.map fun l => if l.id = lineId then { l with quantity } else l

/-- The lines in memory without one of them. -/
def linesWithout (lineId : LineId) (lines : List PurchaseOrderLine) : List PurchaseOrderLine :=
  lines.filter fun l => l.id ≠ lineId

/-- Set one draft line's quantity, re-pricing the line and the order. -/
def setPoLineQuantity (poId : PoId) (lineId : LineId) (quantity : ℚ) :
    Op M R EditPoLinesResult := do
  if ¬ quantity.isInt ∨ quantity < 1 then
    return .refused .badQty
  editPoLine poId lineId (fun _ => none)
    (fun line => Session.update PurchaseOrderLine line.id
      (·.setQuantity quantity.num line.unitCostKes) .recordNotFound)
    (linesWithQuantity lineId quantity.num)

/-- A queue row that waits for a product on an order. -/
def isQueuedFor (poId : PoId) (productId : ProductId) (o : Order) : Bool :=
  o.purchaseOrderId = some poId ∧ o.productId = some productId ∧ o.status = .ordered

/-- The last line of an order is not removed: an order with no lines is not an order. -/
def lastLineProblem (lines : List PurchaseOrderLine) : Option EditRefusal :=
  if lines.length = 1 then some .lastLine else none

/-- Drop a line from a draft, returning its queued items to the buy list. -/
def removePoLine (poId : PoId) (lineId : LineId) : Op M R EditPoLinesResult :=
  editPoLine poId lineId
    lastLineProblem
    (fun line => do
      Session.delete PurchaseOrderLine line.id .recordNotFound
      let _ ← Session.updateMany Order (isQueuedFor poId line.productId) Order.release)
    (linesWithout lineId)

section Safe

variable {ι : Type} {Γ : Contract Db RowKey LockName M R ι} {i : ι} {poId : PoId}
  {lineId : LineId}

/-- The writes `ws` are those of an edit that began in the state `s₁`: over any state they
have the effect the edit is meant to have, decided by some state in between, and the edited
line is stored as long as they are pending. -/
structure EditWrote (Γ : Contract Db RowKey LockName M R ι) (lineId : LineId)
    (effect : Db → Db → Db) (s₁ : Db) (ws : List (Write Db RowKey)) (db : Db) : Prop where
  effect : ∃ s, Γ.Rely [] s₁ s ∧ Γ.Rely [] s db ∧ ∀ u, sees ws u = effect s u
  stored : ∀ t, Γ.Rely (locked ws) db t → (t.lines.find lineId).isSome

/-- The write of an edit is safe when what follows it is. -/
def EditSafe (Γ : Contract Db RowKey LockName M R ι) (i : ι)
    (write : PurchaseOrderLine → Op M R Unit) (effect : PurchaseOrderLine → Db → Db → Db) :
    Prop :=
  ∀ line seen s₁ ok err, (∀ e seen ws db, Γ.Safe i (err e) seen ws db) →
    (∀ more ws db, EditWrote Γ line.id (effect line) s₁ ws db →
      Γ.Safe i (ok ()) (seen ++ more) ws db) →
    Γ.Safe i (write line ok err) seen [] s₁

/-- The commit of an edit keeps the contract. The edit read the order in the state `s₀`, the
lines in the state `s₁`, and wrote in the state `s`; at the commit the order is still a
draft, its row being locked. -/
def EditCommits (Γ : Contract Db RowKey LockName M R ι) (i : ι) (poId : PoId) (lineId : LineId)
    (check : List PurchaseOrderLine → Option EditRefusal)
    (effect : PurchaseOrderLine → Db → Db → Db)
    (next : List PurchaseOrderLine → List PurchaseOrderLine) (seen : List Db)
    (ok : EditPoLinesResult → OpProgram M R) : Prop :=
  ∀ s₀ s₁ more s t line po r,
    ((s₁.linesOf poId).find? fun l => l.id = lineId) = some line →
    check (s₁.linesOf poId) = none → Γ.Inv s₁ → Γ.Inv t → Γ.Rely [] s₁ s → Γ.Rely [] s t →
    t.purchaseOrders.find poId = some po → po.status = .draft →
    (t.lines.find line.id).isSome →
    (∃ ws, ws ≠ [] ∧ Γ.ok i (seen ++ [s₀] ++ [s₁] ++ more) ws t) →
    let t' := (effect line s t).mapOrder poId
      (·.setSubtotal (linesSubtotal (next (s₁.linesOf poId))))
    Γ.Inv t' ∧ Γ.Guar t t' ∧ Γ.AtCommit i (seen ++ [s₀] ++ [s₁] ++ more) t t' (ok r)

/-- An edit is safe when its commit keeps the contract. -/
theorem safe_editPoLine (hΓ : Γ.Reflexive) {check : List PurchaseOrderLine → Option EditRefusal}
    {write : PurchaseOrderLine → Op M R Unit}
    {next : List PurchaseOrderLine → List PurchaseOrderLine}
    {effect : PurchaseOrderLine → Db → Db → Db} (hwrite : EditSafe Γ i write effect)
    (hkeeps : ∀ line s u, (effect line s u).purchaseOrders = u.purchaseOrders)
    {ok : EditPoLinesResult → OpProgram M R} {err : Failure → OpProgram M R} {seen : List Db}
    {db : Db} (hok : ∀ r, Γ.SafeAnyway i (ok r)) (herr : ∀ e, Γ.SafeAnyway i (err e))
    (hcommit : EditCommits Γ i poId lineId check effect next seen ok) :
    Γ.Safe i (editPoLine poId lineId check write next ok err) seen [] db := by
  have hrollback : ∀ e seen ws db,
      Γ.Safe i (.rollback (notEditableIfSent e ok err)) seen ws db := by
    intro e seen ws db
    cases e with
    | noLongerDraft => exact hok _ _ _
    | recordNotFound | uniqueViolation | queueClaimed | emailFailed | typeError =>
        exact herr _ _ _
  unfold editPoLine findPurchaseOrder
  simp only [Session.tryCatch_apply, Session.transaction_apply, Session.bind_apply]
  refine Contract.safe_query fun s₀ _ _ => ?_
  simp only [sees_nil, get_purchaseOrders]
  cases hfind : s₀.purchaseOrders.rows.find? fun po => po.id = poId ∧ po.deletedAt = none with
  | none => exact Contract.safe_commit_of_same hΓ (fun _ => rfl) (hok _)
  | some po =>
  simp only [Session.bind_apply]
  refine Contract.safe_query fun s₁ hinv₁ _ => ?_
  have hlines : (Stored.get (sees [] s₁) : Table PurchaseOrderLine).rows.filter
      (fun l => l.purchaseOrderId = poId) = s₁.linesOf poId := rfl
  simp only [hlines, Session.pure_apply]
  by_cases hgate : po.status ≠ .draft
  · simp only [if_pos hgate]
    exact Contract.safe_commit_of_same hΓ (fun _ => rfl) (hok _)
  simp only [if_neg hgate]
  cases hline : (s₁.linesOf poId).find? fun l => l.id = lineId with
  | none => exact Contract.safe_commit_of_same hΓ (fun _ => rfl) (hok _)
  | some line =>
  cases hcheck : check (s₁.linesOf poId) with
  | some reason => exact Contract.safe_commit_of_same hΓ (fun _ => rfl) (hok _)
  | none =>
  simp only [Session.bind_apply]
  refine hwrite line _ s₁ _ _ hrollback fun more ws db hwrote => ?_
  obtain ⟨s, hrely₁, hrely₂, heffect⟩ := hwrote.effect
  unfold rewriteSubtotal
  simp only [Session.bind_apply]
  refine Contract.safe_updateMany fun s' _ hrely' => ?_
  by_cases hnone : ((Stored.get (sees ws s') : Table PurchaseOrder).matching (isDraft poId)) = []
  · -- the draft is gone: the transaction is rolled back
    rw [hnone]
    exact hrollback .noLongerDraft _ _ _
  obtain ⟨id, hid⟩ := List.exists_mem_of_ne_nil _ hnone
  obtain ⟨row, hrow, hdraft⟩ := Table.mem_matching.mp hid
  have hkey : ∀ r : PurchaseOrder, isDraft poId r = true → Keyed.key r = poId :=
    fun r hr => (of_decide_eq_true hr).1
  obtain rfl : id = poId := by rw [← hkey row hdraft, (Table.find_eq_some.mp hrow).2]
  simp only [if_neg fun h0 => hnone (List.eq_nil_of_length_eq_zero h0), Session.pure_apply]
  intro t hinv hrely hallowed
  have hlocked := mem_keys_updating hkey hrow hdraft
    (·.setSubtotal (linesSubtotal (next (s₁.linesOf id))))
  have hfound : s'.purchaseOrders.find id = some row := by
    rw [← hkeeps line s s', ← heffect]
    exact hrow
  have hsame : s'.purchaseOrders.find id = t.purchaseOrders.find id :=
    hrely.same (k := .purchaseOrder id) (by
      rw [locked_append, List.mem_append, locked_cons, List.mem_append]
      exact Or.inr (Or.inl hlocked))
  have hafter : Γ.Rely (locked ws) db t := hrely'.trans hrely.left
  rw [sees_append, sees_cons, sees_nil, updating_act_of_match hkey hrow hdraft, heffect]
  rw [List.append_assoc _ more] at hallowed ⊢
  obtain ⟨hinv', hguar, hat⟩ := hcommit s₀ s₁ (more ++ [s']) s t line row
    (.ok (next (s₁.linesOf id)).length (linesSubtotal (next (s₁.linesOf id))))
    hline hcheck hinv₁ hinv
    hrely₁ (hrely₂.trans hafter.unlocked) (by rw [← hsame, hfound])
    (of_decide_eq_true hdraft).2 (hwrote.stored t hafter)
    ⟨_, by simp, hallowed⟩
  exact ⟨hinv', hguar, hat, hok _ _ _⟩

/-- The database after the write of `setPoLineQuantity`. -/
def Db.withQuantity (quantity : ℤ) (line : PurchaseOrderLine) (db : Db) : Db :=
  { db with
    lines := db.lines.update (fun l => l.id = line.id) (·.setQuantity quantity line.unitCostKes) }

/-- The database after the writes of `removePoLine`, the queue rows being those that waited
in the state `s`. -/
def Db.withoutLine (poId : PoId) (line : PurchaseOrderLine) (s db : Db) : Db :=
  { (updating Order (isQueuedFor poId line.productId) Order.release s).act db with
    lines := db.lines.erase fun l => l.id = line.id }

/-- Setting a quantity updates the line, whose row is locked from then on. -/
theorem editSafe_setQuantity (quantity : ℤ) :
    EditSafe Γ i
      (fun line => Session.update PurchaseOrderLine line.id
        (·.setQuantity quantity line.unitCostKes) .recordNotFound)
      fun line _ db => db.withQuantity quantity line := by
  intro line seen s₁ ok err herr hok
  refine Contract.safe_update (fun _ _ _ _ => herr _ _ _ _) fun s row _ hrely hrow => ?_
  have hkey : ∀ r : PurchaseOrderLine, decide (Keyed.key r = line.id) = true →
      Keyed.key r = line.id := fun r hr => of_decide_eq_true hr
  have hid : decide (Keyed.key row = line.id) = true :=
    decide_eq_true (Table.find_eq_some.mp hrow).2
  refine hok [s] _ _ ⟨⟨s, hrely, .refl, fun u => ?_⟩, fun t ht => ?_⟩
  · rw [List.nil_append, sees_cons, sees_nil, updating_act_of_match hkey hrow hid]
    rfl
  · have hsame : s.lines.find line.id = t.lines.find line.id :=
      ht.same (k := .line line.id) (by
        rw [List.nil_append, locked_cons, List.mem_append]
        exact Or.inl (mem_keys_updating hkey hrow hid _))
    have hfound : s.lines.find line.id = some row := hrow
    rw [← hsame, hfound]
    rfl

/-- Removing a line deletes it, its row being locked from then on, and releases the queue
rows that wait for its product. -/
theorem editSafe_removeLine (poId : PoId) :
    EditSafe Γ i
      (fun line => do
        Session.delete PurchaseOrderLine line.id .recordNotFound
        let _ ← Session.updateMany Order (isQueuedFor poId line.productId) Order.release)
      fun line s db => Db.withoutLine poId line s db := by
  intro line seen s₁ ok err herr hok
  refine Contract.safe_delete (fun _ _ _ _ => herr _ _ _ _) fun s row _ hrely hrow => ?_
  have hkey : ∀ r : PurchaseOrderLine, decide (Keyed.key r = line.id) = true →
      Keyed.key r = line.id := fun r hr => of_decide_eq_true hr
  have hid : decide (Keyed.key row = line.id) = true :=
    decide_eq_true (Table.find_eq_some.mp hrow).2
  refine Contract.safe_updateMany fun s' _ hrely' => ?_
  rw [List.append_assoc]
  refine hok [s, s'] _ _
    ⟨⟨s', hrely.trans hrely'.unlocked, .refl, fun u => ?_⟩, fun t ht => ?_⟩
  · have hdelete : ∀ v, sees ([] ++ [deleting PurchaseOrderLine
        (fun x => Keyed.key x = line.id) (sees [] s)]) v
          = { v with lines := v.lines.erase fun l => l.id = line.id } :=
      fun v => deleting_act_of_match hkey hrow hid v
    rw [sees_append, hdelete, hdelete]
    rfl
  · have hsame : s.lines.find line.id = t.lines.find line.id :=
      (hrely'.trans ht.left).same (k := .line line.id) (by
        rw [List.nil_append, locked_cons, List.mem_append]
        exact Or.inl (mem_keys_deleting hkey hrow hid))
    have hfound : s.lines.find line.id = some row := hrow
    rw [← hsame, hfound]
    rfl

section Calls

variable {ok : EditPoLinesResult → OpProgram M R} {err : Failure → OpProgram M R}
  {seen : List Db} {db : Db}

/-- Setting a quantity is safe when its commit keeps the contract. -/
theorem safe_setPoLineQuantity (hΓ : Γ.Reflexive) {quantity : ℚ}
    (hok : ∀ r, Γ.SafeAnyway i (ok r)) (herr : ∀ e, Γ.SafeAnyway i (err e))
    (hcommit : EditCommits Γ i poId lineId (fun _ => none)
      (fun line _ db => db.withQuantity quantity.num line) (linesWithQuantity lineId quantity.num)
      seen ok) :
    Γ.Safe i (setPoLineQuantity poId lineId quantity ok err) seen [] db := by
  unfold setPoLineQuantity
  split
  · exact hok _ _ _
  · exact safe_editPoLine hΓ (editSafe_setQuantity quantity.num) (fun _ _ _ => rfl) hok herr hcommit

/-- Removing a line is safe when its commit keeps the contract. -/
theorem safe_removePoLine (hΓ : Γ.Reflexive)
    (hok : ∀ r, Γ.SafeAnyway i (ok r)) (herr : ∀ e, Γ.SafeAnyway i (err e))
    (hcommit : EditCommits Γ i poId lineId lastLineProblem
      (fun line s db => Db.withoutLine poId line s db) (linesWithout lineId) seen ok) :
    Γ.Safe i (removePoLine poId lineId ok err) seen [] db :=
  safe_editPoLine hΓ (editSafe_removeLine poId) (fun _ _ _ => rfl) hok herr hcommit

end Calls

end Safe

end Restock
