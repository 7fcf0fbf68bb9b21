import Restock.Shop.Schema
import Restock.Store.Confined

/-!
# Cancelling a purchase order

`apps/web/lib/po/cancel-po.ts`: a draft or sent order is cancelled and the queue rows linked
to it go back to pending, in one transaction that takes no lock on the order before it
writes it. The audit event written after the commit is left out, and the clock is read once.

* `cancelPo` — the code;
* `safe_cancelPo` — what has to be checked of it under a contract: the commit of the two
  updates, each decided by the state its statement saw.
-/

namespace Restock

open Store

variable {M R : Type}

/-- Why a cancellation was refused. -/
inductive CancelRefusal
  | notFound
  | notCancellable
  deriving DecidableEq, Repr

/-- `CancelPoResult`. -/
inductive CancelPoResult
  | ok
  | refused (reason : CancelRefusal)
  deriving DecidableEq, Repr

/-- A queue row that is on an order and still outstanding. -/
def isOutstanding (poId : PoId) (o : Order) : Bool :=
  o.purchaseOrderId = some poId ∧ o.status = .ordered

/-- A queue row given back to the queue. -/
def Order.release (o : Order) : Order :=
  { o with status := .pending, purchaseOrderId := none, orderedAt := none,
           expectedArrivalAt := none }

/-- An order cancelled by someone. -/
def PurchaseOrder.cancel (now : Time) (actorName : Option String) (po : PurchaseOrder) :
    PurchaseOrder :=
  { po with status := .cancelled, cancelledAt := some now, cancelledByName := actorName }

/-- Cancel an order that won't be fulfilled. -/
def cancelPo (poId : PoId) (actorName : Option String) (now : Time) :
    Op M R CancelPoResult :=
  Session.transaction do
    let some po ← Session.findFirst PurchaseOrder fun po => po.id = poId ∧ po.deletedAt = none
      | return .refused .notFound
    -- Anything with stock already checked in stays on the books.
    if po.status ≠ .draft ∧ po.status ≠ .sent then
      return .refused .notCancellable
    let _ ← Session.updateMany Order (isOutstanding po.id) Order.release
    Session.update PurchaseOrder po.id (·.cancel now actorName) .recordNotFound
    return .ok

section Safe

variable {ι : Type} {Γ : Contract Db RowKey LockName M R ι} {i : ι} {poId : PoId}
  {actorName : Option String} {now : Time}

/-- The database after the commit of a cancellation whose release ran against `s`. -/
def Db.cancelledFrom (db : Db) (s : Db) (poId : PoId) (actorName : Option String) (now : Time) :
    Db :=
  ((updating Order (isOutstanding poId) Order.release s).act db).mapOrder poId
    (·.cancel now actorName)

/-- A cancellation is safe when its commit is. The order was stored when the cancellation
began, and is at the commit, where its row is locked. -/
theorem safe_cancelPo (hΓ : Γ.Reflexive) {ok : CancelPoResult → OpProgram M R}
    {err : Failure → OpProgram M R} {seen : List Db} {db : Db}
    (hok : ∀ r, Γ.SafeAnyway i (ok r)) (herr : ∀ e, Γ.SafeAnyway i (err e))
    (hcommit : ∀ seen' s₀ s t po, (s₀.purchaseOrders.find poId).isSome →
      t.purchaseOrders.find poId = some po → Γ.Inv t → Γ.Rely [] s₀ s → Γ.Rely [] s t →
      (∃ ws, ws ≠ [] ∧ Γ.ok i seen' ws t) →
      let t' := t.cancelledFrom s poId actorName now
      Γ.Inv t' ∧ Γ.Guar t t' ∧ Γ.AtCommit i seen' t t' (ok .ok)) :
    Γ.Safe i (cancelPo poId actorName now ok err) seen [] db := by
  unfold cancelPo
  simp only [Session.transaction_apply, Session.bind_apply]
  refine Contract.safe_query fun s₀ _ _ => ?_
  simp only [sees_nil, get_purchaseOrders]
  cases hfind : s₀.purchaseOrders.rows.find? fun po => po.id = poId ∧ po.deletedAt = none with
  | none => exact Contract.safe_commit_of_same hΓ (fun _ => rfl) (hok _)
  | some po =>
  obtain ⟨hstored, -⟩ := Db.find?_order_eq_some.mp hfind
  obtain rfl : po.id = poId := (Table.find_eq_some.mp hstored).2
  by_cases hgate : po.status ≠ .draft ∧ po.status ≠ .sent
  · simp only [if_pos hgate]
    exact Contract.safe_commit_of_same hΓ (fun _ => rfl) (hok _)
  simp only [if_neg hgate, Session.bind_apply]
  refine Contract.safe_updateMany fun s _ hrely₁ => ?_
  refine Contract.safe_update (fun _ _ _ _ => herr _ _ _) fun s₂ row _ hrely₂ hrow => ?_
  -- both updates ran; the row of the order is locked until the commit
  intro t hinv hrely hallowed
  have hkey : ∀ r : PurchaseOrder, decide (Keyed.key r = po.id) = true → Keyed.key r = po.id :=
    fun r hr => of_decide_eq_true hr
  have hid : decide (Keyed.key row = po.id) = true :=
    decide_eq_true (Table.find_eq_some.mp hrow).2
  have hlocked := mem_keys_updating hkey hrow hid (·.cancel now actorName)
  have hfound : s₂.purchaseOrders.find po.id = some row := hrow
  have hsame : s₂.purchaseOrders.find po.id = t.purchaseOrders.find po.id :=
    hrely.same (k := .purchaseOrder po.id) (by
      rw [locked_append, List.mem_append, locked_cons, List.mem_append]
      exact Or.inr (Or.inl hlocked))
  have heffect : ∀ u, sees ([] ++ [updating Order (isOutstanding po.id) Order.release (sees [] s)]
      ++ [updating PurchaseOrder (fun r => Keyed.key r = po.id) (·.cancel now actorName)
        (sees ([] ++ [updating Order (isOutstanding po.id) Order.release (sees [] s)]) s₂)]) u
      = u.cancelledFrom s po.id actorName now := by
    intro u
    rw [sees_append, sees_cons, sees_nil, updating_act_of_match hkey hrow hid]
    rfl
  rw [heffect]
  obtain ⟨hinv', hguar, hat⟩ := hcommit _ s₀ s t row (by rw [hstored]; rfl)
    (by rw [← hsame, hfound]) hinv hrely₁
    (hrely₂.unlocked.trans hrely.unlocked) ⟨_, by simp, hallowed⟩
  exact ⟨hinv', hguar, hat, hok _ _ _⟩

end Safe

end Restock
