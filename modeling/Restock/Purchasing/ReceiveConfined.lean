import Restock.Purchasing.Receive
import Restock.Store.Confined

/-!
# Receiving among other calls

What has to be checked of `receivePoLines` when other clients commit between its
statements. The lines, levels, products and queue rows it writes on the way are all writes
of a `ReceiptWrites` predicate, so that a contract only has to look at two things: that
such writes do no harm, and the commit that publishes them with the new status of the
order.

* `ReceiptWrites` — a predicate that the writes of a receipt satisfy;
* `confined_receiveEntry`, `confined_recomputeSellableStock`, `confined_completeAwaiting` —
  the parts of a receipt are confined to such writes;
* `safe_receivePoLines` — a receipt is safe when its commit is.
-/

namespace Restock

open Store Contract

variable {M R ι : Type} {Γ : Contract Db RowKey LockName M R ι} {i : ι}
  {Φ : Write Db RowKey → Prop}

/-- The writes of a receipt, the one to its order apart, satisfy `Φ`. -/
structure ReceiptWrites (Φ : Write Db RowKey → Prop) : Prop where
  line : ∀ id qty receivedAt s,
    Φ (updating PurchaseOrderLine (fun l => l.id = id) (·.setReceived qty receivedAt) s)
  levels : ∀ p f s, Φ (updating InventoryLevel p f s)
  newLevel : ∀ level : InventoryLevel, Φ (inserting level)
  products : ∀ p f s, Φ (updating Product p f s)
  awaiting : ∀ poId productIds now s,
    Φ (updating Order (isAwaiting poId productIds) (·.complete now) s)
  keepsOrders : ∀ w, Φ w → ∀ s, (w.act s).purchaseOrders = s.purchaseOrders

/-- The rollup updates products. -/
theorem confined_recomputeSellableStock (hΦ : ReceiptWrites Φ) (productIds : List ProductId) :
    Γ.Confined i Φ (recomputeSellableStock productIds : Op M R Unit) := by
  refine confined_ite (fun _ => confined_pure ()) fun _ => ?_
  refine confined_bind (confined_bind (confined_findMany _ _) fun levels =>
    confined_bind (confined_findMany _ _) fun locations => confined_pure _) fun levels => ?_
  exact confined_forM fun productId _ => confined_update fun s => hΦ.products _ _ s

/-- An entry of a receipt updates its line and, away from the store, its level. -/
theorem confined_receiveEntry (hΦ : ReceiptWrites Φ) (locationId : LocationId)
    (stockFollowsStore : Bool) (now : Time) (progress : ReceiveProgress) (entry : ReceiveEntry) :
    Γ.Confined i Φ
      (receiveEntry locationId stockFollowsStore now progress entry : Op M R _) := by
  unfold receiveEntry
  cases progress.lines.find? fun l => l.id = entry.lineId with
  | none => exact confined_throw _
  | some line =>
      refine confined_bind (confined_update fun s => hΦ.line _ _ _ s) fun _ => ?_
      refine confined_ite (fun _ => confined_pure _) fun _ => ?_
      refine confined_bind (confined_upsert (fun s => hΦ.levels _ _ s) (hΦ.newLevel _)) fun _ => ?_
      exact confined_bind (confined_updateMany fun s => hΦ.levels _ _ s) fun _ => confined_pure _

/-- The end of a receipt completes queue rows. -/
theorem confined_completeAwaiting (hΦ : ReceiptWrites Φ) (poId : PoId)
    (productIds : List ProductId) (now : Time) :
    Γ.Confined i Φ (completeAwaiting poId productIds now : Op M R Unit) :=
  confined_ite (fun _ => confined_bind (confined_updateMany fun s => hΦ.awaiting _ _ _ s)
    fun _ => confined_pure ()) fun _ => confined_pure ()

section Call

variable {poId : PoId} {entries : List ReceiveEntry} {locationId : LocationId} {now : Time}
  {ok : ReceivePoResult → OpProgram M R} {err : Failure → OpProgram M R}

/-- The end of a receipt is safe over the writes so far when its commit is. The order is
stored at the commit, where its row is locked. -/
private theorem safeOver_settleReceipt (hΦ : ReceiptWrites Φ)
    (hok : ∀ r, Γ.SafeAnyway i (ok r)) (herr : ∀ e, Γ.SafeAnyway i (err e))
    (hcommit : ∀ seen ws t po allFull r, (∀ w ∈ ws, Φ w) → Γ.Inv t →
      t.purchaseOrders.find poId = some po →
      (sees ws t).purchaseOrders = t.purchaseOrders →
      (∃ vs, vs ≠ [] ∧ Γ.ok i seen vs t) →
      let t' := (sees ws t).mapOrder poId (·.setReceipt allFull now)
      Γ.Inv t' ∧ Γ.Guar t t' ∧ Γ.AtCommit i seen t t' (ok r))
    (progress : ReceiveProgress) (stockFollowsStore : Bool) :
    Γ.SafeOver i Φ (settleReceipt poId progress stockFollowsStore now (fun r => .commit (ok r))
      fun e => .rollback (err e)) := by
  unfold settleReceipt
  refine (confined_completeAwaiting hΦ poId _ now).safeOver (fun _ => ?_)
    fun e seen _ db _ => herr e seen db
  intro seen ws db hws
  refine safe_update (fun s _ _ _ => herr _ _ _) fun s po _ _ hpo t hinv hrely hallowed => ?_
  -- nothing a receipt writes before this touches an order
  have hkeeps : ∀ u : Db, (sees ws u).purchaseOrders = u.purchaseOrders := fun u =>
    (rel_sees (P := fun a b : Db => b.purchaseOrders = a.purchaseOrders) (fun _ => rfl)
      (fun hab hbc => hbc.trans hab) (fun w hw => hΦ.keepsOrders w (hws w hw)) u)
  rw [get_purchaseOrders, hkeeps] at hpo
  have hseen : (Stored.get (sees ws s) : Table PurchaseOrder).find poId = some po := by
    rw [get_purchaseOrders, hkeeps, hpo]
  have hid : po.id = poId := (Table.find_eq_some.mp hpo).2
  have hlocked : RowKey.purchaseOrder poId ∈ locked (ws ++ [updating PurchaseOrder
      (fun p => Keyed.key p = poId)
      (·.setReceipt (progress.lines.all fun l => l.quantity ≤ l.receivedQty) now)
      (sees ws s)]) := by
    rw [locked_append, List.mem_append, locked_cons, List.mem_append]
    exact Or.inr (Or.inl (mem_keys_updating (fun r hr => by simpa using hr) hseen
      (by simpa using hid) _))
  have hsame : s.purchaseOrders.find poId = t.purchaseOrders.find poId := hrely.same hlocked
  have heffect : ∀ f, sees (ws ++ [updating PurchaseOrder (fun p => Keyed.key p = poId) f
      (sees ws s)]) t = (sees ws t).mapOrder poId f := by
    intro f
    rw [sees_append, sees_cons, sees_nil, updating_act_of_match (fun r hr => by simpa using hr)
      hseen (by simpa using hid)]
    rfl
  rw [heffect]
  obtain ⟨hinv', hguar, hat⟩ := hcommit _ ws t po _ _ hws hinv (by rw [← hsame, hpo])
    (hkeeps t) ⟨_, by simp, hallowed⟩
  exact ⟨hinv', hguar, hat, hok _ _ _⟩

/-- A receipt is safe when its commit is. -/
theorem safe_receivePoLines (hΓ : Γ.Reflexive) (hΦ : ReceiptWrites Φ) {seen : List Db} {db : Db}
    (hok : ∀ r, Γ.SafeAnyway i (ok r)) (herr : ∀ e, Γ.SafeAnyway i (err e))
    (hcommit : ∀ seen ws t po allFull r, (∀ w ∈ ws, Φ w) → Γ.Inv t →
      t.purchaseOrders.find poId = some po →
      (sees ws t).purchaseOrders = t.purchaseOrders →
      (∃ vs, vs ≠ [] ∧ Γ.ok i seen vs t) →
      let t' := (sees ws t).mapOrder poId (·.setReceipt allFull now)
      Γ.Inv t' ∧ Γ.Guar t t' ∧ Γ.AtCommit i seen t t' (ok r)) :
    Γ.Safe i (receivePoLines poId entries locationId now ok err) seen [] db := by
  have hreject : ∀ r seen ws db, (∀ w ∈ ws, False) →
      Γ.Safe i (.commit (ok (.refused r))) seen ws db := by
    intro r seen ws db hws
    obtain rfl : ws = [] := List.eq_nil_iff_forall_not_mem.mpr fun w hw => hws w hw
    exact safe_commit_of_same hΓ (fun _ => rfl) (hok _)
  unfold receivePoLines
  by_cases hempty : positiveEntries entries = []
  · simp only [if_pos hempty, Session.pure_apply]
    exact hok _ _ _
  simp only [if_neg hempty, Session.bind_apply, Session.transaction_apply,
    Session.advisoryLock_apply]
  unfold findPurchaseOrder
  simp only [Session.bind_apply]
  refine safe_lock (safe_query fun s _ _ => ?_)
  simp only [sees_nil, get_purchaseOrders]
  cases hfind : s.purchaseOrders.rows.find? fun po => po.id = poId ∧ po.deletedAt = none with
  | none => exact hreject .notFound _ _ _ (by simp)
  | some po =>
  obtain ⟨hstored, -⟩ := Db.find?_order_eq_some.mp hfind
  obtain rfl : po.id = poId := (Table.find_eq_some.mp hstored).2
  -- up to the loop the receipt only reads
  refine (confined_findMany PurchaseOrderLine _).safeOver (Φ := fun _ => False)
    (fun poLines => ?_) (fun e seen _ db _ => herr e seen db) _ [] _ (by simp)
  simp only [Session.pure_apply]
  by_cases hgate : po.status ≠ .sent ∧ po.status ≠ .partiallyReceived
  · simp only [if_pos hgate]
    exact hreject .notReceivable
  simp only [if_neg hgate, Session.bind_apply]
  refine (confined_findFirst Location _).safeOver (fun place => ?_)
    fun e seen _ db _ => herr e seen db
  obtain _ | location := place
  · exact hreject .badLocation
  simp only
  cases (positiveEntries entries).findSome?
      (receiveProblem (poLines.map PurchaseOrderLine.load)) with
  | some reason => exact hreject reason
  | none =>
  simp only [Session.bind_apply]
  intro seen ws db hws
  refine (confined_foldlM _ fun progress entry _ =>
    confined_receiveEntry hΦ _ _ now progress entry).safeOver (fun progress => ?_)
    (fun e seen _ db _ => herr e seen db) seen ws db fun w hw => (hws w hw).elim
  refine (confined_recomputeSellableStock hΦ _).safeOver (fun _ => ?_)
    fun e seen _ db _ => herr e seen db
  exact safeOver_settleReceipt hΦ hok herr hcommit progress _

end Call

end Restock
