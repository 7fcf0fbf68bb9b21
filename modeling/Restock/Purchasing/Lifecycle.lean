import Restock.Purchasing.ReceiveConfined
import Restock.Purchasing.Send

/-!
# The life of one order

Cancellations, receipts and sends of one purchase order, in any number and interleaved in
any way at READ COMMITTED. A cancellation reads the status once and writes later without
taking the receipts' lock, so a receipt can commit in between, and the other way round.

* `LifecycleCall` — a call, and its program;
* `Timely` — the commits that come in time: a cancellation commits over an order without
  receipts and a receipt over an order that is not cancelled;
* `cancelled_is_final_of_timely` — in runs of such commits a cancelled order has no receipts
  and stays cancelled;
* `cancelled_over_receipt` — a run that leaves an order cancelled with units received.
-/

namespace Restock

open Store

/-- Stock has been checked in on the order. -/
def PoStatus.HasReceipts (status : PoStatus) : Prop :=
  status = .partiallyReceived ∨ status = .received

instance (status : PoStatus) : Decidable status.HasReceipts :=
  inferInstanceAs (Decidable (_ ∨ _))

/-- The status after a receipt. -/
theorem PurchaseOrder.setReceipt_hasReceipts (po : PurchaseOrder) (allFull : Bool) (now : Time) :
    (po.setReceipt allFull now).status.HasReceipts := by
  cases allFull
  · exact Or.inl rfl
  · exact Or.inr rfl

/-- Units are booked only on orders that say so: without receipts in its status, an order
has no line with received units. -/
def Db.ReceiptsShown (db : Db) (poId : PoId) : Prop :=
  ∀ po, db.purchaseOrders.find poId = some po → ¬ po.status.HasReceipts →
    ∀ l ∈ db.linesOf poId, ¬ 0 < l.receivedQty

/-- A call on one order. -/
inductive LifecycleCall
  | cancel (actorName : Option String) (now : Time)
  | receive (entries : List ReceiveEntry) (locationId : LocationId) (now : Time)
  | send (mailConfigured : Bool) (now : Time)

/-- What a call answers. -/
inductive LifecycleAnswer
  | cancelled (result : CancelPoResult)
  | received (result : ReceivePoResult)
  | sent (result : SendPoResult)

/-- The program of a call. -/
def LifecycleCall.program (poId : PoId) : LifecycleCall → OpProgram PoEmail LifecycleAnswer
  | .cancel actorName now => Session.program do
      return .cancelled (← cancelPo poId actorName now)
  | .receive entries locationId now => Session.program do
      return .received (← receivePoLines poId entries locationId now)
  | .send mailConfigured now => Session.program do
      return .sent (← sendPoToSupplier mailConfigured poId now)

/-- The call is a receipt. -/
def LifecycleCall.IsReceive : LifecycleCall → Prop
  | .receive .. => True
  | _ => False

/-- The call may write an order that has this status when it commits: a cancellation one
without receipts, a receipt one that is not cancelled. -/
def LifecycleCall.InTime : LifecycleCall → PoStatus → Prop
  | .cancel .., status => ¬ status.HasReceipts
  | .receive .., status => status ≠ .cancelled
  | .send .., _ => True

instance (call : LifecycleCall) (status : PoStatus) : Decidable (call.InTime status) :=
  match call with
  | .cancel .. => inferInstanceAs (Decidable (¬ _))
  | .receive .. => inferInstanceAs (Decidable (_ ≠ _))
  | .send .. => inferInstanceAs (Decidable True)

section Runs

variable {ι : Type} (calls : ι → LifecycleCall) (poId : PoId)

/-- The commits that come in time. A commit without writes always does. -/
def Timely : CommitCondition Db RowKey ι := fun i _ ws db =>
  ws ≠ [] → ∀ po ∈ db.purchaseOrders.find poId, (calls i).InTime po.status

instance (i : ι) (seen : List Db) (ws : List (Write Db RowKey)) (db : Db) :
    Decidable (Timely calls poId i seen ws db) :=
  inferInstanceAs (Decidable (ws ≠ [] → ∀ po ∈ db.purchaseOrders.find poId, _))

/-- What the calls on an order keep to. -/
def lifecycleContract : Contract Db RowKey LockName PoEmail LifecycleAnswer ι where
  Inv db := db.ReceiptsShown poId
  Guar s t := ∀ po, s.purchaseOrders.find poId = some po →
    t.OrderIs poId fun status =>
      (po.status = .cancelled → status = .cancelled) ∧ (po.status.HasReceipts → status.HasReceipts)
  ok := Timely calls poId
  AtCommit i _ s t _ := (calls i).IsReceive → s ≠ t → t.OrderIs poId PoStatus.HasReceipts
  AtCall _ _ _ := True

variable {poId}

/-- Nothing is asked of a commit that changes nothing. -/
theorem lifecycleContract_reflexive (poId : PoId) : (lifecycleContract calls poId).Reflexive where
  guar _ po h := ⟨po, h, id, id⟩
  atCommit _ _ _ _ _ hne := absurd rfl hne

/-- A commit that leaves the order with receipts, or without them and with its lines as they
were, shows its receipts; and it keeps to the contract if the status does. -/
theorem receiptsShown_step {s t : Db} {po po' : PurchaseOrder} (h : s.ReceiptsShown poId)
    (hfind : s.purchaseOrders.find poId = some po)
    (hfind' : t.purchaseOrders.find poId = some po')
    (hlines : po'.status.HasReceipts ∨ ¬ po.status.HasReceipts ∧ t.lines = s.lines)
    (hcancelled : po.status = .cancelled → po'.status = .cancelled)
    (hreceipts : po.status.HasReceipts → po'.status.HasReceipts) :
    t.ReceiptsShown poId ∧ (lifecycleContract calls poId).Guar s t := by
  constructor
  · intro p hp hnone
    obtain rfl : po' = p := Option.some.inj (hfind'.symm.trans hp)
    rcases hlines with hreceived | ⟨hno, hsame⟩
    · exact absurd hreceived hnone
    · rw [Db.linesOf, hsame]
      exact h po hfind hno
  · intro p hp
    obtain rfl : po = p := Option.some.inj (hfind.symm.trans hp)
    exact ⟨po', hfind', hcancelled, hreceipts⟩

variable (poId)

/-- A cancellation that commits in time keeps to the contract. -/
theorem safe_cancel {i : ι} {actorName : Option String} {now : Time}
    (hcall : calls i = .cancel actorName now) (db : Db) :
    (lifecycleContract calls poId).Safe i ((calls i).program poId) [] [] db := by
  rw [hcall]
  refine safe_cancelPo (lifecycleContract_reflexive calls poId)
    (fun _ _ _ => trivial) (fun _ _ _ => trivial)
    fun seen s₀ s t po _ hfind hinv _ _ hallowed => ?_
  obtain ⟨ws, hne, hok⟩ := hallowed
  have hno : ¬ po.status.HasReceipts := by
    have := hok hne po hfind
    rwa [hcall] at this
  have hfind' : (t.cancelledFrom s poId actorName now).purchaseOrders.find poId
      = some (po.cancel now actorName) := Db.find_mapOrder hfind fun _ => rfl
  obtain ⟨hinv', hguar⟩ := receiptsShown_step calls hinv hfind hfind' (Or.inr ⟨hno, rfl⟩)
    (fun _ => rfl) fun h => absurd h hno
  refine ⟨hinv', hguar, fun hreceive => ?_⟩
  rw [hcall] at hreceive
  exact hreceive.elim

/-- A receipt that commits in time keeps to the contract, and leaves the order with
receipts. -/
theorem safe_receive {i : ι} {entries : List ReceiveEntry} {locationId : LocationId}
    {now : Time} (hcall : calls i = .receive entries locationId now) (db : Db) :
    (lifecycleContract calls poId).Safe i ((calls i).program poId) [] [] db := by
  rw [hcall]
  refine safe_receivePoLines (Φ := fun w => ∀ s, (w.act s).purchaseOrders = s.purchaseOrders)
    (lifecycleContract_reflexive calls poId) ?_ (fun _ _ _ => trivial) (fun _ _ _ => trivial)
    fun seen ws t po allFull r hws hinv hfind hkeeps hallowed => ?_
  · exact ⟨fun _ _ _ _ _ => rfl, fun _ _ _ _ => rfl, fun _ _ => rfl, fun _ _ _ _ => rfl,
      fun _ _ _ _ _ => rfl, fun _ h => h⟩
  obtain ⟨vs, hne, hok⟩ := hallowed
  have hlive : po.status ≠ .cancelled := by
    have := hok hne po hfind
    rwa [hcall] at this
  have hfind' : ((sees ws t).mapOrder poId (·.setReceipt allFull now)).purchaseOrders.find poId
      = some (po.setReceipt allFull now) :=
    Db.find_mapOrder (by rw [hkeeps, hfind]) fun p => by
      unfold PurchaseOrder.setReceipt; split <;> rfl
  have hreceipts := po.setReceipt_hasReceipts allFull now
  obtain ⟨hinv', hguar⟩ := receiptsShown_step calls hinv hfind hfind' (Or.inl hreceipts)
    (fun h => absurd h hlive) fun _ => hreceipts
  exact ⟨hinv', hguar, fun _ _ => ⟨_, hfind', hreceipts⟩⟩

/-- A send keeps to the contract: its guarded updates only move an order between draft and
sent. -/
theorem safe_send {i : ι} {mailConfigured : Bool} {now : Time}
    (hcall : calls i = .send mailConfigured now) (db : Db) :
    (lifecycleContract calls poId).Safe i ((calls i).program poId) [] [] db := by
  have hat : ∀ seen s t next, (lifecycleContract calls poId).AtCommit i seen s t next := by
    intro seen s t next hreceive
    rw [hcall] at hreceive
    exact hreceive.elim
  have hmove : ∀ t po f, (∀ p : PurchaseOrder, (f p).id = p.id) → t.ReceiptsShown poId →
      t.purchaseOrders.find poId = some po → (po.status = .draft ∨ po.status = .sent) →
      (t.mapOrder poId f).ReceiptsShown poId ∧
        (lifecycleContract calls poId).Guar t (t.mapOrder poId f) := by
    intro t po f hf hinv hfind hstatus
    have hno : ¬ po.status.HasReceipts := by
      rintro (h | h) <;> simp [h] at hstatus
    refine receiptsShown_step calls hinv hfind (Db.find_mapOrder hfind hf) (Or.inr ⟨hno, rfl⟩)
      (fun h => ?_)
      fun h => absurd h hno
    simp [h] at hstatus
  rw [hcall]
  refine safe_sendPoToSupplier (lifecycleContract_reflexive calls poId) ⟨?_, ?_, fun _ _ => trivial⟩
    (fun _ _ _ => trivial) (fun _ _ _ => trivial) ?_
  · intro seen s t next eta hinv
    exact ⟨hinv, fun po h => ⟨po, h, id, id⟩, hat _ _ _ _⟩
  · intro seen t po next hinv hfind hsent
    obtain ⟨hinv', hguar⟩ := hmove t po PurchaseOrder.unclaim (fun _ => rfl) hinv hfind
      (Or.inr hsent)
    exact ⟨hinv', hguar, hat _ _ _ _⟩
  · intro s₀ s₁ s₂ s₃ s t po row supplier shopName recipient expectedAt k hinv _ hfind hdraft
      _ _
    obtain ⟨hinv', hguar⟩ := hmove t row (·.claim now expectedAt) (fun _ => rfl) hinv hfind
      (Or.inl hdraft)
    exact ⟨hinv', hguar, hat _ _ _ _⟩

/-- Every call keeps to the contract. -/
theorem safe_lifecycle (i : ι) (db : Db) :
    (lifecycleContract calls poId).Safe i ((calls i).program poId) [] [] db := by
  cases hcall : calls i with
  | cancel actorName now => exact hcall ▸ safe_cancel calls poId hcall db
  | receive entries locationId now => exact hcall ▸ safe_receive calls poId hcall db
  | send mailConfigured now => exact hcall ▸ safe_send calls poId hcall db

variable [DecidableEq ι]

/-- What a run by the calls owes from the configuration `σ` on: a cancelled order has no
units received, an order on which a receipt has committed is never cancelled, and a
cancelled order stays cancelled. -/
structure CancelledIsFinal (ok : CommitCondition Db RowKey ι)
    (σ : Config Db RowKey LockName PoEmail LifecycleAnswer ι) : Prop where
  unreceived : σ.db.OrderIs poId (· = .cancelled) →
    ∀ l ∈ σ.db.linesOf poId, ¬ 0 < l.receivedQty
  afterReceipt : ∀ i τ, Step i σ τ → CommitOk ok i σ → (calls i).IsReceive → τ.db ≠ σ.db →
    ∀ ρ, RunWhere ok τ ρ → ¬ ρ.db.OrderIs poId (· = .cancelled)
  final : σ.db.OrderIs poId (· = .cancelled) →
    ∀ τ, RunWhere ok σ τ → τ.db.OrderIs poId (· = .cancelled)

/-- When every commit comes in time, cancelled is final: in every state that is reached, a
cancelled order has no receipts and stays cancelled. -/
theorem cancelledIsFinal_of_timely {db : Db} (hstart : db.ReceiptsShown poId)
    {σ : Config Db RowKey LockName PoEmail LifecycleAnswer ι}
    (hrun : RunWhere (Timely calls poId)
      (Config.initial db fun i => (calls i).program poId) σ) :
    CancelledIsFinal calls poId (Timely calls poId) σ := by
  have hgood : (lifecycleContract calls poId).Good σ :=
    Contract.good_run
      (Contract.good_initial hstart fun i => safe_lifecycle calls poId i db) hrun
  refine ⟨fun ⟨po, hfind, hcancelled⟩ => ?_, fun i τ hstep hok hreceive hne ρ hρ => ?_,
    fun hcancelled τ hτ => ?_⟩
  · refine hgood.inv po hfind ?_
    rintro (h | h) <;> simp [h] at hcancelled
  · have hcommit : τ.db.OrderIs poId PoStatus.HasReceipts := by
      rcases hgood.step_db hstep hok with hsame | ⟨-, hat⟩
      · exact absurd hsame hne
      · exact hat hreceive (Ne.symm hne)
    -- receipts stay on the books from here on, and an order has one status
    have hlater : ρ.db.OrderIs poId PoStatus.HasReceipts :=
      (Contract.good_step hgood hstep hok).run_db hρ
        (P := fun s t => s.OrderIs poId PoStatus.HasReceipts → t.OrderIs poId PoStatus.HasReceipts)
        (fun _ h => h) (fun hst htu h => htu (hst h))
        (fun s t hguar ⟨po, hfind, h⟩ => by
          obtain ⟨po', hfind', -, hkeep⟩ := hguar po hfind
          exact ⟨po', hfind', hkeep h⟩) hcommit
    rintro ⟨po, hfind, hcancelled⟩
    obtain ⟨po', hfind', hreceipts⟩ := hlater
    obtain rfl : po = po' := Option.some.inj (hfind.symm.trans hfind')
    rcases hreceipts with h | h <;> simp [h] at hcancelled
  · refine hgood.run_db hτ
      (P := fun s t => s.OrderIs poId (· = .cancelled) → t.OrderIs poId (· = .cancelled))
      (fun _ h => h) (fun hst htu h => htu (hst h)) (fun s t hguar ⟨po, hfind, h⟩ => ?_) hcancelled
    obtain ⟨po', hfind', hkeep, -⟩ := hguar po hfind
    exact ⟨po', hfind', hkeep h⟩

end Runs

/-! ## A cancellation and a receipt at the same time -/

/-- A sent order of five units of one product, none of them received. -/
def awaitedOrder : Db where
  products := .single { id := 1 }
  purchaseOrders := .single { id := 1, status := .sent }
  lines := .single { id := 1, purchaseOrderId := 1, productId := 1, quantity := 5 }
  locations := .single { id := 1, shopifyLocationId := some "gid" }

/-- One client cancels the order and another receives it in full. -/
def cancelAndReceive : Bool → LifecycleCall
  | false => .cancel none 0
  | true => .receive [⟨1, 5⟩] 1 0

/-- The cancellation reads the order before the receipt runs and writes it afterwards. -/
private def cancelAroundReceipt : List (Bool × Bool) :=
  (false, true) :: List.replicate 8 (true, true) ++ List.replicate 3 (false, true)

/-- The order starts without receipts. -/
theorem awaitedOrder_receiptsShown : awaitedOrder.ReceiptsShown 1 := by
  intro po _ _ l hl
  revert l
  decide

/-- An order is cancelled over the receipt of all its units. -/
theorem cancelled_over_receipt :
    ¬ ∀ (calls : Bool → LifecycleCall) (poId : PoId) (db : Db), db.ReceiptsShown poId →
      ∀ σ, Run (Config.initial db fun i => (calls i).program poId) σ →
        CancelledIsFinal calls poId (fun _ _ _ _ => True) σ := by
  intro hall
  obtain ⟨σ, hrun, ⟨po, hpo, hcancelled⟩, l, hl, hreceived⟩ :=
    exists_run_of_schedule [false, true] (fun _ _ _ _ => True) cancelAroundReceipt
      (Config.initial awaitedOrder fun i => (cancelAndReceive i).program 1)
      (fun σ => (∃ po ∈ σ.db.purchaseOrders.find 1, po.status = .cancelled) ∧
        ∃ l ∈ σ.db.linesOf 1, 0 < l.receivedQty) (by decide) (by decide +kernel)
  exact (hall cancelAndReceive 1 awaitedOrder awaitedOrder_receiptsShown σ hrun).unreceived
    ⟨po, hpo, hcancelled⟩ l hl hreceived

/-- When the receipt commits first, the cancellation comes in time and is refused. -/
theorem receipt_before_cancellation :
    ∃ σ, RunWhere (Timely cancelAndReceive 1)
        (Config.initial awaitedOrder fun i => (cancelAndReceive i).program 1) σ ∧
      σ.db ≠ awaitedOrder ∧ CancelledIsFinal cancelAndReceive 1 (Timely cancelAndReceive 1) σ := by
  obtain ⟨σ, hrun, hne⟩ :=
    exists_run_of_schedule [false, true] (Timely cancelAndReceive 1)
      (List.replicate 8 (true, true) ++ List.replicate 2 (false, true))
      (Config.initial awaitedOrder fun i => (cancelAndReceive i).program 1)
      (fun σ => σ.db ≠ awaitedOrder) (by decide) (by decide +kernel)
  exact ⟨σ, hrun, hne,
    cancelledIsFinal_of_timely cancelAndReceive 1 awaitedOrder_receiptsShown hrun⟩

end Restock
