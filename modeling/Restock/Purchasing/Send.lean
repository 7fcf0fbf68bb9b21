import Mathlib.Data.List.Sort
import Mathlib.Data.String.Basic
import Restock.Purchasing.Cancel

/-!
# Sending a purchase order

`apps/web/lib/po/send-po.ts` and the document of `apps/web/lib/po/po-model.ts`: the order is
read, shaped into a document, claimed by a guarded update and emailed; a failed email hands
the claim back. No transaction spans these steps: every statement commits on its own. The
audit event is left out and the clock is read once. The email's subject, texts and
attachment are renderings of the document, so a message carries the document itself.

* `buildPoDocument` — the document the renderings consume;
* `sendPoToSupplier` — the code;
* `safe_sendPoToSupplier` — what has to be checked of it under a contract: the claim, the
  revert and the ETA, each a commit of its own.
-/

namespace Restock

open Store

variable {M R : Type}

/-- `PoDocumentLine`. -/
structure PoDocumentLine where
  sku : String
  title : String
  quantity : ℤ
  unitCostKes : Option ℚ
  lineTotalKes : Option ℚ
  deriving DecidableEq, Repr

/-- `PoDocumentData`. -/
structure PoDocumentData where
  poNumber : String
  status : PoStatus
  createdAt : Time
  sentAt : Option Time
  expectedAt : Option Time
  currency : String
  shop : String
  supplier : Option Supplier
  lines : List PoDocumentLine
  subtotalKes : Option ℚ
  totalUnits : ℤ
  createdByName : Option String
  deriving DecidableEq, Repr

/-- The line of a document. -/
def documentLine (canViewCosts : Bool) (l : PurchaseOrderLine) : PoDocumentLine where
  sku := l.sku
  title := l.title
  quantity := l.quantity
  unitCostKes := if canViewCosts then some l.unitCostKes else none
  lineTotalKes := if canViewCosts then some l.lineTotalKes else none

/-- Shape an order into its document. -/
def buildPoDocument (po : PurchaseOrder) (supplier : Option Supplier)
    (lines : List PurchaseOrderLine) (shopName : String) (canViewCosts : Bool) :
    PoDocumentData where
  poNumber := po.poNumber
  status := po.status
  createdAt := po.createdAt
  sentAt := po.sentAt
  expectedAt := po.expectedAt
  currency := po.currency
  shop := shopName
  supplier := supplier
  lines := lines.map (documentLine canViewCosts)
  subtotalKes := if canViewCosts then some po.subtotalKes else none
  totalUnits := (lines.map PurchaseOrderLine.quantity).sum
  createdByName := po.createdByName

/-- `orderBy: { title: "asc" }`. -/
def orderByTitle (lines : List PurchaseOrderLine) : List PurchaseOrderLine :=
  lines.insertionSort fun a b => a.title ≤ b.title

/-- An email to a supplier: whom it goes to and the order it renders. -/
structure PoEmail where
  recipient : String
  purchaseOrderId : PoId
  document : PoDocumentData
  deriving DecidableEq, Repr

/-- Why an order was not sent. -/
inductive SendRefusal
  | notFound
  | notSendable
  | noSupplierEmail
  deriving DecidableEq, Repr

/-- `SendPoResult`. -/
inductive SendPoResult
  | ok (expectedAt : Option Time) (emailed : Bool)
  | refused (reason : SendRefusal)
  deriving DecidableEq, Repr

/-- `DAY_MS`. -/
def dayMs : ℤ := 86400000

/-- The ETA of an order sent at some time: only when a lead time is known. -/
def expectedArrival (supplier : Supplier) (sentAt : Time) : Option Time :=
  supplier.leadTimeAvgDays.map fun lead => sentAt + lead * dayMs

/-- A draft claimed by a send. -/
def PurchaseOrder.claim (sentAt : Time) (expectedAt : Option Time) (po : PurchaseOrder) :
    PurchaseOrder :=
  { po with status := .sent, sentAt := some sentAt, expectedAt }

/-- A claim handed back. -/
def PurchaseOrder.unclaim (po : PurchaseOrder) : PurchaseOrder :=
  { po with status := .draft, sentAt := none, expectedAt := none }

/-- A queue row that inherits the ETA of its order. -/
def Order.setEta (expectedAt : Time) (o : Order) : Order :=
  { o with expectedArrivalAt := some expectedAt }

/-- The order under an id is still a draft that can be claimed. -/
def isClaimable (poId : PoId) (po : PurchaseOrder) : Bool :=
  po.id = poId ∧ po.status = .draft ∧ po.deletedAt = none

/-- The order under an id is sent. -/
def isSent (poId : PoId) (po : PurchaseOrder) : Bool :=
  po.id = poId ∧ po.status = .sent

/-- What follows the claim: the email, and the ETA of the queue rows or the revert.
`mailConfigured` says whether a message that goes through really leaves the building. -/
def emailClaimed (mailConfigured : Bool) (email : PoEmail) (expectedAt : Option Time) :
    Op PoEmail R SendPoResult := do
  unless ← Session.request email do
    -- Hand the claim back so the owner can retry.
    let _ ← Session.transaction
      (Session.updateMany PurchaseOrder (isSent email.purchaseOrderId) PurchaseOrder.unclaim)
    throw .emailFailed
  if let some eta := expectedAt then
    let _ ← Session.transaction
      (Session.updateMany Order (isOutstanding email.purchaseOrderId) (·.setEta eta))
  return .ok expectedAt mailConfigured

/-- Email a draft to its supplier and mark it sent. -/
def sendPoToSupplier (mailConfigured : Bool) (poId : PoId) (sentAt : Time) :
    Op PoEmail R SendPoResult := do
  let some po ← Session.findFirst PurchaseOrder fun po => po.id = poId ∧ po.deletedAt = none
    | return .refused .notFound
  let supplier? ← Session.query fun db : Db => po.supplierId.bind db.suppliers.find
  let lines ← Session.findMany PurchaseOrderLine fun l => l.purchaseOrderId = po.id
  let some tenant ← Session.query Db.tenant
    | return .refused .notFound
  if po.status ≠ .draft then
    return .refused .notSendable
  let some supplier := supplier?
    | return .refused .noSupplierEmail
  let recipient := supplier.email.getD ""
  if recipient = "" then
    return .refused .noSupplierEmail
  let expectedAt := expectedArrival supplier sentAt
  let document := buildPoDocument { po with sentAt := some sentAt, expectedAt } supplier
    (orderByTitle lines) tenant.name true
  -- The status guard makes the claim the race: one caller finds the row still in draft.
  let claim ← Session.transaction
    (Session.updateMany PurchaseOrder (isClaimable po.id) (·.claim sentAt expectedAt))
  if claim = 0 then
    return .refused .notSendable
  emailClaimed mailConfigured { recipient, purchaseOrderId := po.id, document } expectedAt

section Safe

variable {ι : Type} {Γ : Contract Db RowKey LockName PoEmail R ι} {i : ι} {poId : PoId}
  {mailConfigured : Bool} {sentAt : Time}

/-- The commits a send makes after its claim keep the contract. -/
structure SendCommits (Γ : Contract Db RowKey LockName PoEmail R ι) (i : ι) (poId : PoId) :
    Prop where
  eta : ∀ seen s t next eta, Γ.Inv t →
    let t' := (updating Order (isOutstanding poId) (·.setEta eta) s).act t
    Γ.Inv t' ∧ Γ.Guar t t' ∧ Γ.AtCommit i seen t t' next
  revert : ∀ seen t po next, Γ.Inv t → t.purchaseOrders.find poId = some po → po.status = .sent →
    let t' := t.mapOrder poId PurchaseOrder.unclaim
    Γ.Inv t' ∧ Γ.Guar t t' ∧ Γ.AtCommit i seen t t' next
  call : ∀ email t, Γ.AtCall i email t

/-- What follows the claim is safe. -/
theorem safeAnyway_emailClaimed (hΓ : Γ.Reflexive) (hsend : SendCommits Γ i poId)
    {ok : SendPoResult → OpProgram PoEmail R} {err : Failure → OpProgram PoEmail R}
    (hok : ∀ r, Γ.SafeAnyway i (ok r)) (herr : ∀ e, Γ.SafeAnyway i (err e)) {email : PoEmail}
    (hemail : email.purchaseOrderId = poId) (expectedAt : Option Time) :
    Γ.SafeAnyway i (emailClaimed mailConfigured email expectedAt ok err) := by
  intro seen db
  subst hemail
  unfold emailClaimed
  simp only [Session.bind_apply, Session.request_apply]
  refine ⟨fun t _ _ => hsend.call email t, fun answer => ?_⟩
  cases answer with
  | false =>
      simp only [Bool.false_eq_true, if_false, Session.bind_apply, Session.throw_apply]
      refine Contract.safe_autocommit hΓ (k := email.purchaseOrderId) (fun po hpo => ?_)
        ?_ fun s t po n hinv hfind hpo _ _ _ => ?_
      · exact (of_decide_eq_true hpo).1
      · exact herr _
      · obtain ⟨hinv', hguar, hat⟩ := hsend.revert (seen ++ [s]) t po (err .emailFailed) hinv hfind
          (of_decide_eq_true hpo).2
        exact ⟨hinv', hguar, hat, herr _ _ _⟩
  | true =>
      cases expectedAt with
      | none => exact hok _ _ _
      | some eta =>
          simp only [if_true, Session.bind_apply, Session.pure_apply]
          refine Contract.safe_autocommit_many fun s t n hinv _ => ?_
          obtain ⟨hinv', hguar, hat⟩ := hsend.eta (seen ++ [s]) s t
            (ok (.ok (some eta) mailConfigured)) eta hinv
          exact ⟨hinv', hguar, hat, hok _ _ _⟩

/-- A send is safe when its claim is and the commits after it keep the contract. The
document was shaped from the order, its supplier and its lines as three statements and one
for the tenant found them. -/
theorem safe_sendPoToSupplier (hΓ : Γ.Reflexive) (hsend : SendCommits Γ i poId)
    {ok : SendPoResult → OpProgram PoEmail R} {err : Failure → OpProgram PoEmail R}
    {seen : List Db} {db : Db}
    (hok : ∀ r, Γ.SafeAnyway i (ok r)) (herr : ∀ e, Γ.SafeAnyway i (err e))
    (hclaim : ∀ s₀ s₁ s₂ s₃ s t po row supplier shopName recipient expectedAt k, Γ.Inv t →
      s₀.purchaseOrders.find poId = some po → t.purchaseOrders.find poId = some row →
      row.status = .draft →
      let seen' := seen ++ [s₀] ++ [s₁] ++ [s₂] ++ [s₃] ++ [s]
      (∃ ws, RowKey.purchaseOrder poId ∈ locked ws ∧ Γ.ok i seen' ws t) →
      let document := buildPoDocument { po with sentAt := some sentAt, expectedAt } supplier
        (orderByTitle (s₂.linesOf poId)) shopName true
      let t' := t.mapOrder poId (·.claim sentAt expectedAt)
      Γ.Inv t' ∧ Γ.Guar t t' ∧
        Γ.AtCommit i seen' t t' (.call { recipient, purchaseOrderId := poId, document } k)) :
    Γ.Safe i (sendPoToSupplier mailConfigured poId sentAt ok err) seen [] db := by
  unfold sendPoToSupplier
  simp only [Session.bind_apply]
  refine Contract.safe_query fun s₀ _ _ => ?_
  simp only [sees_nil, get_purchaseOrders]
  cases hfind : s₀.purchaseOrders.rows.find? fun po => po.id = poId ∧ po.deletedAt = none with
  | none => exact hok _ _ _
  | some po =>
  obtain ⟨hstored, -⟩ := Db.find?_order_eq_some.mp hfind
  obtain rfl : po.id = poId := (Table.find_eq_some.mp hstored).2
  simp only [Session.bind_apply]
  refine Contract.safe_query fun s₁ _ _ => Contract.safe_query fun s₂ _ _ => ?_
  simp only [sees_nil, get_lines]
  refine Contract.safe_query fun s₃ _ _ => ?_
  simp only [sees_nil]
  cases s₃.tenant with
  | none => exact hok _ _ _
  | some tenant =>
  by_cases hgate : po.status ≠ .draft
  · simp only [if_pos hgate]
    exact hok _ _ _
  simp only [if_neg hgate]
  cases po.supplierId.bind s₁.suppliers.find with
  | none => exact hok _ _ _
  | some supplier =>
  by_cases hemail : supplier.email.getD "" = ""
  · simp only [if_pos hemail]
    exact hok _ _ _
  simp only [if_neg hemail, Session.bind_apply]
  -- what was read may be stale, but the claim checks the status again in its own statement
  refine Contract.safe_autocommit hΓ (k := po.id) (fun row hrow => (of_decide_eq_true hrow).1)
    (hok _) fun s t row n hinv hfind hrow hn hlocked hallowed => ?_
  simp only [if_neg hn]
  obtain ⟨hinv', hguar, hat⟩ := hclaim s₀ s₁ s₂ s₃ s t po row (some supplier) tenant.name
    (supplier.email.getD "") (expectedArrival supplier sentAt) _ hinv hstored hfind
    (of_decide_eq_true hrow).2.1 ⟨_, hlocked, hallowed⟩
  exact ⟨hinv', hguar, hat, safeAnyway_emailClaimed hΓ hsend hok herr rfl _ _ _⟩

end Safe

end Restock
