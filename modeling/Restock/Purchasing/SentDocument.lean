import Restock.Purchasing.DraftEdits

/-!
# The document a supplier receives

Sends and edits of one draft, interleaved in any way. A send reads the order and its lines,
shapes the document and only then claims the draft; an edit is guarded by the status alone,
so it can commit in between, and the supplier receives an order that was never sent.

* `DocumentMatches` — a document shows the lines, quantities and subtotal an order has;
* `ClaimsFresh` — the claims of sends whose order still is as the document was shaped from;
* `BecomesSent`, `EmailsOrder` — a step makes the order sent, and the email that goes out then
  shows the order, as long as it stays sent;
* `emailsOrder_of_fresh` — the one implies the other in runs whose claims are fresh;
* `emailed_before_edit` — and fails in a run whose claim is not.
-/

namespace Restock

open Store

/-- The document shows the lines, quantities and subtotal of the stored order. -/
structure DocumentMatches (document : PoDocumentData) (db : Db) (poId : PoId) : Prop where
  lines : document.lines = (orderByTitle (db.linesOf poId)).map (documentLine true)
  totalUnits : document.totalUnits = ((db.linesOf poId).map PurchaseOrderLine.quantity).sum
  subtotal : ∃ po, db.purchaseOrders.find poId = some po ∧
    document.subtotalKes = some po.subtotalKes

/-- Ordering lines by title keeps their units. -/
theorem sum_quantity_orderByTitle (lines : List PurchaseOrderLine) :
    ((orderByTitle lines).map PurchaseOrderLine.quantity).sum
      = (lines.map PurchaseOrderLine.quantity).sum :=
  ((List.perm_insertionSort _ lines).map _).sum_eq

/-- A document shaped from the lines and the subtotal of an order shows it. -/
theorem documentMatches_build {db : Db} {poId : PoId} {row po : PurchaseOrder}
    (hrow : db.purchaseOrders.find poId = some row) (hsubtotal : po.subtotalKes = row.subtotalKes)
    (supplier : Option Supplier) (shopName : String) :
    DocumentMatches (buildPoDocument po supplier (orderByTitle (db.linesOf poId)) shopName true)
      db poId where
  lines := rfl
  totalUnits := sum_quantity_orderByTitle _
  subtotal := ⟨row, hrow, congrArg some hsubtotal⟩

/-- As long as the order is sent in both states, its lines and subtotal are the same. -/
def SameWhileSent (poId : PoId) (s t : Db) : Prop :=
  ∀ po po', s.purchaseOrders.find poId = some po → t.purchaseOrders.find poId = some po' →
    po.status = .sent → po'.status = .sent →
      t.linesOf poId = s.linesOf poId ∧ po'.subtotalKes = po.subtotalKes

theorem SameWhileSent.refl (poId : PoId) (s : Db) : SameWhileSent poId s s := by
  intro po po' hpo hpo' _ _
  obtain rfl : po = po' := Option.some.inj (hpo.symm.trans hpo')
  exact ⟨rfl, rfl⟩

/-- A document that shows a sent order still shows it while it stays sent. -/
theorem DocumentMatches.while_sent {document : PoDocumentData} {s t : Db} {poId : PoId}
    (h : DocumentMatches document s poId) (hsame : SameWhileSent poId s t)
    (hs : s.OrderIs poId (· = .sent)) (ht : t.OrderIs poId (· = .sent)) :
    DocumentMatches document t poId := by
  obtain ⟨po, hpo, hsent⟩ := hs
  obtain ⟨po', hpo', hsent'⟩ := ht
  obtain ⟨hlines, hsubtotal⟩ := hsame po po' hpo hpo' hsent hsent'
  obtain ⟨row, hrow, hshown⟩ := h.subtotal
  obtain rfl : po = row := Option.some.inj (hpo.symm.trans hrow)
  exact ⟨by rw [hlines]; exact h.lines, by rw [hlines]; exact h.totalUnits,
    po', hpo', by rw [hsubtotal]; exact hshown⟩

section Runs

variable {ι : Type} (calls : ι → DraftCall) (poId : PoId)

/-- The claims over an order whose subtotal is as the send read it in its first statement
and whose lines are as it read them in its third. -/
def ClaimsFresh : CommitCondition Db RowKey ι := fun i seen ws db =>
  (calls i).editedLine = none → RowKey.purchaseOrder poId ∈ locked ws →
    ∀ row ∈ db.purchaseOrders.find poId, row.status = .draft →
      (∀ s ∈ seen[0]?, ∀ po ∈ s.purchaseOrders.find poId, po.subtotalKes = row.subtotalKes) ∧
        ∀ s ∈ seen[2]?, s.linesOf poId = db.linesOf poId

instance (i : ι) (seen : List Db) (ws : List (Write Db RowKey)) (db : Db) :
    Decidable (ClaimsFresh calls poId i seen ws db) :=
  inferInstanceAs (Decidable (_ → RowKey.purchaseOrder poId ∈ locked ws →
    ∀ row ∈ db.purchaseOrders.find poId, row.status = .draft → _ ∧ ∀ s ∈ seen[2]?, _))

/-- What the calls on a draft keep to as far as its document goes. -/
def documentContract : Contract Db RowKey LockName PoEmail DraftAnswer ι where
  Inv _ := True
  Guar := SameWhileSent poId
  ok := ClaimsFresh calls poId
  AtCommit _ _ s t next := ¬ s.OrderIs poId (· = .sent) → t.OrderIs poId (· = .sent) →
    ∃ email k, next = .call email k ∧ email.purchaseOrderId = poId ∧
      DocumentMatches email.document t poId
  AtCall _ _ _ := True

theorem documentContract_reflexive : (documentContract calls poId).Reflexive where
  guar := SameWhileSent.refl poId
  atCommit _ _ _ _ h h' := absurd h' h

variable {calls poId}

/-- A commit between two states that are not both sent keeps to the contract. -/
private theorem sameWhileSent_of_not {s t : Db} {po : PurchaseOrder}
    (hfind : t.purchaseOrders.find poId = some po) (h : po.status ≠ .sent) :
    SameWhileSent poId s t ∧ ¬ t.OrderIs poId (· = .sent) := by
  constructor
  · intro _ po' _ hpo' _ hsent
    obtain rfl : po = po' := Option.some.inj (hfind.symm.trans hpo')
    exact absurd hsent h
  · rintro ⟨po', hpo', hsent⟩
    obtain rfl : po = po' := Option.some.inj (hfind.symm.trans hpo')
    exact h hsent

/-- The commit of an edit leaves a draft. -/
theorem editCommits_document {i : ι} {lineId : LineId}
    {check : List PurchaseOrderLine → Option EditRefusal}
    {effect : PurchaseOrderLine → Db → Db → Db}
    {next : List PurchaseOrderLine → List PurchaseOrderLine}
    (hkeeps : ∀ line s u, (effect line s u).purchaseOrders = u.purchaseOrders)
    {ok : EditPoLinesResult → OpProgram PoEmail DraftAnswer} :
    EditCommits (documentContract calls poId) i poId lineId check effect next [] ok := by
  intro s₀ s₁ more s t line po r _ _ _ _ _ _ hfind hdraft _ _
  have hfind' : ((effect line s t).mapOrder poId (·.setSubtotal
      (linesSubtotal (next (s₁.linesOf poId))))).purchaseOrders.find poId = some _ :=
    Db.find_mapOrder (by rw [hkeeps, hfind]) fun _ => rfl
  have hstatus : (po.setSubtotal (linesSubtotal (next (s₁.linesOf poId)))).status ≠ .sent := by
    show po.status ≠ .sent
    rw [hdraft]
    decide
  obtain ⟨hguar, hnot⟩ := sameWhileSent_of_not (s := t) hfind' hstatus
  exact ⟨trivial, hguar, fun _ hsent => absurd hsent hnot⟩

/-- Every call on a draft keeps to the contract. -/
theorem safe_document (calls : ι → DraftCall) (poId : PoId) (i : ι) (db : Db) :
    (documentContract calls poId).Safe i ((calls i).program poId) [] [] db := by
  have hΓ := documentContract_reflexive calls poId
  cases hcall : calls i with
  | setQuantity lineId quantity =>
      exact safe_setPoLineQuantity hΓ (fun _ _ _ => trivial) (fun _ _ _ => trivial)
        (editCommits_document fun _ _ _ => by rfl)
  | removeLine lineId =>
      exact safe_removePoLine hΓ (fun _ _ _ => trivial) (fun _ _ _ => trivial)
        (editCommits_document fun _ _ _ => by rfl)
  | send mailConfigured now =>
      refine safe_sendPoToSupplier hΓ ⟨?_, ?_, fun _ _ => trivial⟩ (fun _ _ _ => trivial)
        (fun _ _ _ => trivial) ?_
      · -- the ETA of queue rows does not touch the order
        intro seen s t next eta _
        exact ⟨trivial, SameWhileSent.refl poId t, fun h h' => absurd h' h⟩
      · intro seen t po next _ hfind _
        have hfind' := Db.find_mapOrder (f := PurchaseOrder.unclaim) hfind fun _ => rfl
        obtain ⟨hguar, hnot⟩ := sameWhileSent_of_not (s := t) hfind'
          (by show PoStatus.draft ≠ .sent; decide)
        exact ⟨trivial, hguar, fun _ hsent => absurd hsent hnot⟩
      · intro s₀ s₁ s₂ s₃ s t po row supplier shopName recipient expectedAt k _ hpo hrow hdraft
          seen' hallowed
        obtain ⟨ws, hlocked, hok⟩ := hallowed
        obtain ⟨hsubtotal, hlines⟩ := hok (by rw [hcall]; rfl) hlocked row hrow hdraft
        have hrow' := Db.find_mapOrder (f := (·.claim now expectedAt)) hrow fun _ => rfl
        refine ⟨trivial, fun p _ hp _ hsent _ => ?_, fun _ _ => ⟨_, k, rfl, rfl, ?_⟩⟩
        · obtain rfl : row = p := Option.some.inj (hrow.symm.trans hp)
          rw [hdraft] at hsent
          cases hsent
        · rw [hlines s₂ rfl]
          refine documentMatches_build hrow' ?_ supplier shopName
          exact hsubtotal s₀ rfl po hpo

variable [DecidableEq ι]

/-- The run goes on from `σ` to `τ` without the order being anything but sent. -/
abbrev StaysSent (poId : PoId) (ok : CommitCondition Db RowKey ι) :
    Config Db RowKey LockName PoEmail DraftAnswer ι →
      Config Db RowKey LockName PoEmail DraftAnswer ι → Prop :=
  Relation.ReflTransGen fun σ τ => StepWhere ok σ τ ∧ τ.db.OrderIs poId (· = .sent)

/-- In `τ`, client `i` is about to email the order, and the document in its email shows the
lines, quantities and subtotal the order has in `τ` and as long as it stays sent. -/
def EmailsOrder (poId : PoId) (ok : CommitCondition Db RowKey ι) (i : ι)
    (τ : Config Db RowKey LockName PoEmail DraftAnswer ι) : Prop :=
  ∃ email k, (τ.clients i).program = .call email k ∧ email.purchaseOrderId = poId ∧
    ∀ ρ, StaysSent poId ok τ ρ → DocumentMatches email.document ρ.db poId

/-- A step of client `i` from `σ` to `τ` makes the order sent. -/
structure BecomesSent (poId : PoId) (ok : CommitCondition Db RowKey ι) (i : ι)
    (σ τ : Config Db RowKey LockName PoEmail DraftAnswer ι) : Prop where
  step : Step i σ τ
  commit : CommitOk ok i σ
  before : ¬ σ.db.OrderIs poId (· = .sent)
  after : τ.db.OrderIs poId (· = .sent)

/-- From `τ` on, the send of client `i` can succeed. -/
def CanSucceed (poId : PoId) (ok : CommitCondition Db RowKey ι) (i : ι)
    (τ : Config Db RowKey LockName PoEmail DraftAnswer ι) : Prop :=
  ∃ ρ expectedAt emailed, StaysSent poId ok τ ρ ∧
    (ρ.clients i).program = .done (.sent (.ok expectedAt emailed))

/-- When every claim is fresh, the document the supplier receives is the order that was
sent: whichever client makes the order sent emails the order it has become. -/
theorem emailsOrder_of_fresh (calls : ι → DraftCall) (poId : PoId) (db : Db)
    {σ : Config Db RowKey LockName PoEmail DraftAnswer ι}
    (hrun : RunWhere (ClaimsFresh calls poId)
      (Config.initial db fun i => (calls i).program poId) σ)
    {i : ι} {τ : Config Db RowKey LockName PoEmail DraftAnswer ι}
    (hbecomes : BecomesSent poId (ClaimsFresh calls poId) i σ τ) :
    EmailsOrder poId (ClaimsFresh calls poId) i τ := by
  obtain ⟨hstep, hok, hnot, hsent⟩ := hbecomes
  have hgood : (documentContract calls poId).Good σ :=
    Contract.good_run
      (Contract.good_initial trivial fun i => safe_document calls poId i db) hrun
  rcases hgood.step_db hstep hok with hsame | ⟨-, hat⟩
  · rw [hsame] at hsent
    exact absurd hsent hnot
  obtain ⟨email, k, hprogram, hid, hmatches⟩ := hat hnot hsent
  refine ⟨email, k, hprogram, hid, fun ρ hρ => ?_⟩
  -- the document is carried along the stretch in which the order stays sent
  suffices h : (documentContract calls poId).Good ρ ∧ ρ.db.OrderIs poId (· = .sent) ∧
      DocumentMatches email.document ρ.db poId from h.2.2
  induction hρ with
  | refl => exact ⟨Contract.good_step hgood hstep hok, hsent, hmatches⟩
  | tail _ hnext ih =>
      obtain ⟨hgood', hsent', hmatches'⟩ := ih
      obtain ⟨⟨j, hstep', hok'⟩, hstill⟩ := hnext
      refine ⟨Contract.good_step hgood' hstep' hok', hstill, ?_⟩
      rcases hgood'.step_db hstep' hok' with hsame | ⟨hguar, -⟩
      · rw [hsame]
        exact hmatches'
      · exact hmatches'.while_sent hguar hsent' hstill

end Runs

/-! ## A send and an edit at the same time -/

/-- A workspace with a draft of five units to a supplier that has an email. -/
def sendableDraft : Db where
  tenant := some { name := "Shop", currency := "KES", poNumberFloor := 0 }
  suppliers := ⟨[{ id := 1, name := "Supplier", email := some "supplier@example.com" }],
    by decide⟩
  purchaseOrders := ⟨[{ id := 1, supplierId := some 1, subtotalKes := 5 }], by decide⟩
  lines := ⟨[
    { id := 1, purchaseOrderId := 1, productId := 1, quantity := 5, unitCostKes := 1,
      lineTotalKes := 5 }], by decide⟩

/-- One client sends the draft and another sets its line to seven units. -/
def sendAndEdit : Bool → DraftCall
  | false => .send true 0
  | true => .setQuantity 1 7

/-- The email a client sends out after its next commit, when it returns successfully once the
email went through. -/
def committingEmail : OpProgram PoEmail DraftAnswer → Option PoEmail
  | .commit (.call email k) =>
      match k true with
      | .done (.sent (.ok ..)) => some email
      | _ => none
  | _ => none

/-- What `committingEmail` says about a client. -/
theorem committingEmail_eq_some {p : OpProgram PoEmail DraftAnswer} {email : PoEmail}
    (h : committingEmail p = some email) :
    ∃ k expectedAt emailed, p = .commit (.call email k) ∧
      k true = .done (.sent (.ok expectedAt emailed)) := by
  unfold committingEmail at h
  split at h
  case h_1 email' k =>
      split at h
      case h_1 expectedAt emailed hk =>
          cases h
          exact ⟨k, expectedAt, emailed, rfl, hk⟩
      case h_2 => cases h
  case h_2 => cases h

/-- A client that is emailing an order it has made sent can succeed: the email goes through
and it returns. -/
theorem canSucceed_of_call {ok : CommitCondition Db RowKey Bool} {i : Bool} {poId : PoId}
    {τ : Config Db RowKey LockName PoEmail DraftAnswer Bool} {email : PoEmail}
    {k : Bool → OpProgram PoEmail DraftAnswer} {expectedAt : Option Time} {emailed : Bool}
    (hcalling : (τ.clients i).program = .call email k)
    (hanswered : k true = .done (.sent (.ok expectedAt emailed)))
    (hsent : τ.db.OrderIs poId (· = .sent)) : CanSucceed poId ok i τ := by
  refine ⟨_, expectedAt, emailed, .single ⟨⟨i, .call true hcalling, fun next hnext => ?_⟩, hsent⟩,
    by rw [Config.set_clients_self, hanswered]⟩
  rw [hcalling] at hnext
  cases hnext

/-- The draft is edited between the read and the claim of a send that succeeds: the supplier
is emailed five units of an order of seven. -/
theorem emailed_before_edit :
    ¬ ∀ (calls : Bool → DraftCall) (poId : PoId) (db : Db),
      ∀ σ, Run (Config.initial db fun i => (calls i).program poId) σ →
        ∀ i τ, BecomesSent poId (fun _ _ _ _ => True) i σ τ →
          CanSucceed poId (fun _ _ _ _ => True) i τ →
          EmailsOrder poId (fun _ _ _ _ => True) i τ := by
  intro hall
  obtain ⟨σ, hrun, email, hemail, hbefore, hafter, hlines⟩ :=
    exists_run_of_schedule [false, true] (fun _ _ _ _ => True)
      (List.replicate 4 (false, true) ++ List.replicate 5 (true, true) ++ [(false, true)])
      (Config.initial sendableDraft fun i => (sendAndEdit i).program 1)
      (fun σ => ∃ email ∈ committingEmail (σ.clients false).program,
        ¬ (∃ po ∈ σ.db.purchaseOrders.find 1, po.status = .sent) ∧
        (∃ po ∈ (σ.view false).purchaseOrders.find 1, po.status = .sent) ∧
        email.document.lines ≠
          (orderByTitle ((σ.view false).linesOf 1)).map (documentLine true))
      (by decide) (by decide +kernel)
  obtain ⟨k, expectedAt, emailed, hprogram, hanswered⟩ := committingEmail_eq_some hemail
  obtain ⟨email', k', hcalling, -, hmatches⟩ := hall sendAndEdit 1 sendableDraft σ hrun false _
    ⟨.commit hprogram, fun _ _ => trivial, hbefore, hafter⟩
    (canSucceed_of_call (by rw [Config.set_clients_self]) hanswered hafter)
  rw [Config.set_clients_self] at hcalling
  cases hcalling
  exact hlines (hmatches _ .refl).lines

/-- Without the edit the claim is fresh, and the email that goes out with it shows the
order. -/
theorem sent_without_edit :
    ∃ σ τ, RunWhere (ClaimsFresh sendAndEdit 1)
        (Config.initial sendableDraft fun i => (sendAndEdit i).program 1) σ ∧
      BecomesSent 1 (ClaimsFresh sendAndEdit 1) false σ τ ∧
      EmailsOrder 1 (ClaimsFresh sendAndEdit 1) false τ := by
  obtain ⟨σ, hrun, hemail, hfresh, hbefore, hafter⟩ :=
    exists_run_of_schedule [false, true] (ClaimsFresh sendAndEdit 1)
      (List.replicate 5 (false, true))
      (Config.initial sendableDraft fun i => (sendAndEdit i).program 1)
      (fun σ => (committingEmail (σ.clients false).program).isSome ∧
        ClaimsFresh sendAndEdit 1 false (σ.clients false).seen (σ.clients false).pending σ.db ∧
        ¬ (∃ po ∈ σ.db.purchaseOrders.find 1, po.status = .sent) ∧
        ∃ po ∈ (σ.view false).purchaseOrders.find 1, po.status = .sent)
      (by decide) (by decide +kernel)
  obtain ⟨email, hemail⟩ := Option.isSome_iff_exists.mp hemail
  obtain ⟨k, -, -, hprogram, -⟩ := committingEmail_eq_some hemail
  have hbecomes : BecomesSent 1 (ClaimsFresh sendAndEdit 1) false σ _ :=
    ⟨.commit hprogram, fun _ _ => hfresh, hbefore, hafter⟩
  exact ⟨σ, _, hrun, hbecomes, emailsOrder_of_fresh sendAndEdit 1 sendableDraft hrun hbecomes⟩

end Restock
