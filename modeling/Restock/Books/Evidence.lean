import Restock.Books.ToldApart

/-!
# Evidence from the books

`packages/quickbooks/src/reconcile.ts`: a job reads the orders that were sent and the documents of
the books, and records on the orders what the matching found. Every record is a statement of its own
that asks once more whether the order is unconfirmed, so several jobs can run at once, and beside
whatever else is done to the orders.

* `reconcilePurchaseOrders` — the code, and `qbEvidenceFor`, what is shown of it;
* `BooksCall` — a job, or a call that creates or edits orders;
* `ConfirmedBy` — a job confirmed the order with a document that carries its number;
* `Latched` — what is confirmed stays confirmed, by the same document;
* `evidence_of_run` — confirmations are sound and final in every run, and a job changes nothing of
  an order but its evidence.
-/

namespace Restock.Books

open Store

/-! ## The orders -/

/-- What is compared with the books, and the status: the columns that the screens of an order
write. -/
structure OrderFacts where
  status : PoStatus := .draft
  /-- `supplier.name`. -/
  supplierName : Option String := none
  vendor : Option String := none
  subtotalKes : ℚ := 0
  sentAt : Option Time := none
  deriving DecidableEq, Repr

/-- The columns of the evidence. -/
structure Evidence where
  qbConfirmedAt : Option Time := none
  qbDocRef : Option String := none
  qbSuggestion : Option String := none
  needsAttention : Bool := false
  deriving DecidableEq, Repr

/-- A purchase order. -/
structure BooksOrder where
  id : String
  poNumber : String
  facts : OrderFacts := {}
  evidence : Evidence := {}
  deriving DecidableEq, Repr

instance : Keyed BooksOrder String := ⟨BooksOrder.id⟩

@[simp] theorem key_booksOrder (r : BooksOrder) : Keyed.key r = r.id := rfl

/-- The orders of a workspace. -/
structure BooksDb where
  orders : Table BooksOrder := .empty
  deriving DecidableEq

-- An order is locked under its id.
instance : RowModel BooksDb String where
  same id s t := s.orders.find id = t.orders.find id
  refl _ _ := rfl
  trans _ _ _ _ h h' := Eq.trans h h'

instance : Stored BooksDb BooksOrder where
  get := BooksDb.orders
  set _ orders := { orders }
  name id := id
  get_set _ _ := rfl
  set_get _ := rfl
  frame _ _ _ h := h _ rfl
  find_of_same h := h

/-- A session on the orders; what throws is the loss of the database. -/
abbrev BooksOp (R α : Type) : Type := Session BooksDb String Empty Empty Unit R α

/-! ## The code -/

/-- `QbEvidence`. -/
inductive QbEvidence
  | confirmed (at_ : Time) (docRef : Option String)
  | missing
  | suggested (label : String)
  | pending
  | notSent
  deriving DecidableEq, Repr

/-- `qbEvidenceFor`. -/
def qbEvidenceFor (po : BooksOrder) : QbEvidence :=
  match po.evidence.qbConfirmedAt with
  | some at_ => .confirmed at_ po.evidence.qbDocRef
  | none =>
      if po.facts.status = .cancelled ∨ po.facts.sentAt = none then .notSent
      else if po.evidence.needsAttention then .missing
      else match po.evidence.qbSuggestion.filter (· ≠ "") with
        | some label => .suggested label
        | none => .pending

/-- `LOOKBACK_DAYS`. -/
def LOOKBACK_DAYS : ℤ := 120

/-- What the matching reads of an order. -/
def BooksOrder.toLocal (r : BooksOrder) : LocalPurchaseOrder where
  id := r.id
  poNumber := r.poNumber
  vendor := r.facts.supplierName.or r.facts.vendor
  subtotalKes := r.facts.subtotalKes
  sentAt := r.facts.sentAt

/-- `{ id, qbConfirmedAt: null }`. -/
def unconfirmed (id : String) (r : BooksOrder) : Bool :=
  r.id = id ∧ r.evidence.qbConfirmedAt = none

/-- The order with other evidence. -/
def BooksOrder.record (f : Evidence → Evidence) (r : BooksOrder) : BooksOrder :=
  { r with evidence := f r.evidence }

/-- Record evidence on an order, unless it is one of those that are passed over. -/
def recordEvidence {R : Type} (skipped : List String) (id : String) (f : Evidence → Evidence) :
    BooksOp R Unit :=
  if id ∈ skipped then pure ()
  else do
    let _ ← Session.transaction (Session.updateMany BooksOrder (unconfirmed id) (·.record f))

/-- The evidence of a match. -/
def confirming (now : Time) (found : QuickBooksMatch) (_ : Evidence) : Evidence where
  qbConfirmedAt := some now
  qbDocRef := some (found.qbDocNumber.getD found.qbId)
  qbSuggestion := none
  needsAttention := false

/-- The evidence with a suggestion. -/
def suggesting (s : QuickBooksSuggestion) (e : Evidence) : Evidence :=
  { e with qbSuggestion := some (s.label ++ " — " ++ s.reason) }

/-- The evidence of an order that is missing in the books. -/
def flagging (e : Evidence) : Evidence :=
  { e with needsAttention := true }

section Code

variable (js : Js) {R : Type}

/-- `reconcilePurchaseOrders`, once it has a token: whether it went through. The documents are
those that the books answered, if they did. -/
def reconcilePurchaseOrders (now : Time) (phantomAfterDays : Option ℚ)
    (answer : Option (List QuickBooksPurchaseOrder)) : BooksOp R Bool := do
  let since : Time := now - LOOKBACK_DAYS * (24 * 60 * 60 * 1000)
  let rows ← Session.findMany BooksOrder fun r => r.facts.sentAt.any fun sentAt => since ≤ sentAt
  match answer with
  | none => return false
  | some remote =>
      let result := matchPurchaseOrders js
        { now, phantomAfterDays := phantomAfterDays.getD 3 } (rows.map BooksOrder.toLocal) remote
      -- confirmation is a one-way latch: the first match wins
      let alreadyConfirmed :=
        (rows.filter fun r => r.evidence.qbConfirmedAt.isSome).map BooksOrder.id
      forM result.confirmed fun found =>
        recordEvidence alreadyConfirmed found.localId (confirming now found)
      forM result.suggestions fun s =>
        recordEvidence alreadyConfirmed s.localId (suggesting s)
      let confirmedIds := result.confirmed.map QuickBooksMatch.localId
      forM result.phantoms fun phantom =>
        recordEvidence (confirmedIds ++ alreadyConfirmed) phantom.id flagging
      return true

/-- A job of the books, or a call that creates or edits orders. -/
inductive BooksCall
  | reconcile (now : Time) (phantomAfterDays : Option ℚ)
      (answer : Option (List QuickBooksPurchaseOrder))
  | create (id poNumber : String) (facts : OrderFacts)
  | edit (p : BooksOrder → Bool) (f : OrderFacts → OrderFacts)

/-- What a call does. -/
def BooksCall.session : BooksCall → BooksOp Unit Unit
  | .reconcile now phantomAfterDays answer => do
      let _ ← reconcilePurchaseOrders js now phantomAfterDays answer
  | .create id poNumber facts =>
      Session.transaction (Session.create { id, poNumber, facts : BooksOrder } ())
  | .edit p f => do
      let _ ← Session.transaction
        (Session.updateMany BooksOrder p fun r => { r with facts := f r.facts })

/-- The program of a call. -/
def BooksCall.program (call : BooksCall) : Program BooksDb String Empty Empty Unit :=
  Session.program (call.session js)

end Code

/-! ## The contract -/

variable {ι : Type}

/-- Every order has the number that belongs to its id. -/
def Numbered (number : String → String) (db : BooksDb) : Prop :=
  ∀ r ∈ db.orders.rows, r.poNumber = number r.id

/-- Orders are created with the number of their id. -/
def BooksCall.Numbered (number : String → String) : BooksCall → Prop
  | .create id poNumber _ => poNumber = number id
  | _ => True

/-- The order was confirmed by one of the jobs, with a document that carries its number. -/
def ConfirmedBy (js : Js) (calls : ι → BooksCall) (r : BooksOrder) : Prop :=
  ∃ i now phantomAfterDays remote, calls i = .reconcile now phantomAfterDays (some remote) ∧
    ∃ doc ∈ remote, Carries js doc r.toLocal ∧
      r.evidence = confirming now ⟨r.id, doc.id, doc.docNumber⟩ r.evidence

/-- Confirmations are those that were there, and those of the jobs. -/
def Confirmations (js : Js) (calls : ι → BooksCall) (db t : BooksDb) : Prop :=
  ∀ r ∈ t.orders.rows, r.evidence.qbConfirmedAt ≠ none →
    (∃ old ∈ db.orders.rows, old.id = r.id ∧ old.evidence = r.evidence) ∨ ConfirmedBy js calls r

/-- What is confirmed stays as it is. -/
def Latched (s t : BooksDb) : Prop :=
  ∀ r ∈ s.orders.rows, r.evidence.qbConfirmedAt ≠ none →
    ∃ r' ∈ t.orders.rows, r'.id = r.id ∧ r'.evidence = r.evidence

/-- The orders without their evidence. -/
def BooksDb.facts (db : BooksDb) : List (String × String × OrderFacts) :=
  db.orders.rows.map fun r => (r.id, r.poNumber, r.facts)

/-- Confirmations are sound and final, and a job leaves everything but the evidence alone. -/
def evidenceContract (js : Js) (number : String → String) (calls : ι → BooksCall) (db : BooksDb) :
    Contract BooksDb String Empty Empty Unit ι where
  Inv t := Numbered number t ∧ Confirmations js calls db t
  Guar := Latched
  ok _ _ _ _ := True
  AtCommit i _ s t _ := ∀ now phantomAfterDays answer,
    calls i = .reconcile now phantomAfterDays answer → t.facts = s.facts
  AtCall _ _ _ := True

section Contract

variable {js : Js} {number : String → String} {calls : ι → BooksCall} {db : BooksDb}

theorem Latched.refl (s : BooksDb) : Latched s s :=
  fun r hr _ => ⟨r, hr, rfl, rfl⟩

theorem Latched.trans {s t u : BooksDb} (h : Latched s t) (h' : Latched t u) : Latched s u := by
  intro r hr hconfirmed
  obtain ⟨r', hr', hid, hsame⟩ := h r hr hconfirmed
  obtain ⟨r'', hr'', hid', hsame'⟩ := h' r' hr' (hsame ▸ hconfirmed)
  exact ⟨r'', hr'', hid'.trans hid, hsame'.trans hsame⟩

theorem evidenceContract_reflexive : (evidenceContract js number calls db).Reflexive where
  guar := Latched.refl
  atCommit _ _ _ _ _ _ _ _ := rfl

/-- Orders that are changed one by one: neither id nor number changes, and evidence only where
there is no confirmation, to what is none or a job's. -/
theorem inv_of_map {s t : BooksDb} {g : BooksOrder → BooksOrder}
    (hs : (evidenceContract js number calls db).Inv s)
    (hrows : t.orders.rows = s.orders.rows.map g)
    (hg : ∀ r ∈ s.orders.rows, (g r).id = r.id ∧ (g r).poNumber = r.poNumber ∧
      ((g r).evidence = r.evidence ∨ r.evidence.qbConfirmedAt = none ∧
        ((g r).evidence.qbConfirmedAt ≠ none → ConfirmedBy js calls (g r)))) :
    (evidenceContract js number calls db).Inv t ∧ Latched s t := by
  obtain ⟨hnumbered, hsound⟩ := hs
  refine ⟨⟨fun x hx => ?_, fun x hx hconfirmed => ?_⟩, fun r hr hconfirmed => ?_⟩
  · rw [hrows] at hx
    obtain ⟨r, hr, rfl⟩ := List.mem_map.mp hx
    obtain ⟨hid, hnumber, -⟩ := hg r hr
    rw [hid, hnumber]
    exact hnumbered r hr
  · rw [hrows] at hx
    obtain ⟨r, hr, rfl⟩ := List.mem_map.mp hx
    obtain ⟨hid, hnumber, hsame | ⟨-, hjob⟩⟩ := hg r hr
    · rw [hsame] at hconfirmed
      refine (hsound r hr hconfirmed).imp ?_ ?_
      · rintro ⟨old, hold, hid', hevidence⟩
        exact ⟨old, hold, hid'.trans hid.symm, hevidence.trans hsame.symm⟩
      · rintro ⟨i, now, days, remote, hcall, doc, hdoc, ⟨key, hkey, hkey'⟩, hevidence⟩
        refine ⟨i, now, days, remote, hcall, doc, hdoc, ⟨key, ?_, hkey'⟩, hsame.trans hevidence⟩
        rw [← hkey, BooksOrder.toLocal, BooksOrder.toLocal, hnumber]
    · exact .inr (hjob hconfirmed)
  · obtain ⟨hid, -, hsame | ⟨hnone, -⟩⟩ := hg r hr
    · exact ⟨g r, hrows ▸ List.mem_map_of_mem hr, hid, hsame⟩
    · exact absurd hnone hconfirmed

variable {i : ι} {ok : Unit → Program BooksDb String Empty Empty Unit}
  {err : Unit → Program BooksDb String Empty Empty Unit}

/-- A record is safe when what it makes of an unconfirmed order is no confirmation, or a job's. -/
theorem safe_recordEvidence {skipped : List String} {id : String} {f : Evidence → Evidence}
    (hf : ∀ r : BooksOrder, r.id = id → r.poNumber = number id →
      (f r.evidence).qbConfirmedAt ≠ none → r.evidence.qbConfirmedAt = none →
        ConfirmedBy js calls (r.record f))
    (hok : (evidenceContract js number calls db).SafeAnyway i (ok ())) :
    (evidenceContract js number calls db).SafeAnyway i (recordEvidence skipped id f ok err) := by
  intro seen t
  unfold recordEvidence
  split
  · exact hok seen t
  refine Contract.safe_autocommit evidenceContract_reflexive (k := id)
    (fun r hr => (of_decide_eq_true hr).1) hok fun s t r n hinv hfind hr _ _ _ => ?_
  obtain ⟨hmem, -⟩ := Table.find_eq_some.mp hfind
  obtain ⟨hid, hnone⟩ := of_decide_eq_true hr
  have hrows := Table.rows_update t.orders (fun x => Keyed.key x = id) (f := (·.record f))
    fun _ => rfl
  obtain ⟨hinv', hlatched⟩ := inv_of_map (s := t)
    (t := ⟨t.orders.update (fun x => Keyed.key x = id) (·.record f)⟩) hinv hrows fun x hx => by
    by_cases hx' : decide (Keyed.key x = id) = true
    · -- the order that was asked for
      obtain rfl : x = r := Table.eq_of_key_eq hx hmem ((of_decide_eq_true hx').trans hid.symm)
      rw [if_pos hx']
      refine ⟨rfl, rfl, .inr ⟨hnone, fun hsome => hf x hid ?_ hsome hnone⟩⟩
      exact (hinv.1 x hx).trans (congrArg number hid)
    · rw [if_neg hx']
      exact ⟨rfl, rfl, .inl rfl⟩
  refine ⟨hinv', hlatched, fun _ _ _ _ => ?_, hok _ _⟩
  show (t.orders.update (fun x => Keyed.key x = id) (·.record f)).rows.map _ = _
  rw [hrows, List.map_map]
  refine List.map_congr_left fun x _ => ?_
  rw [Function.comp_apply]
  split <;> rfl

/-- A job keeps to the contract. -/
theorem safe_reconcile {now : Time} {phantomAfterDays : Option ℚ}
    {answer : Option (List QuickBooksPurchaseOrder)}
    (hcall : calls i = .reconcile now phantomAfterDays answer) (t : BooksDb) :
    (evidenceContract js number calls db).Safe i
      ((BooksCall.reconcile now phantomAfterDays answer).program js) [] [] t := by
  intro s hinv _
  cases answer with
  | none => trivial
  | some remote =>
      -- the loops that record confirmations, suggestions and what is missing
      refine Contract.safeAnyway_forM (fun found hfound ok hok => ?_) (Contract.safeAnyway_forM
        (fun s _ ok hok => ?_) (Contract.safeAnyway_forM (fun phantom _ ok hok => ?_) ?_)) _ _
      · obtain ⟨order, horder, doc, hdoc, rfl⟩ := mem_confirmed.mp hfound
        obtain ⟨read, hread, rfl⟩ := List.mem_map.mp horder
        obtain ⟨hmem, key, hkey, hkey'⟩ := exactDocument_eq_some hdoc
        have hnumber : read.poNumber = number read.id := hinv.1 read (List.mem_filter.mp hread).1
        refine safe_recordEvidence (fun r hid hr _ _ => ?_) hok
        refine ⟨i, now, phantomAfterDays, remote, hcall, doc, hmem, ⟨key, ?_, hkey'⟩, ?_⟩
        · -- the order that is confirmed has the number of the one that was read
          rw [← hkey]
          exact congrArg (fun n => normalizeDocNumber js (some n)) (hr.trans hnumber.symm)
        · have hid' : r.id = read.id := hid
          rw [BooksOrder.record, hid']
          rfl
      · exact safe_recordEvidence (fun r _ _ hsome hnone => absurd hnone hsome) hok
      · exact safe_recordEvidence (fun r _ _ hsome hnone => absurd hnone hsome) hok
      · exact fun _ _ => trivial

/-- A new order has no evidence. -/
theorem safe_createOrder {id poNumber : String} {facts : OrderFacts}
    (hcall : calls i = .create id poNumber facts) (hnumbered : poNumber = number id)
    (t : BooksDb) :
    (evidenceContract js number calls db).Safe i
      ((BooksCall.create id poNumber facts).program js) [] [] t := by
  refine Contract.safe_create (fun _ => trivial) fun s _ _ _ u hinv _ _ => ?_
  obtain ⟨hnumbers, hsound⟩ := hinv
  refine ⟨⟨fun x hx => ?_, fun x hx hconfirmed => ?_⟩, fun x hx _ => ?_, ?_, trivial⟩
  · rcases Table.mem_insert hx with hold | rfl
    · exact hnumbers x hold
    · exact hnumbered
  · rcases Table.mem_insert hx with hold | rfl
    · exact hsound x hold hconfirmed
    · exact absurd rfl hconfirmed
  · exact ⟨x, Table.mem_insert_of_mem hx, rfl, rfl⟩
  · intro now days answer hreconcile
    rw [hcall] at hreconcile
    cases hreconcile

/-- An edit leaves numbers and evidence alone. -/
theorem safe_editOrders {p : BooksOrder → Bool} {f : OrderFacts → OrderFacts}
    (hcall : calls i = .edit p f) (t : BooksDb) :
    (evidenceContract js number calls db).Safe i ((BooksCall.edit p f).program js) [] [] t := by
  intro s _ _ u hinv _ _
  obtain ⟨hinv', hlatched⟩ := inv_of_map hinv (Table.rows_update u.orders
    (fun x => Keyed.key x ∈ s.orders.matching p) (f := fun r => { r with facts := f r.facts })
      fun _ => rfl) (t := ⟨u.orders.update _ _⟩) fun x _ => by
    split <;> exact ⟨rfl, rfl, .inl rfl⟩
  refine ⟨hinv', hlatched, ?_, trivial⟩
  intro now days answer hreconcile
  rw [hcall] at hreconcile
  cases hreconcile

/-- Every call keeps to the contract. -/
theorem safe_booksCall (hcalls : ∀ i, (calls i).Numbered number) (i : ι) (t : BooksDb) :
    (evidenceContract js number calls db).Safe i ((calls i).program js) [] [] t := by
  cases hcall : calls i with
  | reconcile now phantomAfterDays answer => exact safe_reconcile hcall t
  | create id poNumber facts =>
      have hnumbered := hcalls i
      rw [hcall] at hnumbered
      exact safe_createOrder hcall hnumbered t
  | edit p f => exact safe_editOrders hcall t

/-- Jobs of the books at once, and beside them whatever creates and edits orders: an order is
confirmed only by a document that carries its number, is shown as confirmed by that document ever
after, and a job changes nothing of an order but its evidence. -/
theorem evidence_of_run [DecidableEq ι] (js : Js) (number : String → String)
    (calls : ι → BooksCall) {db : BooksDb} (hdb : Numbered number db)
    (hcalls : ∀ i, (calls i).Numbered number) {σ : Config BooksDb String Empty Empty Unit ι}
    (hrun : Run (Config.initial db fun i => (calls i).program js) σ) :
    Confirmations js calls db σ.db ∧
      (∀ τ, Run σ τ → ∀ r ∈ σ.db.orders.rows, r.evidence.qbConfirmedAt ≠ none →
        ∃ r' ∈ τ.db.orders.rows, r'.id = r.id ∧ qbEvidenceFor r' = qbEvidenceFor r) ∧
      ∀ i now phantomAfterDays answer, calls i = .reconcile now phantomAfterDays answer →
        ∀ τ, Step i σ τ → τ.db.facts = σ.db.facts := by
  have hgood : (evidenceContract js number calls db).Good σ :=
    Contract.good_run (Contract.good_initial
      ⟨hdb, fun r hr _ => .inl ⟨r, hr, rfl, rfl⟩⟩ fun i => safe_booksCall hcalls i db) hrun
  refine ⟨hgood.inv.2, fun τ hrun' r hr hconfirmed => ?_, fun i now days answer hcall τ hstep => ?_⟩
  · obtain ⟨r', hr', hid, hsame⟩ :=
      hgood.run_db hrun' Latched.refl Latched.trans (fun _ _ h => h) r hr hconfirmed
    refine ⟨r', hr', hid, ?_⟩
    obtain ⟨at_, hat⟩ := Option.ne_none_iff_exists'.mp hconfirmed
    rw [qbEvidenceFor, qbEvidenceFor, hsame, hat]
  · rcases hgood.step_db hstep fun _ _ => trivial with hsame | ⟨-, hfacts⟩
    · rw [hsame]
    · exact hfacts now days answer hcall

end Contract

/-! ## Two jobs at once -/

/-- An order that was sent, in a workspace that has no other. -/
def sentDb : BooksDb where
  orders := .single
    { id := "local-1"
      poNumber := "PO-1001"
      facts := { status := .sent, sentAt := some 0 } }

/-- Two jobs that are answered different documents of its number. -/
def twoJobs : Bool → BooksCall
  | false => .reconcile 1 none (some [document "d"])
  | true => .reconcile 2 none (some [document "e"])

/-- Both have found the order unconfirmed when the first one records its document: the second one
leaves it. -/
theorem twoJobs_confirmed :
    ∃ σ, Run (Config.initial sentDb fun i => (twoJobs i).program .plain) σ ∧
      σ.db.orders.rows.map BooksOrder.evidence =
        [{ qbConfirmedAt := some 1, qbDocRef := some "PO-1001" }] ∧
      Confirmations .plain twoJobs sentDb σ.db := by
  obtain ⟨σ, hrun, hevidence⟩ := exists_run_of_schedule [false, true] (fun _ _ _ _ => True)
    ((true, true) :: List.replicate 3 (false, true) ++ List.replicate 2 (true, true))
    (Config.initial sentDb fun i => (twoJobs i).program .plain)
    (fun σ => σ.db.orders.rows.map BooksOrder.evidence =
      [{ qbConfirmedAt := some 1, qbDocRef := some "PO-1001" }])
    (by decide) (by decide +kernel)
  have hdb : Numbered (fun _ => "PO-1001") sentDb := by
    intro r hr
    rw [List.mem_singleton.mp hr]
  have hcalls : ∀ i, (twoJobs i).Numbered fun _ => "PO-1001" := by
    rintro (_ | _) <;> trivial
  exact ⟨σ, hrun, hevidence, (evidence_of_run .plain _ twoJobs hdb hcalls hrun).1⟩

end Restock.Books
