import Restock.Plan.BuyList
import Restock.Store.Confined

/-!
# Adding to the order queue

`createOrdersForPredictions` of `apps/web/lib/data/plan.ts`: ticked lines of the buy list become
rows of the order queue, in one transaction that looks, prediction by prediction, for a pending row
to update and creates one when it sees none. No unique key stands behind the look.

* `QueuedOrder`, `QueueDb` — the queue, and what the quantities are taken from;
* `createOrdersForPredictions` — the code;
* `pendingCount`, `OnePending` — the pending rows of a prediction, and that there is at most one;
* `stillUnqueued` — the commits whose looks still hold;
* `Looked` — what the transaction has done after some of its predictions;
* `onePending_iff` — in runs of such commits no prediction has two pending rows, and the next commit
  keeps it so exactly when it is one;
* `queued_twice` — a run that stacks two.
-/

namespace Restock.Plan

open Store
open Forecast (jsRound)

/-! ## The tables -/

/-- A `Prediction` id. -/
abbrev PredictionId : Type := ℕ

/-- `Order`, with the prediction it was added from. -/
structure QueuedOrder extends Order where
  predictionId : Option PredictionId := none
  deriving DecidableEq, Repr

/-- The columns of `Prediction` that the queue is filled from. -/
structure QueuedPrediction where
  id : PredictionId
  productId : ProductId
  recommendedQty : ℚ
  deriving DecidableEq, Repr

/-- `ProductPlanOverride`. -/
structure ProductPlanOverride where
  productId : ProductId
  qty : ℤ
  deriving DecidableEq, Repr

instance : Keyed QueuedOrder OrderId := ⟨fun o => o.id⟩
instance : Keyed QueuedPrediction PredictionId := ⟨QueuedPrediction.id⟩

/-- The queue, the predictions, their products and the owner's quantities. Only the queue is
written. -/
structure QueueDb where
  orders : Table QueuedOrder := .empty
  predictions : Table QueuedPrediction := .empty
  products : List Product := []
  overrides : List ProductPlanOverride := []

/-- What a lock is taken on: a row of the queue. -/
structure QueueRowKey where
  id : OrderId
  deriving DecidableEq

instance : RowModel QueueDb QueueRowKey where
  same k s t := s.orders.find k.id = t.orders.find k.id
  refl _ _ := rfl
  trans _ _ _ _ h h' := Eq.trans h h'

instance : Stored QueueDb QueuedOrder where
  get := QueueDb.orders
  set db orders := { db with orders }
  name := .mk
  get_set _ _ := rfl
  set_get _ := rfl
  frame _ _ row h := h row.id rfl
  find_of_same h := h

@[simp] theorem get_orders (db : QueueDb) : (Stored.get db : Table QueuedOrder) = db.orders := rfl

@[simp] theorem set_orders (db : QueueDb) (t : Table QueuedOrder) :
    Stored.set db t = { db with orders := t } := rfl

/-- A computation over the queue. -/
abbrev QueueOp (R α : Type) : Type := Session QueueDb QueueRowKey Empty Empty Failure R α

/-! ## The code -/

/-- `CreateOrdersResult`. -/
structure CreateOrdersResult where
  created : ℕ
  updated : ℕ
  /-- Ids that resolved to nothing. -/
  skipped : ℤ
  deriving DecidableEq, Repr

/-- The row is pending, for the prediction. -/
def QueuedOrder.isPendingFor (predictionId : PredictionId) (o : QueuedOrder) : Bool :=
  o.predictionId = some predictionId ∧ o.status = .pending

/-- The quantity of a line: the owner's where they set one, and at least one. -/
def orderQty (overrides : List ProductPlanOverride) (p : QueuedPrediction) : ℤ :=
  let override :=
    (overrides.reverse.find? fun o => o.productId = p.productId).map fun o => (o.qty : ℚ)
  max 1 (jsRound (override.getD p.recommendedQty))

/-- What adding a line again changes of its row. -/
def QueuedOrder.requeue (qty : ℤ) (stock : ℚ) (o : QueuedOrder) : QueuedOrder :=
  { o with orderedQty := some qty, stockAtOrder := some stock }

/-- The row of a line. -/
def queuedRow (id : OrderId) (p : QueuedPrediction) (qty : ℤ) (stock : ℚ) : QueuedOrder :=
  { id, predictionId := some p.id, productId := some p.productId, orderedQty := some qty,
    stockAtOrder := some stock }

/-- One round of the loop: update the pending row of a prediction, or create one. -/
def queueOne {R : Type} (products : List Product) (overrides : List ProductPlanOverride)
    (newId : PredictionId → OrderId) (counts : ℕ × ℕ) (p : QueuedPrediction) :
    QueueOp R (ℕ × ℕ) := do
  let some product := products.find? fun q => q.id = p.productId | throw .typeError
  let qty := orderQty overrides p
  let existing ← Session.findFirst QueuedOrder (QueuedOrder.isPendingFor p.id)
  match existing with
  | some row =>
      Session.update QueuedOrder row.id (QueuedOrder.requeue qty product.currentStock)
        .recordNotFound
      return (counts.1, counts.2 + 1)
  | none =>
      Session.create (queuedRow (newId p.id) p qty product.currentStock) .uniqueViolation
      return (counts.1 + 1, counts.2)

/-- The predictions that a list of ids resolves to. -/
def QueueDb.chosen (db : QueueDb) (predictionIds : List PredictionId) : List QueuedPrediction :=
  db.predictions.rows.filter fun p => p.id ∈ predictionIds

/-- `createOrdersForPredictions`. The ids of the rows it creates are generated: `newId`. -/
def createOrdersForPredictions {R : Type} (predictionIds : List PredictionId)
    (newId : PredictionId → OrderId) : QueueOp R CreateOrdersResult :=
  Session.transaction do
    let predictions ← Session.query fun db : QueueDb => db.chosen predictionIds
    let products ← Session.query fun db : QueueDb =>
      db.products.filter fun q => q.id ∈ predictions.map QueuedPrediction.productId
    let overrides ← Session.query fun db : QueueDb =>
      db.overrides.filter fun o => o.productId ∈ predictions.map QueuedPrediction.productId
    let counts ← predictions.foldlM (queueOne products overrides newId) (0, 0)
    return { created := counts.1, updated := counts.2
             skipped := (predictionIds.length : ℤ) - predictions.length }

/-- A call, with the ids it generates. -/
structure AddCall where
  predictionIds : List PredictionId
  newId : PredictionId → OrderId

/-- The program of a call. -/
def AddCall.program (call : AddCall) :
    Program QueueDb QueueRowKey Empty Empty CreateOrdersResult :=
  Session.program (createOrdersForPredictions call.predictionIds call.newId)

/-! ## Pending rows -/

/-- The pending rows of a prediction. -/
def QueueDb.pendingCount (db : QueueDb) (predictionId : PredictionId) : ℕ :=
  (db.orders.rows.filter (QueuedOrder.isPendingFor predictionId)).length

/-- No prediction has two pending rows. -/
def QueueDb.OnePending (db : QueueDb) : Prop :=
  ∀ predictionId, db.pendingCount predictionId ≤ 1

section Pending

variable {db : QueueDb} {predictionId : PredictionId}

/-- A look finds nothing when there is no pending row. -/
theorem find_pending_eq_none :
    db.orders.rows.find? (QueuedOrder.isPendingFor predictionId) = none ↔
      db.pendingCount predictionId = 0 := by
  rw [QueueDb.pendingCount, List.length_eq_zero_iff, List.filter_eq_nil_iff, List.find?_eq_none]

/-- Adding a line again leaves as many pending rows. -/
theorem pendingCount_update (p : QueuedOrder → Bool) (qty : ℤ) (stock : ℚ) :
    QueueDb.pendingCount { db with orders := db.orders.update p (·.requeue qty stock) }
        predictionId =
      db.pendingCount predictionId := by
  have hrows := Table.rows_update db.orders p (f := (·.requeue qty stock)) (fun _ => rfl)
  rw [QueueDb.pendingCount, QueueDb.pendingCount, hrows, List.filter_map, List.length_map]
  congr 1
  refine List.filter_congr fun o _ => ?_
  rw [Function.comp_apply]
  split <;> rfl

/-- A new row is one more for its prediction. -/
theorem pendingCount_insert {id : OrderId} {p : QueuedPrediction} {qty : ℤ} {stock : ℚ}
    (h : db.orders.find id = none) :
    QueueDb.pendingCount { db with orders := db.orders.insert (queuedRow id p qty stock) }
        predictionId =
      db.pendingCount predictionId + if p.id = predictionId then 1 else 0 := by
  have hrows := Table.rows_insert (t := db.orders) (r := queuedRow id p qty stock) h
  rw [QueueDb.pendingCount, QueueDb.pendingCount, hrows, List.filter_append, List.length_append]
  congr 1
  by_cases hid : p.id = predictionId
  · simp [queuedRow, QueuedOrder.isPendingFor, hid]
  · simp [queuedRow, QueuedOrder.isPendingFor, hid]

end Pending

/-! ## What the transaction has done -/

/-- The state that the look for the `k`-th prediction ran against: three queries load what the loop
goes by, and every round has two statements. -/
def lookAt (seen : List QueueDb) (k : ℕ) : Option QueueDb :=
  seen[3 + 2 * k]?

section Calls

variable {ι : Type} (calls : ι → AddCall)

/-- The commits whose looks still hold: a prediction that has a pending row had one when the call
looked for it. -/
def stillUnqueued : CommitCondition QueueDb QueueRowKey ι := fun i seen _ db =>
  ∀ q ∈ (db.chosen (calls i).predictionIds).zipIdx, db.pendingCount q.1.id ≠ 0 →
    ∀ s ∈ lookAt seen q.2, s.pendingCount q.1.id ≠ 0

instance (i : ι) (seen : List QueueDb) (ws : List (Write QueueDb QueueRowKey)) (db : QueueDb) :
    Decidable (stillUnqueued calls i seen ws db) :=
  inferInstanceAs (Decidable (∀ q ∈ (db.chosen (calls i).predictionIds).zipIdx, _ → _))

/-- What every commit of the calls comes to: pending rows stay, and no prediction has two of them
exactly when the looks still hold. -/
def queueContract : Contract QueueDb QueueRowKey Empty Empty CreateOrdersResult ι where
  Inv _ := True
  Guar s t := t.predictions = s.predictions ∧ ∀ id, s.pendingCount id ≤ t.pendingCount id
  ok _ _ _ _ := True
  AtCommit i seen s t _ := s.OnePending → (t.OnePending ↔ stillUnqueued calls i seen [] s)
  AtCall _ _ _ := True

/-- The transaction has been through the predictions `done`: it has looked for each, and its writes
add a pending row to those of `added`, where it saw none, whatever others commit meanwhile. -/
structure Looked (stored : Table QueuedPrediction) (done : List QueuedPrediction)
    (added : List PredictionId) (seen : List QueueDb) (ws : List (Write QueueDb QueueRowKey))
    (db : QueueDb) : Prop where
  predictions : db.predictions = stored
  length : seen.length = 3 + 2 * done.length
  look : ∀ k p, done[k]? = some p → ∃ s ∈ lookAt seen k, (p.id ∈ added ↔ s.pendingCount p.id = 0)
  of_added : ∀ id ∈ added, ∃ p ∈ done, p.id = id
  keeps : ∀ t, (sees ws t).predictions = t.predictions
  count : ∀ t, (queueContract calls).Rely (locked ws) db t → ∀ id,
    (sees ws t).pendingCount id = t.pendingCount id + if id ∈ added then 1 else 0
  /-- The rows it has locked are there. -/
  there : ∀ t, (queueContract calls).Rely (locked ws) db t → ∀ k ∈ locked ws,
    ((sees ws t).orders.find k.id).isSome

variable {calls}

/-- The predictions stay what they are. -/
theorem predictions_of_rely {keys : List QueueRowKey} {s t : QueueDb}
    (h : (queueContract calls).Rely keys s t) : t.predictions = s.predictions :=
  h.lift (P := fun s t => t.predictions = s.predictions) rfl fun _ _ hab hguar _ =>
    hguar.1.trans hab

namespace Looked

variable {stored : Table QueuedPrediction} {done : List QueuedPrediction}
  {added : List PredictionId} {seen : List QueueDb} {ws : List (Write QueueDb QueueRowKey)}
  {db db' : QueueDb}

/-- What others commit changes nothing of it. -/
theorem rely (h : Looked calls stored done added seen ws db)
    (hrely : (queueContract calls).Rely (locked ws) db db') :
    Looked calls stored done added seen ws db' where
  predictions := (predictions_of_rely hrely).trans h.predictions
  length := h.length
  look := h.look
  of_added := h.of_added
  keeps := h.keeps
  count t ht := h.count t (hrely.trans ht)
  there t ht := h.there t (hrely.trans ht)

/-- The look for another prediction sees what is committed. -/
theorem find_pending (h : Looked calls stored done added seen ws db) {p : QueuedPrediction}
    (hnew : ∀ q ∈ done, q.id ≠ p.id) :
    (sees ws db).orders.rows.find? (QueuedOrder.isPendingFor p.id) = none ↔
      db.pendingCount p.id = 0 := by
  have hadded : p.id ∉ added := fun hmem => by
    obtain ⟨q, hq, hid⟩ := h.of_added _ hmem
    exact hnew q hq hid
  rw [find_pending_eq_none, h.count db .refl, if_neg hadded, Nat.add_zero]

/-- The looks after one round more. -/
theorem look_append (h : Looked calls stored done added seen ws db) {p : QueuedPrediction}
    {added' : List PredictionId} {s s' : QueueDb} (hnew : ∀ q ∈ done, q.id ≠ p.id)
    (hsame : ∀ id, id ≠ p.id → (id ∈ added' ↔ id ∈ added))
    (hlook : p.id ∈ added' ↔ s.pendingCount p.id = 0) :
    ∀ k q, (done ++ [p])[k]? = some q →
      ∃ s₀ ∈ lookAt (seen ++ [s] ++ [s']) k, (q.id ∈ added' ↔ s₀.pendingCount q.id = 0) := by
  intro k q hq
  rcases Nat.lt_or_ge k done.length with hk | hk
  · rw [List.getElem?_append_left hk] at hq
    obtain ⟨s₀, hs₀, hiff⟩ := h.look k q hq
    refine ⟨s₀, ?_, (hsame q.id (hnew q (List.mem_of_getElem? hq))).trans hiff⟩
    rw [lookAt, List.append_assoc, List.getElem?_append_left (by have := h.length; omega)]
    exact hs₀
  · -- the look of this round is the one after all the others
    rw [List.getElem?_append_right hk, List.getElem?_singleton] at hq
    split at hq
    case isFalse => cases hq
    case isTrue hzero =>
      obtain rfl : p = q := Option.some.inj hq
      refine ⟨s, ?_, hlook⟩
      rw [lookAt, List.append_assoc, List.getElem?_append_right (by have := h.length; omega)]
      have hindex : 3 + 2 * k - seen.length = 0 := by have := h.length; omega
      rw [hindex]
      rfl

/-- A row that the transaction does not write is the committed one. -/
theorem find_sees {k : QueueRowKey} (hfree : k ∉ locked ws) (t : QueueDb) :
    (sees ws t).orders.find k.id = t.orders.find k.id :=
  (same_sees hfree t).symm

/-- A row that the transaction sees and has locked is there at its commit. -/
theorem isSome_find (h : Looked calls stored done added seen ws db) {id : OrderId}
    (hfind : ((sees ws db).orders.find id).isSome) {t : QueueDb}
    (hrely : (queueContract calls).Rely (locked ws) db t)
    (hsame : db.orders.find id = t.orders.find id) : ((sees ws t).orders.find id).isSome := by
  by_cases hmem : (⟨id⟩ : QueueRowKey) ∈ locked ws
  · exact h.there t hrely _ hmem
  · have hseen := find_sees hmem db
    have hcommitted := find_sees hmem t
    rw [hcommitted, ← hsame, ← hseen]
    exact hfind

/-- An id that is free for the transaction, and that it has locked, is free at its commit. -/
theorem find_eq_none (h : Looked calls stored done added seen ws db) {id : OrderId}
    (hfind : (sees ws db).orders.find id = none) {t : QueueDb}
    (hsame : db.orders.find id = t.orders.find id) : (sees ws t).orders.find id = none := by
  have hmem : (⟨id⟩ : QueueRowKey) ∉ locked ws := fun hmem => by
    have hthere := h.there db .refl _ hmem
    rw [hfind] at hthere
    cases hthere
  have hseen := find_sees hmem db
  have hcommitted := find_sees hmem t
  rw [hcommitted, ← hsame, ← hseen]
  exact hfind

/-- A round that finds a row and updates it. -/
theorem update (h : Looked calls stored done added seen ws db)
    (hrely : (queueContract calls).Rely (locked ws) db db') {p : QueuedPrediction}
    (hnew : ∀ q ∈ done, q.id ≠ p.id) (hpending : db.pendingCount p.id ≠ 0) {id : OrderId}
    {row : QueuedOrder} (hfind : (sees ws db').orders.find id = some row) (qty : ℤ) (stock : ℚ) :
    Looked calls stored (done ++ [p]) added (seen ++ [db] ++ [db'])
      (ws ++ [updating QueuedOrder (fun r => Keyed.key r = id) (·.requeue qty stock) (sees ws db')])
      db' := by
  have h' := h.rely hrely
  have hkey : ∀ r : QueuedOrder, decide (Keyed.key r = id) = true → Keyed.key r = id :=
    fun r hr => of_decide_eq_true hr
  have hid : decide (Keyed.key row = id) = true :=
    decide_eq_true (Table.find_eq_some.mp hfind).2
  have hsees : ∀ t, sees (ws ++ [updating QueuedOrder (fun r => Keyed.key r = id)
      (·.requeue qty stock) (sees ws db')]) t = { sees ws t with
        orders := (sees ws t).orders.update (fun r => Keyed.key r = id)
          (·.requeue qty stock) } := by
    intro t
    rw [sees_append, sees_cons, sees_nil, updating_act_of_match hkey hfind hid]
    rfl
  have hstored : (Stored.get (sees ws db') : Table QueuedOrder).find id = some row := hfind
  have hlocked := mem_keys_updating hkey hstored hid (·.requeue qty stock)
  have hadded : p.id ∉ added := fun hmem => by
    obtain ⟨q, hq, heq⟩ := h.of_added _ hmem
    exact hnew q hq heq
  refine ⟨h'.predictions, ?_, h.look_append hnew (fun _ _ => Iff.rfl) ?_, ?_, ?_, ?_, ?_⟩
  · have := h.length
    simp only [List.length_append, List.length_singleton]
    omega
  · exact iff_of_false hadded hpending
  · intro q hq
    obtain ⟨r, hr, heq⟩ := h.of_added q hq
    exact ⟨r, List.mem_append_left _ hr, heq⟩
  · intro t
    rw [hsees]
    exact h.keeps t
  · intro t ht q
    rw [hsees, pendingCount_update, h'.count t ht.left q]
  · intro t ht k hk
    rw [hsees]
    show ((Table.update _ _ _).find k.id).isSome
    rw [Table.isSome_find_update]
    rw [locked_append, List.mem_append, locked_cons, locked_nil, List.append_nil] at hk
    rcases hk with hk | hk
    · exact h'.there t ht.left k hk
    · -- the row that this round has locked
      obtain ⟨k', hk', rfl⟩ := List.mem_map.mp hk
      obtain rfl := (matching_eq_singleton hkey hfind hid k').mp hk'
      have hthere : ((sees ws db').orders.find k').isSome := by rw [hfind]; rfl
      refine h'.isSome_find hthere ht.left (ht.same (k := ⟨k'⟩) ?_)
      rw [locked_append, locked_cons]
      exact List.mem_append_right _ (List.mem_append_left _ hlocked)

/-- A round that finds no row and creates one. -/
theorem insert (h : Looked calls stored done added seen ws db)
    (hrely : (queueContract calls).Rely (locked ws) db db') {p : QueuedPrediction}
    (hnew : ∀ q ∈ done, q.id ≠ p.id) (hnone : db.pendingCount p.id = 0) {id : OrderId}
    (hfind : (sees ws db').orders.find id = none) (qty : ℤ) (stock : ℚ) :
    Looked calls stored (done ++ [p]) (p.id :: added) (seen ++ [db] ++ [db'])
      (ws ++ [inserting (queuedRow id p qty stock)]) db' := by
  have h' := h.rely hrely
  have hsees : ∀ t, sees (ws ++ [inserting (queuedRow id p qty stock)]) t =
      { sees ws t with orders := (sees ws t).orders.insert (queuedRow id p qty stock) } := by
    intro t
    rw [sees_append, sees_cons, sees_nil, inserting_act]
    rfl
  have hlocked : (⟨id⟩ : QueueRowKey) ∈ locked (ws ++ [inserting (queuedRow id p qty stock)]) := by
    rw [locked_append, locked_cons]
    exact List.mem_append_right _ (List.mem_append_left _ List.mem_cons_self)
  have hadded : p.id ∉ added := fun hmem => by
    obtain ⟨q, hq, heq⟩ := h.of_added _ hmem
    exact hnew q hq heq
  -- the row is locked from here on, so no other process takes its id
  have hfree : ∀ t, (queueContract calls).Rely
      (locked (ws ++ [inserting (queuedRow id p qty stock)])) db' t →
      (sees ws t).orders.find id = none :=
    fun t ht => h'.find_eq_none hfind (ht.same hlocked)
  refine ⟨h'.predictions, ?_, h.look_append hnew (fun q hq => ?_) ?_, ?_, ?_, ?_, ?_⟩
  · have := h.length
    simp only [List.length_append, List.length_singleton]
    omega
  · rw [List.mem_cons, or_iff_right hq]
  · exact iff_of_true List.mem_cons_self hnone
  · intro q hq
    rcases List.mem_cons.mp hq with rfl | hq
    · exact ⟨p, List.mem_append_right _ (List.mem_singleton_self p), rfl⟩
    · obtain ⟨r, hr, heq⟩ := h.of_added q hq
      exact ⟨r, List.mem_append_left _ hr, heq⟩
  · intro t
    rw [hsees]
    exact h.keeps t
  · intro t ht q
    rw [hsees, pendingCount_insert (hfree t ht), h'.count t ht.left q, Nat.add_assoc]
    congr 1
    by_cases hq : p.id = q
    · subst hq
      rw [if_neg hadded, if_pos rfl, if_pos List.mem_cons_self]
    · rw [if_neg hq, Nat.add_zero]
      exact if_congr (by rw [List.mem_cons, or_iff_right (Ne.symm hq)]) rfl rfl
  · intro t ht k hk
    rw [hsees]
    show ((Table.insert _ _).find k.id).isSome
    rw [Table.find_insert (hfree t ht)]
    rw [locked_append, List.mem_append, locked_cons, locked_nil, List.append_nil] at hk
    split
    case isTrue => rfl
    case isFalse hne =>
      rcases hk with hk | hk
      · exact h'.there t ht.left k hk
      · rw [List.mem_singleton.mp hk] at hne
        exact absurd rfl hne

end Looked

/-! ## Runs -/

section Loop

variable {i : ι} {stored : Table QueuedPrediction}

/-- One round is safe when what follows is. -/
theorem safe_queueOne {products : List Product} {overrides : List ProductPlanOverride}
    {newId : PredictionId → OrderId} {counts : ℕ × ℕ} {p : QueuedPrediction}
    {ok : ℕ × ℕ → Program QueueDb QueueRowKey Empty Empty CreateOrdersResult}
    {err : Failure → Program QueueDb QueueRowKey Empty Empty CreateOrdersResult}
    {done : List QueuedPrediction} {added : List PredictionId} {seen : List QueueDb}
    {ws : List (Write QueueDb QueueRowKey)} {db : QueueDb}
    (h : Looked calls stored done added seen ws db) (hnew : ∀ q ∈ done, q.id ≠ p.id)
    (herr : ∀ e seen ws db, (queueContract calls).Safe i (err e) seen ws db)
    (hok : ∀ counts added seen ws db, Looked calls stored (done ++ [p]) added seen ws db →
      (queueContract calls).Safe i (ok counts) seen ws db) :
    (queueContract calls).Safe i (queueOne products overrides newId counts p ok err) seen ws
      db := by
  unfold queueOne
  cases products.find? fun q => q.id = p.productId with
  | none => exact herr _ _ _ _
  | some product =>
  simp only [Session.bind_apply]
  refine Contract.safe_query fun s _ hrely => ?_
  have hs := h.rely hrely
  simp only [get_orders]
  cases hfind : (sees ws s).orders.rows.find? (QueuedOrder.isPendingFor p.id) with
  | some row =>
      -- the row is updated by its id, and the round fails when it is gone by then
      have hpending : s.pendingCount p.id ≠ 0 := fun hzero => by
        rw [(hs.find_pending hnew).mpr hzero] at hfind
        cases hfind
      simp only [Session.bind_apply]
      refine Contract.safe_update (fun _ _ _ _ => herr _ _ _ _) fun s' r _ hrely' hr => ?_
      exact hok _ _ _ _ _ (hs.update hrely' hnew hpending hr _ _)
  | none =>
      have hnone := (hs.find_pending hnew).mp hfind
      simp only [Session.bind_apply]
      refine Contract.safe_create (fun _ => herr _ _ _ _) fun s' _ hrely' hr => ?_
      exact hok _ _ _ _ _ (hs.insert hrely' hnew hnone hr _ _)

/-- The loop is safe when what follows is. -/
theorem safe_queueAll {products : List Product} {overrides : List ProductPlanOverride}
    {newId : PredictionId → OrderId} {rest : List QueuedPrediction} {counts : ℕ × ℕ}
    {ok : ℕ × ℕ → Program QueueDb QueueRowKey Empty Empty CreateOrdersResult}
    {err : Failure → Program QueueDb QueueRowKey Empty Empty CreateOrdersResult}
    {done : List QueuedPrediction} {added : List PredictionId} {seen : List QueueDb}
    {ws : List (Write QueueDb QueueRowKey)} {db : QueueDb}
    (h : Looked calls stored done added seen ws db)
    (hnodup : ((done ++ rest).map QueuedPrediction.id).Nodup)
    (herr : ∀ e seen ws db, (queueContract calls).Safe i (err e) seen ws db)
    (hok : ∀ counts added seen ws db, Looked calls stored (done ++ rest) added seen ws db →
      (queueContract calls).Safe i (ok counts) seen ws db) :
    (queueContract calls).Safe i
      (rest.foldlM (queueOne products overrides newId) counts ok err) seen ws db := by
  induction rest generalizing counts done added seen ws db with
  | nil => exact hok _ _ _ _ _ (by rwa [List.append_nil])
  | cons p rest ih =>
      rw [List.append_cons] at hnodup
      have hnew : ∀ q ∈ done, q.id ≠ p.id := by
        rw [List.map_append, List.map_append, List.nodup_append, List.nodup_append] at hnodup
        exact fun q hq => hnodup.1.2.2 q.id (List.mem_map_of_mem hq) p.id
          (List.mem_map_of_mem (List.mem_singleton_self p))
      rw [List.foldlM_cons, Session.bind_apply]
      refine safe_queueOne h hnew herr fun counts added seen ws db hlooked => ?_
      exact ih hlooked hnodup fun counts added seen ws db hall =>
        hok counts added seen ws db (by rwa [List.append_cons])

/-- What the commit of a transaction that has been through all its predictions comes to. -/
theorem Looked.onePending {done : List QueuedPrediction} {added : List PredictionId}
    {seen : List QueueDb} {ws : List (Write QueueDb QueueRowKey)} {db : QueueDb}
    (h : Looked calls stored done added seen ws db)
    (hdone : db.chosen (calls i).predictionIds = done) (hone : db.OnePending) :
    (sees ws db).OnePending ↔ stillUnqueued calls i seen [] db := by
  constructor
  · rintro hafter ⟨p, k⟩ hq hpending s hs
    replace hpending : db.pendingCount p.id ≠ 0 := hpending
    rw [hdone, List.mem_zipIdx_iff_getElem?] at hq
    obtain ⟨s₀, hs₀, hiff⟩ := h.look k p hq
    obtain rfl : s₀ = s := Option.some.inj (Eq.trans hs₀.symm hs)
    -- a look that saw none has added one, to the one that is pending
    intro hzero
    have hcount := h.count db .refl p.id
    rw [if_pos (hiff.mpr hzero)] at hcount
    have hle := hafter p.id
    omega
  · intro hstill id
    rw [h.count db .refl id]
    by_cases hmem : id ∈ added
    · obtain ⟨p, hp, rfl⟩ := h.of_added id hmem
      obtain ⟨k, hk⟩ := List.mem_iff_getElem?.mp hp
      obtain ⟨s, hs, hiff⟩ := h.look k p hk
      have hzero : db.pendingCount p.id = 0 := by
        by_contra hpending
        refine hstill (p, k) ?_ hpending s hs (hiff.mp hmem)
        rw [hdone, List.mem_zipIdx_iff_getElem?]
        exact hk
      rw [if_pos hmem, hzero]
    · rw [if_neg hmem]
      exact hone id

end Loop

/-- Every call keeps to the contract. -/
theorem safe_call (i : ι) (db : QueueDb) :
    (queueContract calls).Safe i (calls i).program [] [] db := by
  rw [AddCall.program, Session.program_def, createOrdersForPredictions]
  simp only [Session.transaction_apply, Session.bind_apply]
  refine Contract.safe_query fun s₀ _ _ => Contract.safe_query fun s₁ _ hrely₁ =>
    Contract.safe_query fun s₂ _ hrely₂ => ?_
  simp only [sees_nil]
  have hstart : Looked calls s₀.predictions [] [] ([] ++ [s₀] ++ [s₁] ++ [s₂]) [] s₂ :=
    { predictions := predictions_of_rely (hrely₁.trans hrely₂)
      length := rfl
      look := fun k p hk => by cases hk
      of_added := fun id hid => by cases hid
      keeps := fun t => rfl
      count := fun t _ id => by rw [if_neg List.not_mem_nil]; rfl
      there := fun t _ k hk => by cases hk }
  refine safe_queueAll hstart ?_ (fun _ _ _ _ => trivial) fun counts added seen ws db h => ?_
  · exact s₀.predictions.nodup.sublist (List.filter_sublist.map _)
  intro t _ hrely _
  have ht := h.rely hrely
  refine ⟨trivial, ⟨ht.keeps t, fun id => ?_⟩, fun hone => ht.onePending ?_ hone, trivial⟩
  · rw [ht.count t .refl id]
    exact Nat.le_add_right _ _
  · rw [QueueDb.chosen, ht.predictions]
    rfl

/-- Who is about to commit leaves no prediction with two pending rows exactly when the looks still
hold. -/
theorem onePending_view {σ : Config QueueDb QueueRowKey Empty Empty CreateOrdersResult ι}
    (hgood : (queueContract calls).Good σ) (hone : σ.db.OnePending) {i : ι}
    {next : Program QueueDb QueueRowKey Empty Empty CreateOrdersResult}
    (hprog : (σ.clients i).program = .commit next) :
    (σ.view i).OnePending ↔ stillUnqueued calls i (σ.clients i).seen [] σ.db := by
  obtain ⟨-, -, hat, -⟩ := hgood.commit hprog fun _ _ => trivial
  exact hat hone

/-- A step whose commit, if it is one, has looks that still hold stacks nothing. -/
theorem onePending_step [DecidableEq ι]
    {σ τ : Config QueueDb QueueRowKey Empty Empty CreateOrdersResult ι}
    (hgood : (queueContract calls).Good σ) (hone : σ.db.OnePending) {i : ι} (hstep : Step i σ τ)
    (hok : CommitOk (stillUnqueued calls) i σ) : τ.db.OnePending := by
  cases hstep with
  | commit hprog => exact (onePending_view hgood hone hprog).mpr (hok _ hprog)
  | stmt | lock | rollback | call | abort => exact hone

end Calls

/-- While every commit's looks still hold no prediction has two pending rows, whatever lists of ids
are added and however the calls interleave; and the next commit keeps it so exactly when its looks
still hold. -/
theorem onePending_iff {ι : Type} [DecidableEq ι] (calls : ι → AddCall) (db : QueueDb)
    (hone : db.OnePending) (σ : Config QueueDb QueueRowKey Empty Empty CreateOrdersResult ι)
    (hrun : RunWhere (stillUnqueued calls) (Config.initial db fun i => (calls i).program) σ) :
    σ.db.OnePending ∧
      ∀ i next, (σ.clients i).program = .commit next →
        ((σ.view i).OnePending ↔ stillUnqueued calls i (σ.clients i).seen [] σ.db) := by
  have hkept : (queueContract calls).Good σ ∧ σ.db.OnePending := by
    induction hrun with
    | refl => exact ⟨Contract.good_initial trivial fun i => safe_call i db, hone⟩
    | tail _ hstep ih =>
        obtain ⟨i, hstep, hok⟩ := hstep
        exact ⟨Contract.good_step ih.1 hstep fun _ _ => trivial,
          onePending_step ih.1 ih.2 hstep hok⟩
  exact ⟨hkept.2, fun i next hprog => onePending_view hkept.1 hkept.2 hprog⟩

/-! ## Two calls -/

/-- One prediction of the latest run, not queued. -/
def onePrediction : QueueDb where
  predictions := ⟨[{ id := 1, productId := 1, recommendedQty := 6 }], by decide⟩
  products := [{ id := 1, currentStock := 2 }]

/-- Two clients add it, with ids of their own. -/
def addTwice : Bool → AddCall
  | false => { predictionIds := [1], newId := fun p => 2 * p }
  | true => { predictionIds := [1, 1], newId := fun p => 2 * p + 1 }

/-- Nothing is pending at first. -/
theorem onePending_onePrediction : onePrediction.OnePending :=
  fun _ => Nat.zero_le 1

/-- One after the other: the second updates the row of the first. -/
theorem onePending_iff_addTwice :
    ∃ σ, RunWhere (stillUnqueued addTwice)
        (Config.initial onePrediction fun i => (addTwice i).program) σ ∧
      (σ.clients true).program.isOver ∧ σ.db.pendingCount 1 = 1 ∧ σ.db.OnePending := by
  obtain ⟨σ, hrun, hover, hcount⟩ := exists_run_of_schedule [false, true] (stillUnqueued addTwice)
    (List.replicate 6 (false, true) ++ List.replicate 6 (true, true))
    (Config.initial onePrediction fun i => (addTwice i).program)
    (fun σ => (σ.clients true).program.isOver = true ∧ σ.db.pendingCount 1 = 1)
    (by decide) (by decide +kernel)
  exact ⟨σ, hrun, hover, hcount,
    (onePending_iff addTwice onePrediction onePending_onePrediction σ hrun).1⟩

/-- Both look before either commits, and the prediction has two pending rows. -/
theorem queued_twice :
    ¬ ∀ (calls : Bool → AddCall) (db : QueueDb), db.OnePending → ∀ σ,
      Run (Config.initial db fun i => (calls i).program) σ → σ.db.OnePending := by
  intro hclaim
  obtain ⟨σ, hrun, htwo⟩ := exists_run_of_schedule [false, true] (fun _ _ _ _ => True)
    (List.replicate 4 (false, true) ++ List.replicate 6 (true, true) ++
      List.replicate 2 (false, true))
    (Config.initial onePrediction fun i => (addTwice i).program)
    (fun σ => σ.db.pendingCount 1 = 2) (by decide) (by decide +kernel)
  have hone := hclaim addTwice onePrediction onePending_onePrediction σ hrun 1
  omega

end Restock.Plan
