import Mathlib.Algebra.Order.BigOperators.Group.List
import Mathlib.Data.List.Induction
import Restock.Purchasing.Unreceive

/-!
# Received quantities stay within what was ordered

Every line should satisfy `0 ≤ receivedQty ≤ quantity` whatever is received and taken back.
A call checks each of its entries against the lines as loaded and then books all of them,
so several entries on one line can together take the line out of its bounds.

* `Db.InBounds` — the bounds, for the lines of one order;
* `ReceiptCall.Fits` — what a call asks for in total on each line is outstanding (or, for a
  reversal, booked in);
* `inBounds_after_iff` — a call keeps the bounds exactly when it fits, and
  `receivedQty_inBounds_iff` — so do sequences of calls.
-/

namespace Restock

open Store

/-- The lines of an order satisfy `0 ≤ receivedQty ≤ quantity`. -/
def Db.InBounds (db : Db) (poId : PoId) : Prop :=
  ∀ l ∈ db.linesOf poId, 0 ≤ l.receivedQty ∧ l.receivedQty ≤ l.quantity

instance (db : Db) (poId : PoId) : Decidable (db.InBounds poId) :=
  inferInstanceAs (Decidable (∀ l ∈ db.linesOf poId, _))

/-- The units the entries of a call ask for on a line, all entries together. -/
def askedFor (entries : List ReceiveEntry) (lineId : LineId) : ℤ :=
  (((positiveEntries entries).filter fun e => e.lineId = lineId).map fun e => e.qty.num).sum

/-- If the call is one on the order and is accepted, then on every line its entries
together ask for no more than is outstanding, or for a reversal booked in. -/
def ReceiptCall.Fits (call : ReceiptCall) (poId : PoId) (db : Db) : Prop :=
  call.poId = poId → call.Accepted db → ∀ l ∈ db.linesOf poId,
    match call.direction with
    | .receive => askedFor call.entries l.id ≤ l.quantity - l.receivedQty
    | .unreceive => askedFor call.entries l.id ≤ l.receivedQty

/-! ## One call -/

/-- The bounds, on the lines as a call loads them. -/
theorem inBounds_iff_loadLines {db : Db} {poId : PoId} :
    db.InBounds poId ↔
      ∀ l ∈ loadLines db.lines poId, 0 ≤ l.receivedQty ∧ l.receivedQty ≤ l.quantity := by
  rw [loadLines, List.forall_mem_map]
  rfl

section Moves

variable {db : Db} {poId : PoId} {entries : List ReceiveEntry}

/-- The moves of a call book on a line of its order what the entries ask for on it. -/
theorem onLine_movesOf {l : LoadedLine} (hl : l ∈ loadLines db.lines poId) :
    Move.onLine (db.movesOf poId entries) l.id = askedFor entries l.id := by
  rw [Db.movesOf, askedFor]
  induction positiveEntries entries with
  | nil => rfl
  | cons e es ih =>
      by_cases hid : e.lineId = l.id
      · have hsome : ∃ l',
            ((loadLines db.lines poId).find? fun x => x.id = e.lineId) = some l' := by
          rw [← Option.isSome_iff_exists, List.find?_isSome]
          exact ⟨l, hl, by simp [hid]⟩
        obtain ⟨l', hfind⟩ := hsome
        have hl' : l'.id = l.id := by simpa [hid] using List.find?_some hfind
        rw [moves_cons hfind, Move.onLine_cons, ih]
        simp [hl', hid]
      · have hskip : Move.onLine (LoadedLine.moves (loadLines db.lines poId) (e :: es)) l.id
            = Move.onLine (LoadedLine.moves (loadLines db.lines poId) es) l.id := by
          cases hfind : (loadLines db.lines poId).find? fun x => x.id = e.lineId with
          | none => rw [moves_cons_of_none hfind]
          | some l' =>
              have hl' : l'.id = e.lineId := by simpa using List.find?_some hfind
              have hne : ¬ l'.id = l.id := fun h => hid (hl'.symm.trans h)
              rw [moves_cons hfind, Move.onLine_cons, if_neg hne, zero_add]
        rw [hskip, ih]
        simp [hid]

/-- A move of a call is on a line of the call's order. -/
theorem lineId_of_mem_movesOf {m : Move} (hm : m ∈ db.movesOf poId entries) :
    ∃ l ∈ db.lines.rows, l.purchaseOrderId = poId ∧ l.id = m.lineId := by
  obtain ⟨e, -, hmove⟩ := List.mem_filterMap.mp hm
  obtain ⟨line, hfind, rfl⟩ := Option.map_eq_some_iff.mp hmove
  obtain ⟨l, hl, hpo, rfl⟩ := mem_loadLines.mp (List.mem_of_find?_eq_some hfind)
  exact ⟨l, hl, hpo, rfl⟩

/-- The moves of a call book nothing on the lines of other orders. -/
theorem onLine_movesOf_of_ne {poId' : PoId} (hne : poId' ≠ poId) {l : LoadedLine}
    (hl : l ∈ loadLines db.lines poId') : Move.onLine (db.movesOf poId entries) l.id = 0 := by
  refine Move.onLine_of_notMem fun hmem => hne ?_
  obtain ⟨m, hm, hid⟩ := List.mem_map.mp hmem
  obtain ⟨row, hrow, hpo, hrowId⟩ := lineId_of_mem_movesOf hm
  obtain ⟨row', hrow', hpo', rfl⟩ := mem_loadLines.mp hl
  rw [← hpo, ← hpo', Table.eq_of_key_eq hrow hrow' (hrowId.trans hid)]

/-- What a call asks for is not negative. -/
theorem askedFor_nonneg (entries : List ReceiveEntry) (lineId : LineId) :
    0 ≤ askedFor entries lineId := by
  refine List.sum_nonneg fun q hq => ?_
  obtain ⟨e, he, rfl⟩ := List.mem_map.mp hq
  have hpos : 0 < e.qty := by
    simpa [positiveEntries] using (List.mem_filter.mp (List.mem_of_mem_filter he)).2
  exact (Rat.num_pos.mpr hpos).le

end Moves

section Step

variable {db : Db} {poId : PoId} {call : ReceiptCall}

/-- The lines after a call that is accepted. -/
theorem loadLines_outcome (location : Location) (id : PoId) :
    loadLines (call.outcome db location).lines id
      = (loadLines db.lines id).map fun l =>
          { l with
            receivedQty := l.receivedQty + call.direction.sign *
              Move.onLine (db.movesOf call.poId call.entries) l.id } := by
  unfold ReceiptCall.outcome
  cases call.direction with
  | receive =>
      refine (congrArg (loadLines · id) (Db.received_lines ..)).trans ?_
      simp [loadLines_bookLines, Direction.sign]
  | unreceive =>
      refine (congrArg (loadLines · id) (Db.unreceived_lines ..)).trans ?_
      simp [loadLines_bookLines, Direction.sign]

/-- A call on another order keeps the bounds of this one. -/
theorem inBounds_after_of_ne (hne : call.poId ≠ poId) (h : db.InBounds poId) :
    (call.after db).InBounds poId := by
  by_cases hacc : call.Accepted db
  · obtain ⟨po, location, hacc⟩ := hacc
    rw [inBounds_iff_loadLines, ReceiptCall.after_accepted hacc, loadLines_outcome,
      List.forall_mem_map]
    intro l hl
    simpa [onLine_movesOf_of_ne (Ne.symm hne) hl] using inBounds_iff_loadLines.mp h l hl
  · rwa [ReceiptCall.after_rejected hacc]

/-- A call keeps the bounds of an order exactly when it fits. -/
theorem inBounds_after_iff (h : db.InBounds poId) :
    (call.after db).InBounds poId ↔ call.Fits poId db := by
  by_cases hne : call.poId ≠ poId
  · exact iff_of_true (inBounds_after_of_ne hne h) fun heq => absurd heq hne
  obtain rfl : call.poId = poId := not_not.mp hne
  by_cases hacc : call.Accepted db
  swap
  · rw [ReceiptCall.after_rejected hacc]
    exact iff_of_true h fun _ hacc' => absurd hacc' hacc
  have hfits : call.Fits call.poId db ↔ ∀ l ∈ loadLines db.lines call.poId,
      match call.direction with
      | .receive => askedFor call.entries l.id ≤ l.quantity - l.receivedQty
      | .unreceive => askedFor call.entries l.id ≤ l.receivedQty := by
    rw [loadLines, List.forall_mem_map]
    exact ⟨fun hfits => hfits rfl hacc, fun hall _ _ => hall⟩
  obtain ⟨po, location, hacc⟩ := hacc
  rw [inBounds_iff_loadLines, ReceiptCall.after_accepted hacc, loadLines_outcome,
    List.forall_mem_map, hfits]
  refine forall₂_congr fun l hl => ?_
  have hbounds := inBounds_iff_loadLines.mp h l hl
  have hasked := askedFor_nonneg call.entries l.id
  rw [onLine_movesOf hl]
  cases call.direction with
  | receive => simp only [Direction.sign]; omega
  | unreceive => simp only [Direction.sign]; omega

/-- The bounds of an order hold after every call of a sequence exactly when every call of
it fits. -/
theorem receivedQty_inBounds_iff (h : db.InBounds poId) (calls : List ReceiptCall) :
    (∀ made, made <+: calls → (ReceiptCall.run db made).InBounds poId) ↔
      ∀ made call, made ++ [call] <+: calls → call.Fits poId (ReceiptCall.run db made) := by
  constructor
  · intro hall made call hmade
    have hbefore := hall made ((List.prefix_append made [call]).trans hmade)
    have hafter := hall (made ++ [call]) hmade
    rw [ReceiptCall.run_concat] at hafter
    exact (inBounds_after_iff hbefore).mp hafter
  · intro hall made hmade
    -- one call more at a time
    induction made using List.reverseRecOn with
    | nil => exact h
    | append_singleton made call ih =>
        rw [ReceiptCall.run_concat]
        exact (inBounds_after_iff (ih ((List.prefix_append made [call]).trans hmade))).mpr
          (hall made call hmade)

end Step

/-! ## Two entries on one line -/

/-- A sent order of ten units of one product, none of them received, and a shelf the store
does not report. -/
def sentOrder : Db where
  products := ⟨[{ id := 1 }], by decide⟩
  purchaseOrders := ⟨[{ id := 1, status := .sent }], by decide⟩
  lines := ⟨[{ id := 1, purchaseOrderId := 1, productId := 1, quantity := 10 }], by decide⟩
  locations := ⟨[{ id := 1 }], by decide⟩

/-- A receipt of six units and six more on the same line. -/
def doubledReceipt : ReceiptCall where
  direction := .receive
  poId := 1
  entries := [⟨1, 6⟩, ⟨1, 6⟩]
  locationId := 1

/-- A receipt of six and of three units on the same line. -/
def splitReceipt : ReceiptCall where
  direction := .receive
  poId := 1
  entries := [⟨1, 6⟩, ⟨1, 3⟩]
  locationId := 1

/-- Receiving six units twice in one call leaves twelve of ten units received. -/
theorem doubledReceipt_outOfBounds :
    ¬ ∀ (db : Db) (poId : PoId), db.InBounds poId → ∀ calls made : List ReceiptCall,
      made <+: calls → (ReceiptCall.run db made).InBounds poId := by
  intro hall
  have h := hall sentOrder 1 (by decide) [doubledReceipt] [doubledReceipt] (List.prefix_refl _)
  revert h
  decide +kernel

/-- The equivalence at a split receipt that fits. -/
theorem splitReceipt_inBounds :
    (∀ made, made <+: [splitReceipt] → (ReceiptCall.run sentOrder made).InBounds 1) ↔
      ∀ made call, made ++ [call] <+: [splitReceipt] →
        call.Fits 1 (ReceiptCall.run sentOrder made) :=
  receivedQty_inBounds_iff (by decide) [splitReceipt]

end Restock
