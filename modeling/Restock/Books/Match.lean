import Restock.Purchasing.CreatePo
import Restock.Series.Entries

/-!
# Matching the books

Which document of the shop's books is which of its purchase orders. Only the document number
confirms; a document that merely looks like an order is offered as a suggestion.

* `matchPurchaseOrders` — the code: an index of the documents by number, then one pass over
  the orders with the set of documents claimed so far;
* `exactDocument` — what the index finds: the first document with the order's number;
* `confirmed_eq`, `phantoms_eq`, `external_eq`, `mem_suggestions` — the four lists in closed
  form.
-/

namespace Restock.Books

/-! ## The code -/

/-- What the matching uses of the language's texts. -/
structure Js where
  /-- `String.prototype.toUpperCase`. -/
  toUpperCase : String → String
  /-- `String.prototype.toLowerCase`. -/
  toLowerCase : String → String

/-- The same on texts that are in the case asked for. -/
def Js.plain : Js := ⟨id, id⟩

/-- `LocalPurchaseOrder`. -/
structure LocalPurchaseOrder where
  id : String
  poNumber : String
  /-- Supplier or brand label, whichever the order carries. -/
  vendor : Option String
  subtotalKes : ℚ
  /-- Nothing for an order never sent. -/
  sentAt : Option Time
  deriving DecidableEq, Repr

/-- `QuickBooksPurchaseOrder`. -/
structure QuickBooksPurchaseOrder where
  id : String
  docNumber : Option String
  totalAmt : Option ℚ
  txnDate : Option String
  vendorName : Option String
  deriving DecidableEq, Repr

/-- `QuickBooksMatch`. -/
structure QuickBooksMatch where
  localId : String
  qbId : String
  qbDocNumber : Option String
  deriving DecidableEq, Repr

/-- `QuickBooksSuggestion`. -/
structure QuickBooksSuggestion where
  localId : String
  qbId : String
  label : String
  reason : String
  deriving DecidableEq, Repr

/-- `MatchResult`. -/
structure MatchResult where
  confirmed : List QuickBooksMatch
  suggestions : List QuickBooksSuggestion
  phantoms : List LocalPurchaseOrder
  external : List QuickBooksPurchaseOrder
  deriving DecidableEq, Repr

/-- `MatchOptions`, with its defaults. -/
structure MatchOptions where
  phantomAfterDays : ℚ := 3
  amountTolerance : ℚ := 2 / 100
  now : Time

/-- A day, in milliseconds. -/
def DAY_MS : ℚ := 24 * 60 * 60 * 1000

/-- `text.replace(/\s+/g, " ")`. -/
def collapseSpaces (cs : List Char) : List Char :=
  cs.foldr (fun c out =>
    if isTrimmed c then if out.head? = some ' ' then out else ' ' :: out else c :: out) []

section Code

variable (js : Js)

/-- Compare document numbers the way people do: case and padding are noise. -/
def normalizeDocNumber (value : Option String) : Option String :=
  value.bind fun value =>
    let upper := js.toUpperCase (String.ofList (trimChars value.toList))
    let trimmed := String.ofList (upper.toList.filter fun c => !isTrimmed c)
    if value ≠ "" ∧ trimmed ≠ "" then some trimmed else none

/-- The same for suppliers, in lower case and with single spaces. -/
def normalizeVendor (value : Option String) : Option String :=
  value.bind fun value =>
    let lower := js.toLowerCase (String.ofList (trimChars value.toList))
    let trimmed := String.ofList (collapseSpaces lower.toList)
    if value ≠ "" ∧ trimmed ≠ "" then some trimmed else none

/-- Within a tolerance of each other, relative to the larger. -/
def amountsLookAlike (a b tolerance : ℚ) : Bool :=
  if a ≤ 0 ∨ b ≤ 0 then false else |a - b| ≤ max a b * tolerance

variable (options : MatchOptions)

/-- The document has an amount close to the order's, and its supplier if it has one. -/
def looksLike (order : LocalPurchaseOrder) (doc : QuickBooksPurchaseOrder) : Bool :=
  let vendor := normalizeVendor js order.vendor
  doc.totalAmt.any (fun amt => amountsLookAlike order.subtotalKes amt options.amountTolerance) &&
    (vendor = none || normalizeVendor js doc.vendorName = vendor)

/-- The suggestion that the document is the order. -/
def suggestion (order : LocalPurchaseOrder) (doc : QuickBooksPurchaseOrder) :
    QuickBooksSuggestion where
  localId := order.id
  qbId := doc.id
  label := doc.docNumber.getD doc.id
  reason := match doc.vendorName.filter (· ≠ "") with
    | some name => "same supplier and amount as " ++ name
    | none => "same amount"

/-- The order was sent long enough ago that a delay is not the explanation. -/
def overdue (order : LocalPurchaseOrder) : Bool :=
  order.sentAt.any fun sentAt =>
    options.phantomAfterDays * DAY_MS ≤ ((options.now - sentAt : ℤ) : ℚ)

/-- `byDocNumber`: the first document of every number. -/
def byDocNumber (remote : List QuickBooksPurchaseOrder) : List (String × QuickBooksPurchaseOrder) :=
  remote.foldl (fun map doc =>
    match normalizeDocNumber js doc.docNumber with
    | some key => if (map.lookup key).isNone then Series.setEntry map key doc else map
    | none => map) []

/-- What the pass over the orders carries along. -/
structure Matching where
  confirmed : List QuickBooksMatch := []
  suggestions : List QuickBooksSuggestion := []
  phantoms : List LocalPurchaseOrder := []
  claimed : List String := []

/-- One round of the pass. -/
def matchOrder (remote : List QuickBooksPurchaseOrder)
    (index : List (String × QuickBooksPurchaseOrder)) (st : Matching)
    (order : LocalPurchaseOrder) : Matching :=
  match (normalizeDocNumber js (some order.poNumber)).bind (List.lookup · index) with
  | some doc =>
      { st with
        confirmed := st.confirmed ++ [⟨order.id, doc.id, doc.docNumber⟩]
        claimed := st.claimed ++ [doc.id] }
  | none =>
      let lookalike := remote.find? fun doc =>
        !st.claimed.contains doc.id && looksLike js options order doc
      { st with
        suggestions := st.suggestions ++ (lookalike.map (suggestion order)).toList
        phantoms := if overdue options order then st.phantoms ++ [order] else st.phantoms }

/-- `matchPurchaseOrders`. -/
def matchPurchaseOrders (orders : List LocalPurchaseOrder)
    (remote : List QuickBooksPurchaseOrder) : MatchResult :=
  let index := byDocNumber js remote
  let st := orders.foldl (matchOrder js options remote index) {}
  { confirmed := st.confirmed
    suggestions := st.suggestions
    phantoms := st.phantoms
    external := remote.filter fun doc => !st.claimed.contains doc.id }

end Code

/-! ## What the index finds -/

section Index

variable (js : Js) (remote : List QuickBooksPurchaseOrder)

/-- The document carries the number of the order, up to case and spaces. -/
def Carries (doc : QuickBooksPurchaseOrder) (order : LocalPurchaseOrder) : Prop :=
  ∃ key, normalizeDocNumber js (some order.poNumber) = some key ∧
    normalizeDocNumber js doc.docNumber = some key

instance (doc : QuickBooksPurchaseOrder) (order : LocalPurchaseOrder) :
    Decidable (Carries js doc order) :=
  match h : normalizeDocNumber js (some order.poNumber) with
  | none => isFalse fun ⟨key, hkey, _⟩ => by rw [h] at hkey; cases hkey
  | some key => decidable_of_iff (normalizeDocNumber js doc.docNumber = some key)
      ⟨fun hdoc => ⟨key, h, hdoc⟩, fun ⟨_, hkey, hdoc⟩ => by rw [h] at hkey; cases hkey; exact hdoc⟩

/-- The first document that carries the number of the order. -/
def exactDocument (order : LocalPurchaseOrder) : Option QuickBooksPurchaseOrder :=
  remote.find? fun doc => Carries js doc order

/-- Looking a number up in an index that grows by documents of numbers it does not have. -/
theorem lookup_foldl_byDocNumber (map : List (String × QuickBooksPurchaseOrder)) (key : String) :
    (remote.foldl (fun map doc =>
      match normalizeDocNumber js doc.docNumber with
      | some key => if (map.lookup key).isNone then Series.setEntry map key doc else map
      | none => map) map).lookup key
      = (map.lookup key).or
          (remote.find? fun doc => normalizeDocNumber js doc.docNumber = some key) := by
  induction remote generalizing map with
  | nil => simp
  | cons doc remote ih =>
      rw [List.foldl_cons, ih]
      cases hdoc : normalizeDocNumber js doc.docNumber with
      | none => rw [List.find?_cons_of_neg (by simp [hdoc])]
      | some number =>
          by_cases hkey : key = number
          · subst hkey
            rw [List.find?_cons_of_pos (by simp [hdoc])]
            cases hmap : map.lookup key with
            | none => simp [hmap, Series.lookup_setEntry]
            | some first => simp [hmap]
          · rw [List.find?_cons_of_neg (by simpa [hdoc] using fun h => hkey h.symm)]
            dsimp only
            split
            · rw [Series.lookup_setEntry, if_neg hkey]
            · rfl

/-- The index finds the first document that carries the order's number. -/
theorem lookup_byDocNumber (order : LocalPurchaseOrder) :
    (normalizeDocNumber js (some order.poNumber)).bind (List.lookup · (byDocNumber js remote))
      = exactDocument js remote order := by
  unfold exactDocument
  cases hkey : normalizeDocNumber js (some order.poNumber) with
  | none =>
      refine (List.find?_eq_none.mpr fun doc _ h => ?_).symm
      obtain ⟨key, hsome, -⟩ := of_decide_eq_true h
      rw [hkey] at hsome
      cases hsome
  | some key =>
      rw [Option.bind_some, byDocNumber, lookup_foldl_byDocNumber, List.lookup_nil, Option.none_or]
      congr 1
      funext doc
      refine decide_eq_decide.mpr ⟨fun hdoc => ⟨key, hkey, hdoc⟩, ?_⟩
      rintro ⟨key', hkey', hdoc⟩
      rw [hkey] at hkey'
      cases hkey'
      exact hdoc

variable {js remote}

/-- What the index finds is a document with the order's number. -/
theorem exactDocument_eq_some {order : LocalPurchaseOrder} {doc : QuickBooksPurchaseOrder}
    (h : exactDocument js remote order = some doc) : doc ∈ remote ∧ Carries js doc order := by
  have hcarries := List.find?_some h
  exact ⟨List.mem_of_find?_eq_some h, of_decide_eq_true hcarries⟩

/-- The index finds nothing when no document carries the order's number. -/
theorem exactDocument_eq_none {order : LocalPurchaseOrder} :
    exactDocument js remote order = none ↔ ∀ doc ∈ remote, ¬ Carries js doc order := by
  rw [exactDocument, List.find?_eq_none]
  simp

end Index

/-! ## The lists in closed form -/

section ClosedForm

variable (js : Js) (options : MatchOptions) (remote : List QuickBooksPurchaseOrder)

/-- The confirmation of an order by the document with its number. -/
def confirmation (order : LocalPurchaseOrder) : Option QuickBooksMatch :=
  (exactDocument js remote order).map fun doc => ⟨order.id, doc.id, doc.docNumber⟩

/-- The documents that the orders claim. -/
def claims (orders : List LocalPurchaseOrder) : List String :=
  orders.filterMap fun order => (exactDocument js remote order).map (·.id)

/-- The document offered for an order that comes after some others. -/
def offered (before : List LocalPurchaseOrder) (order : LocalPurchaseOrder) :
    Option QuickBooksPurchaseOrder :=
  if (exactDocument js remote order).isSome then none
  else remote.find? fun doc =>
    !(claims js remote before).contains doc.id && looksLike js options order doc

/-- The state of the pass. -/
def passed (orders : List LocalPurchaseOrder) : Matching :=
  orders.foldl (matchOrder js options remote (byDocNumber js remote)) {}

/-- One more round of the pass. -/
theorem passed_concat (orders : List LocalPurchaseOrder) (order : LocalPurchaseOrder) :
    passed js options remote (orders ++ [order])
      = matchOrder js options remote (byDocNumber js remote) (passed js options remote orders)
          order := by
  rw [passed, List.foldl_append]
  rfl

/-- A round over an order whose number a document carries. -/
theorem matchOrder_of_some {st : Matching} {order : LocalPurchaseOrder}
    {doc : QuickBooksPurchaseOrder} (h : exactDocument js remote order = some doc) :
    matchOrder js options remote (byDocNumber js remote) st order
      = { st with
          confirmed := st.confirmed ++ [⟨order.id, doc.id, doc.docNumber⟩]
          claimed := st.claimed ++ [doc.id] } := by
  rw [matchOrder, lookup_byDocNumber, h]

/-- A round over an order whose number no document carries. -/
theorem matchOrder_of_none {st : Matching} {order : LocalPurchaseOrder}
    (h : exactDocument js remote order = none) :
    matchOrder js options remote (byDocNumber js remote) st order
      = { st with
          suggestions := st.suggestions ++ ((remote.find? fun doc =>
            !st.claimed.contains doc.id && looksLike js options order doc).map
              (suggestion order)).toList
          phantoms := if overdue options order then st.phantoms ++ [order] else st.phantoms } := by
  rw [matchOrder, lookup_byDocNumber, h]

/-- What the pass has confirmed, claimed and missed. -/
theorem passed_eq (orders : List LocalPurchaseOrder) :
    (passed js options remote orders).confirmed = orders.filterMap (confirmation js remote) ∧
    (passed js options remote orders).claimed = claims js remote orders ∧
    (passed js options remote orders).phantoms = orders.filter fun order =>
      (exactDocument js remote order).isNone && overdue options order := by
  induction orders using List.reverseRecOn with
  | nil => exact ⟨rfl, rfl, rfl⟩
  | append_singleton orders order ih =>
      obtain ⟨hconfirmed, hclaimed, hphantoms⟩ := ih
      rw [passed_concat]
      cases hdoc : exactDocument js remote order with
      | some doc =>
          rw [matchOrder_of_some js options remote hdoc]
          simp [claims, confirmation, hdoc, hconfirmed, hclaimed, hphantoms]
      | none =>
          rw [matchOrder_of_none js options remote hdoc]
          by_cases hover : overdue options order <;>
            simp [claims, confirmation, hdoc, hconfirmed, hclaimed, hphantoms, hover]

/-- What the pass has suggested: one document at most for every order, in the order's turn. -/
theorem mem_suggestions_passed (orders : List LocalPurchaseOrder) (s : QuickBooksSuggestion) :
    s ∈ (passed js options remote orders).suggestions ↔
      ∃ before order after, orders = before ++ order :: after ∧
        ∃ doc, offered js options remote before order = some doc ∧ s = suggestion order doc := by
  induction orders using List.reverseRecOn with
  | nil => simp [passed]
  | append_singleton orders order ih =>
      have hround : s ∈ (passed js options remote (orders ++ [order])).suggestions ↔
          s ∈ (passed js options remote orders).suggestions ∨
            ∃ doc, offered js options remote orders order = some doc ∧
              s = suggestion order doc := by
        rw [passed_concat, offered]
        cases hdoc : exactDocument js remote order with
        | some doc => simp [matchOrder_of_some js options remote hdoc]
        | none =>
            rw [matchOrder_of_none js options remote hdoc, (passed_eq js options remote orders).2.1]
            simp [eq_comm]
      rw [hround, ih]
      constructor
      · rintro (⟨before, order', after, rfl, hoffered⟩ | hoffered)
        · exact ⟨before, order', after ++ [order], by simp, hoffered⟩
        · exact ⟨orders, order, [], rfl, hoffered⟩
      · rintro ⟨before, order', after, heq, hoffered⟩
        rcases List.eq_nil_or_concat after with rfl | ⟨after, last, rfl⟩
        · obtain ⟨rfl, hlast⟩ := List.append_inj' heq rfl
          cases hlast
          exact Or.inr hoffered
        · rw [List.concat_eq_append, ← List.cons_append, ← List.append_assoc] at heq
          obtain ⟨rfl, -⟩ := List.append_inj' heq rfl
          exact Or.inl ⟨before, order', after, rfl, hoffered⟩

variable (orders : List LocalPurchaseOrder)

/-- Every order is confirmed by the document the index finds for it. -/
theorem confirmed_eq : (matchPurchaseOrders js options orders remote).confirmed
    = orders.filterMap (confirmation js remote) :=
  (passed_eq js options remote orders).1

/-- The phantoms are the overdue orders the index finds nothing for. -/
theorem phantoms_eq : (matchPurchaseOrders js options orders remote).phantoms
    = orders.filter fun order => (exactDocument js remote order).isNone && overdue options order :=
  (passed_eq js options remote orders).2.2

/-- External are the documents that no order claims. -/
theorem external_eq : (matchPurchaseOrders js options orders remote).external
    = remote.filter fun doc => !(claims js remote orders).contains doc.id := by
  rw [← (passed_eq js options remote orders).2.1]
  rfl

/-- The suggestions are the documents offered in the turns of the orders. -/
theorem mem_suggestions (s : QuickBooksSuggestion) :
    s ∈ (matchPurchaseOrders js options orders remote).suggestions ↔
      ∃ before order after, orders = before ++ order :: after ∧
        ∃ doc, offered js options remote before order = some doc ∧ s = suggestion order doc :=
  mem_suggestions_passed js options remote orders s

end ClosedForm

end Restock.Books
