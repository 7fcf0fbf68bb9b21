import Restock.Paging.Follow
import Restock.Shopify.OwnerDecisions

/-!
# A full pull

A full pull of the catalogue reads every page of the products and, of a product with more
variants than a page holds, every further page of its variants. What it has read is then taken
for the whole catalogue. The reader stops at a ceiling of pages without a word.

* `pageAll`, `fetchRemainingVariants`, `fetchProducts` — the code;
* `Listing` — what the store lists, page by page;
* `Listing.read` — what a pull reads of it: `fetchProducts_eq`;
* `fullPull_iff` — the reader returns everything or fails exactly when nothing is beyond its
  ceiling, and the pull stamps nothing the store still returns exactly when it has read every
  variant that could be stamped, and not on a gift card.
-/

namespace Restock.Shopify

open Store Paging

/-! ## The code -/

/-- The ceiling of the loops over pages. -/
def pageCeiling : ℕ := 1000

/-- `pageAll`. -/
def pageAll {E T : Type} (request : ℕ → Option String → Except E (Page T)) :
    Except E (List T) :=
  follow (fun i after => (request i after).map some) pageCeiling 0 none []

/-- A product as the query returns it, with the first page of its variants. -/
structure ProductEdge where
  node : ShopifyProductNode
  variantPage : PageInfo

/-- The client: what it answers to the i-th request of a loop. -/
structure ShopifyClient (E : Type) where
  /-- A page of the products, of those that changed since or of all. -/
  products : Option String → ℕ → Option String → Except E (Page ProductEdge)
  /-- A page of the variants of a product, which is the k-th that was read. -/
  variants : ℕ → String → ℕ → Option String → Except E (Option (Page ShopifyVariantNode))

section Code

variable {E : Type} (client : ShopifyClient E)

/-- The variants past the page the product query returned. -/
def fetchRemainingVariants (k : ℕ) (productGid cursor : String) :
    Except E (List ShopifyVariantNode) :=
  follow (client.variants k productGid) pageCeiling 0 (some cursor) []

/-- A product with all its variants. -/
def withAllVariants (edge : ProductEdge × ℕ) : Except E ShopifyProductNode :=
  match edge.1.variantPage.next with
  | none => .ok edge.1.node
  | some cursor =>
      match fetchRemainingVariants client edge.2 edge.1.node.id cursor with
      | .error e => .error e
      | .ok rest => .ok { edge.1.node with variants := edge.1.node.variants ++ rest }

/-- `fetchProducts`: since an instant, or all. -/
def fetchProducts (sinceIso : Option String) : Except E (List ShopifyProductNode) :=
  match pageAll (client.products sinceIso) with
  | .error e => .error e
  | .ok edges => edges.zipIdx.mapM (withAllVariants client)

/-- A full pull and its sync; a pull that fails writes nothing. -/
def fullPull (o : Outside) (t : Table Product) : Table Product :=
  match fetchProducts client none with
  | .error _ => t
  | .ok nodes => (syncProducts o true nodes t).2

end Code

/-! ## What the store lists -/

/-- What the store lists, where every cursor leads to the next page. -/
structure Listing where
  products : Option String → Page ProductEdge
  variants : String → Option String → Option (Page ShopifyVariantNode)
  /-- The pages of the products. -/
  pages : List (List ProductEdge)
  /-- The further pages of the variants of a product. -/
  rest : ProductEdge → List (List ShopifyVariantNode)
  isPages : Pages (fun after => some (products after)) none pages
  isRest : ∀ edge ∈ pages.flatten, ∀ cursor, edge.variantPage.next = some cursor →
    Pages (variants edge.node.id) (some cursor) (rest edge)
  noRest : ∀ edge ∈ pages.flatten, edge.variantPage.next = none →
    edge.variantPage.hasNextPage = false ∧ rest edge = []

/-- A client that answers what the store lists, where its requests do not fail. -/
def ShopifyClient.Lists {E : Type} (client : ShopifyClient E) (listing : Listing) : Prop :=
  Serves (fun i after => (client.products none i after).map some)
      (fun after => some (listing.products after)) ∧
    ∀ k productGid, Serves (client.variants k productGid) (listing.variants productGid)

namespace Listing

variable (listing : Listing)

/-- The store returns a variant. -/
def Returned (v : String) : Prop :=
  ∃ edge ∈ listing.pages.flatten,
    ∃ variant ∈ edge.node.variants ++ (listing.rest edge).flatten, variant.core = some v

/-- The products on the pages up to the ceiling. -/
def readEdges : List ProductEdge :=
  (listing.pages.take pageCeiling).flatten

/-- A product with the variants on the pages up to the ceiling. -/
def readNode (edge : ProductEdge) : ShopifyProductNode :=
  { edge.node with
    variants := edge.node.variants ++ ((listing.rest edge).take pageCeiling).flatten }

/-- What a pull reads. -/
def read : List ShopifyProductNode :=
  listing.readEdges.map listing.readNode

/-- A request of the pull fails. -/
def PullFails {E : Type} (client : ShopifyClient E) : Prop :=
  Fails (fun i after => (client.products none i after).map some)
      (fun after => some (listing.products after)) pageCeiling 0 none listing.pages ∨
    ∃ edge ∈ listing.readEdges.zipIdx, ∃ cursor, edge.1.variantPage.next = some cursor ∧
      Fails (client.variants edge.2 edge.1.node.id) (listing.variants edge.1.node.id)
        pageCeiling 0 (some cursor) (listing.rest edge.1)

end Listing

/-! ## The reader -/

section Reader

variable {E T : Type}

/-- A list of calls none of which fails. -/
theorem mapM_ok {A B : Type} {f : A → Except E B} {g : A → B} {l : List A}
    (h : ∀ a ∈ l, f a = .ok (g a)) : l.mapM f = .ok (l.map g) := by
  induction l with
  | nil => rfl
  | cons a l ih =>
      rw [List.forall_mem_cons] at h
      rw [List.mapM_cons, h.1, ih h.2]
      rfl

/-- A list of calls one of which fails. -/
theorem mapM_error {A B : Type} {f : A → Except E B} {l : List A} {a : A} (ha : a ∈ l)
    (h : ∃ e, f a = .error e) : ∃ e, l.mapM f = .error e := by
  induction l with
  | nil => cases ha
  | cons b l ih =>
      rw [List.mapM_cons]
      cases hb : f b with
      | error e => exact ⟨e, rfl⟩
      | ok y =>
          rcases List.mem_cons.mp ha with rfl | ha
          · obtain ⟨e, he⟩ := h
            rw [hb] at he
            cases he
          · obtain ⟨e, he⟩ := ih ha
            exact ⟨e, by rw [he]; rfl⟩

/-- The reader returns all pages or fails exactly when there is nothing on the pages beyond its
ceiling, or one of its requests fails. -/
theorem pageAll_iff {request : ℕ → Option String → Except E (Page T)}
    {store : Option String → Page T} {pages : List (List T)}
    (hserves : Serves (fun i after => (request i after).map some) fun after => some (store after))
    (hpages : Pages (fun after => some (store after)) none pages) :
    (pageAll request = .ok pages.flatten ∨ ∃ e, pageAll request = .error e) ↔
      (pages.drop pageCeiling).flatten = [] ∨
        Fails (fun i after => (request i after).map some) (fun after => some (store after))
          pageCeiling 0 none pages := by
  by_cases hfails : Fails (fun i after => (request i after).map some)
      (fun after => some (store after)) pageCeiling 0 none pages
  · exact iff_of_true (Or.inr (follow_of_fails hserves hpages _ _ _ hfails)) (Or.inr hfails)
  · have hread : pageAll request = .ok (pages.take pageCeiling).flatten :=
      follow_eq hserves hpages pageCeiling 0 [] hfails
    have hsplit : pages.flatten
        = (pages.take pageCeiling).flatten ++ (pages.drop pageCeiling).flatten := by
      rw [← List.flatten_append, List.take_append_drop]
    rw [hread, or_iff_left hfails, or_iff_left nofun, hsplit, Except.ok.injEq,
      List.self_eq_append_right]

variable {client : ShopifyClient E} {listing : Listing}

/-- What is read is on the pages. -/
theorem mem_pages_of_mem_readEdges {edge : ProductEdge} (h : edge ∈ listing.readEdges) :
    edge ∈ listing.pages.flatten := by
  obtain ⟨page, hpage, hin⟩ := List.mem_flatten.mp h
  exact List.mem_flatten.mpr ⟨page, List.mem_of_mem_take hpage, hin⟩

/-- A pull none of whose requests fails has read the pages up to the ceiling. -/
theorem fetchProducts_eq (hclient : client.Lists listing) (h : ¬ listing.PullFails client) :
    fetchProducts client none = .ok listing.read := by
  obtain ⟨hproducts, hvariants⟩ := not_or.mp h
  have hedges : pageAll (client.products none) = .ok listing.readEdges :=
    follow_eq hclient.1 listing.isPages pageCeiling 0 [] hproducts
  have hnode : ∀ edge ∈ listing.readEdges.zipIdx,
      withAllVariants client edge = .ok (listing.readNode edge.1) := by
    intro edge hedge
    have hmem := mem_pages_of_mem_readEdges (List.fst_mem_of_mem_zipIdx hedge)
    rw [withAllVariants]
    cases hnext : edge.1.variantPage.next with
    | none => simp [Listing.readNode, (listing.noRest edge.1 hmem hnext).2]
    | some cursor =>
        have hrest : fetchRemainingVariants client edge.2 edge.1.node.id cursor
            = .ok ((listing.rest edge.1).take pageCeiling).flatten :=
          follow_eq (hclient.2 edge.2 edge.1.node.id) (listing.isRest edge.1 hmem cursor hnext)
            pageCeiling 0 [] fun hf => hvariants ⟨edge, hedge, cursor, hnext, hf⟩
        simp only [hrest]
        rfl
  rw [fetchProducts, hedges]
  dsimp only
  rw [mapM_ok hnode, Listing.read]
  congr 1
  rw [show (fun edge : ProductEdge × ℕ => listing.readNode edge.1)
      = listing.readNode ∘ Prod.fst from rfl, ← List.map_map, List.zipIdx_map_fst]

/-- A pull one of whose requests fails does so too. -/
theorem fetchProducts_of_fails (hclient : client.Lists listing) (h : listing.PullFails client) :
    ∃ e, fetchProducts client none = .error e := by
  rw [fetchProducts]
  by_cases hproducts : Fails (fun i after => (client.products none i after).map some)
      (fun after => some (listing.products after)) pageCeiling 0 none listing.pages
  · obtain ⟨e, he⟩ := follow_of_fails hclient.1 listing.isPages pageCeiling 0 [] hproducts
    have hpages : pageAll (client.products none) = .error e := he
    exact ⟨e, by rw [hpages]⟩
  · have hedges : pageAll (client.products none) = .ok listing.readEdges :=
      follow_eq hclient.1 listing.isPages pageCeiling 0 [] hproducts
    obtain ⟨edge, hedge, cursor, hnext, hfails⟩ := h.resolve_left hproducts
    have hmem := mem_pages_of_mem_readEdges (List.fst_mem_of_mem_zipIdx hedge)
    rw [hedges]
    refine mapM_error hedge ?_
    obtain ⟨e, he⟩ := follow_of_fails (hclient.2 edge.2 edge.1.node.id)
      (listing.isRest edge.1 hmem cursor hnext) pageCeiling 0 [] hfails
    have hrest : fetchRemainingVariants client edge.2 edge.1.node.id cursor = .error e := he
    exact ⟨e, by rw [withAllVariants, hnext]; dsimp only; rw [hrest]⟩

/-- The rows that a full pull stamps. -/
theorem stamped_fullPull_iff (hclient : client.Lists listing) (o : Outside) (t : Table Product)
    (id : ProductId) :
    Stamped t (fullPull client o t) id ↔
      ¬ listing.PullFails client ∧ listing.read ≠ [] ∧ ¬ AllFail o listing.read ∧
        ∃ r ∈ t.rows, r.id = id ∧
          StampedBy (listing.read.flatMap ShopifyProductNode.cores) r := by
  rw [fullPull]
  by_cases hfails : listing.PullFails client
  · obtain ⟨e, he⟩ := fetchProducts_of_fails hclient hfails
    rw [he]
    exact iff_of_false (not_stamped_of_pulled (.refl t []) id) fun h => h.1 hfails
  · rw [fetchProducts_eq hclient hfails]
    dsimp only
    rw [stamped_syncProducts_iff]
    simp [hfails]

/-- The pull stamps no row of a variant that the store still returns. -/
def StampsNoReturned (client : ShopifyClient E) (listing : Listing) (o : Outside)
    (t : Table Product) : Prop :=
  ∀ r ∈ t.rows, Stamped t (fullPull client o t) r.id →
    ∀ v, r.shopifyVariantId = some v → ¬ listing.Returned v

/-- Every variant the store returns whose row could be stamped is read, and not on a gift
card. -/
def ReadsReturned (listing : Listing) (t : Table Product) : Prop :=
  ∀ r ∈ t.rows, r.source = "shopify" → r.missingFromShopifyAt = none →
    ∀ v, r.shopifyVariantId = some v → listing.Returned v →
      v ∈ listing.read.flatMap ShopifyProductNode.cores

/-- A pull stamps no row of a variant the store still returns exactly when it fails, has nothing
to write or fails to write it all, or has read every such variant. -/
theorem stampsNoReturned_iff (hclient : client.Lists listing) (o : Outside) (t : Table Product) :
    StampsNoReturned client listing o t ↔
      listing.PullFails client ∨ listing.read = [] ∨ AllFail o listing.read ∨
        ReadsReturned listing t := by
  constructor
  · intro h
    by_contra hnot
    obtain ⟨hfails, hempty, hall, hreads⟩ :
        ¬ listing.PullFails client ∧ listing.read ≠ [] ∧ ¬ AllFail o listing.read ∧
          ¬ ReadsReturned listing t := by
      simpa only [not_or] using hnot
    refine hreads fun r hr hsource hmissing v hv hreturned => ?_
    by_contra hunread
    have hstamped := (stamped_fullPull_iff hclient o t r.id).mpr
      ⟨hfails, hempty, hall, r, hr, rfl, hsource, ⟨v, hv, hunread⟩, hmissing⟩
    exact h r hr hstamped v hv hreturned
  · intro h r hr hstamped v hv hreturned
    obtain ⟨hfails, hempty, hall, r', hr', hid, hsource, ⟨v', hv', hunread⟩, hmissing⟩ :=
      (stamped_fullPull_iff hclient o t r.id).mp hstamped
    obtain rfl : r' = r := Table.eq_of_key_eq hr' hr hid
    obtain rfl := Option.some.inj (hv.symm.trans hv')
    rcases h with h | h | h | h
    · exact hfails h
    · exact hempty h
    · exact hall h
    · exact hunread (h r' hr' hsource hmissing v hv hreturned)

/-- The reader returns all pages or fails exactly when nothing is on the pages beyond its ceiling
or one of its requests fails; and a full pull stamps no row of a variant the store still returns
exactly when it fails, has nothing to write or fails to write it all, or has read every such
variant. -/
theorem fullPull_iff {request : ℕ → Option String → Except E (Page T)}
    {store : Option String → Page T} {pages : List (List T)}
    (hserves : Serves (fun i after => (request i after).map some) fun after => some (store after))
    (hpages : Pages (fun after => some (store after)) none pages)
    (hclient : client.Lists listing) (o : Outside) (t : Table Product) :
    ((pageAll request = .ok pages.flatten ∨ ∃ e, pageAll request = .error e) ↔
      (pages.drop pageCeiling).flatten = [] ∨
        Fails (fun i after => (request i after).map some) (fun after => some (store after))
          pageCeiling 0 none pages) ∧
    (StampsNoReturned client listing o t ↔
      listing.PullFails client ∨ listing.read = [] ∨ AllFail o listing.read ∨
        ReadsReturned listing t) :=
  ⟨pageAll_iff hserves hpages, stampsNoReturned_iff hclient o t⟩

end Reader

/-! ## A short listing -/

/-- A product of one variant. -/
def shampooEdge : ProductEdge where
  node := { id := "101", variants := [{ id := some "201" }] }
  variantPage := ⟨false, none⟩

/-- The page of that product. -/
def shampooPage : Page ProductEdge where
  nodes := [shampooEdge]
  pageInfo := ⟨false, none⟩

/-- A store with that product only. -/
def shampooListing : Listing where
  products _ := shampooPage
  variants _ _ := none
  pages := [shampooPage.nodes]
  rest _ := []
  isPages := .last rfl rfl
  isRest edge hedge cursor hnext := by
    obtain rfl := List.mem_singleton.mp hedge
    cases hnext
  noRest edge hedge _ := by
    obtain rfl := List.mem_singleton.mp hedge
    exact ⟨rfl, rfl⟩

/-- A client that never fails. -/
def shampooClient : ShopifyClient Unit where
  products _ _ after := .ok (shampooListing.products after)
  variants _ _ _ _ := .ok none

/-- The listing is read whole, and the row of its variant is not stamped. -/
theorem shampooListing_read :
    (pageAll (shampooClient.products none) = .ok [shampooEdge] ∨
      ∃ e, pageAll (shampooClient.products none) = .error e) ∧
    StampsNoReturned shampooClient shampooListing .quiet
      ⟨[{ id := 1, shopifyVariantId := some "201" }], List.nodup_singleton _⟩ := by
  have hserves : Serves (fun i after => (shampooClient.products none i after).map some)
      fun after => some (shampooListing.products after) := fun _ _ => Or.inr rfl
  have hclient : shampooClient.Lists shampooListing :=
    ⟨hserves, fun _ _ _ _ => Or.inr rfl⟩
  have hiff := fullPull_iff hserves shampooListing.isPages hclient .quiet
    ⟨[{ id := 1, shopifyVariantId := some "201" }], List.nodup_singleton _⟩
  refine ⟨hiff.1.mpr (Or.inl rfl), hiff.2.mpr (Or.inr (Or.inr (Or.inr ?_)))⟩
  intro r hr _ _ v hv _
  obtain rfl := List.mem_singleton.mp hr
  obtain rfl := Option.some.inj hv
  decide +kernel

/-! ## A long listing -/

/-- The cursor of the n-th page. -/
def pageCursor (n : ℕ) : String :=
  String.ofList (List.replicate n 'x')

/-- The pages 0, …, last, each with its number. -/
def numbered (last : ℕ) (after : Option String) : Page ℕ :=
  let n := (after.map String.length).getD 0
  { nodes := [n], pageInfo := ⟨n < last, some (pageCursor (n + 1))⟩ }

/-- The page at a cursor. -/
theorem numbered_pageCursor (last n : ℕ) :
    numbered last (some (pageCursor n))
      = { nodes := [n], pageInfo := ⟨n < last, some (pageCursor (n + 1))⟩ } := by
  simp [numbered, pageCursor]

/-- The pages from the n-th on. -/
theorem pages_numbered (last : ℕ) :
    ∀ k n, n + k = last → Pages (fun after => some (numbered last after)) (some (pageCursor n))
      ((List.range' n (k + 1)).map fun n => [n]) := by
  intro k
  induction k with
  | zero =>
      rintro n rfl
      have hpage := numbered_pageCursor n n
      have hlast : (numbered n (some (pageCursor n))).pageInfo.hasNextPage = false := by
        rw [hpage]
        exact decide_eq_false (Nat.lt_irrefl n)
      have hpages : Pages (fun after => some (numbered n after)) (some (pageCursor n))
          [(numbered n (some (pageCursor n))).nodes] := .last rfl hlast
      rwa [hpage] at hpages
  | succ k ih =>
      intro n hn
      have hnext : (⟨n < last, some (pageCursor (n + 1))⟩ : PageInfo).next
          = some (pageCursor (n + 1)) := by
        have hlt : n < last := by omega
        have hne : pageCursor (n + 1) ≠ "" := by
          simp [pageCursor, List.replicate_succ]
        simp [PageInfo.next, hlt, hne]
      exact .next (congrArg some (numbered_pageCursor last n)) hnext (ih (n + 1) (by omega))

/-- A listing of 1001 pages is read without the last one, and without a failure. -/
theorem longListing_truncated :
    ¬ ∀ (E T : Type) (request : ℕ → Option String → Except E (Page T))
      (store : Option String → Page T) (pages : List (List T)),
      Serves (fun i after => (request i after).map some) (fun after => some (store after)) →
      Pages (fun after => some (store after)) none pages →
      (pageAll request = .ok pages.flatten ∨ ∃ e, pageAll request = .error e) := by
  intro hall
  let request : ℕ → Option String → Except Unit (Page ℕ) := fun _ after =>
    .ok (numbered pageCeiling after)
  have hserves : Serves (fun i after => (request i after).map some)
      fun after => some (numbered pageCeiling after) := fun _ _ => Or.inr rfl
  have hrest := pages_numbered pageCeiling (pageCeiling - 1) 1 rfl
  have hpages : Pages (fun after => some (numbered pageCeiling after)) none
      ([0] :: (List.range' 1 pageCeiling).map fun n => [n]) :=
    .next rfl (by decide) hrest
  rcases (pageAll_iff hserves hpages).mp (hall _ _ request _ _ hserves hpages) with hdrop | hfails
  · have hlast : 1000 ∈ (([0] :: (List.range' 1 pageCeiling).map fun n => [n]).drop
        pageCeiling).flatten := by
      rw [pageCeiling, List.drop_succ_cons, ← List.map_drop, List.drop_range']
      simp
    rw [hdrop] at hlast
    cases hlast
  · obtain ⟨k, -, -, e, he⟩ := hfails
    cases he

end Restock.Shopify
