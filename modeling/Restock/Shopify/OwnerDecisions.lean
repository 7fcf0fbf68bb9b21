import Restock.Shopify.Products

/-!
# What the owner has decided

The catalogue sync and the cost sync write over the rows of the store's variants, in any order
and any number of times, and any of their writes may fail. What the owner decided stays: the
cost they typed, and that they go on ordering a variant the store has stopped selling. And a
row is stamped as missing only by a full pull that did not see its variant.

* `Follows`, `Pulled` — what a sync that has seen some variants makes of a row, and of a table;
* `Synced` — the same of the loops, with their counts: `synced_syncVariant`, `synced_upsertAll`;
* `stamped_syncProducts_iff` — the rows a sync stamps;
* `ownerDecisions_kept` — of any sequence of syncs.
-/

namespace Restock.Shopify

open Store

/-- What a sync that has seen some variants makes of a row. -/
structure Follows (seen : List String) (r r' : Product) : Prop where
  id : r'.id = r.id
  variantId : r'.shopifyVariantId = r.shopifyVariantId
  source : r'.source = r.source
  activeOverride : r'.activeOverride = r.activeOverride
  /-- A cost the owner typed stays. -/
  cost : r.costSource = some "manual" →
    r'.costKes = r.costKes ∧ r'.costSource = some "manual"
  /-- A row the owner goes on ordering is not put off sale. -/
  status : r.activeOverride = true →
    r'.shopifyStatus = r.shopifyStatus ∨ notSelling r'.shopifyStatus = false
  missing : r'.missingFromShopifyAt = r.missingFromShopifyAt ∨ r'.missingFromShopifyAt = none
  /-- A row whose variant was not seen stays as it is. -/
  unseen : (∀ v ∈ seen, r.shopifyVariantId ≠ some v) → r' = r

/-- A row that a sync has created for a variant it has seen. -/
def Fresh (seen : List String) (r : Product) : Prop :=
  r.missingFromShopifyAt = none ∧ ∃ v ∈ seen, r.shopifyVariantId = some v

/-- What a sync that has seen some variants makes of a table. -/
structure Pulled (t : Table Product) (seen : List String) (t' : Table Product) : Prop where
  /-- Every row is still there. -/
  kept : ∀ r ∈ t.rows, ∃ r' ∈ t'.rows, Follows seen r r'
  /-- Every row was there, or was created. -/
  known : ∀ r' ∈ t'.rows, (∃ r ∈ t.rows, Follows seen r r') ∨ Fresh seen r'

section Pull

variable {seen : List String} {r r' : Product} {t t' : Table Product}

/-- Nothing has been seen yet. -/
theorem Follows.refl (seen : List String) (r : Product) : Follows seen r r :=
  ⟨rfl, rfl, rfl, rfl, fun h => ⟨rfl, h⟩, fun _ => Or.inl rfl, Or.inl rfl, fun _ => rfl⟩

/-- Seeing more promises less. -/
theorem Follows.mono (h : Follows seen r r') (v : String) : Follows (seen ++ [v]) r r' where
  __ := h
  unseen hnot := h.unseen fun v' hv' => hnot v' (List.mem_append_left _ hv')

theorem Fresh.mono (h : Fresh seen r) (v : String) : Fresh (seen ++ [v]) r := by
  obtain ⟨hmissing, v', hv', heq⟩ := h
  exact ⟨hmissing, v', List.mem_append_left _ hv', heq⟩

/-- Before anything has been seen. -/
theorem Pulled.refl (t : Table Product) (seen : List String) : Pulled t seen t :=
  ⟨fun r hr => ⟨r, hr, .refl seen r⟩, fun r hr => Or.inl ⟨r, hr, .refl seen r⟩⟩

/-- Seeing a variant without a write. -/
theorem Pulled.mono (h : Pulled t seen t') (v : String) : Pulled t (seen ++ [v]) t' where
  kept r hr := by
    obtain ⟨r', hr', hf⟩ := h.kept r hr
    exact ⟨r', hr', hf.mono v⟩
  known r' hr' := by
    rcases h.known r' hr' with ⟨r, hr, hf⟩ | hfresh
    · exact Or.inl ⟨r, hr, hf.mono v⟩
    · exact Or.inr (hfresh.mono v)

/-- A write on the rows of a variant that follows what they said. -/
theorem Pulled.update (h : Pulled t seen t') (v : String) {f : Product → Product}
    (hf : ∀ p, (f p).id = p.id)
    (hfollows : ∀ r ∈ t.rows, ∀ r', Follows seen r r' → r.shopifyVariantId = some v →
      Follows (seen ++ [v]) r (f r'))
    (hfresh : ∀ r', Fresh seen r' → r'.shopifyVariantId = some v → Fresh (seen ++ [v]) (f r')) :
    Pulled t (seen ++ [v]) (t'.update (ofVariant v) f) := by
  have hrows := Table.rows_update t' (ofVariant v) hf
  have hcase : ∀ r ∈ t.rows, ∀ r', Follows seen r r' →
      Follows (seen ++ [v]) r (if ofVariant v r' then f r' else r') := by
    intro r hr r' hfol
    split
    · rename_i hv
      exact hfollows r hr r' hfol (hfol.variantId.symm.trans (of_decide_eq_true hv))
    · exact hfol.mono v
  constructor
  · intro r hr
    obtain ⟨r', hr', hfol⟩ := h.kept r hr
    refine ⟨_, ?_, hcase r hr r' hfol⟩
    rw [hrows]
    exact List.mem_map_of_mem hr'
  · intro r'' hr''
    rw [hrows] at hr''
    obtain ⟨r', hr', rfl⟩ := List.mem_map.mp hr''
    rcases h.known r' hr' with ⟨r, hr, hfol⟩ | hnew
    · exact Or.inl ⟨r, hr, hcase r hr r' hfol⟩
    · right
      split
      · rename_i hv
        exact hfresh r' hnew (of_decide_eq_true hv)
      · exact hnew.mono v

/-- A row that is created for a variant. -/
theorem Pulled.insert (h : Pulled t seen t') {v : String} {created : Product}
    (hcreated : created.missingFromShopifyAt = none ∧ created.shopifyVariantId = some v) :
    Pulled t (seen ++ [v]) (t'.insert created) where
  kept r hr := by
    obtain ⟨r', hr', hf⟩ := h.kept r hr
    exact ⟨r', Table.mem_insert_of_mem hr', hf.mono v⟩
  known r' hr' := by
    rcases Table.mem_insert hr' with hr' | rfl
    · exact (h.mono v).known r' hr'
    · exact Or.inr ⟨hcreated.1, v, by simp, hcreated.2⟩

end Pull

/-! ## One variant -/

section Variant

variable (o : Outside) {existing : List Product} {seen : List String} {t t' : Table Product}

/-- The rows before the sync that have a variant id. -/
theorem mem_existing {r : Product} {v : String} (hr : r ∈ t.rows)
    (hv : r.shopifyVariantId = some v) :
    r ∈ (t.rows.filter fun p => p.shopifyVariantId.isSome).filter
      fun p => p.shopifyVariantId = some v := by
  simp [hr, hv]

/-- A row that has a cost of the owner pins the cost of its variant. -/
theorem costToWrite_of_manual {r : Product} {v : String} (hr : r ∈ t.rows)
    (hv : r.shopifyVariantId = some v) (hmanual : r.costSource = some "manual")
    (variant : ShopifyVariantNode) :
    costToWrite o (knownOf (t.rows.filter fun p => p.shopifyVariantId.isSome) v) variant = none :=
  if_pos (List.any_eq_true.mpr ⟨r, mem_existing hr hv, by simp [hmanual]⟩)

/-- A row that the owner goes on ordering is not put off sale. -/
theorem statusToWrite_of_keptActive {r : Product} {v : String} (hr : r ∈ t.rows)
    (hv : r.shopifyVariantId = some v) (hkept : r.activeOverride = true)
    (node : ShopifyProductNode) :
    ∀ status ∈ statusToWrite (knownOf (t.rows.filter fun p => p.shopifyVariantId.isSome) v) node,
      notSelling status.name = false := by
  have hactive : (knownOf (t.rows.filter fun p => p.shopifyVariantId.isSome) v).keptActive :=
    List.any_eq_true.mpr ⟨r, mem_existing hr hv, by simp [hkept]⟩
  intro status hstatus
  rw [statusToWrite, Option.mem_def] at hstatus
  split at hstatus
  · cases hstatus
  · rename_i hsells
    obtain rfl := Option.some.inj hstatus
    have hnot : productStatusOf node.status ∉ NOT_SELLING_STATUSES := fun hmem =>
      hsells ⟨hmem, hactive⟩
    revert hnot
    cases productStatusOf node.status <;> decide

/-- What the store writes over a row follows the owner's decisions. -/
theorem Follows.written {r r' : Product} {v : String} (h : Follows seen r r') (hr : r ∈ t.rows)
    (hv : r.shopifyVariantId = some v) (node : ShopifyProductNode)
    (variant : ShopifyVariantNode) :
    let known := knownOf (t.rows.filter fun p => p.shopifyVariantId.isSome) v
    Follows (seen ++ [v]) r { r'.written o known node variant with lastSynced := o.now } where
  id := h.id
  variantId := h.variantId
  source := h.source
  activeOverride := h.activeOverride
  cost hmanual := by
    obtain ⟨hcost, hsource⟩ := h.cost hmanual
    have hnone := costToWrite_of_manual o hr hv hmanual variant
    simp [Product.written, hnone, hcost, hsource]
  status hkept := by
    have hsells := statusToWrite_of_keptActive hr hv hkept node
    cases hwrite : statusToWrite (knownOf (t.rows.filter fun p => p.shopifyVariantId.isSome) v)
        node with
    | none =>
        simp only [Product.written, hwrite, Option.map_none, Option.getD_none]
        exact h.status hkept
    | some status =>
        simp only [Product.written, hwrite, Option.map_some, Option.getD_some]
        exact Or.inr (hsells status hwrite)
  missing := Or.inr rfl
  unseen hnot := absurd hv (hnot v (by simp))

/-- The upsert of a variant follows what its rows said. -/
theorem pulled_upsertVariant (h : Pulled t seen t') (node : ShopifyProductNode)
    (variant : ShopifyVariantNode) (v : String) :
    Pulled t (seen ++ [v]) (upsertVariant o
      (knownOf (t.rows.filter fun p => p.shopifyVariantId.isSome) v) node variant v t') := by
  rw [upsertVariant]
  split
  · exact h.update v (fun _ => rfl) (fun r hr r' hf hv => hf.written o hr hv node variant)
      fun r' hfresh hv => ⟨rfl, v, by simp, hv⟩
  · exact h.insert ⟨rfl, rfl⟩

/-- A failure that is recorded follows what the rows said. -/
theorem pulled_recordFailure (h : Pulled t seen t') (message : Json.Text) (v : String) :
    Pulled t (seen ++ [v]) (recordFailure o message v t') := by
  refine h.update v (fun _ => rfl) (fun r hr r' hf hv => ?_) fun r' hfresh hv => ?_
  · exact ⟨hf.id, hf.variantId, hf.source, hf.activeOverride, hf.cost, hf.status, hf.missing,
      fun hnot => absurd hv (hnot v (by simp))⟩
  · exact ⟨hfresh.1, v, by simp, hv⟩

/-- What the sync leaves and has counted: the table follows the one before, and as many upserts
have succeeded and failed as variants were seen, with none written only if all have failed. -/
structure Synced (t : Table Product) (s : ProductSync) : Prop where
  pulled : Pulled t s.seen s.products
  counted : s.written + s.failed = s.seen.length
  failed : s.written = 0 ↔ ∀ n < s.seen.length, (o.failure n).isSome

/-- One more variant has been seen. -/
theorem forall_lt_concat (v : String) :
    (∀ n < (seen ++ [v]).length, (o.failure n).isSome) ↔
      (∀ n < seen.length, (o.failure n).isSome) ∧ (o.failure seen.length).isSome := by
  rw [List.length_append, List.length_singleton]
  constructor
  · exact fun h => ⟨fun n hn => h n (Nat.lt_succ_of_lt hn), h _ (Nat.lt_succ_self _)⟩
  · rintro ⟨h, hlast⟩ n hn
    rcases Nat.lt_succ_iff_lt_or_eq.mp hn with hn | rfl
    · exact h n hn
    · exact hlast

/-- The sync of a variant. -/
theorem synced_syncVariant {s : ProductSync} (h : Synced o t s) (node : ShopifyProductNode)
    (variant : ShopifyVariantNode) :
    Synced o t (syncVariant o (t.rows.filter fun p => p.shopifyVariantId.isSome) node s variant) ∧
      (syncVariant o (t.rows.filter fun p => p.shopifyVariantId.isSome) node s variant).seen
        = s.seen ++ variant.core.toList := by
  unfold syncVariant
  cases hcore : variant.core with
  | none => exact ⟨h, by simp⟩
  | some v =>
      have hn : s.written + s.failed = s.seen.length := h.counted
      dsimp only
      cases hfailure : o.failure (s.written + s.failed) with
      | some message =>
          rw [hn] at hfailure
          refine ⟨⟨?_, ?_, ?_⟩, rfl⟩
          · dsimp only
            split
            · exact h.pulled.mono v
            · exact pulled_recordFailure o h.pulled message v
          · simp [← h.counted, Nat.add_assoc]
          · rw [forall_lt_concat, hfailure, h.failed]
            simp
      | none =>
          rw [hn] at hfailure
          refine ⟨⟨pulled_upsertVariant o h.pulled node variant v, ?_, ?_⟩, rfl⟩
          · simp [← h.counted, Nat.add_right_comm]
          · rw [forall_lt_concat, hfailure]
            simp

/-- The sync of the variants of a node. -/
theorem synced_variants (node : ShopifyProductNode) (variants : List ShopifyVariantNode)
    {s : ProductSync} (h : Synced o t s) :
    Synced o t (variants.foldl
        (syncVariant o (t.rows.filter fun p => p.shopifyVariantId.isSome) node) s) ∧
      (variants.foldl (syncVariant o (t.rows.filter fun p => p.shopifyVariantId.isSome) node)
        s).seen = s.seen ++ variants.filterMap ShopifyVariantNode.core := by
  induction variants generalizing s with
  | nil => exact ⟨h, by simp⟩
  | cons variant variants ih =>
      obtain ⟨hstep, hseen⟩ := synced_syncVariant o h node variant
      obtain ⟨hrest, hrestSeen⟩ := ih hstep
      refine ⟨hrest, ?_⟩
      rw [List.foldl_cons, hrestSeen, hseen, List.append_assoc, List.filterMap_cons]
      cases variant.core <;> rfl

/-- The sync of some nodes. -/
theorem synced_nodes (nodes : List ShopifyProductNode) {s : ProductSync} (h : Synced o t s) :
    Synced o t (nodes.foldl (syncNode o (t.rows.filter fun p => p.shopifyVariantId.isSome)) s) ∧
      (nodes.foldl (syncNode o (t.rows.filter fun p => p.shopifyVariantId.isSome)) s).seen
        = s.seen ++ nodes.flatMap ShopifyProductNode.cores := by
  induction nodes generalizing s with
  | nil => exact ⟨h, by simp⟩
  | cons node nodes ih =>
      have hnode : Synced o t
            (syncNode o (t.rows.filter fun p => p.shopifyVariantId.isSome) s node) ∧
          (syncNode o (t.rows.filter fun p => p.shopifyVariantId.isSome) s node).seen
            = s.seen ++ node.cores := by
        rw [syncNode, ShopifyProductNode.cores]
        split
        · exact ⟨h, by simp⟩
        · exact synced_variants o node node.variants h
      obtain ⟨hrest, hseen⟩ := ih hnode.1
      refine ⟨hrest, ?_⟩
      rw [List.foldl_cons, hseen, hnode.2, List.append_assoc, List.flatMap_cons]

/-- The upserts of a pull follow what the rows said, and see the variants of its nodes. -/
theorem synced_upsertAll (nodes : List ShopifyProductNode) (t : Table Product) :
    Synced o t (upsertAll o nodes t) ∧
      (upsertAll o nodes t).seen = nodes.flatMap ShopifyProductNode.cores := by
  have hstart : Synced o t { products := t } := by
    refine ⟨.refl t [], rfl, iff_of_true rfl fun n hn => ?_⟩
    exact absurd hn (Nat.not_lt_zero n)
  obtain ⟨hsynced, hseen⟩ := synced_nodes o nodes hstart
  exact ⟨hsynced, hseen.trans (List.nil_append _)⟩

end Variant

/-! ## A sync -/

section Sync

variable (o : Outside)

/-- Every upsert of a pull fails, and there is one. -/
def AllFail (nodes : List ShopifyProductNode) : Prop :=
  nodes.flatMap ShopifyProductNode.cores ≠ [] ∧
    ∀ n < (nodes.flatMap ShopifyProductNode.cores).length, (o.failure n).isSome

/-- A sync throws exactly when there are upserts and all of them fail. -/
theorem allFail_iff (nodes : List ShopifyProductNode) (t : Table Product) :
    (0 < (upsertAll o nodes t).failed ∧ (upsertAll o nodes t).written = 0) ↔ AllFail o nodes := by
  obtain ⟨hsynced, hseen⟩ := synced_upsertAll o nodes t
  have hcount := hsynced.counted
  have hfailed := hsynced.failed
  rw [hseen] at hcount hfailed
  rw [AllFail, ← hfailed, ← List.length_pos_iff]
  omega

/-- The stamp of a row: the store's, of a variant that was not seen, and not stamped yet. -/
def StampedBy (seen : List String) (r : Product) : Prop :=
  r.source = "shopify" ∧ (∃ v, r.shopifyVariantId = some v ∧ v ∉ seen) ∧
    r.missingFromShopifyAt = none

/-- The rows after the stamp. -/
theorem mem_stampMissing {seen : List String} {t : Table Product} {r' : Product} :
    r' ∈ (stampMissing o seen t).rows ↔
      ∃ r ∈ t.rows, (StampedBy seen r ∧ r' = { r with missingFromShopifyAt := some o.now }) ∨
        (¬ StampedBy seen r ∧ r' = r) := by
  have hselected : ∀ r : Product, (r.source = "shopify" ∧ r.shopifyVariantId.any (· ∉ seen) ∧
      r.missingFromShopifyAt = none) ↔ StampedBy seen r := fun r => by
    simp [StampedBy, Option.any_eq_true]
  have hkey : ∀ r : Product,
      Keyed.key { r with missingFromShopifyAt := some o.now } = Keyed.key r := fun _ => rfl
  rw [stampMissing, Table.rows_update _ _ hkey, List.mem_map]
  refine exists_congr fun r => and_congr_right fun _ => ?_
  by_cases h : StampedBy seen r
  · rw [if_pos (decide_eq_true ((hselected r).mpr h))]
    simp [h, eq_comm]
  · rw [if_neg fun hs => h ((hselected r).mp (of_decide_eq_true hs))]
    simp [h, eq_comm]

/-- The rows a step has stamped as missing: they are now, and were not before. -/
def Stamped (t t' : Table Product) (id : ProductId) : Prop :=
  (∃ r' ∈ t'.rows, r'.id = id ∧ r'.missingFromShopifyAt ≠ none) ∧
    ∀ r ∈ t.rows, r.id = id → r.missingFromShopifyAt = none

/-- A sync that stamps nothing. -/
theorem not_stamped_of_pulled {seen : List String} {t t' : Table Product}
    (h : Pulled t seen t') (id : ProductId) : ¬ Stamped t t' id := by
  rintro ⟨⟨r', hr', rfl, hmissing⟩, hbefore⟩
  rcases h.known r' hr' with ⟨r, hr, hf⟩ | hfresh
  · have hnone := hbefore r hr hf.id.symm
    rcases hf.missing with heq | heq
    · exact hmissing (heq.trans hnone)
    · exact hmissing heq
  · exact hmissing hfresh.1

/-- The stamp of a full pull, after its upserts. -/
theorem stamped_stampMissing_iff {seen : List String} {t t' : Table Product}
    (h : Pulled t seen t') (id : ProductId) :
    Stamped t (stampMissing o seen t') id ↔ ∃ r ∈ t.rows, r.id = id ∧ StampedBy seen r := by
  constructor
  · rintro ⟨⟨r'', hr'', rfl, hmissing⟩, hbefore⟩
    obtain ⟨r', hr', ⟨hstamped, rfl⟩ | ⟨-, rfl⟩⟩ := (mem_stampMissing o).mp hr''
    · obtain ⟨hsource, ⟨v, hv, hunseen⟩, hnone⟩ := hstamped
      rcases h.known r' hr' with ⟨r, hr, hf⟩ | ⟨-, v', hv', heq⟩
      · have hr'v : r.shopifyVariantId = some v := hf.variantId.symm.trans hv
        exact ⟨r, hr, hf.id.symm, hf.source.symm.trans hsource, ⟨v, hr'v, hunseen⟩,
          hbefore r hr hf.id.symm⟩
      · obtain rfl := Option.some.inj (heq.symm.trans hv)
        exact absurd hv' hunseen
    · exact absurd ⟨⟨r'', hr', rfl, hmissing⟩, hbefore⟩ (not_stamped_of_pulled h r''.id)
  · rintro ⟨r, hr, rfl, hstamped⟩
    obtain ⟨r', hr', hf⟩ := h.kept r hr
    obtain ⟨-, ⟨v, hv, hunseen⟩, hnone⟩ := id hstamped
    have hsame : r' = r := hf.unseen fun v' hv' heq => by
      obtain rfl := Option.some.inj (hv.symm.trans heq)
      exact hunseen hv'
    subst hsame
    refine ⟨⟨_, (mem_stampMissing o).mpr ⟨r', hr', Or.inl ⟨hstamped, rfl⟩⟩, rfl, nofun⟩, ?_⟩
    intro x hx heq
    rwa [Table.eq_of_key_eq hx hr heq]

/-- The rows that a sync stamps. -/
theorem stamped_syncProducts_iff (fullSync : Bool) (nodes : List ShopifyProductNode)
    (t : Table Product) (id : ProductId) :
    Stamped t (syncProducts o fullSync nodes t).2 id ↔
      fullSync = true ∧ nodes ≠ [] ∧ ¬ AllFail o nodes ∧
        ∃ r ∈ t.rows, r.id = id ∧ StampedBy (nodes.flatMap ShopifyProductNode.cores) r := by
  obtain ⟨hsynced, hseen⟩ := synced_upsertAll o nodes t
  have hpulled := hsynced.pulled
  rw [hseen] at hpulled
  rw [syncProducts]
  by_cases hnodes : nodes = []
  · rw [if_pos hnodes]
    exact iff_of_false (not_stamped_of_pulled (.refl t []) id) fun h => h.2.1 hnodes
  rw [if_neg hnodes]
  dsimp only
  by_cases hfail : AllFail o nodes
  · rw [if_pos ((allFail_iff o nodes t).mpr hfail)]
    exact iff_of_false (not_stamped_of_pulled hpulled id) fun h => h.2.2.1 hfail
  rw [if_neg fun h => hfail ((allFail_iff o nodes t).mp h)]
  cases fullSync with
  | false => exact iff_of_false (not_stamped_of_pulled hpulled id) fun h => Bool.noConfusion h.1
  | true =>
      dsimp only
      rw [if_pos rfl, hseen, stamped_stampMissing_iff o hpulled id]
      simp [hnodes, hfail]

end Sync

/-! ## Sequences of syncs -/

/-- A sync, with what happens outside of it. One of the costs that breaks off has taken the costs
before. -/
inductive Run
  | products (o : Outside) (fullSync : Bool) (nodes : List ShopifyProductNode)
  | costs (o : Outside) (items : List InventoryItemCost)

/-- The products after a sync. -/
def Run.exec : Run → Table Product → Table Product
  | .products o fullSync nodes, t => (syncProducts o fullSync nodes t).2
  | .costs o items, t => (syncInventoryItemCosts o items t).2

/-- The products after some syncs. -/
def execAll (runs : List Run) (t : Table Product) : Table Product :=
  runs.foldl (fun t run => run.exec t) t

/-- What the owner has decided about a row is still so in a later one. -/
structure Decided (r r' : Product) : Prop where
  id : r'.id = r.id
  activeOverride : r'.activeOverride = r.activeOverride
  cost : r.costSource = some "manual" →
    r'.costKes = r.costKes ∧ r'.costSource = some "manual"
  status : r.activeOverride = true →
    r'.shopifyStatus = r.shopifyStatus ∨ notSelling r'.shopifyStatus = false

section Runs

variable {r r' r'' : Product} {t t' : Table Product}

theorem Decided.refl (r : Product) : Decided r r :=
  ⟨rfl, rfl, fun h => ⟨rfl, h⟩, fun _ => Or.inl rfl⟩

theorem Decided.trans (h : Decided r r') (h' : Decided r' r'') : Decided r r'' where
  id := h'.id.trans h.id
  activeOverride := h'.activeOverride.trans h.activeOverride
  cost hmanual := by
    obtain ⟨hcost, hsource⟩ := h.cost hmanual
    obtain ⟨hcost', hsource'⟩ := h'.cost hsource
    exact ⟨hcost'.trans hcost, hsource'⟩
  status hkept := by
    rcases h'.status (h.activeOverride.trans hkept) with heq | hsells
    · rcases h.status hkept with heq' | hsells'
      · exact Or.inl (heq.trans heq')
      · exact Or.inr (heq ▸ hsells')
    · exact Or.inr hsells

/-- Every row is still there, with what the owner has decided. -/
def AllDecided (t t' : Table Product) : Prop :=
  ∀ r ∈ t.rows, ∃ r' ∈ t'.rows, Decided r r'

theorem AllDecided.trans {t'' : Table Product} (h : AllDecided t t') (h' : AllDecided t' t'') :
    AllDecided t t'' := by
  intro r hr
  obtain ⟨r', hr', hd⟩ := h r hr
  obtain ⟨r'', hr'', hd'⟩ := h' r' hr'
  exact ⟨r'', hr'', hd.trans hd'⟩

/-- An update that keeps what the owner has decided. -/
theorem allDecided_update (t : Table Product) (p : Product → Bool) {f : Product → Product}
    (hf : ∀ r, p r → Decided r (f r)) (hid : ∀ r, (f r).id = r.id) :
    AllDecided t (t.update p f) := by
  intro r hr
  refine ⟨if p r then f r else r, ?_, ?_⟩
  · rw [Table.rows_update t p hid]
    exact List.mem_map_of_mem hr
  · split
    · rename_i hp
      exact hf r hp
    · exact .refl r

/-- What follows a row keeps what the owner has decided. -/
theorem Pulled.allDecided {seen : List String} (h : Pulled t seen t') : AllDecided t t' := by
  intro r hr
  obtain ⟨r', hr', hf⟩ := h.kept r hr
  exact ⟨r', hr', hf.id, hf.activeOverride, hf.cost, hf.status⟩

/-- A sync of the products keeps what the owner has decided. -/
theorem allDecided_syncProducts (o : Outside) (fullSync : Bool) (nodes : List ShopifyProductNode)
    (t : Table Product) : AllDecided t (syncProducts o fullSync nodes t).2 := by
  have hupserts : AllDecided t (upsertAll o nodes t).products :=
    (synced_upsertAll o nodes t).1.pulled.allDecided
  have hstamp : ∀ (seen : List String) (t : Table Product),
      AllDecided t (stampMissing o seen t) := fun seen t =>
    allDecided_update t _ (fun r _ => ⟨rfl, rfl, fun h => ⟨rfl, h⟩, fun _ => Or.inl rfl⟩)
      fun _ => rfl
  rw [syncProducts]
  split
  · exact (Pulled.refl t []).allDecided
  · dsimp only
    split
    · exact hupserts
    · dsimp only
      split
      · exact hupserts.trans (hstamp _ _)
      · exact hupserts

/-- A cost that changed is not written over one of the owner. -/
theorem allDecided_syncItemCost (o : Outside) (s : ℕ × Table Product) (item : InventoryItemCost) :
    AllDecided s.2 (syncItemCost o s item).2 := by
  rw [syncItemCost]
  split
  · refine allDecided_update _ _ (fun r hselected => ⟨rfl, rfl, fun hmanual => ?_, ?_⟩) fun _ => rfl
    · rw [hmanual] at hselected
      simp at hselected
    · exact fun _ => Or.inl rfl
  · exact fun r hr => ⟨r, hr, .refl r⟩

/-- A sync keeps what the owner has decided. -/
theorem allDecided_exec (run : Run) (t : Table Product) : AllDecided t (run.exec t) := by
  cases run with
  | products o fullSync nodes => exact allDecided_syncProducts o fullSync nodes t
  | costs o items =>
      have hitems : ∀ (items : List InventoryItemCost) (s : ℕ × Table Product),
          AllDecided s.2 (items.foldl (syncItemCost o) s).2 := by
        intro items
        induction items with
        | nil => exact fun s r hr => ⟨r, hr, .refl r⟩
        | cons item items ih =>
            exact fun s => (allDecided_syncItemCost o s item).trans (ih _)
      exact hitems items (0, t)

/-- Any syncs keep what the owner has decided. -/
theorem allDecided_execAll (runs : List Run) (t : Table Product) :
    AllDecided t (execAll runs t) := by
  induction runs generalizing t with
  | nil => exact fun r hr => ⟨r, hr, .refl r⟩
  | cons run runs ih => exact (allDecided_exec run t).trans (ih _)

/-- A cost that changed leaves the stamps. -/
theorem missing_syncItemCost (o : Outside) (s : ℕ × Table Product) (item : InventoryItemCost) :
    ∀ r' ∈ (syncItemCost o s item).2.rows, ∃ r ∈ s.2.rows,
      r.id = r'.id ∧ r.missingFromShopifyAt = r'.missingFromShopifyAt := by
  rw [syncItemCost]
  split
  · rename_i variantId cost _ _
    intro r' hr'
    have hkey : ∀ r : Product,
        Keyed.key { r with costKes := cost, costSource := some "shopify" } = Keyed.key r :=
      fun _ => rfl
    rw [Table.rows_update _ _ hkey] at hr'
    obtain ⟨r, hr, rfl⟩ := List.mem_map.mp hr'
    refine ⟨r, hr, ?_⟩
    split <;> exact ⟨rfl, rfl⟩
  · exact fun r' hr' => ⟨r', hr', rfl, rfl⟩

/-- The sync of the costs stamps nothing. -/
theorem not_stamped_costs (o : Outside) (items : List InventoryItemCost) (t : Table Product)
    (id : ProductId) : ¬ Stamped t ((Run.costs o items).exec t) id := by
  have hitems : ∀ (items : List InventoryItemCost) (s : ℕ × Table Product),
      ∀ r' ∈ (items.foldl (syncItemCost o) s).2.rows, ∃ r ∈ s.2.rows,
        r.id = r'.id ∧ r.missingFromShopifyAt = r'.missingFromShopifyAt := by
    intro items
    induction items with
    | nil => exact fun s r' hr' => ⟨r', hr', rfl, rfl⟩
    | cons item items ih =>
        intro s r'' hr''
        obtain ⟨r', hr', hid', hmissing'⟩ := ih _ r'' hr''
        obtain ⟨r, hr, hid, hmissing⟩ := missing_syncItemCost o s item r' hr'
        exact ⟨r, hr, hid.trans hid', hmissing.trans hmissing'⟩
  rintro ⟨⟨r', hr', rfl, hmissing'⟩, hbefore⟩
  obtain ⟨r, hr, hid, hmissing⟩ := hitems items (0, t) r' hr'
  exact hmissing' (hmissing ▸ hbefore r hr hid)

end Runs

/-- Whatever syncs run, with any payloads and any failing writes: the owner's decisions about a
row stay, a sync of the products stamps exactly the store's rows, not stamped yet, whose variant
is on no node but a gift card's, if it is a full one of some nodes and not all its upserts fail,
and nothing else stamps any. -/
theorem ownerDecisions_kept :
    (∀ (runs : List Run) (t : Table Product), AllDecided t (execAll runs t)) ∧
    (∀ (o : Outside) (fullSync : Bool) (nodes : List ShopifyProductNode) (t : Table Product)
      (id : ProductId), Stamped t ((Run.products o fullSync nodes).exec t) id ↔
        fullSync = true ∧ nodes ≠ [] ∧ ¬ AllFail o nodes ∧
          ∃ r ∈ t.rows, r.id = id ∧ StampedBy (nodes.flatMap ShopifyProductNode.cores) r) ∧
    ∀ (o : Outside) (items : List InventoryItemCost) (t : Table Product) (id : ProductId),
      ¬ Stamped t ((Run.costs o items).exec t) id :=
  ⟨allDecided_execAll, stamped_syncProducts_iff, not_stamped_costs⟩

/-- A variant that a node mentions, whatever the node is of. -/
def Mentioned (nodes : List ShopifyProductNode) (v : String) : Prop :=
  ∃ node ∈ nodes, ∃ variant ∈ node.variants, variant.core = some v

/-- A pull of one gift card. -/
def giftCardPull : List ShopifyProductNode :=
  [{ id := "103", isGiftCard := true, variants := [{ id := some "203" }] }]

/-- A row of the gift card, from before gift cards stayed out of the catalogue. -/
def giftCardRow : Table Product where
  rows := [{ id := 1, shopifyVariantId := some "203" }]
  nodup := List.nodup_singleton _

/-- The pull mentions the variant and its row is stamped as missing all the same. -/
theorem giftCardRow_stamped :
    ¬ ∀ (o : Outside) (nodes : List ShopifyProductNode) (t : Table Product) (id : ProductId),
      nodes ≠ [] → (Stamped t ((Run.products o true nodes).exec t) id ↔
        ∃ r ∈ t.rows, r.id = id ∧ r.source = "shopify" ∧ r.missingFromShopifyAt = none ∧
          ∃ v, r.shopifyVariantId = some v ∧ ¬ Mentioned nodes v) := by
  intro hall
  have hstamped : Stamped giftCardRow
      ((Run.products .quiet true giftCardPull).exec giftCardRow) 1 := by
    refine ⟨⟨{ id := 1, shopifyVariantId := some "203", missingFromShopifyAt := some 0 },
      List.mem_singleton_self _, rfl, nofun⟩, fun r hr _ => ?_⟩
    rw [List.mem_singleton.mp hr]
  obtain ⟨r, hr, -, -, -, v, hv, hnot⟩ := (hall .quiet giftCardPull giftCardRow 1 nofun).mp hstamped
  rw [List.mem_singleton.mp hr] at hv
  obtain rfl := Option.some.inj hv
  exact hnot ⟨_, List.mem_singleton_self _, _, List.mem_singleton_self _, by decide +kernel⟩

end Restock.Shopify
