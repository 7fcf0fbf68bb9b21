import Mathlib.Data.List.Lattice
import Restock.Store.ReadCommitted
import Restock.Store.Statement

/-!
# Advisory locks in the proof rule

An advisory lock protects no row. What it gives is that two transactions which take the same lock
run one after the other, so what its holder has read can only be changed by those who write without
it. The rule of `ReadCommitted` is stated here once more with the locks a client holds:

* `LockContract` — an invariant, and a guarantee that depends on the locks of who commits;
* `Rely` — what clients that hold none of some locks may commit;
* `Safe`, `Good`, `good_run` — what is to be checked of a program, and that it is enough: no two
  clients ever hold the same lock;
* `Program.Only`, `Session.Only` — whatever a statement sees, its writes are of some kind;
* `safe_of_only` — programs that only write what may be written at any time are safe, also at the
  end of a transaction that wrote more.
-/

namespace Store

open Config

variable {S K L M R ι : Type} [RowModel S K] [DecidableEq ι]

/-- What a proof about a system with advisory locks establishes. -/
structure LockContract (S L : Type) where
  /-- Holds of every committed state. -/
  Inv : S → Prop
  /-- Holds between the committed states before and after every commit of a client that holds
  these locks. -/
  Guar : List L → S → S → Prop

namespace LockContract

variable (Γ : LockContract S L)

/-- Other clients may take the committed state from the first state to the second while this one
holds the locks `held`, and locks on the rows `keys`. -/
def Rely (held : List L) (keys : List K) : S → S → Prop :=
  Relation.ReflTransGen fun s t =>
    (∃ theirs, theirs.Disjoint held ∧ Γ.Guar theirs s t) ∧ Γ.Inv t ∧
      ∀ k ∈ keys, RowModel.same k s t

/-- What has to be checked of a program: whatever others commit before each of its steps, its
commits keep the contract. `held` are its locks, `ws` its pending writes and `db` the committed
state when it got here. -/
def Safe : Program S K L M R → List L → List (Write S K) → S → Prop
  | .done _, _, _, _ => True
  | .failed, _, _, _ => True
  | .stmt writes next, held, ws, db =>
      ∀ db', Γ.Inv db' → Γ.Rely held (locked ws) db db' →
        Safe (next (sees ws db')) held (ws ++ writes (sees ws db')) db'
  | .lock name next, held, ws, db =>
      ∀ db', Γ.Inv db' → Γ.Rely held (locked ws) db db' → Safe next (name :: held) ws db'
  | .commit next, held, ws, db =>
      ∀ db', Γ.Inv db' → Γ.Rely held (locked ws) db db' →
        Γ.Inv (sees ws db') ∧ Γ.Guar held db' (sees ws db') ∧ Safe next [] [] (sees ws db')
  | .rollback next, _, _, db => Safe next [] [] db
  | .call _ next, held, ws, db => ∀ answer, Safe (next answer) held ws db

variable {Γ}

omit [DecidableEq ι] in
/-- The rely relation grows when fewer locks and rows are held. -/
theorem Rely.mono {held held' : List L} {keys keys' : List K} (hheld : held' ⊆ held)
    (hkeys : keys' ⊆ keys) {s t : S} (h : Γ.Rely held keys s t) : Γ.Rely held' keys' s t := by
  refine Relation.ReflTransGen.mono (fun a b hab => ?_) s t h
  obtain ⟨⟨theirs, hdisjoint, hguar⟩, hinv, hsame⟩ := hab
  exact ⟨⟨theirs, List.disjoint_of_subset_right hheld hdisjoint, hguar⟩, hinv,
    fun k hk => hsame k (hkeys hk)⟩

/-- A relation that contains what others may commit and composes holds across interference. -/
theorem Rely.lift {held : List L} {keys : List K} {s t : S} (h : Γ.Rely held keys s t)
    {P : S → S → Prop} (hrefl : P s s)
    (hstep : ∀ a b theirs, P s a → theirs.Disjoint held → Γ.Guar theirs a b → P s b) : P s t := by
  induction h with
  | refl => exact hrefl
  | tail _ hab ih =>
      obtain ⟨⟨theirs, hdisjoint, hguar⟩, -, -⟩ := hab
      exact hstep _ _ theirs ih hdisjoint hguar

/-- Rows that are locked do not change under interference. -/
theorem Rely.same {held : List L} {keys : List K} {s t : S} (h : Γ.Rely held keys s t) {k : K}
    (hk : k ∈ keys) : RowModel.same k s t := by
  induction h with
  | refl => exact RowModel.refl k s
  | tail _ hab ih => exact RowModel.trans k ih (hab.2.2 k hk)

/-- Being safe survives interference. -/
theorem Safe.rely {p : Program S K L M R} {held : List L} {ws : List (Write S K)} {db db' : S}
    (h : Γ.Safe p held ws db) (hrely : Γ.Rely held (locked ws) db db') :
    Γ.Safe p held ws db' := by
  induction p generalizing held ws db db' with
  | done => trivial
  | failed => trivial
  | stmt writes next _ => exact fun t ht hrely' => h t ht (hrely.trans hrely')
  | lock name next _ => exact fun t ht hrely' => h t ht (hrely.trans hrely')
  | commit next _ => exact fun t ht hrely' => h t ht (hrely.trans hrely')
  | rollback next ih => exact ih h (hrely.mono (List.nil_subset _) (List.nil_subset _))
  | call message next ih => exact fun answer => ih answer (h answer) hrely

/-- The first statement of a transaction sees what is committed. -/
theorem safe_stmt {writes : S → List (Write S K)} {next : S → Program S K L M R} {held : List L}
    {db : S} (h : ∀ s, Γ.Inv s → Γ.Rely held [] db s → Γ.Safe (next s) held (writes s) s) :
    Γ.Safe (.stmt writes next) held [] db :=
  fun s hs hrely => h s hs hrely

variable (Γ) in
/-- The invariant of a running system: the committed state is fine, what every client still has to
do is safe, and no two clients have locked the same row or hold the same advisory lock. -/
structure Good (σ : Config S K L M R ι) : Prop where
  inv : Γ.Inv σ.db
  safe : ∀ i, Γ.Safe (σ.clients i).program (σ.clients i).held (σ.clients i).pending σ.db
  apart : ∀ i j, i ≠ j → ∀ k ∈ locked (σ.clients i).pending, k ∉ locked (σ.clients j).pending
  exclusive : ∀ i j, i ≠ j → (σ.clients i).held.Disjoint (σ.clients j).held

omit [DecidableEq ι] in
/-- A system whose clients have not started is good when their programs are safe. -/
theorem good_initial {db : S} {programs : ι → Program S K L M R} (hinv : Γ.Inv db)
    (hsafe : ∀ i, Γ.Safe (programs i) [] [] db) : Γ.Good (Config.initial db programs) where
  inv := hinv
  safe := hsafe
  apart := by intro i j _ k hk; simp [Config.initial] at hk
  exclusive i j _ := List.disjoint_nil_left _

/-- A relation between different clients, after one of them is replaced. -/
private theorem forall_ne_set {P : Client S K L M R → Client S K L M R → Prop}
    (hsymm : ∀ c d, P c d → P d c) {σ : Config S K L M R ι}
    (h : ∀ i j, i ≠ j → P (σ.clients i) (σ.clients j)) {i : ι} {c : Client S K L M R}
    (hc : ∀ j, j ≠ i → P c (σ.clients j)) :
    ∀ j k, j ≠ k → P ((σ.set i c).clients j) ((σ.set i c).clients k) := by
  intro j k hne
  by_cases hj : j = i
  · subst hj
    rw [set_clients_self, set_clients_of_ne _ (Ne.symm hne)]
    exact hc k (Ne.symm hne)
  · rw [set_clients_of_ne _ hj]
    by_cases hk : k = i
    · subst hk
      rw [set_clients_self]
      exact hsymm _ _ (hc j hj)
    · rw [set_clients_of_ne _ hk]
      exact h j k hne

/-- Replacing one client, possibly over a new committed state, keeps the system good when the others
stay safe, what this one has left to do is safe and its locks are free. -/
private theorem Good.replace {σ : Config S K L M R ι} (h : Γ.Good σ) (i : ι) {db : S}
    {c : Client S K L M R} (hinv : Γ.Inv db)
    (hothers : ∀ j, j ≠ i →
      Γ.Safe (σ.clients j).program (σ.clients j).held (σ.clients j).pending db)
    (hsafe : Γ.Safe c.program c.held c.pending db) (hfree : σ.Unlocked i (locked c.pending))
    (hheld : ∀ j, j ≠ i → c.held.Disjoint (σ.clients j).held) :
    Γ.Good ({ σ with db }.set i c) where
  inv := hinv
  safe j := by
    by_cases hj : j = i
    · subst hj; simpa using hsafe
    · simpa [hj] using hothers j hj
  apart := forall_ne_set (P := fun c d => ∀ k ∈ locked c.pending, k ∉ locked d.pending)
    (fun c d hcd k hk hk' => hcd k hk' hk) h.apart fun j hj k hk => hfree j hj k hk
  exclusive := forall_ne_set (P := fun c d => c.held.Disjoint d.held) (fun _ _ hcd => hcd.symm)
    h.exclusive hheld

/-- A step keeps the system good. -/
theorem good_step {σ τ : Config S K L M R ι} (h : Γ.Good σ) {i : ι} (hstep : Step i σ τ) :
    Γ.Good τ := by
  have hsafe := h.safe i
  have hrows : σ.Unlocked i (locked (σ.clients i).pending) :=
    fun j hj k hk => h.apart i j (Ne.symm hj) k hk
  have hlocks : ∀ j, j ≠ i → (σ.clients i).held.Disjoint (σ.clients j).held :=
    fun j hj => h.exclusive i j (Ne.symm hj)
  cases hstep with
  | stmt hprog hfree =>
      rw [hprog] at hsafe
      refine h.replace i h.inv (fun j _ => h.safe j) (hsafe σ.db h.inv .refl)
        (fun j hj k hk => ?_) hlocks
      rw [locked_append, List.mem_append] at hk
      rcases hk with hk | hk
      · exact hrows j hj k hk
      · exact hfree j hj k hk
  | lock hprog hfree =>
      rw [hprog] at hsafe
      refine h.replace i h.inv (fun j _ => h.safe j) (hsafe σ.db h.inv .refl) hrows fun j hj => ?_
      exact List.disjoint_cons_left.mpr ⟨hfree j hj, hlocks j hj⟩
  | commit hprog =>
      rw [hprog] at hsafe
      obtain ⟨hinv, hguar, hnext⟩ := hsafe σ.db h.inv .refl
      refine h.replace i hinv (fun j hj => ?_) hnext (fun j _ k hk => by simp at hk)
        fun j _ => List.disjoint_nil_left _
      -- what the others rely on: this commit is in the guarantee of locks and rows that they lack
      refine (h.safe j).rely (.single ⟨⟨_, hlocks j hj, hguar⟩, hinv, fun k hk => ?_⟩)
      exact same_sees (h.apart j i hj k hk) σ.db
  | rollback hprog =>
      rw [hprog] at hsafe
      exact h.replace i h.inv (fun j _ => h.safe j) hsafe (fun j _ k hk => by simp at hk)
        fun j _ => List.disjoint_nil_left _
  | call answer hprog =>
      rw [hprog] at hsafe
      exact h.replace i h.inv (fun j _ => h.safe j) (hsafe answer) hrows hlocks
  | abort _ =>
      exact h.replace i h.inv (fun j _ => h.safe j) trivial (fun j _ k hk => by simp at hk)
        fun j _ => List.disjoint_nil_left _

/-- Safe programs keep the system good along every run. -/
theorem good_run {σ τ : Config S K L M R ι} (h : Γ.Good σ) (hrun : Run σ τ) : Γ.Good τ := by
  induction hrun with
  | refl => exact h
  | tail _ hstep ih =>
      obtain ⟨i, hstep, -⟩ := hstep
      exact good_step ih hstep

end LockContract

/-! ## Programs of some writes -/

section Only

variable {E α β : Type} {Φ : Write S K → Prop}

/-- Whatever state a statement of the program sees, its writes satisfy `Φ`. -/
def Program.Only (Φ : Write S K → Prop) : Program S K L M R → Prop
  | .done _ => True
  | .failed => True
  | .stmt writes next => ∀ s, (∀ w ∈ writes s, Φ w) ∧ (next s).Only Φ
  | .lock _ next => next.Only Φ
  | .commit next => next.Only Φ
  | .rollback next => next.Only Φ
  | .call _ next => ∀ answer, (next answer).Only Φ

namespace Session

/-- A session only makes writes that satisfy `Φ`, as long as what follows it does. -/
def Only (Φ : Write S K → Prop) (x : Session S K L M E R α) : Prop :=
  ∀ ok err, (∀ a, (ok a).Only Φ) → (∀ e, (err e).Only Φ) → (x ok err).Only Φ

theorem Only.program {x : Session S K L M E R R} (h : Only Φ x) : (program x).Only Φ :=
  h _ _ (fun _ => trivial) fun _ => trivial

theorem only_pure (a : α) : Only Φ (pure a : Session S K L M E R α) :=
  fun _ _ hok _ => hok a

theorem only_throw (e : E) : Only Φ (throw e : Session S K L M E R α) :=
  fun _ _ _ herr => herr e

theorem only_bind {x : Session S K L M E R α} {f : α → Session S K L M E R β} (hx : Only Φ x)
    (hf : ∀ a, Only Φ (f a)) : Only Φ (x >>= f) :=
  fun ok err hok herr => hx _ _ (fun a => hf a ok err hok herr) herr

theorem only_tryCatch {x : Session S K L M E R α} {handle : E → Session S K L M E R α}
    (hx : Only Φ x) (hhandle : ∀ e, Only Φ (handle e)) : Only Φ (tryCatch x handle) :=
  fun ok err hok herr => hx _ _ hok fun e => hhandle e ok err hok herr

theorem only_transaction {x : Session S K L M E R α} (h : Only Φ x) : Only Φ (transaction x) :=
  fun _ _ hok herr => h _ _ (fun a => hok a) fun e => herr e

theorem only_statement {writes : S → List (Write S K)} {value : S → α}
    (h : ∀ s, ∀ w ∈ writes s, Φ w) :
    Only Φ (statement writes value : Session S K L M E R α) :=
  fun _ _ hok _ s => ⟨h s, hok _⟩

theorem only_query (value : S → α) : Only Φ (query value : Session S K L M E R α) :=
  only_statement fun _ _ hw => by cases hw

theorem only_ite {p : Prop} [Decidable p] {x y : Session S K L M E R α} (hx : Only Φ x)
    (hy : Only Φ y) : Only Φ (if p then x else y) := by
  by_cases h : p
  · rwa [if_pos h]
  · rwa [if_neg h]

theorem only_foldlM {f : β → α → Session S K L M E R β} {xs : List α} (b : β)
    (hf : ∀ b a, Only Φ (f b a)) : Only Φ (xs.foldlM f b) := by
  induction xs generalizing b with
  | nil => exact only_pure b
  | cons x xs ih =>
      rw [List.foldlM_cons]
      exact only_bind (hf b x) ih

theorem only_forM {f : α → Session S K L M E R Unit} {xs : List α} (hf : ∀ a, Only Φ (f a)) :
    Only Φ (forM xs f) := by
  induction xs with
  | nil => exact only_pure ()
  | cons x xs ih =>
      rw [List.forM_cons]
      exact only_bind (hf x) fun _ => ih

variable {T Key : Type} [Keyed T Key] [DecidableEq Key] [Stored S T]

theorem only_updateMany {p : T → Bool} {f : T → T} (h : ∀ s, Φ (updating T p f s)) :
    Only Φ (updateMany T p f : Session S K L M E R ℕ) :=
  only_statement fun s w hw => by rw [List.mem_singleton.mp hw]; exact h s

theorem only_update {k : Key} {f : T → T} {missing : E}
    (h : ∀ s, Φ (updating T (fun r => Keyed.key r = k) f s)) :
    Only Φ (update T k f missing : Session S K L M E R Unit) :=
  only_bind (only_updateMany h) fun _ => only_ite (only_throw _) (only_pure _)

theorem only_deleteMany {p : T → Bool} (h : ∀ s, Φ (deleting T p s)) :
    Only Φ (deleteMany T p : Session S K L M E R ℕ) :=
  only_statement fun s w hw => by rw [List.mem_singleton.mp hw]; exact h s

theorem only_create {r : T} {taken : E} (h : Φ (inserting r)) :
    Only Φ (create r taken : Session S K L M E R Unit) := by
  refine only_bind (only_statement fun s w hw => ?_) fun _ => only_ite (only_throw _) (only_pure _)
  split at hw
  · cases hw
  · rw [List.mem_singleton.mp hw]
    exact h

end Session

namespace LockContract

variable {Γ : LockContract S L}

/-- Some more locks do not allow less, and writes that satisfy `Φ` are always allowed. -/
structure Allows (Γ : LockContract S L) (Φ : Write S K → Prop) : Prop where
  more : ∀ {name held s t}, Γ.Guar held s t → Γ.Guar (name :: held) s t
  quiet : ∀ {ws : List (Write S K)} {held s}, (∀ w ∈ ws, Φ w) → Γ.Inv s →
    Γ.Inv (sees ws s) ∧ Γ.Guar held s (sees ws s)

/-- A program that only makes writes that are always allowed is safe, when the commit of the open
transaction is, whatever it adds to its writes. -/
theorem safe_of_only (hΓ : Γ.Allows Φ) {p : Program S K L M R} (hp : p.Only Φ) {held : List L}
    {ws : List (Write S K)} {db : S}
    (hcommit : ∀ ws' db', (∀ w ∈ ws', Φ w) → Γ.Inv db' → Γ.Rely held ([] : List K) db db' →
      Γ.Inv (sees (ws ++ ws') db') ∧ Γ.Guar held db' (sees (ws ++ ws') db')) :
    Γ.Safe p held ws db := by
  have hnothing : ∀ held' db₀, ∀ ws' db', (∀ w ∈ ws', Φ w) → Γ.Inv db' →
      Γ.Rely held' ([] : List K) db₀ db' →
      Γ.Inv (sees ([] ++ ws') db') ∧ Γ.Guar held' db' (sees ([] ++ ws') db') :=
    fun _ _ _ _ hws' hinv _ => hΓ.quiet hws' hinv
  induction p generalizing held ws db with
  | done => trivial
  | failed => trivial
  | stmt writes next ih =>
      intro db₁ _ hrely
      obtain ⟨hw, hnext⟩ := hp (sees ws db₁)
      refine ih _ hnext fun ws' db' hws' hinv hrely' => ?_
      rw [List.append_assoc]
      refine hcommit _ db' (fun w hmem => ?_) hinv
        ((hrely.mono (List.Subset.refl _) (List.nil_subset _)).trans hrely')
      rcases List.mem_append.mp hmem with hmem | hmem
      · exact hw w hmem
      · exact hws' w hmem
  | lock name next ih =>
      intro db₁ _ hrely
      refine ih hp fun ws' db' hws' hinv hrely' => ?_
      obtain ⟨hinv', hguar⟩ := hcommit ws' db' hws' hinv
        ((hrely.mono (List.Subset.refl _) (List.nil_subset _)).trans
          (hrely'.mono (List.subset_cons_self _ _) (List.Subset.refl _)))
      exact ⟨hinv', hΓ.more hguar⟩
  | commit next ih =>
      intro db₁ hinv hrely
      have hat := hcommit [] db₁ (fun _ hw => by cases hw) hinv
        (hrely.mono (List.Subset.refl _) (List.nil_subset _))
      rw [List.append_nil] at hat
      exact ⟨hat.1, hat.2, ih hp (hnothing _ _)⟩
  | rollback next ih => exact ih hp (hnothing _ _)
  | call message next ih => exact fun answer => ih answer (hp answer) hcommit

/-- Such a program is safe from its start. -/
theorem Allows.safe (hΓ : Γ.Allows Φ) {p : Program S K L M R} (hp : p.Only Φ) {held : List L}
    {ws : List (Write S K)} (hws : ∀ w ∈ ws, Φ w) {db : S} : Γ.Safe p held ws db := by
  refine safe_of_only hΓ hp fun ws' db' hws' hinv _ => hΓ.quiet (fun w hw => ?_) hinv
  rcases List.mem_append.mp hw with hw | hw
  · exact hws w hw
  · exact hws' w hw

end LockContract

end Only

end Store
