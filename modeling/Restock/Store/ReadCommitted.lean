import Mathlib.Logic.Relation
import Restock.Store.Program

/-!
# Read-committed interleavings and their proof rule

Any number of clients run their programs against one store under READ COMMITTED: every
statement sees the rows committed when it runs, plus its own transaction's writes; a
statement that would write a row another open transaction has written waits; nothing is
visible to others before the commit. A transaction can be aborted at any point (a
deadlock victim, a timeout, a lost connection), which ends the client.

* `Config` — the committed state and what every client still has to do;
* `Step` — one statement, lock, commit, rollback, answered call or abort of one client;
* `RunWhere ok` — runs in which every commit satisfies the condition `ok`;
* `fire` and `schedule` — a function that performs given steps, for concrete runs.

The proof rule is rely–guarantee. A `Contract` names an invariant of the committed states,
a guarantee every commit gives, and what a client owes at its commits and calls. `Safe`
reads a program as what has to be checked of it when, before every one of its steps,
other clients may commit anything the guarantee allows and the rows it has locked stay
put. `good_run` is soundness: programs that are safe one by one are safe together.
-/

namespace Store

variable {S K L M R ι : Type} [RowModel S K]

/-- One client of a running store. -/
structure Client (S K L M R : Type) [RowModel S K] where
  /-- What the client still has to do. -/
  program : Program S K L M R
  /-- The writes of its open transaction. -/
  pending : List (Write S K) := []
  /-- The advisory locks its open transaction holds. -/
  held : List L := []
  /-- The committed states its statements ran against, in order. -/
  seen : List S := []

/-- The committed state and the clients. -/
structure Config (S K L M R ι : Type) [RowModel S K] where
  /-- The committed state. -/
  db : S
  /-- The clients. -/
  clients : ι → Client S K L M R

namespace Config

/-- Clients that have not started. -/
def initial (db : S) (programs : ι → Program S K L M R) : Config S K L M R ι :=
  { db, clients := fun i => { program := programs i } }

/-- The state the next statement of client `i` sees. -/
def view (σ : Config S K L M R ι) (i : ι) : S :=
  sees (σ.clients i).pending σ.db

/-- No other client has an uncommitted write to any of these rows. -/
def Unlocked (σ : Config S K L M R ι) (i : ι) (keys : List K) : Prop :=
  ∀ j, j ≠ i → ∀ k ∈ keys, k ∉ locked (σ.clients j).pending

variable [DecidableEq ι]

/-- Replace client `i`. -/
def set (σ : Config S K L M R ι) (i : ι) (c : Client S K L M R) : Config S K L M R ι :=
  { σ with clients := Function.update σ.clients i c }

@[simp] theorem set_db (σ : Config S K L M R ι) (i : ι) (c : Client S K L M R) :
    (σ.set i c).db = σ.db := rfl

@[simp] theorem set_clients_self (σ : Config S K L M R ι) (i : ι) (c : Client S K L M R) :
    (σ.set i c).clients i = c := Function.update_self ..

@[simp] theorem set_clients_of_ne (σ : Config S K L M R ι) {i j : ι} (h : j ≠ i)
    (c : Client S K L M R) : (σ.set i c).clients j = σ.clients j :=
  Function.update_of_ne h ..

end Config

open Config

variable [DecidableEq ι]

/-- What client `i` can do next. -/
inductive Step (i : ι) : Config S K L M R ι → Config S K L M R ι → Prop
  /-- A statement runs once no other client has locked a row it writes. -/
  | stmt {σ : Config S K L M R ι} {writes next}
      (hprog : (σ.clients i).program = .stmt writes next)
      (hfree : σ.Unlocked i (locked (writes (σ.view i)))) :
      Step i σ (σ.set i
        { σ.clients i with
          program := next (σ.view i)
          pending := (σ.clients i).pending ++ writes (σ.view i)
          seen := (σ.clients i).seen ++ [σ.db] })
  /-- An advisory lock is taken once no other client holds it. -/
  | lock {σ : Config S K L M R ι} {name next}
      (hprog : (σ.clients i).program = .lock name next)
      (hfree : ∀ j, j ≠ i → name ∉ (σ.clients j).held) :
      Step i σ (σ.set i
        { σ.clients i with program := next, held := name :: (σ.clients i).held })
  /-- A commit publishes the pending writes and releases every lock. -/
  | commit {σ : Config S K L M R ι} {next} (hprog : (σ.clients i).program = .commit next) :
      Step i σ
        ({ σ with db := σ.view i }.set i
          { program := next, seen := (σ.clients i).seen })
  /-- A rollback drops the pending writes and releases every lock. -/
  | rollback {σ : Config S K L M R ι} {next}
      (hprog : (σ.clients i).program = .rollback next) :
      Step i σ (σ.set i { program := next, seen := (σ.clients i).seen })
  /-- The outside world answers a call. -/
  | call {σ : Config S K L M R ι} {message next} (answer : Bool)
      (hprog : (σ.clients i).program = .call message next) :
      Step i σ (σ.set i { σ.clients i with program := next answer })
  /-- The store gives up on the client's transaction and the client throws. -/
  | abort {σ : Config S K L M R ι} (hprog : ∀ r, (σ.clients i).program ≠ .done r) :
      Step i σ (σ.set i { program := .failed, seen := (σ.clients i).seen })

/-- A condition on commits: the client, the committed states its statements ran against,
its pending writes and the committed state at the commit. -/
abbrev CommitCondition (S K ι : Type) [RowModel S K] : Type :=
  ι → List S → List (Write S K) → S → Prop

/-- If client `i` is about to commit, the commit satisfies `ok`. -/
def CommitOk (ok : CommitCondition S K ι) (i : ι) (σ : Config S K L M R ι) : Prop :=
  ∀ next, (σ.clients i).program = .commit next →
    ok i (σ.clients i).seen (σ.clients i).pending σ.db

/-- A step of some client whose commit, if it is one, satisfies `ok`. -/
def StepWhere (ok : CommitCondition S K ι) (σ τ : Config S K L M R ι) : Prop :=
  ∃ i, Step i σ τ ∧ CommitOk ok i σ

/-- A run all of whose commits satisfy `ok`. -/
abbrev RunWhere (ok : CommitCondition S K ι) :
    Config S K L M R ι → Config S K L M R ι → Prop :=
  Relation.ReflTransGen (StepWhere ok)

/-- Any run. -/
abbrev Run : Config S K L M R ι → Config S K L M R ι → Prop :=
  RunWhere fun _ _ _ _ => True

/-! ## Performing given steps -/

section Schedule

variable [DecidableEq K] [DecidableEq L]

/-- Let client `i` make its next step, if the clients listed in `all` leave it free to. -/
def fire (all : List ι) (i : ι) (answer : Bool) (σ : Config S K L M R ι) :
    Option (Config S K L M R ι) :=
  match (σ.clients i).program with
  | .done _ => none
  | .failed => none
  | .stmt writes next =>
      if ∀ j ∈ all, j ≠ i →
          ∀ k ∈ locked (writes (σ.view i)), k ∉ locked (σ.clients j).pending then
        some (σ.set i
          { σ.clients i with
            program := next (σ.view i)
            pending := (σ.clients i).pending ++ writes (σ.view i)
            seen := (σ.clients i).seen ++ [σ.db] })
      else none
  | .lock name next =>
      if ∀ j ∈ all, j ≠ i → name ∉ (σ.clients j).held then
        some (σ.set i { σ.clients i with program := next, held := name :: (σ.clients i).held })
      else none
  | .commit next =>
      some ({ σ with db := σ.view i }.set i { program := next, seen := (σ.clients i).seen })
  | .rollback next => some (σ.set i { program := next, seen := (σ.clients i).seen })
  | .call _ next => some (σ.set i { σ.clients i with program := next answer })

/-- If client `i` is about to commit, check that the commit satisfies `ok`. -/
def checkCommit (ok : CommitCondition S K ι) [∀ i seen ws db, Decidable (ok i seen ws db)] (i : ι)
    (σ : Config S K L M R ι) : Bool :=
  match (σ.clients i).program with
  | .commit _ => decide (ok i (σ.clients i).seen (σ.clients i).pending σ.db)
  | _ => true

/-- Perform a schedule: which client moves, and the answer if it is calling. It stops at a
move that is not possible and at a commit that does not satisfy `ok`. -/
def schedule (all : List ι) (ok : CommitCondition S K ι)
    [∀ i seen ws db, Decidable (ok i seen ws db)] : List (ι × Bool) → Config S K L M R ι →
    Option (Config S K L M R ι)
  | [], σ => some σ
  | (i, answer) :: rest, σ =>
      if checkCommit ok i σ then (fire all i answer σ).bind (schedule all ok rest) else none

/-- What `fire` performs is a step. -/
theorem step_of_fire {all : List ι} (hall : ∀ j, j ∈ all) {i : ι} {answer : Bool}
    {σ τ : Config S K L M R ι} (h : fire all i answer σ = some τ) : Step i σ τ := by
  unfold fire at h
  split at h
  case h_1 => cases h
  case h_2 => cases h
  case h_3 writes next hprog =>
      split at h
      case isTrue hfree =>
          cases h
          exact .stmt hprog fun j hj => hfree j (hall j) hj
      case isFalse => cases h
  case h_4 name next hprog =>
      split at h
      case isTrue hfree =>
          cases h
          exact .lock hprog fun j hj => hfree j (hall j) hj
      case isFalse => cases h
  case h_5 next hprog => cases h; exact .commit hprog
  case h_6 next hprog => cases h; exact .rollback hprog
  case h_7 message next hprog => cases h; exact .call answer hprog

omit [DecidableEq ι] [DecidableEq K] [DecidableEq L] in
/-- What `checkCommit` checks. -/
theorem commitOk_of_checkCommit {ok : CommitCondition S K ι}
    [∀ i seen ws db, Decidable (ok i seen ws db)] {i : ι} {σ : Config S K L M R ι}
    (h : checkCommit ok i σ) : CommitOk ok i σ := by
  intro next hprog
  rw [checkCommit, hprog] at h
  exact of_decide_eq_true h

/-- What `schedule` performs is a run. -/
theorem run_of_schedule {all : List ι} (hall : ∀ j, j ∈ all) {ok : CommitCondition S K ι}
    [∀ i seen ws db, Decidable (ok i seen ws db)] {moves : List (ι × Bool)}
    {σ τ : Config S K L M R ι} (h : schedule all ok moves σ = some τ) : RunWhere ok σ τ := by
  induction moves generalizing σ with
  | nil => cases h; exact .refl
  | cons move rest ih =>
      obtain ⟨i, answer⟩ := move
      rw [schedule] at h
      split at h
      case isTrue hcheck =>
          obtain ⟨ρ, hρ, hrest⟩ := Option.bind_eq_some_iff.mp h
          exact .head ⟨i, step_of_fire hall hρ, commitOk_of_checkCommit hcheck⟩ (ih hrest)
      case isFalse => cases h

/-- A schedule that ends with some property shows a run that does. -/
theorem exists_run_of_schedule (all : List ι) (ok : CommitCondition S K ι)
    [∀ i seen ws db, Decidable (ok i seen ws db)] (moves : List (ι × Bool))
    (σ : Config S K L M R ι) (P : Config S K L M R ι → Prop) [DecidablePred P]
    (hall : ∀ j, j ∈ all)
    (h : ((schedule all ok moves σ).any fun τ => decide (P τ)) = true) :
    ∃ τ, RunWhere ok σ τ ∧ P τ := by
  obtain ⟨τ, hτ, hP⟩ := (Option.any_eq_true ..).mp h
  exact ⟨τ, run_of_schedule hall hτ, of_decide_eq_true hP⟩

end Schedule

/-! ## The rely–guarantee rule -/

/-- What a proof about a system establishes. -/
structure Contract (S K L M R ι : Type) [RowModel S K] where
  /-- Holds of every committed state. -/
  Inv : S → Prop
  /-- Holds between the committed states before and after every commit. -/
  Guar : S → S → Prop
  /-- Which commits a run may contain. -/
  ok : CommitCondition S K ι
  /-- What client `i` owes at a commit: the committed states its statements ran against,
  the ones before and after the commit, and what the client does next. -/
  AtCommit : ι → List S → S → S → Program S K L M R → Prop
  /-- What client `i` owes while it calls the outside world with a message. -/
  AtCall : ι → M → S → Prop

namespace Contract

variable (Γ : Contract S K L M R ι)

/-- Other clients may take the committed state from the first state to the second while
this one holds locks on the rows `keys`. -/
def Rely (keys : List K) : S → S → Prop :=
  Relation.ReflTransGen fun s t => Γ.Guar s t ∧ Γ.Inv t ∧ ∀ k ∈ keys, RowModel.same k s t

/-- What has to be checked of the program of client `i`: whatever other clients commit
before each of its steps, its commits keep the contract. `db` is the committed state when
the program got here. -/
def Safe (i : ι) :
    Program S K L M R → List S → List (Write S K) → S → Prop
  | .done _, _, _, _ => True
  | .failed, _, _, _ => True
  | .stmt writes next, seen, ws, db =>
      ∀ db', Γ.Inv db' → Γ.Rely (locked ws) db db' →
        Safe i (next (sees ws db')) (seen ++ [db']) (ws ++ writes (sees ws db')) db'
  | .lock _ next, seen, ws, db => Safe i next seen ws db
  | .commit next, seen, ws, db =>
      ∀ db', Γ.Inv db' → Γ.Rely (locked ws) db db' → Γ.ok i seen ws db' →
        Γ.Inv (sees ws db') ∧ Γ.Guar db' (sees ws db') ∧
          Γ.AtCommit i seen db' (sees ws db') next ∧ Safe i next seen [] (sees ws db')
  | .rollback next, seen, _, db => Safe i next seen [] db
  | .call message next, seen, ws, db =>
      (∀ db', Γ.Inv db' → Γ.Rely (locked ws) db db' → Γ.AtCall i message db') ∧
        ∀ answer, Safe i (next answer) seen ws db

variable {Γ}

omit [DecidableEq ι] in
/-- The rely relation grows when fewer rows are locked. -/
theorem Rely.mono {keys keys' : List K} (h : ∀ k ∈ keys', k ∈ keys) {s t : S}
    (hrely : Γ.Rely keys s t) : Γ.Rely keys' s t :=
  Relation.ReflTransGen.mono (fun _ _ hst => ⟨hst.1, hst.2.1, fun k hk => hst.2.2 k (h k hk)⟩)
    s t hrely

omit [DecidableEq ι] in
/-- Interference in two stretches. -/
theorem Rely.trans {keys : List K} {s t u : S} (h : Γ.Rely keys s t) (h' : Γ.Rely keys t u) :
    Γ.Rely keys s u :=
  Relation.ReflTransGen.trans h h'

omit [DecidableEq ι] in
/-- Interference without regard to the locks. -/
theorem Rely.unlocked {keys : List K} {s t : S} (h : Γ.Rely keys s t) : Γ.Rely [] s t :=
  h.mono (by simp)

omit [DecidableEq ι] in
/-- Interference while more writes are pending. -/
theorem Rely.left {ws vs : List (Write S K)} {s t : S} (h : Γ.Rely (locked (ws ++ vs)) s t) :
    Γ.Rely (locked ws) s t :=
  h.mono fun k hk => by rw [locked_append]; exact List.mem_append_left _ hk

omit [DecidableEq ι] in
/-- Locked rows do not change under interference. -/
theorem Rely.same {keys : List K} {s t : S} (h : Γ.Rely keys s t) {k : K} (hk : k ∈ keys) :
    RowModel.same k s t := by
  induction h with
  | refl => exact RowModel.refl k s
  | tail _ hstep ih => exact RowModel.trans k ih (hstep.2.2 k hk)

omit [DecidableEq ι] in
/-- A relation that contains the guarantee and composes holds across interference. -/
theorem Rely.lift {keys : List K} {s t : S} (h : Γ.Rely keys s t) {P : S → S → Prop}
    (hrefl : P s s) (hstep : ∀ a b, P s a → Γ.Guar a b → Γ.Inv b → P s b) : P s t := by
  induction h with
  | refl => exact hrefl
  | tail _ hab ih => exact hstep _ _ ih hab.1 hab.2.1

omit [DecidableEq ι] in
/-- Being safe survives interference. -/
theorem Safe.rely {i : ι} {p : Program S K L M R} {seen : List S}
    {ws : List (Write S K)} {db db' : S} (h : Γ.Safe i p seen ws db)
    (hrely : Γ.Rely (locked ws) db db') : Γ.Safe i p seen ws db' := by
  induction p generalizing seen ws db db' with
  | done => trivial
  | failed => trivial
  | stmt writes next _ =>
      intro t ht hrely'
      exact h t ht (hrely.trans hrely')
  | lock name next ih => exact ih h hrely
  | commit next _ =>
      intro t ht hrely'
      exact h t ht (hrely.trans hrely')
  | rollback next ih => exact ih h (hrely.mono (by simp))
  | call message next ih =>
      refine ⟨fun t ht hrely' => h.1 t ht (hrely.trans hrely'), fun answer => ?_⟩
      exact ih answer (h.2 answer) hrely

/-- The invariant of a running system: the committed state is fine, what every client
still has to do is safe, and no two clients have locked the same row. -/
structure Good (Γ : Contract S K L M R ι) (σ : Config S K L M R ι) : Prop where
  inv : Γ.Inv σ.db
  safe : ∀ i, Γ.Safe i (σ.clients i).program (σ.clients i).seen (σ.clients i).pending σ.db
  apart : ∀ i j, i ≠ j →
    ∀ k ∈ locked (σ.clients i).pending, k ∉ locked (σ.clients j).pending

omit [DecidableEq ι] in
/-- A system whose clients have not started is good when their programs are safe. -/
theorem good_initial {db : S} {programs : ι → Program S K L M R} (hinv : Γ.Inv db)
    (hsafe : ∀ i, Γ.Safe i (programs i) [] [] db) : Γ.Good (Config.initial db programs) where
  inv := hinv
  safe := hsafe
  apart := by intro i j _ k hk; simp [Config.initial] at hk

/-- Replacing one client, possibly over a new committed state, keeps the system good when
the others stay safe, what this one has left to do is safe and its locks are free. -/
private theorem Good.replace {σ : Config S K L M R ι} (h : Γ.Good σ) (i : ι) {db : S}
    {c : Client S K L M R} (hinv : Γ.Inv db)
    (hothers : ∀ j, j ≠ i →
      Γ.Safe j (σ.clients j).program (σ.clients j).seen (σ.clients j).pending db)
    (hsafe : Γ.Safe i c.program c.seen c.pending db)
    (hfree : σ.Unlocked i (locked c.pending)) : Γ.Good ({ σ with db }.set i c) where
  inv := hinv
  safe j := by
    by_cases hj : j = i
    · subst hj; simpa using hsafe
    · simpa [hj] using hothers j hj
  apart j j' hne k hk hk' := by
    by_cases hj : j = i
    · subst hj
      rw [set_clients_self] at hk
      rw [set_clients_of_ne _ (Ne.symm hne)] at hk'
      exact hfree j' (Ne.symm hne) k hk hk'
    · rw [set_clients_of_ne _ hj] at hk
      by_cases hj' : j' = i
      · subst hj'
        rw [set_clients_self] at hk'
        exact hfree j hj k hk' hk
      · rw [set_clients_of_ne _ hj'] at hk'
        exact h.apart j j' hne k hk hk'

/-- Replacing one client over the same committed state. -/
private theorem Good.set {σ : Config S K L M R ι} (h : Γ.Good σ) (i : ι)
    {c : Client S K L M R} (hsafe : Γ.Safe i c.program c.seen c.pending σ.db)
    (hfree : σ.Unlocked i (locked c.pending)) : Γ.Good (σ.set i c) :=
  h.replace i h.inv (fun j _ => h.safe j) hsafe hfree

omit [DecidableEq ι] in
/-- The rows a client has locked are not locked by anyone else. -/
theorem Good.unlocked {σ : Config S K L M R ι} (h : Γ.Good σ) (i : ι) :
    σ.Unlocked i (locked (σ.clients i).pending) :=
  fun j hj k hk => h.apart i j (Ne.symm hj) k hk

omit [DecidableEq ι] in
/-- What a commit by client `i` establishes in a good system. -/
theorem Good.commit {σ : Config S K L M R ι} (h : Γ.Good σ) {i : ι}
    {next : Program S K L M R} (hprog : (σ.clients i).program = .commit next)
    (hok : CommitOk Γ.ok i σ) :
    Γ.Inv (σ.view i) ∧ Γ.Guar σ.db (σ.view i) ∧
      Γ.AtCommit i (σ.clients i).seen σ.db (σ.view i) next ∧
      Γ.Safe i next (σ.clients i).seen [] (σ.view i) := by
  have hsafe := h.safe i
  rw [hprog] at hsafe
  exact hsafe σ.db h.inv .refl (hok next hprog)

/-- A step whose commit is allowed keeps the system good. -/
theorem good_step {σ τ : Config S K L M R ι} (h : Γ.Good σ) {i : ι} (hstep : Step i σ τ)
    (hok : CommitOk Γ.ok i σ) : Γ.Good τ := by
  have hsafe := h.safe i
  cases hstep with
  | stmt hprog hfree =>
      rw [hprog] at hsafe
      refine h.set i (hsafe σ.db h.inv .refl) fun j hj k hk => ?_
      rw [locked_append, List.mem_append] at hk
      rcases hk with hk | hk
      · exact h.unlocked i j hj k hk
      · exact hfree j hj k hk
  | lock hprog _ =>
      rw [hprog] at hsafe
      exact h.set i hsafe (h.unlocked i)
  | commit hprog =>
      obtain ⟨hinv, hguar, -, hnext⟩ := h.commit hprog hok
      refine h.replace i hinv (fun j hj => ?_) hnext fun j _ k hk => by simp at hk
      -- what the others rely on: this commit is in the guarantee and off their rows
      refine (h.safe j).rely (.single ⟨hguar, hinv, fun k hk => ?_⟩)
      exact same_sees (h.apart j i hj k hk) σ.db
  | rollback hprog =>
      rw [hprog] at hsafe
      exact h.set i hsafe fun j _ k hk => by simp at hk
  | call answer hprog =>
      rw [hprog] at hsafe
      exact h.set i (hsafe.2 answer) (h.unlocked i)
  | abort _ => exact h.set i trivial fun j _ k hk => by simp at hk

/-- Safe programs keep the system good along every run whose commits are allowed. -/
theorem good_run {σ τ : Config S K L M R ι} (h : Γ.Good σ) (hrun : RunWhere Γ.ok σ τ) :
    Γ.Good τ := by
  induction hrun with
  | refl => exact h
  | tail _ hstep ih =>
      obtain ⟨i, hstep, hok⟩ := hstep
      exact good_step ih hstep hok

/-- A step changes the committed state only by a commit, which keeps the contract. -/
theorem Good.step_db {σ τ : Config S K L M R ι} (h : Γ.Good σ) {i : ι} (hstep : Step i σ τ)
    (hok : CommitOk Γ.ok i σ) :
    τ.db = σ.db ∨
      (Γ.Guar σ.db τ.db ∧
        Γ.AtCommit i (σ.clients i).seen σ.db τ.db (τ.clients i).program) := by
  cases hstep with
  | commit hprog =>
      obtain ⟨-, hguar, hat, -⟩ := h.commit hprog hok
      exact Or.inr ⟨hguar, by simpa using hat⟩
  | stmt | lock | rollback | call | abort => exact Or.inl rfl

/-- A reflexive and transitive relation that contains the guarantee relates the committed
states at the two ends of a run. -/
theorem Good.run_db {σ τ : Config S K L M R ι} (h : Γ.Good σ) (hrun : RunWhere Γ.ok σ τ)
    {P : S → S → Prop} (hrefl : ∀ s, P s s) (htrans : ∀ {s t u}, P s t → P t u → P s u)
    (hguar : ∀ s t, Γ.Guar s t → P s t) : P σ.db τ.db := by
  induction hrun with
  | refl => exact hrefl _
  | tail hpre hstep ih =>
      obtain ⟨i, hstep, hok⟩ := hstep
      rcases (good_run h hpre).step_db hstep hok with heq | ⟨hg, -⟩
      · rw [heq]; exact ih
      · exact htrans ih (hguar _ _ hg)

end Contract

end Store
