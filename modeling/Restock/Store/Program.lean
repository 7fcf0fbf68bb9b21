import Mathlib.Logic.Function.Basic

/-!
# Programs over a transactional store

What a client does to a database, statement by statement, as data: a `Program` is a tree
whose nodes are the single statements, the advisory locks, the ends of transactions and
the calls to the outside world. A program does not say when its statements run; that is
decided by what interprets it. `Program.exec` runs it with the store to itself, and
`ReadCommitted` interleaves it with others.

Writes carry the row keys they lock. `RowModel` says when two states agree on a row, and
a `Write` carries the proof that it leaves the rows it does not lock alone.

`Session` is the monad programs are written in: a continuation for the result and one for
an exception. `Session.transaction` commits when its body returns and rolls back when its
body throws, so a body that returns early commits what it wrote.
-/

namespace Store

/-- A state made of rows: `same k` relates the states that agree on the row under `k`. -/
class RowModel (S : Type) (K : outParam Type) where
  /-- The two states hold the same row under this key. -/
  same : K → S → S → Prop
  /-- A state agrees with itself. -/
  refl : ∀ k s, same k s s
  /-- Agreement on a row is transitive. -/
  trans : ∀ k {s t u}, same k s t → same k t u → same k s u

/-- What a statement writes: the row keys it locks and its effect on the state. -/
structure Write (S K : Type) [RowModel S K] where
  /-- The rows the statement locks. -/
  keys : List K
  /-- The effect of the statement. -/
  act : S → S
  /-- Rows that are not locked are not changed. -/
  frame : ∀ k, k ∉ keys → ∀ s, RowModel.same k s (act s)

section Writes

variable {S K : Type} [RowModel S K]

/-- The state a transaction with pending writes `ws` sees over the state `s`. -/
def sees (ws : List (Write S K)) (s : S) : S :=
  ws.foldl (fun s w => w.act s) s

/-- The rows a list of writes locks. -/
def locked (ws : List (Write S K)) : List K :=
  ws.flatMap Write.keys

@[simp] theorem sees_nil (s : S) : sees ([] : List (Write S K)) s = s := rfl

@[simp] theorem sees_cons (w : Write S K) (ws : List (Write S K)) (s : S) :
    sees (w :: ws) s = sees ws (w.act s) := rfl

@[simp] theorem sees_append (ws vs : List (Write S K)) (s : S) :
    sees (ws ++ vs) s = sees vs (sees ws s) :=
  List.foldl_append ..

@[simp] theorem locked_nil : locked ([] : List (Write S K)) = [] := rfl

@[simp] theorem locked_cons (w : Write S K) (ws : List (Write S K)) :
    locked (w :: ws) = w.keys ++ locked ws := rfl

@[simp] theorem locked_append (ws vs : List (Write S K)) :
    locked (ws ++ vs) = locked ws ++ locked vs :=
  List.flatMap_append ..

/-- Writes leave the rows they do not lock alone. -/
theorem same_sees {ws : List (Write S K)} {k : K} (h : k ∉ locked ws) (s : S) :
    RowModel.same k s (sees ws s) := by
  induction ws generalizing s with
  | nil => exact RowModel.refl k s
  | cons w ws ih =>
      rw [locked_cons, List.mem_append, not_or] at h
      exact RowModel.trans k (w.frame k h.1 s) (ih h.2 _)

end Writes

/-- The statements a client still has to run, ending in a result of type `R`. Advisory
locks are named by `L`; a call to the outside world sends a message in `M` and is told
whether it went through. -/
inductive Program (S K L M R : Type) [RowModel S K] : Type
  /-- The client has returned. -/
  | done (result : R)
  /-- The client has thrown an exception nobody caught. -/
  | failed
  /-- One statement: what it writes, and the rest, both from the state it sees. -/
  | stmt (writes : S → List (Write S K)) (next : S → Program S K L M R)
  /-- Wait for an advisory lock, held until the transaction ends. -/
  | lock (name : L) (next : Program S K L M R)
  /-- Commit the transaction. -/
  | commit (next : Program S K L M R)
  /-- Roll the transaction back. -/
  | rollback (next : Program S K L M R)
  /-- Call the outside world; the answer is whether the call succeeded. -/
  | call (message : M) (next : Bool → Program S K L M R)

namespace Program

variable {S K L M R : Type} [RowModel S K]

/-- Run a program with the store to itself, `answer` deciding the calls to the outside
world. `committed` is what a rollback returns to and `working` what the next statement
sees. The result is absent when the program ends in an exception. -/
def exec (answer : M → Bool) : Program S K L M R → (committed working : S) → Option R × S
  | done result, committed, _ => (some result, committed)
  | failed, committed, _ => (none, committed)
  | stmt writes next, committed, working =>
      (next working).exec answer committed (sees (writes working) working)
  | lock _ next, committed, working => next.exec answer committed working
  | commit next, _, working => next.exec answer working working
  | rollback next, committed, _ => next.exec answer committed committed
  | call message next, committed, working =>
      (next (answer message)).exec answer committed working

/-- The client has returned or thrown. -/
def isOver : Program S K L M R → Bool
  | done _ => true
  | failed => true
  | _ => false

/-- Run a program alone from a committed state. -/
def run (answer : M → Bool) (p : Program S K L M R) (s : S) : Option R × S :=
  p.exec answer s s

variable (answer : M → Bool) (committed working : S)

@[simp] theorem exec_done (result : R) :
    (done result : Program S K L M R).exec answer committed working
      = (some result, committed) := rfl

@[simp] theorem exec_failed :
    (failed : Program S K L M R).exec answer committed working = (none, committed) := rfl

@[simp] theorem exec_stmt (writes : S → List (Write S K)) (next : S → Program S K L M R) :
    (stmt writes next).exec answer committed working
      = (next working).exec answer committed (sees (writes working) working) := rfl

@[simp] theorem exec_lock (name : L) (next : Program S K L M R) :
    (lock name next).exec answer committed working
      = next.exec answer committed working := rfl

@[simp] theorem exec_commit (next : Program S K L M R) :
    (commit next).exec answer committed working = next.exec answer working working := rfl

@[simp] theorem exec_rollback (next : Program S K L M R) :
    (rollback next).exec answer committed working
      = next.exec answer committed committed := rfl

@[simp] theorem exec_call (message : M) (next : Bool → Program S K L M R) :
    (call message next).exec answer committed working
      = (next (answer message)).exec answer committed working := rfl

end Program

/-! ## Writing programs -/

/-- A computation that ends in a value of type `α` or throws an exception of type `E`,
given what the client does after either. -/
def Session (S K L M E R : Type) [RowModel S K] (α : Type) : Type :=
  (α → Program S K L M R) → (E → Program S K L M R) → Program S K L M R

namespace Session

variable {S K L M E R α β : Type} [RowModel S K]

instance : Monad (Session S K L M E R) where
  pure a := fun ok _ => ok a
  bind x f := fun ok err => x (fun a => f a ok err) err

instance : MonadExcept E (Session S K L M E R) where
  throw e := fun _ err => err e
  tryCatch x handle := fun ok err => x ok fun e => handle e ok err

/-- A statement that writes `writes` and returns `value`, both read off the state the
statement sees. -/
def statement (writes : S → List (Write S K)) (value : S → α) : Session S K L M E R α :=
  fun ok _ => .stmt writes fun s => ok (value s)

/-- A statement that only reads. -/
def query (value : S → α) : Session S K L M E R α :=
  statement (fun _ => []) value

/-- Wait for an advisory lock that is released when the transaction ends. -/
def advisoryLock (name : L) : Session S K L M E R Unit :=
  fun ok _ => .lock name (ok ())

/-- Run `body` as one transaction. -/
def transaction (body : Session S K L M E R α) : Session S K L M E R α :=
  fun ok err => body (fun a => .commit (ok a)) fun e => .rollback (err e)

/-- Call the outside world. -/
def request (message : M) : Session S K L M E R Bool :=
  fun ok _ => .call message ok

/-- The whole program of a client that runs `x` and returns its value. -/
def program (x : Session S K L M E R R) : Program S K L M R :=
  x .done fun _ => .failed

variable (ok : α → Program S K L M R) (err : E → Program S K L M R)

@[simp] theorem pure_apply (a : α) :
    (pure a : Session S K L M E R α) ok err = ok a := rfl

@[simp] theorem bind_apply (x : Session S K L M E R β) (f : β → Session S K L M E R α) :
    (x >>= f) ok err = x (fun a => f a ok err) err := rfl

@[simp] theorem throw_apply (e : E) :
    (throw e : Session S K L M E R α) ok err = err e := rfl

@[simp] theorem tryCatch_apply (x : Session S K L M E R α)
    (handle : E → Session S K L M E R α) :
    (tryCatch x handle : Session S K L M E R α) ok err
      = x ok fun e => handle e ok err := rfl

@[simp] theorem statement_apply (writes : S → List (Write S K)) (value : S → α) :
    (statement writes value : Session S K L M E R α) ok err
      = .stmt writes fun s => ok (value s) := rfl

@[simp] theorem query_apply (value : S → α) :
    (query value : Session S K L M E R α) ok err
      = .stmt (fun _ => []) fun s => ok (value s) := rfl

@[simp] theorem advisoryLock_apply (name : L) (ok : Unit → Program S K L M R) :
    (advisoryLock name : Session S K L M E R Unit) ok err = .lock name (ok ()) := rfl

@[simp] theorem transaction_apply (body : Session S K L M E R α) :
    (transaction body) ok err
      = body (fun a => .commit (ok a)) fun e => .rollback (err e) := rfl

@[simp] theorem request_apply (message : M) (ok : Bool → Program S K L M R) :
    (request message : Session S K L M E R Bool) ok err = .call message ok := rfl

@[simp] theorem program_def (x : Session S K L M E R R) :
    program x = x .done fun _ => .failed := rfl

end Session

end Store
