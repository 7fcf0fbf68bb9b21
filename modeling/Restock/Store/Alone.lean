import Restock.Store.Statement

/-!
# Sessions run alone

What a session does to a store that nobody else is using. `Leaves answer x committed working Q` says
that the session `x`, begun on these two states, ends with a result, a committed and a working state
that satisfy `Q`. The rules follow the way sessions are written, so that what a whole session leaves
is read off what its statements do.

* `Session.Leaves`, `Leaves.exists_run` — the judgement, and what it says of a whole program;
* `leaves_pure`, `leaves_throw`, `leaves_bind`, `leaves_tryCatch`, `leaves_ite`,
  `leaves_transaction` — the rules for the constructs;
* `leaves_statement`, `leaves_statement_bind` and what is built of them — those for statements.
-/

namespace Store

namespace Session

variable {S K L M E R α β : Type} [RowModel S K]

/-- Begun on these states, the session ends in a result and two states as stated. -/
def Leaves (answer : M → Bool) (x : Session S K L M E R α) (committed working : S)
    (Q : Except E α → S → S → Prop) : Prop :=
  ∃ result c w, Q result c w ∧ ∀ ok err, (x ok err).exec answer committed working =
    match result with
    | .ok a => (ok a).exec answer c w
    | .error e => (err e).exec answer c w

variable {answer : M → Bool} {c w : S} {Q : Except E α → S → S → Prop}

/-- What a program run alone comes to. -/
theorem Leaves.exists_run {x : Session S K L M E R R} {s : S} {Q : Except E R → S → S → Prop}
    (h : Leaves answer x s s Q) :
    ∃ result t w, Q result t w ∧ (program x).run answer s = (result.toOption, t) := by
  obtain ⟨result, t, w, hq, hexec⟩ := h
  refine ⟨result, t, w, hq, ?_⟩
  rw [Program.run, program_def, hexec]
  cases result with
  | ok a => rfl
  | error e => rfl

/-! ## Constructs -/

theorem leaves_pure {a : α} (h : Q (.ok a) c w) :
    Leaves answer (pure a : Session S K L M E R α) c w Q :=
  ⟨.ok a, c, w, h, fun _ _ => rfl⟩

theorem leaves_throw {e : E} (h : Q (.error e) c w) :
    Leaves answer (throw e : Session S K L M E R α) c w Q :=
  ⟨.error e, c, w, h, fun _ _ => rfl⟩

/-- What follows begins where the first session ends, and not at all when that throws. -/
theorem leaves_bind {x : Session S K L M E R β} {f : β → Session S K L M E R α}
    {P : Except E β → S → S → Prop} (hx : Leaves answer x c w P)
    (hok : ∀ b c' w', P (.ok b) c' w' → Leaves answer (f b) c' w' Q)
    (herr : ∀ e c' w', P (.error e) c' w' → Q (.error e) c' w') :
    Leaves answer (x >>= f) c w Q := by
  obtain ⟨result, c', w', hp, hexec⟩ := hx
  cases result with
  | ok b =>
      obtain ⟨result', c'', w'', hq, hexec'⟩ := hok b c' w' hp
      exact ⟨result', c'', w'', hq, fun ok err => (hexec _ _).trans (hexec' ok err)⟩
  | error e => exact ⟨.error e, c', w', herr e c' w' hp, fun ok err => hexec _ _⟩

/-- The handler begins where the session threw. -/
theorem leaves_tryCatch {x : Session S K L M E R α} {handle : E → Session S K L M E R α}
    {P : Except E α → S → S → Prop} (hx : Leaves answer x c w P)
    (hok : ∀ a c' w', P (.ok a) c' w' → Q (.ok a) c' w')
    (herr : ∀ e c' w', P (.error e) c' w' → Leaves answer (handle e) c' w' Q) :
    Leaves answer (tryCatch x handle) c w Q := by
  obtain ⟨result, c', w', hp, hexec⟩ := hx
  cases result with
  | ok a => exact ⟨.ok a, c', w', hok a c' w' hp, fun ok err => hexec _ _⟩
  | error e =>
      obtain ⟨result', c'', w'', hq, hexec'⟩ := herr e c' w' hp
      exact ⟨result', c'', w'', hq, fun ok err => (hexec _ _).trans (hexec' ok err)⟩

theorem leaves_ite {p : Prop} [Decidable p] {x y : Session S K L M E R α}
    (hx : p → Leaves answer x c w Q) (hy : ¬ p → Leaves answer y c w Q) :
    Leaves answer (if p then x else y) c w Q := by
  by_cases h : p
  · rw [if_pos h]; exact hx h
  · rw [if_neg h]; exact hy h

/-- The body's writes are committed when it returns, and dropped when it throws. -/
theorem leaves_transaction {x : Session S K L M E R α} {P : Except E α → S → S → Prop}
    (hx : Leaves answer x c w P) (hok : ∀ a c' w', P (.ok a) c' w' → Q (.ok a) w' w')
    (herr : ∀ e c' w', P (.error e) c' w' → Q (.error e) c' c') :
    Leaves answer (transaction x) c w Q := by
  obtain ⟨result, c', w', hp, hexec⟩ := hx
  cases result with
  | ok a => exact ⟨.ok a, w', w', hok a c' w' hp, fun ok err => hexec _ _⟩
  | error e => exact ⟨.error e, c', c', herr e c' w' hp, fun ok err => hexec _ _⟩

/-! ## Statements -/

theorem leaves_statement {writes : S → List (Write S K)} {value : S → α}
    (h : Q (.ok (value w)) c (sees (writes w) w)) :
    Leaves answer (statement writes value : Session S K L M E R α) c w Q :=
  ⟨.ok (value w), c, sees (writes w) w, h, fun _ _ => rfl⟩

/-- What follows a statement begins with its writes in the working state. -/
theorem leaves_statement_bind {writes : S → List (Write S K)} {value : S → β}
    {f : β → Session S K L M E R α} (h : Leaves answer (f (value w)) c (sees (writes w) w) Q) :
    Leaves answer (statement writes value >>= f) c w Q := by
  obtain ⟨result, c', w', hq, hexec⟩ := h
  exact ⟨result, c', w', hq, fun ok err => hexec ok err⟩

/-- What follows a read begins where it began. -/
theorem leaves_query_bind {value : S → β} {f : β → Session S K L M E R α}
    (h : Leaves answer (f (value w)) c w Q) : Leaves answer (query value >>= f) c w Q :=
  leaves_statement_bind h

/-- A lock that nobody else wants is taken at once. -/
theorem leaves_lock_bind {name : L} {f : Unit → Session S K L M E R α}
    (h : Leaves answer (f ()) c w Q) : Leaves answer (advisoryLock name >>= f) c w Q := by
  obtain ⟨result, c', w', hq, hexec⟩ := h
  exact ⟨result, c', w', hq, fun ok err => hexec ok err⟩

variable {T Key : Type} [Keyed T Key] [DecidableEq Key] [Stored S T]

theorem leaves_deleteMany {p : T → Bool} {Q : Except E ℕ → S → S → Prop}
    (h : ∀ n, Q (.ok n) c (Stored.set w ((Stored.get w : Table T).erase p))) :
    Leaves answer (deleteMany T p : Session S K L M E R ℕ) c w Q := by
  refine leaves_statement ?_
  rw [sees_cons, sees_nil, deleting_act_self]
  exact h _

/-- The row is inserted, or its key was taken. -/
theorem leaves_create {r : T} {taken : E} {Q : Except E Unit → S → S → Prop}
    (htaken : Q (.error taken) c w)
    (h : (Stored.get w : Table T).find (Keyed.key r) = none →
      Q (.ok ()) c (Stored.set w ((Stored.get w : Table T).insert r))) :
    Leaves answer (create r taken : Session S K L M E R Unit) c w Q := by
  refine leaves_statement_bind ?_
  cases hfind : (Stored.get w : Table T).find (Keyed.key r) with
  | some r' => exact leaves_throw htaken
  | none => exact leaves_pure (h hfind)

/-- One delete as a transaction of its own. -/
theorem leaves_delete_bind {p : T → Bool} {f : ℕ → Session S K L M E R α}
    (h : ∀ n, let t := Stored.set w ((Stored.get w : Table T).erase p)
      Leaves answer (f n) t t Q) :
    Leaves answer (transaction (deleteMany T p) >>= f) c w Q := by
  have hdelete : Leaves answer (deleteMany T p : Session S K L M E R ℕ) c w fun result _ w' =>
      (∃ n, result = .ok n) ∧ w' = Stored.set w ((Stored.get w : Table T).erase p) :=
    leaves_deleteMany fun n => ⟨⟨n, rfl⟩, rfl⟩
  refine leaves_bind (leaves_transaction hdelete (Q := fun result c' w' => (∃ n, result = .ok n) ∧
    c' = w' ∧ w' = Stored.set w ((Stored.get w : Table T).erase p)) ?_ ?_) ?_ ?_
  · exact fun n c' w' hp => ⟨⟨n, rfl⟩, rfl, hp.2⟩
  · rintro e c' w' ⟨⟨n, hn⟩, -⟩
    cases hn
  · rintro n c' w' ⟨-, rfl, rfl⟩
    exact h n
  · rintro e c' w' ⟨⟨n, hn⟩, -⟩
    cases hn

end Session

end Store
