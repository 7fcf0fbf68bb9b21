import Mathlib.Order.RelClasses
import Restock.Store.Program

/-!
# Runs that are cut off

A client that runs alone can be lost after any of its steps: what it had committed stays,
what it had not is gone, and a later client starts over from there.

* `Program.crash`, `Program.crashes` — a run lost after some steps, and several of them;
* `Program.Keeps` — every write of a program keeps a relation, in all states that the
  relation reaches from a start;
* `Session.Keeps` — the same of a session, with a rule for each way sessions are written;
* `Program.Rebuilds` — programs that keep a relation and, from states it relates, end in one
  state: `run_crashes` says that cut-off runs before a whole one make no difference, and
  `run_again` that a second whole run changes nothing.
-/

namespace Store

variable {S K L M E R ι : Type} [RowModel S K]

namespace Program

/-- The committed state when a client that runs alone is lost after a number of steps. -/
def crash (answer : M → Bool) : ℕ → Program S K L M R → (committed working : S) → S
  | 0, _, committed, _ => committed
  | _ + 1, done _, committed, _ => committed
  | _ + 1, failed, committed, _ => committed
  | n + 1, stmt writes next, committed, working =>
      crash answer n (next working) committed (sees (writes working) working)
  | n + 1, lock _ next, committed, working => crash answer n next committed working
  | n + 1, commit next, _, working => crash answer n next working working
  | n + 1, rollback next, committed, _ => crash answer n next committed committed
  | n + 1, call message next, committed, working =>
      crash answer n (next (answer message)) committed working

/-- Runs of some programs, one after the other, each lost after a number of steps. -/
def crashes (answer : M → Bool) (P : ι → Program S K L M R) (runs : List (ι × ℕ)) (s : S) : S :=
  runs.foldl (fun s run => (P run.1).crash answer run.2 s s) s

/-- Whatever state the relation reaches from `start` a statement of the program sees, its
writes keep the relation. -/
def Keeps (Rel : S → S → Prop) (start : S) : Program S K L M R → Prop
  | done _ => True
  | failed => True
  | stmt writes next =>
      ∀ s, Rel start s → Rel s (sees (writes s) s) ∧ Keeps Rel start (next s)
  | lock _ next => Keeps Rel start next
  | commit next => Keeps Rel start next
  | rollback next => Keeps Rel start next
  | call _ next => ∀ answer, Keeps Rel start (next answer)

variable {Rel : S → S → Prop} [IsPreorder S Rel] {p : Program S K L M R} (answer : M → Bool)
  {start : S}

/-- A run that is lost leaves a state that the relation reaches. -/
theorem rel_crash (h : p.Keeps Rel start) (n : ℕ) {committed working : S}
    (hc : Rel start committed) (hw : Rel start working) :
    Rel start (p.crash answer n committed working) := by
  induction n generalizing p committed working with
  | zero => exact hc
  | succ n ih =>
      cases p with
      | done result => exact hc
      | failed => exact hc
      | stmt writes next =>
          obtain ⟨hkeeps, hnext⟩ := h working hw
          exact ih hnext hc (IsTrans.trans _ _ _ hw hkeeps)
      | lock name next => exact ih (p := next) h hc hw
      | commit next => exact ih (p := next) h hw hw
      | rollback next => exact ih (p := next) h hc hc
      | call message next => exact ih (h (answer message)) hc hw

/-- A whole run leaves a state that the relation reaches. -/
theorem rel_exec (h : p.Keeps Rel start) {committed working : S} (hc : Rel start committed)
    (hw : Rel start working) : Rel start (p.exec answer committed working).2 := by
  induction p generalizing committed working with
  | done result => exact hc
  | failed => exact hc
  | stmt writes next ih =>
      obtain ⟨hkeeps, hnext⟩ := h working hw
      exact ih working hnext hc (IsTrans.trans _ _ _ hw hkeeps)
  | lock name next ih => exact ih h hc hw
  | commit next ih => exact ih h hw hw
  | rollback next ih => exact ih h hc hc
  | call message next ih => exact ih (answer message) (h (answer message)) hc hw

variable {P : ι → Program S K L M R}

/-- Runs that are lost leave a state that the relation reaches. -/
theorem rel_crashes (h : ∀ i start, (P i).Keeps Rel start) (runs : List (ι × ℕ)) (s : S) :
    Rel s (crashes answer P runs s) := by
  induction runs generalizing s with
  | nil => exact refl_of Rel s
  | cons run runs ih =>
      have hlost : Rel s ((P run.1).crash answer run.2 s s) :=
        rel_crash answer (h run.1 s) run.2 (refl_of Rel s) (refl_of Rel s)
      exact IsTrans.trans _ _ _ hlost (ih _)

/-- Programs that keep a relation from every start and, when one of them returns from a state,
all return from every related state and leave the same. -/
structure Rebuilds (answer : M → Bool) (P : ι → Program S K L M R) (Rel : S → S → Prop) :
    Prop where
  keeps : ∀ i start, (P i).Keeps Rel start
  same : ∀ {i j s t r u}, Rel s t → (P i).run answer s = (some r, u) →
    ∃ r', (P j).run answer t = (some r', u)

variable {answer} {s u : S} {r : R} {i : ι}

/-- A whole run leaves what the relation keeps. -/
theorem Rebuilds.rel_run (h : Rebuilds answer P Rel) (hrun : (P i).run answer s = (some r, u)) :
    Rel s u := by
  have hrel := rel_exec answer (h.keeps i s) (refl_of Rel s) (refl_of Rel s)
  rwa [show (P i).exec answer s s = (some r, u) from hrun] at hrel

/-- Runs that are lost before a whole run make no difference to what it leaves. -/
theorem Rebuilds.run_crashes (h : Rebuilds answer P Rel) (runs : List (ι × ℕ)) (j : ι)
    (hrun : (P i).run answer s = (some r, u)) :
    ∃ r', (P j).run answer (crashes answer P runs s) = (some r', u) :=
  h.same (rel_crashes answer h.keeps runs s) hrun

/-- A second whole run changes nothing. -/
theorem Rebuilds.run_again (h : Rebuilds answer P Rel) (j : ι)
    (hrun : (P i).run answer s = (some r, u)) : ∃ r', (P j).run answer u = (some r', u) :=
  h.same (h.rel_run hrun) hrun

end Program

/-! ## Sessions -/

namespace Session

variable {α β : Type} {Rel : S → S → Prop} {start : S}

/-- A session only writes what keeps a relation, as long as what follows it does. -/
def Keeps (Rel : S → S → Prop) (start : S) (x : Session S K L M E R α) : Prop :=
  ∀ ok err, (∀ a, (ok a).Keeps Rel start) → (∀ e, (err e).Keeps Rel start) →
    (x ok err).Keeps Rel start

/-- The program of a session keeps what the session keeps. -/
theorem Keeps.program {x : Session S K L M E R R} (h : Keeps Rel start x) :
    (program x).Keeps Rel start :=
  h _ _ (fun _ => trivial) fun _ => trivial

theorem keeps_pure (a : α) : Keeps Rel start (pure a : Session S K L M E R α) :=
  fun _ _ hok _ => hok a

theorem keeps_throw (e : E) : Keeps Rel start (throw e : Session S K L M E R α) :=
  fun _ _ _ herr => herr e

theorem keeps_bind {x : Session S K L M E R α} {f : α → Session S K L M E R β}
    (hx : Keeps Rel start x) (hf : ∀ a, Keeps Rel start (f a)) : Keeps Rel start (x >>= f) :=
  fun ok err hok herr => hx _ _ (fun a => hf a ok err hok herr) herr

theorem keeps_statement {writes : S → List (Write S K)} {value : S → α}
    (h : ∀ s, Rel start s → Rel s (sees (writes s) s)) :
    Keeps Rel start (statement writes value : Session S K L M E R α) :=
  fun _ _ hok _ s hs => ⟨h s hs, hok _⟩

theorem keeps_query [IsPreorder S Rel] (value : S → α) :
    Keeps Rel start (query value : Session S K L M E R α) :=
  keeps_statement fun s _ => refl_of Rel s

/-- What follows a read may rely on where its value was read. -/
theorem keeps_query_bind [IsPreorder S Rel] {value : S → α} {f : α → Session S K L M E R β}
    (h : ∀ s, Rel start s → Keeps Rel start (f (value s))) :
    Keeps Rel start (query value >>= f) :=
  fun ok err hok herr s hs => ⟨refl_of Rel s, h s hs ok err hok herr⟩

theorem keeps_transaction {x : Session S K L M E R α} (h : Keeps Rel start x) :
    Keeps Rel start (transaction x) :=
  fun _ _ hok herr => h _ _ (fun a => hok a) fun e => herr e

theorem keeps_ite {p : Prop} [Decidable p] {x y : Session S K L M E R α}
    (hx : Keeps Rel start x) (hy : Keeps Rel start y) :
    Keeps Rel start (if p then x else y) := by
  by_cases h : p
  · rwa [if_pos h]
  · rwa [if_neg h]

theorem keeps_foldlM {f : β → α → Session S K L M E R β} {xs : List α} (b : β)
    (hf : ∀ b, ∀ a ∈ xs, Keeps Rel start (f b a)) : Keeps Rel start (xs.foldlM f b) := by
  induction xs generalizing b with
  | nil => exact keeps_pure b
  | cons x xs ih =>
      rw [List.foldlM_cons]
      exact keeps_bind (hf b x List.mem_cons_self) fun b' =>
        ih b' fun b a ha => hf b a (List.mem_cons_of_mem _ ha)

theorem keeps_forM {f : α → Session S K L M E R Unit} {xs : List α}
    (hf : ∀ a ∈ xs, Keeps Rel start (f a)) : Keeps Rel start (forM xs f) := by
  induction xs with
  | nil => exact keeps_pure ()
  | cons x xs ih =>
      rw [List.forM_cons]
      exact keeps_bind (hf x List.mem_cons_self) fun _ =>
        ih fun a ha => hf a (List.mem_cons_of_mem _ ha)

end Session

end Store
