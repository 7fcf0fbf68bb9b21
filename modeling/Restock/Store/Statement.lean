import Restock.Store.Program
import Restock.Store.Table

/-!
# Statements on the tables of a state

The statements a client library offers on one table of a larger state: find, update,
delete, create and upsert, each as one statement of a `Session`. `Stored` says that a row
type has a table in the state, under which row keys its rows are locked, and that
changing rows of that table leaves every other row of the state alone.

Every statement decides which rows it touches from the state it sees, locks exactly those
rows, and applies to them. `updating_act_self` and `inserting_act` give the effect of a
statement on the state it sees; `updating_act_of_match` says what an update of one row does
when another state is committed underneath it.
-/

namespace Store

/-- Rows of type `R` are kept in a table of the state `S`. -/
class Stored (S : Type) {Row : outParam Type} [RowModel S Row] (R : Type) {K : Type}
    [Keyed R K] [DecidableEq K] where
  /-- The table of the state. -/
  get : S → Table R
  /-- The state with another table in its place. -/
  set : S → Table R → S
  /-- The key under which a row is locked. -/
  name : K → Row
  /-- A table that was put in place is there. -/
  get_set : ∀ (s : S) (t : Table R), get (set s t) = t
  /-- Putting a table where it is changes nothing. -/
  set_get : ∀ s : S, set s (get s) = s
  /-- Replacing the table keeps every row on which the two tables agree. -/
  frame : ∀ (s : S) (t : Table R) (row : Row),
    (∀ k, name k = row → (get s).find k = t.find k) → RowModel.same row s (set s t)
  /-- States that agree on a row of the table find the same under its key. -/
  find_of_same : ∀ {s t : S} {k : K}, RowModel.same (name k) s t → (get s).find k = (get t).find k

variable {S Row L M E Res : Type} [RowModel S Row] (R : Type) {K : Type} [Keyed R K]
  [DecidableEq K] [Stored S R]

/-- The write of `UPDATE … SET f WHERE p` in the state `s`. -/
def updating (p : R → Bool) (f : R → R) (s : S) : Write S Row where
  keys := ((Stored.get s : Table R).matching p).map (Stored.name S R)
  act t := Stored.set t ((Stored.get t : Table R).update
    (fun r => Keyed.key r ∈ (Stored.get s : Table R).matching p) f)
  frame row hrow t := by
    refine Stored.frame t _ row fun k hk => ?_
    refine (Table.find_update_of_not fun r hr => ?_).symm
    subst hr
    have : Keyed.key r ∉ (Stored.get s : Table R).matching p := fun hmem =>
      hrow (List.mem_map.mpr ⟨_, hmem, hk⟩)
    simpa using this

/-- The write of `DELETE … WHERE p` in the state `s`. -/
def deleting (p : R → Bool) (s : S) : Write S Row where
  keys := ((Stored.get s : Table R).matching p).map (Stored.name S R)
  act t := Stored.set t ((Stored.get t : Table R).erase
    fun r => Keyed.key r ∈ (Stored.get s : Table R).matching p)
  frame row hrow t := by
    refine Stored.frame t _ row fun k hk => ?_
    have hk' : k ∉ (Stored.get s : Table R).matching p := fun hmem =>
      hrow (List.mem_map.mpr ⟨_, hmem, hk⟩)
    rw [Table.find_erase]
    cases hf : (Stored.get t : Table R).find k with
    | none => rfl
    | some r =>
        rw [Option.filter_some, if_pos]
        simpa [(Table.find_eq_some.mp hf).2] using hk'

variable {R}

/-- The write of `INSERT r`. -/
def inserting (r : R) : Write S Row where
  keys := [Stored.name S R (Keyed.key r)]
  act t := Stored.set t ((Stored.get t : Table R).insert r)
  frame row hrow t := by
    refine Stored.frame t _ row fun k hk => ?_
    refine (Table.find_insert_of_ne fun h => hrow ?_).symm
    rw [h, hk]
    exact List.mem_singleton_self _

/-- The effect of an update on the state it runs in. -/
@[simp] theorem updating_act_self (p : R → Bool) (f : R → R) (s : S) :
    (updating R p f s).act s = Stored.set s ((Stored.get s : Table R).update p f) := by
  simp only [updating, Table.update_matching]

/-- The effect of a delete on the state it runs in. -/
@[simp] theorem deleting_act_self (p : R → Bool) (s : S) :
    (deleting R p s).act s = Stored.set s ((Stored.get s : Table R).erase p) := by
  simp only [deleting, Table.erase_matching]

section OneRow

variable {p : R → Bool} {k : K} {s : S}

/-- A `WHERE` that can only select the row under one key selects it when it satisfies the
condition. -/
theorem matching_eq_singleton (hp : ∀ r, p r → Keyed.key r = k) {r : R}
    (hr : (Stored.get s : Table R).find k = some r) (hpr : p r) :
    ∀ k', k' ∈ (Stored.get s : Table R).matching p ↔ k' = k := by
  intro k'
  rw [Table.mem_matching]
  constructor
  · rintro ⟨r', hr', hpr'⟩
    rw [← hp r' hpr', (Table.find_eq_some.mp hr').2]
  · rintro rfl
    exact ⟨r, hr, hpr⟩

/-- An update that selected the row under one key updates that row, in whatever state it
is applied. -/
theorem updating_act_of_match (hp : ∀ r, p r → Keyed.key r = k) {r : R}
    (hr : (Stored.get s : Table R).find k = some r) (hpr : p r) (f : R → R) (t : S) :
    (updating R p f s).act t
      = Stored.set t ((Stored.get t : Table R).update (fun x => Keyed.key x = k) f) := by
  simp only [updating, matching_eq_singleton hp hr hpr]

/-- An update that selected the row under one key locks it. -/
theorem mem_keys_updating (hp : ∀ r, p r → Keyed.key r = k) {r : R}
    (hr : (Stored.get s : Table R).find k = some r) (hpr : p r) (f : R → R) :
    Stored.name S R k ∈ (updating R p f s).keys :=
  List.mem_map_of_mem ((matching_eq_singleton hp hr hpr k).mpr rfl)

omit [Stored S R] in
/-- A key no row carries is not selected. -/
theorem matching_key_of_find_eq_none {t : Table R} (h : t.find k = none) :
    t.matching (fun r => Keyed.key r = k) = [] := by
  have hne : ∀ r ∈ t.rows, Keyed.key r ≠ k := Table.find_eq_none.mp h
  simpa [Table.matching] using hne

omit [Stored S R] in
/-- The count of a statement by key says whether there is a row. -/
theorem length_matching_key {t : Table R} :
    (t.matching fun x => Keyed.key x = k).length = 0 ↔ t.find k = none := by
  constructor
  · intro h
    by_contra hsome
    obtain ⟨r, hr⟩ := Option.ne_none_iff_exists'.mp hsome
    refine Nat.ne_of_gt (List.length_pos_of_mem (Table.mem_matching.mpr ⟨r, hr, ?_⟩)) h
    exact decide_eq_true (Table.find_eq_some.mp hr).2
  · intro h
    rw [matching_key_of_find_eq_none h, List.length_nil]

/-- A delete that selected the row under one key deletes that row, in whatever state it is
applied. -/
theorem deleting_act_of_match (hp : ∀ r, p r → Keyed.key r = k) {r : R}
    (hr : (Stored.get s : Table R).find k = some r) (hpr : p r) (t : S) :
    (deleting R p s).act t
      = Stored.set t ((Stored.get t : Table R).erase fun x => Keyed.key x = k) := by
  simp only [deleting, matching_eq_singleton hp hr hpr]

/-- A delete that selected the row under one key locks it. -/
theorem mem_keys_deleting (hp : ∀ r, p r → Keyed.key r = k) {r : R}
    (hr : (Stored.get s : Table R).find k = some r) (hpr : p r) :
    Stored.name S R k ∈ (deleting R p s).keys :=
  List.mem_map_of_mem ((matching_eq_singleton hp hr hpr k).mpr rfl)

/-- An update that selected no row changes nothing, in whatever state it is applied. -/
theorem updating_act_of_no_match (h : (Stored.get s : Table R).matching p = []) (f : R → R)
    (t : S) : (updating R p f s).act t = t := by
  simp only [updating, h, List.not_mem_nil, decide_false]
  rw [Table.update_of_forall_not f fun _ _ => rfl, Stored.set_get]

/-- A delete that selected no row changes nothing, in whatever state it is applied. -/
theorem deleting_act_of_no_match (h : (Stored.get s : Table R).matching p = []) (t : S) :
    (deleting R p s).act t = t := by
  simp only [deleting, h, List.not_mem_nil, decide_false]
  rw [Table.erase_of_forall_not fun _ _ => rfl, Stored.set_get]

end OneRow

/-- The effect of an insert. -/
@[simp] theorem inserting_act (r : R) (s : S) :
    (inserting r : Write S Row).act s = Stored.set s ((Stored.get s : Table R).insert r) :=
  rfl

namespace Session

variable (R)

/-- The first row that satisfies a condition. -/
def findFirst (p : R → Bool) : Session S Row L M E Res (Option R) :=
  query fun s => (Stored.get s : Table R).rows.find? p

/-- The rows that satisfy a condition. -/
def findMany (p : R → Bool) : Session S Row L M E Res (List R) :=
  query fun s => (Stored.get s : Table R).rows.filter p

/-- The row under a key. -/
def findUnique (k : K) : Session S Row L M E Res (Option R) :=
  query fun s => (Stored.get s : Table R).find k

/-- Update the rows that satisfy a condition; returns how many there were. -/
def updateMany (p : R → Bool) (f : R → R) : Session S Row L M E Res ℕ :=
  statement (fun s => [updating R p f s]) fun s => ((Stored.get s : Table R).matching p).length

/-- Update the row under a key; throws `missing` when there is none. -/
def update (k : K) (f : R → R) (missing : E) : Session S Row L M E Res Unit := do
  let count ← updateMany R (fun r => Keyed.key r = k) f
  if count = 0 then throw missing

/-- Delete the rows that satisfy a condition; returns how many there were. -/
def deleteMany (p : R → Bool) : Session S Row L M E Res ℕ :=
  statement (fun s => [deleting R p s]) fun s => ((Stored.get s : Table R).matching p).length

/-- Delete the row under a key; throws `missing` when there is none. -/
def delete (k : K) (missing : E) : Session S Row L M E Res Unit := do
  let count ← deleteMany R fun r => Keyed.key r = k
  if count = 0 then throw missing

variable {R}

/-- Insert a row; throws `taken` when its key is in use. -/
def create (r : R) (taken : E) : Session S Row L M E Res Unit := do
  let clash ← statement
    (fun s => if ((Stored.get s : Table R).find (Keyed.key r)).isSome then [] else [inserting r])
    fun s => ((Stored.get s : Table R).find (Keyed.key r)).isSome
  if clash then throw taken

/-- Update the row under `r`'s key, or insert `r` when there is none. -/
def upsert (r : R) (f : R → R) : Session S Row L M E Res Unit :=
  statement
    (fun s =>
      if ((Stored.get s : Table R).find (Keyed.key r)).isSome then
        [updating R (fun x => Keyed.key x = Keyed.key r) f s]
      else [inserting r])
    fun _ => ()

/-! ### Statements run alone -/

section Exec

open Program

variable {α : Type} (answer : M → Bool) (committed working : S) (err : E → Program S Row L M Res)

@[simp] theorem exec_query (value : S → α) (ok : α → Program S Row L M Res) :
    (query (E := E) value ok err).exec answer committed working
      = (ok (value working)).exec answer committed working := rfl

@[simp] theorem exec_findFirst (p : R → Bool) (ok : Option R → Program S Row L M Res) :
    (findFirst R p ok err).exec answer committed working
      = (ok ((Stored.get working : Table R).rows.find? p)).exec answer committed working := rfl

@[simp] theorem exec_findMany (p : R → Bool) (ok : List R → Program S Row L M Res) :
    (findMany R p ok err).exec answer committed working
      = (ok ((Stored.get working : Table R).rows.filter p)).exec answer committed working := rfl

@[simp] theorem exec_findUnique (k : K) (ok : Option R → Program S Row L M Res) :
    (findUnique R k ok err).exec answer committed working
      = (ok ((Stored.get working : Table R).find k)).exec answer committed working := rfl

@[simp] theorem exec_updateMany (p : R → Bool) (f : R → R) (ok : ℕ → Program S Row L M Res) :
    (updateMany R p f ok err).exec answer committed working
      = (ok ((Stored.get working : Table R).matching p).length).exec answer committed
          (Stored.set working ((Stored.get working : Table R).update p f)) := by
  simp [updateMany]

/-- The effect of an upsert. -/
@[simp] theorem exec_upsert (r : R) (f : R → R) (ok : Unit → Program S Row L M Res) :
    (upsert r f ok err).exec answer committed working
      = (ok ()).exec answer committed (Stored.set working
          (if ((Stored.get working : Table R).find (Keyed.key r)).isSome then
            (Stored.get working : Table R).update (fun x => Keyed.key x = Keyed.key r) f
          else (Stored.get working : Table R).insert r)) := by
  by_cases h : ((Stored.get working : Table R).find (Keyed.key r)).isSome <;> simp [upsert, h]

/-- An update of a row that is there goes through. -/
theorem exec_update {k : K} {r : R} (h : (Stored.get working : Table R).find k = some r)
    (f : R → R) (missing : E) (ok : Unit → Program S Row L M Res) :
    (update R k f missing ok err).exec answer committed working
      = (ok ()).exec answer committed (Stored.set working
          ((Stored.get working : Table R).update (fun x => Keyed.key x = k) f)) := by
  have hpos : ¬ ((Stored.get working : Table R).matching fun x => Keyed.key x = k).length = 0 := by
    intro hzero
    rw [length_matching_key.mp hzero] at h
    cases h
  simp only [update, bind_apply, exec_updateMany, if_neg hpos, pure_apply]

/-- An update of a row that is missing throws and changes nothing. -/
theorem exec_update_missing {k : K} (h : (Stored.get working : Table R).find k = none)
    (f : R → R) (missing : E) (ok : Unit → Program S Row L M Res) :
    (update R k f missing ok err).exec answer committed working
      = (err missing).exec answer committed working := by
  have hne : ∀ r ∈ (Stored.get working : Table R).rows, Keyed.key r ≠ k :=
    Table.find_eq_none.mp h
  have hnil := matching_key_of_find_eq_none h
  have hsame : (Stored.get working : Table R).update (fun x => Keyed.key x = k) f
      = Stored.get working :=
    Table.update_of_forall_not f fun r hr => by simp [hne r hr]
  simp [update, hnil, hsame, Stored.set_get]

end Exec

/-! ### Loops run alone -/

section Loops

variable {α β : Type} {answer : M → Bool}

/-- A loop that only reads. -/
theorem exec_foldlM {f : β → α → Session S Row L M E Res β} {g : S → β → α → β}
    {committed working : S} (err : E → Program S Row L M Res)
    (hround : ∀ b a ok, (f b a ok err).exec answer committed working
      = (ok (g working b a)).exec answer committed working)
    (xs : List α) (b : β) (ok : β → Program S Row L M Res) :
    (xs.foldlM f b ok err).exec answer committed working
      = (ok (xs.foldl (g working) b)).exec answer committed working := by
  induction xs generalizing b with
  | nil => rfl
  | cons x xs ih => rw [List.foldlM_cons, bind_apply, hround, ih, List.foldl_cons]

/-- A loop of which every round has committed its effect has committed them all, one after the
other. `P` is what a round may rely on about the rounds to come and the state. -/
theorem exec_forM {f : α → Session S Row L M E Res Unit} {g : α → S → S}
    {P : List α → S → Prop} (err : E → Program S Row L M Res)
    (hround : ∀ a rest s ok, P (a :: rest) s →
      (f a ok err).exec answer s s = (ok ()).exec answer (g a s) (g a s) ∧ P rest (g a s))
    (xs : List α) (ok : Unit → Program S Row L M Res) (s : S) (h : P xs s) :
    (forM xs f ok err).exec answer s s
      = (ok ()).exec answer (xs.foldl (fun s a => g a s) s)
          (xs.foldl (fun s a => g a s) s) := by
  induction xs generalizing s with
  | nil => rfl
  | cons x xs ih =>
      rw [List.forM_cons, bind_apply]
      obtain ⟨hexec, hnext⟩ := hround x xs s (fun _ => (forM xs f) ok err) h
      rw [hexec, ih _ hnext, List.foldl_cons]

end Loops

end Session

end Store
