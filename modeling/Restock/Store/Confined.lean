import Restock.Store.ReadCommitted
import Restock.Store.Statement

/-!
# Sessions confined to some writes

Most of what a client does between two decisive statements does not matter to a contract:
reads, and writes that leave the rows in question alone. `Contract.Confined Φ x` says that
the session `x`, whatever its loops and branches do, only adds writes that satisfy `Φ`, so
that what follows it can be checked against any such writes and any interference.

The rules follow the way sessions are written: `pure`, `bind`, single statements, loops and
the statements on a table. `safe_query`, `safe_updateMany`, `safe_update` and
`safe_autocommit` are the rules for the statements that do matter.
-/

namespace Store

variable {S K L M R ι E : Type} [RowModel S K]

/-- Writes that all keep a reflexive and transitive relation keep it together. -/
theorem rel_sees {P : S → S → Prop} (hrefl : ∀ s, P s s)
    (htrans : ∀ {s t u}, P s t → P t u → P s u) {ws : List (Write S K)}
    (h : ∀ w ∈ ws, ∀ s, P s (w.act s)) (s : S) : P s (sees ws s) := by
  induction ws generalizing s with
  | nil => exact hrefl s
  | cons w ws ih =>
      exact htrans (h w List.mem_cons_self s) (ih (fun v hv => h v (List.mem_cons_of_mem _ hv)) _)

namespace Contract

variable (Γ : Contract S K L M R ι) (i : ι) (Φ : Write S K → Prop)

/-- What follows a session is safe, in any state the session can leave: it has seen at
least what was seen before, has added writes that satisfy `Φ`, and others may have
committed. -/
def SafeAfter (next : Program S K L M R) (seen : List S) (ws : List (Write S K)) (db : S) :
    Prop :=
  ∀ seen' ws' db', seen ⊆ seen' → (∀ w ∈ ws', Φ w) → Γ.Rely (locked ws) db db' →
    Γ.Safe i next seen' (ws ++ ws') db'

/-- A session only adds writes that satisfy `Φ`. -/
def Confined {α : Type} (x : Session S K L M E R α) : Prop :=
  ∀ ok err seen ws db, (∀ a, Γ.SafeAfter i Φ (ok a) seen ws db) →
    (∀ e, Γ.SafeAfter i Φ (err e) seen ws db) → Γ.Safe i (x ok err) seen ws db

variable {Γ i Φ}

/-- What is safe after a session is safe at once. -/
theorem SafeAfter.now {next : Program S K L M R} {seen : List S} {ws : List (Write S K)} {db : S}
    (h : Γ.SafeAfter i Φ next seen ws db) : Γ.Safe i next seen ws db := by
  simpa using h seen [] db (List.Subset.refl _) (by simp) .refl

/-- What is safe after a session is still safe after some more of it. -/
theorem SafeAfter.later {next : Program S K L M R} {seen seen' : List S}
    {ws ws' : List (Write S K)} {db db' : S} (h : Γ.SafeAfter i Φ next seen ws db)
    (hseen : seen ⊆ seen') (hws : ∀ w ∈ ws', Φ w) (hrely : Γ.Rely (locked ws) db db') :
    Γ.SafeAfter i Φ next seen' (ws ++ ws') db' := by
  intro seen'' ws'' db'' hseen' hws' hrely'
  rw [List.append_assoc]
  refine h _ _ _ (List.Subset.trans hseen hseen') (fun w hw => ?_) (hrely.trans hrely'.left)
  rcases List.mem_append.mp hw with hw | hw
  · exact hws w hw
  · exact hws' w hw

/-- What is safe over any pending writes that satisfy `Φ`. -/
def SafeOver (Γ : Contract S K L M R ι) (i : ι) (Φ : Write S K → Prop)
    (next : Program S K L M R) : Prop :=
  ∀ seen ws db, (∀ w ∈ ws, Φ w) → Γ.Safe i next seen ws db

/-- A session that only adds writes that satisfy `Φ` is safe over such writes when what
follows it is. -/
theorem Confined.safeOver {α : Type} {x : Session S K L M E R α} (hx : Γ.Confined i Φ x)
    {ok : α → Program S K L M R} {err : E → Program S K L M R}
    (hok : ∀ a, Γ.SafeOver i Φ (ok a)) (herr : ∀ e, Γ.SafeOver i Φ (err e)) :
    Γ.SafeOver i Φ (x ok err) := by
  intro seen ws db hws
  have hmore : ∀ next, Γ.SafeOver i Φ next → Γ.SafeAfter i Φ next seen ws db := by
    intro next hnext seen' ws' db' _ hws' _
    refine hnext seen' (ws ++ ws') db' fun w hw => ?_
    rcases List.mem_append.mp hw with hw | hw
    · exact hws w hw
    · exact hws' w hw
  exact hx ok err seen ws db (fun a => hmore _ (hok a)) fun e => hmore _ (herr e)

section Rules

variable {α β : Type}

theorem confined_pure (a : α) : Γ.Confined i Φ (pure a : Session S K L M E R α) :=
  fun _ _ _ _ _ hok _ => (hok a).now

theorem confined_throw (e : E) : Γ.Confined i Φ (throw e : Session S K L M E R α) :=
  fun _ _ _ _ _ _ herr => (herr e).now

theorem confined_bind {x : Session S K L M E R α} {f : α → Session S K L M E R β}
    (hx : Γ.Confined i Φ x) (hf : ∀ a, Γ.Confined i Φ (f a)) : Γ.Confined i Φ (x >>= f) := by
  intro ok err seen ws db hok herr
  refine hx _ _ _ _ _ (fun a => ?_) herr
  intro seen' ws' db' hseen hws hrely
  exact hf a _ _ _ _ _ (fun b => (hok b).later hseen hws hrely)
    fun e => (herr e).later hseen hws hrely

theorem confined_statement {writes : S → List (Write S K)} {value : S → α}
    (h : ∀ s, ∀ w ∈ writes s, Φ w) :
    Γ.Confined i Φ (Session.statement writes value : Session S K L M E R α) := by
  intro ok err seen ws db hok _ db' _ hrely
  exact hok _ _ _ _ (List.subset_append_left ..) (h _) hrely

theorem confined_query (value : S → α) :
    Γ.Confined i Φ (Session.query value : Session S K L M E R α) :=
  confined_statement fun _ _ hw => by cases hw

theorem confined_ite {p : Prop} [Decidable p] {x y : Session S K L M E R α}
    (hx : p → Γ.Confined i Φ x) (hy : ¬ p → Γ.Confined i Φ y) :
    Γ.Confined i Φ (if p then x else y) := by
  by_cases h : p
  · simpa [h] using hx h
  · simpa [h] using hy h

theorem confined_foldlM {f : β → α → Session S K L M E R β} {xs : List α} (b : β)
    (hf : ∀ b, ∀ a ∈ xs, Γ.Confined i Φ (f b a)) : Γ.Confined i Φ (xs.foldlM f b) := by
  induction xs generalizing b with
  | nil => exact confined_pure b
  | cons x xs ih =>
      rw [List.foldlM_cons]
      exact confined_bind (hf b x List.mem_cons_self) fun b' =>
        ih b' fun b a ha => hf b a (List.mem_cons_of_mem _ ha)

theorem confined_forM {f : α → Session S K L M E R Unit} {xs : List α}
    (hf : ∀ a ∈ xs, Γ.Confined i Φ (f a)) : Γ.Confined i Φ (forM xs f) := by
  induction xs with
  | nil => exact confined_pure ()
  | cons x xs ih =>
      rw [List.forM_cons]
      exact confined_bind (hf x List.mem_cons_self) fun _ =>
        ih fun a ha => hf a (List.mem_cons_of_mem _ ha)

end Rules

section Statements

variable (T : Type) {Key : Type} [Keyed T Key] [DecidableEq Key] [Stored S T]

theorem confined_findFirst (p : T → Bool) :
    Γ.Confined i Φ (Session.findFirst T p : Session S K L M E R (Option T)) :=
  confined_query _

theorem confined_findMany (p : T → Bool) :
    Γ.Confined i Φ (Session.findMany T p : Session S K L M E R (List T)) :=
  confined_query _

variable {T}

theorem confined_updateMany {p : T → Bool} {f : T → T} (h : ∀ s, Φ (updating T p f s)) :
    Γ.Confined i Φ (Session.updateMany T p f : Session S K L M E R ℕ) :=
  confined_statement fun s w hw => by rw [List.mem_singleton.mp hw]; exact h s

theorem confined_update {k : Key} {f : T → T} {missing : E}
    (h : ∀ s, Φ (updating T (fun r => Keyed.key r = k) f s)) :
    Γ.Confined i Φ (Session.update T k f missing : Session S K L M E R Unit) :=
  confined_bind (confined_updateMany h) fun _ =>
    confined_ite (fun _ => confined_throw missing) fun _ => confined_pure ()

theorem confined_upsert {r : T} {f : T → T}
    (hupdate : ∀ s, Φ (updating T (fun x => Keyed.key x = Keyed.key r) f s))
    (hinsert : Φ (inserting r)) :
    Γ.Confined i Φ (Session.upsert r f : Session S K L M E R Unit) := by
  refine confined_statement fun s w hw => ?_
  split at hw
  · rw [List.mem_singleton.mp hw]; exact hupdate s
  · rw [List.mem_singleton.mp hw]; exact hinsert

end Statements

/-! ### Single statements -/

section Safe

variable {seen : List S} {ws : List (Write S K)} {db : S} {err : E → Program S K L M R}

/-- Taking an advisory lock is safe when what follows is. -/
theorem safe_lock {name : L} {next : Program S K L M R} (h : Γ.Safe i next seen ws db) :
    Γ.Safe i (.lock name next) seen ws db :=
  h

/-- A read is safe when what follows is, whatever it reads. -/
theorem safe_query {α : Type} {value : S → α} {ok : α → Program S K L M R}
    (h : ∀ db', Γ.Inv db' → Γ.Rely (locked ws) db db' →
      Γ.Safe i (ok (value (sees ws db'))) (seen ++ [db']) ws db') :
    Γ.Safe i ((Session.query value : Session S K L M E R α) ok err) seen ws db := by
  intro db' hinv hrely
  rw [List.append_nil]
  exact h db' hinv hrely

/-- A read that no write of the transaction is pending before, on the committed state. -/
theorem safe_read {α : Type} {value : S → α} {ok : α → Program S K L M R}
    (h : ∀ db', Γ.Inv db' → Γ.Rely [] db db' → Γ.Safe i (ok (value db')) (seen ++ [db']) [] db') :
    Γ.Safe i ((Session.query value : Session S K L M E R α) ok err) seen [] db :=
  safe_query h

variable {T : Type} {Key : Type} [Keyed T Key] [DecidableEq Key] [Stored S T]

/-- An update by condition is safe when what follows is, whatever rows it selects. -/
theorem safe_updateMany {p : T → Bool} {f : T → T} {ok : ℕ → Program S K L M R}
    (h : ∀ db', Γ.Inv db' → Γ.Rely (locked ws) db db' →
      Γ.Safe i (ok ((Stored.get (sees ws db') : Table T).matching p).length) (seen ++ [db'])
        (ws ++ [updating T p f (sees ws db')]) db') :
    Γ.Safe i ((Session.updateMany T p f : Session S K L M E R ℕ) ok err) seen ws db :=
  h

/-- A delete by condition is safe when what follows is, whatever rows it selects. -/
theorem safe_deleteMany {p : T → Bool} {ok : ℕ → Program S K L M R}
    (h : ∀ db', Γ.Inv db' → Γ.Rely (locked ws) db db' →
      Γ.Safe i (ok ((Stored.get (sees ws db') : Table T).matching p).length) (seen ++ [db'])
        (ws ++ [deleting T p (sees ws db')]) db') :
    Γ.Safe i ((Session.deleteMany T p : Session S K L M E R ℕ) ok err) seen ws db :=
  h

/-- An update by key is safe when what follows is: with the row updated and locked, or the
exception when there is no row. -/
theorem safe_update {k : Key} {f : T → T} {missing : E} {ok : Unit → Program S K L M R}
    (hmissing : ∀ db', Γ.Inv db' → Γ.Rely (locked ws) db db' →
      (Stored.get (sees ws db') : Table T).find k = none →
      Γ.Safe i (err missing) (seen ++ [db'])
        (ws ++ [updating T (fun x => Keyed.key x = k) f (sees ws db')]) db')
    (h : ∀ db' r, Γ.Inv db' → Γ.Rely (locked ws) db db' →
      (Stored.get (sees ws db') : Table T).find k = some r →
      Γ.Safe i (ok ()) (seen ++ [db'])
        (ws ++ [updating T (fun x => Keyed.key x = k) f (sees ws db')]) db') :
    Γ.Safe i ((Session.update T k f missing : Session S K L M E R Unit) ok err) seen ws db := by
  show Γ.Safe i ((Session.updateMany T (fun x => Keyed.key x = k) f : Session S K L M E R ℕ)
    (fun count => (if count = 0 then throw missing else pure () : Session S K L M E R Unit) ok err)
    err) seen ws db
  refine safe_updateMany fun db' hinv hrely => ?_
  cases hfind : (Stored.get (sees ws db') : Table T).find k with
  | none =>
      rw [if_pos (length_matching_key.mpr hfind)]
      exact hmissing db' hinv hrely hfind
  | some r =>
      rw [if_neg fun h0 => by rw [length_matching_key.mp h0] at hfind; cases hfind]
      exact h db' r hinv hrely hfind

/-- A delete by key is safe when what follows is: with the row deleted and locked, or the
exception when there is no row. -/
theorem safe_delete {k : Key} {missing : E} {ok : Unit → Program S K L M R}
    (hmissing : ∀ db', Γ.Inv db' → Γ.Rely (locked ws) db db' →
      (Stored.get (sees ws db') : Table T).find k = none →
      Γ.Safe i (err missing) (seen ++ [db'])
        (ws ++ [deleting T (fun x => Keyed.key x = k) (sees ws db')]) db')
    (h : ∀ db' r, Γ.Inv db' → Γ.Rely (locked ws) db db' →
      (Stored.get (sees ws db') : Table T).find k = some r →
      Γ.Safe i (ok ()) (seen ++ [db'])
        (ws ++ [deleting T (fun x => Keyed.key x = k) (sees ws db')]) db') :
    Γ.Safe i ((Session.delete T k missing : Session S K L M E R Unit) ok err) seen ws db := by
  intro db' hinv hrely
  show Γ.Safe i ((if ((Stored.get (sees ws db') : Table T).matching fun x =>
    Keyed.key x = k).length = 0 then throw missing else pure () : Session S K L M E R Unit) ok err)
    _ _ _
  cases hfind : (Stored.get (sees ws db') : Table T).find k with
  | none =>
      rw [if_pos (length_matching_key.mpr hfind)]
      exact hmissing db' hinv hrely hfind
  | some r =>
      rw [if_neg fun h0 => by rw [length_matching_key.mp h0] at hfind; cases hfind]
      exact h db' r hinv hrely hfind

/-- What is safe whenever it starts without pending writes. -/
def SafeAnyway (Γ : Contract S K L M R ι) (i : ι) (next : Program S K L M R) : Prop :=
  ∀ seen db, Γ.Safe i next seen [] db

/-- A loop whose rounds are safe when what follows them is. -/
theorem safeAnyway_forM {α : Type} {xs : List α} {f : α → Session S K L M E R Unit}
    {ok : Unit → Program S K L M R}
    (hf : ∀ x ∈ xs, ∀ ok : Unit → Program S K L M R, Γ.SafeAnyway i (ok ()) →
      Γ.SafeAnyway i (f x ok err))
    (hok : Γ.SafeAnyway i (ok ())) :
    Γ.SafeAnyway i ((forM xs f : Session S K L M E R Unit) ok err) := by
  induction xs with
  | nil => exact hok
  | cons x xs ih =>
      rw [List.forM_cons]
      exact hf x List.mem_cons_self _ (ih fun y hy => hf y (List.mem_cons_of_mem x hy))

/-- A contract that asks nothing of a commit that changes nothing. -/
structure Reflexive (Γ : Contract S K L M R ι) : Prop where
  guar : ∀ s, Γ.Guar s s
  atCommit : ∀ i seen s next, Γ.AtCommit i seen s s next

/-- A commit whose writes change nothing is safe. -/
theorem safe_commit_of_same (hΓ : Γ.Reflexive) {next : Program S K L M R}
    (hsame : ∀ s, sees ws s = s) (hnext : Γ.SafeAnyway i next) :
    Γ.Safe i (.commit next) seen ws db := by
  intro db' hinv _ _
  rw [hsame]
  exact ⟨hinv, hΓ.guar db', hΓ.atCommit i seen db' next, hnext seen db'⟩

/-- An update by condition, as a transaction of its own, is safe when its commit is. The
rows it updates were selected in the state `s` of the statement. -/
theorem safe_autocommit_many {p : T → Bool} {f : T → T} {ok : ℕ → Program S K L M R}
    (hcommit : ∀ s t n, Γ.Inv t → Γ.ok i (seen ++ [s]) [updating T p f s] t →
      let t' := (updating T p f s).act t
      Γ.Inv t' ∧ Γ.Guar t t' ∧ Γ.AtCommit i (seen ++ [s]) t t' (ok n) ∧
        Γ.Safe i (ok n) (seen ++ [s]) [] t') :
    Γ.Safe i ((Session.transaction (Session.updateMany T p f) : Session S K L M E R ℕ) ok err)
      seen [] db := by
  show Γ.Safe i ((Session.updateMany T p f : Session S K L M E R ℕ) (fun n => .commit (ok n))
    fun e => .rollback (err e)) seen [] db
  exact safe_updateMany fun s _ _ t hinv _ hok => hcommit s t _ hinv hok

/-- An update of the row under one key, as a transaction of its own, is safe when a commit
that found the row is. The row is locked between the statement and the commit, so that it
still satisfies the condition at the commit. -/
theorem safe_autocommit (hΓ : Γ.Reflexive) {p : T → Bool} {f : T → T} {k : Key}
    {ok : ℕ → Program S K L M R} (hp : ∀ r, p r → Keyed.key r = k)
    (hmiss : Γ.SafeAnyway i (ok 0))
    (hhit : ∀ s db' r n, Γ.Inv db' → (Stored.get db' : Table T).find k = some r → p r → n ≠ 0 →
      Stored.name S T k ∈ locked [updating T p f s] → Γ.ok i (seen ++ [s]) [updating T p f s] db' →
      let t : S := Stored.set db' ((Stored.get db' : Table T).update (fun x => Keyed.key x = k) f)
      Γ.Inv t ∧ Γ.Guar db' t ∧ Γ.AtCommit i (seen ++ [s]) db' t (ok n) ∧
        Γ.Safe i (ok n) (seen ++ [s]) [] t) :
    Γ.Safe i ((Session.transaction (Session.updateMany T p f) : Session S K L M E R ℕ) ok err)
      seen [] db := by
  show Γ.Safe i ((Session.updateMany T p f : Session S K L M E R ℕ) (fun n => .commit (ok n))
    fun e => .rollback (err e)) seen [] db
  refine safe_updateMany fun s _ _ => ?_
  rw [sees_nil, List.nil_append]
  by_cases hnone : (Stored.get s : Table T).matching p = []
  · rw [hnone]
    refine safe_commit_of_same hΓ (fun t => ?_) hmiss
    rw [sees_cons, sees_nil, updating_act_of_no_match hnone]
  · obtain ⟨k', hk'⟩ := List.exists_mem_of_ne_nil _ hnone
    obtain ⟨r, hr, hpr⟩ := Table.mem_matching.mp hk'
    obtain rfl : k' = k := by rw [← hp r hpr, (Table.find_eq_some.mp hr).2]
    intro db' hinv hrely hok
    have hlocked : Stored.name S T k' ∈ locked [updating T p f s] := by
      simpa using mem_keys_updating hp hr hpr f
    have hr' : (Stored.get db' : Table T).find k' = some r := by
      rw [← Stored.find_of_same (hrely.same hlocked), hr]
    rw [sees_cons, sees_nil, updating_act_of_match hp hr hpr]
    exact hhit s db' r _ hinv hr' hpr (fun h => hnone (List.eq_nil_of_length_eq_zero h))
      hlocked hok

/-- An insert is safe when what follows is: with the row inserted under a key that was free,
and locked, or the exception when it was taken. -/
theorem safe_create {r : T} {taken : E} {ok : Unit → Program S K L M R}
    (htaken : ∀ db', Γ.Safe i (err taken) (seen ++ [db']) ws db')
    (h : ∀ db', Γ.Inv db' → Γ.Rely (locked ws) db db' →
      (Stored.get (sees ws db') : Table T).find (Keyed.key r) = none →
      Γ.Safe i (ok ()) (seen ++ [db']) (ws ++ [inserting r]) db') :
    Γ.Safe i ((Session.create r taken : Session S K L M E R Unit) ok err) seen ws db := by
  intro db' hinv hrely
  show Γ.Safe i
    ((if ((Stored.get (sees ws db') : Table T).find (Keyed.key r)).isSome then throw taken
      else pure () : Session S K L M E R Unit) ok err) (seen ++ [db'])
    (ws ++ if ((Stored.get (sees ws db') : Table T).find (Keyed.key r)).isSome then []
      else [inserting r]) db'
  cases hfind : (Stored.get (sees ws db') : Table T).find (Keyed.key r) with
  | none => exact h db' hinv hrely hfind
  | some r' =>
      rw [Option.isSome_some, if_pos rfl, if_pos rfl, List.append_nil]
      exact htaken db'

/-! ### Sessions with a known effect -/

/-- When the session returns, its writes have the effect `act` over whatever is committed
then; it may also throw, after any writes. -/
def Does (Γ : Contract S K L M R ι) (i : ι) (x : Session S K L M E R Unit) (act : S → S) :
    Prop :=
  ∀ ok err seen ws db, (∀ e seen ws db, Γ.Safe i (err e) seen ws db) →
    (∀ more ws' db', Γ.Rely (locked ws) db db' →
      (∀ u, sees (ws ++ ws') u = act (sees ws u)) →
      Γ.Safe i (ok ()) (seen ++ more) (ws ++ ws') db') →
    Γ.Safe i (x ok err) seen ws db

/-- An update by key that returns has updated the row. -/
theorem does_update (k : Key) (f : T → T) (missing : E) :
    Γ.Does i (Session.update T k f missing : Session S K L M E R Unit) fun s =>
      Stored.set s ((Stored.get s : Table T).update (fun x => Keyed.key x = k) f) := by
  intro ok err seen ws db herr hok
  refine safe_update (fun _ _ _ _ => herr _ _ _ _) fun s r _ hrely hr => ?_
  refine hok [s] _ s hrely fun u => ?_
  rw [sees_append, sees_cons, sees_nil]
  exact updating_act_of_match (fun _ h => of_decide_eq_true h) hr
    (decide_eq_true (Table.find_eq_some.mp hr).2) f _

/-- An insert that returns has inserted the row. -/
theorem does_create (r : T) (taken : E) :
    Γ.Does i (Session.create r taken : Session S K L M E R Unit) fun s =>
      Stored.set s ((Stored.get s : Table T).insert r) := by
  intro ok err seen ws db herr hok
  refine safe_create (fun _ => herr _ _ _ _) fun s _ hrely _ => hok [s] _ s hrely fun u => ?_
  rw [sees_append, sees_cons, sees_nil, inserting_act]

/-- A loop whose rounds have known effects has them one after the other. -/
theorem does_forM {α : Type} {f : α → Session S K L M E R Unit} {act : α → S → S}
    (hf : ∀ a, Γ.Does i (f a) (act a)) (xs : List α) :
    Γ.Does i (forM xs f) fun s => xs.foldl (fun s a => act a s) s := by
  induction xs with
  | nil =>
      intro ok err seen ws db _ hok
      simpa using hok [] [] db .refl fun u => by simp
  | cons a xs ih =>
      intro ok err seen ws db herr hok
      rw [List.forM_cons]
      refine hf a _ err seen ws db herr fun more ws' db' hrely heffect => ?_
      refine ih ok err _ _ db' herr fun more' ws'' db'' hrely' heffect' => ?_
      rw [List.append_assoc, List.append_assoc]
      refine hok _ _ db'' (hrely.trans hrely'.left) fun u => ?_
      rw [← List.append_assoc, heffect', heffect]
      rfl

end Safe

end Contract

end Store
