import Mathlib.Data.List.Basic
import Mathlib.Order.Lattice

/-!
# The best of a list

Two loops that keep an entry. In `xs.reduce((best, x) => better(x, best) ? x : best)` an entry takes
the place of the best one so far when it is better. And
`for (const x of xs) if (best == null || score(x) < score(best)) best = x` ends with the first of the
elements whose score is least.

* `best`, `best_mem` — the first loop, which ends with an entry;
* `not_better_best` — no entry is better, where what is not better stays so along a chain;
* `takeLess`, `firstLeast` — the step of the second loop, and the loop;
* `FirstLeast` — all before it are greater, and none after it is less;
* `firstLeast_eq_some_iff` — the loop ends with that element.
-/

namespace Series

/-! ## The best -/

section Best

variable {α : Type} (better : α → α → Prop) [DecidableRel better]

/-- The best of some entries, the first one being given. -/
def best (a : α) (xs : List α) : α :=
  xs.foldl (fun best x => if better x best then x else best) a

theorem best_cons (a x : α) (xs : List α) :
    best better a (x :: xs) = best better (if better x a then x else a) xs := rfl

/-- The best of some entries is one of them. -/
theorem best_mem (a : α) (xs : List α) : best better a xs ∈ a :: xs := by
  induction xs generalizing a with
  | nil => exact List.mem_cons_self
  | cons x xs ih =>
      rw [best_cons]
      have h := ih (if better x a then x else a)
      rcases List.mem_cons.mp h with heq | hmem
      · rw [heq]
        split
        · exact List.mem_cons_of_mem _ List.mem_cons_self
        · exact List.mem_cons_self
      · exact List.mem_cons_of_mem _ (List.mem_cons_of_mem _ hmem)

variable {better}

/-- No entry is better than the best. -/
theorem not_better_best (hasymm : ∀ a b, better a b → ¬ better b a)
    (htrans : ∀ a b c, ¬ better a b → ¬ better b c → ¬ better a c) (a : α) (xs : List α) :
    ∀ x ∈ a :: xs, ¬ better x (best better a xs) := by
  induction xs generalizing a with
  | nil =>
      intro x hx h
      rw [List.mem_singleton.mp hx] at h
      exact hasymm a a h h
  | cons y xs ih =>
      rw [best_cons]
      split
      case isTrue hbetter =>
          -- the first entry gives way to one that is better
          have ih := ih y
          intro x hx
          rcases List.mem_cons.mp hx with rfl | hx
          · exact htrans _ _ _ (hasymm _ _ hbetter) (ih y List.mem_cons_self)
          · exact ih x hx
      case isFalse hworse =>
          have ih := ih a
          intro x hx
          rcases List.mem_cons.mp hx with rfl | hx
          · exact ih x List.mem_cons_self
          · rcases List.mem_cons.mp hx with rfl | hx
            · exact htrans _ _ _ hworse (ih a List.mem_cons_self)
            · exact ih x (List.mem_cons_of_mem _ hx)

end Best

/-! ## The first of the least -/

section Least

variable {α β : Type} [LinearOrder β] (score : α → β)

/-- An element takes the place of the best one so far when it is less, or the first. -/
def takeLess (best : Option α) (x : α) : Option α :=
  match best with
  | none => some x
  | some b => if score x < score b then some x else some b

/-- The loop. -/
def firstLeast (xs : List α) : Option α := xs.foldl (takeLess score) none

/-- The first of the elements whose score is least. -/
def FirstLeast (xs : List α) (least : α) : Prop :=
  ∃ before after, xs = before ++ least :: after ∧ (∀ x ∈ before, score least < score x) ∧
    ∀ x ∈ after, score least ≤ score x

variable {score} {xs : List α} {least : α}

/-- It is one of the elements. -/
theorem FirstLeast.mem (h : FirstLeast score xs least) : least ∈ xs := by
  obtain ⟨before, after, rfl, -, -⟩ := h
  simp

/-- No element is less. -/
theorem FirstLeast.le (h : FirstLeast score xs least) {x : α} (hx : x ∈ xs) :
    score least ≤ score x := by
  obtain ⟨before, after, rfl, hbefore, hafter⟩ := h
  rcases List.mem_append.mp hx with hx | hx
  · exact (hbefore x hx).le
  · rcases List.mem_cons.mp hx with rfl | hx
    · exact le_rfl
    · exact hafter x hx

/-- Something greater may stand before it. -/
theorem FirstLeast.cons (h : FirstLeast score xs least) {x : α} (hx : score least < score x) :
    FirstLeast score (x :: xs) least := by
  obtain ⟨before, after, rfl, hbefore, hafter⟩ := h
  exact ⟨x :: before, after, rfl, List.forall_mem_cons.mpr ⟨hx, hbefore⟩, hafter⟩

/-- Something that is no less may stand after the first element. -/
theorem FirstLeast.insert {b : α} (h : FirstLeast score (b :: xs) least) {x : α}
    (hx : score b ≤ score x) : FirstLeast score (b :: x :: xs) least := by
  obtain ⟨before, after, heq, hbefore, hafter⟩ := h
  match before, heq with
  | [], heq =>
      obtain ⟨rfl, rfl⟩ := List.cons.inj heq
      exact ⟨[], x :: xs, rfl, hbefore, List.forall_mem_cons.mpr ⟨hx, hafter⟩⟩
  | c :: before, heq =>
      obtain ⟨rfl, rfl⟩ := List.cons.inj heq
      obtain ⟨hb, hrest⟩ := List.forall_mem_cons.mp hbefore
      exact ⟨b :: x :: before, after, rfl,
        List.forall_mem_cons.mpr ⟨hb, List.forall_mem_cons.mpr ⟨hb.trans_le hx, hrest⟩⟩, hafter⟩

/-- There is one element at most that is first of the least. -/
theorem FirstLeast.unique {other : α} (h : FirstLeast score xs least)
    (hother : FirstLeast score xs other) : least = other := by
  induction xs with
  | nil => cases h.mem
  | cons x xs ih =>
      obtain ⟨before, after, heq, hbefore, hafter⟩ := h
      obtain ⟨before', after', heq', hbefore', hafter'⟩ := hother
      match before, heq, before', heq' with
      | [], heq, [], heq' => exact (List.cons.inj heq).1.symm.trans (List.cons.inj heq').1
      | [], heq, c :: before', heq' =>
          -- the first element is least, and greater than the other one
          obtain ⟨rfl, rfl⟩ := List.cons.inj heq
          obtain ⟨rfl, hxs⟩ := List.cons.inj heq'
          have hmem : other ∈ xs := hxs ▸ List.mem_append_right _ List.mem_cons_self
          exact absurd (hafter other hmem) (hbefore' x List.mem_cons_self).not_ge
      | c :: before, heq, [], heq' =>
          obtain ⟨rfl, hxs⟩ := List.cons.inj heq
          obtain ⟨rfl, rfl⟩ := List.cons.inj heq'
          have hmem : least ∈ xs := hxs ▸ List.mem_append_right _ List.mem_cons_self
          exact absurd (hafter' least hmem) (hbefore x List.mem_cons_self).not_ge
      | c :: before, heq, d :: before', heq' =>
          exact ih ⟨before, after, (List.cons.inj heq).2, (List.forall_mem_cons.mp hbefore).2, hafter⟩
            ⟨before', after', (List.cons.inj heq').2, (List.forall_mem_cons.mp hbefore').2, hafter'⟩

variable (score) in
/-- The loop after its first element ends with the first of the least. -/
theorem exists_foldl_takeLess (b : α) (xs : List α) :
    ∃ least, xs.foldl (takeLess score) (some b) = some least ∧
      FirstLeast score (b :: xs) least := by
  induction xs generalizing b with
  | nil => exact ⟨b, rfl, [], [], rfl, List.forall_mem_nil _, List.forall_mem_nil _⟩
  | cons x xs ih =>
      rw [List.foldl_cons, takeLess]
      split
      case isTrue hless =>
          obtain ⟨least, heq, hleast⟩ := ih x
          exact ⟨least, heq, hleast.cons ((hleast.le List.mem_cons_self).trans_lt hless)⟩
      case isFalse hmore =>
          obtain ⟨least, heq, hleast⟩ := ih b
          exact ⟨least, heq, hleast.insert (not_lt.mp hmore)⟩

/-- Without elements the loop ends with nothing. -/
theorem firstLeast_eq_none_iff : firstLeast score xs = none ↔ xs = [] := by
  cases xs with
  | nil => exact ⟨fun _ => rfl, fun _ => rfl⟩
  | cons b xs =>
      obtain ⟨least, heq, -⟩ := exists_foldl_takeLess score b xs
      rw [firstLeast, List.foldl_cons, takeLess, heq]
      simp

/-- The loop ends with the first of the least. -/
theorem firstLeast_eq_some_iff : firstLeast score xs = some least ↔ FirstLeast score xs least := by
  cases xs with
  | nil =>
      constructor
      · intro h
        cases h
      · intro h
        cases h.mem
  | cons b xs =>
      obtain ⟨found, heq, hfound⟩ := exists_foldl_takeLess score b xs
      rw [firstLeast, List.foldl_cons, takeLess, heq, Option.some.injEq]
      constructor
      · rintro rfl
        exact hfound
      · exact fun h => hfound.unique h

end Least

end Series
