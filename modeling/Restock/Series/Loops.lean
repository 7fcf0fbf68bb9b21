import Mathlib.Data.List.Induction
import Mathlib.Data.List.ReduceOption

/-!
# Loops

Loops over a list: one that makes something of every entry and gives up at the first entry it can
make nothing of; one each of whose turns sees what it has put out so far, as a running cap does; one
over the columns of a grid that keeps an array of states, one for each row, where entries of the grid
can be missing; and a machine that takes one event after the other.

* `mapM_eq_some_filterMap`, `mapM_eq_none`, `isSome_mapM` — the first goes through exactly when every
  entry does;
* `scan`, `getElem?_scan` — the second, and what it puts out at a place;
* `scan_prefix`, `map_scan`, `scan_eq_self` — a longer list starts with the same outputs, turns that
  agree give loops that agree, and a list that no turn changes is left alone;
* `column`, `sweep`, `sweep_eq` — the third, which is a fold over each row;
* `foldl_reduceOption`, `sweep_eq_reduceOption` — where a step skips what is missing, it is a fold
  over what is there;
* `countP_isSome`, `lastPresent`, `firstPresent` — the entries that are there;
* `Along`, `along_iff` — every step of a run has a property, and two properties that agree wherever a
  state property holds, which good steps keep, agree along runs.
-/

namespace Series

/-! ## Loops that may fail -/

section Attempts

variable {α β : Type} {f : α → Option β} {xs : List α}

/-- A loop over entries that all go through makes what they are made into. -/
theorem mapM_eq_some_filterMap (h : ∀ x ∈ xs, (f x).isSome) :
    xs.mapM f = some (xs.filterMap f) := by
  induction xs with
  | nil => rfl
  | cons x xs ih =>
      obtain ⟨hx, hxs⟩ := List.forall_mem_cons.mp h
      obtain ⟨y, hy⟩ := Option.isSome_iff_exists.mp hx
      rw [List.mapM_cons, hy, ih hxs, List.filterMap_cons_some hy]
      rfl

/-- A loop over an entry that does not go through fails. -/
theorem mapM_eq_none {x : α} (hx : x ∈ xs) (h : f x = none) : xs.mapM f = none := by
  induction xs with
  | nil => exact absurd hx List.not_mem_nil
  | cons y xs ih =>
      rw [List.mapM_cons]
      rcases List.mem_cons.mp hx with rfl | hrest
      · rw [h]
        rfl
      · rw [ih hrest]
        cases f y <;> rfl

/-- A loop goes through exactly when every entry does. -/
theorem isSome_mapM : (xs.mapM f).isSome ↔ ∀ x ∈ xs, (f x).isSome := by
  constructor
  · intro h x hx
    by_contra hnone
    rw [Option.not_isSome_iff_eq_none] at hnone
    rw [mapM_eq_none hx hnone] at h
    cases h
  · intro h
    rw [mapM_eq_some_filterMap h]
    rfl

end Attempts

/-! ## Loops that look back -/

section Scans

variable {α β γ δ : Type} (step : List β → α → β)

/-- The loop, with what is put out before it starts. -/
def scanFrom (before : List β) (xs : List α) : List β :=
  xs.foldl (fun before a => before ++ [step before a]) before

/-- The loop. -/
def scan (xs : List α) : List β :=
  scanFrom step [] xs

@[simp] theorem scanFrom_nil (before : List β) : scanFrom step before [] = before := rfl

@[simp] theorem scanFrom_cons (before : List β) (a : α) (xs : List α) :
    scanFrom step before (a :: xs) = scanFrom step (before ++ [step before a]) xs := rfl

theorem scan_append (xs ys : List α) :
    scan step (xs ++ ys) = scanFrom step (scan step xs) ys := by
  rw [scan, scanFrom, List.foldl_append]
  rfl

/-- The last turn. -/
theorem scan_concat (xs : List α) (a : α) :
    scan step (xs ++ [a]) = scan step xs ++ [step (scan step xs) a] := by
  rw [scan_append, scanFrom_cons, scanFrom_nil]

/-- What is put out once is there for good. -/
theorem prefix_scanFrom (before : List β) (xs : List α) : before <+: scanFrom step before xs := by
  induction xs generalizing before with
  | nil => exact List.prefix_refl before
  | cons a xs ih => exact (List.prefix_append before _).trans (ih _)

/-- A longer list starts with the same outputs. -/
theorem scan_prefix {xs ys : List α} (h : xs <+: ys) : scan step xs <+: scan step ys := by
  obtain ⟨rest, rfl⟩ := h
  rw [scan_append]
  exact prefix_scanFrom step _ rest

@[simp] theorem length_scan (xs : List α) : (scan step xs).length = xs.length := by
  induction xs using List.reverseRecOn with
  | nil => rfl
  | append_singleton xs a ih =>
      rw [scan_concat, List.length_append, List.length_append, ih, List.length_singleton,
        List.length_singleton]

/-- What the loop puts out at a place is its turn there, after the outputs before it. -/
theorem getElem?_scan (xs : List α) (t : ℕ) :
    (scan step xs)[t]? = xs[t]?.map (step ((scan step xs).take t)) := by
  induction xs using List.reverseRecOn with
  | nil => rfl
  | append_singleton xs a ih =>
      rw [scan_concat]
      rcases Nat.lt_trichotomy t xs.length with hlt | rfl | hgt
      · rw [List.getElem?_append_left (by rwa [length_scan]), List.getElem?_append_left hlt,
          List.take_append_of_le_length (by rw [length_scan]; omega), ih]
      · have htake : ((scan step xs) ++ [step (scan step xs) a]).take xs.length = scan step xs := by
          rw [List.take_left' (length_scan step xs)]
        rw [htake, List.getElem?_concat_length, Option.map_some]
        have hlast := List.getElem?_concat_length (l := scan step xs) (a := step (scan step xs) a)
        rwa [length_scan] at hlast
      · rw [List.getElem?_eq_none (by simp; omega), List.getElem?_eq_none (by simp; omega)]
        rfl

/-- Two loops whose turns agree through a view of what they put out, agree. -/
theorem map_scan (step' : List δ → γ → δ) (view : β → δ) (input : α → γ)
    (h : ∀ before a, view (step before a) = step' (before.map view) (input a)) (xs : List α) :
    (scan step xs).map view = scan step' (xs.map input) := by
  induction xs using List.reverseRecOn with
  | nil => rfl
  | append_singleton xs a ih =>
      rw [scan_concat, List.map_append, List.map_append, List.map_singleton, List.map_singleton,
        scan_concat, ← ih, h]

/-- A list that no turn changes is left alone. -/
theorem scan_eq_self {step : List α → α → α} {xs : List α}
    (h : ∀ t a, xs[t]? = some a → step (xs.take t) a = a) : scan step xs = xs := by
  induction xs using List.reverseRecOn with
  | nil => rfl
  | append_singleton xs a ih =>
      have hrest : scan step xs = xs := by
        refine ih fun t b hb => ?_
        have hlt : t < xs.length := (List.getElem?_eq_some_iff.mp hb).1
        have := h t b (by rwa [List.getElem?_append_left hlt])
        rwa [List.take_append_of_le_length (Nat.le_of_lt hlt)] at this
      have hlast := h xs.length a List.getElem?_concat_length
      rw [List.take_left] at hlast
      rw [scan_concat, hrest, hlast]

end Scans

section Sweeps

variable {α σ : Type}

/-! ## Sweeps -/

/-- A column of a grid. -/
def column (grid : List (List (Option α))) (t : ℕ) : List (Option α) :=
  grid.map fun row => (row[t]?).join

/-- A loop over the columns with a state for each row. -/
def sweep (start : σ) (step : σ → Option α → σ) (grid : List (List (Option α))) (columns : ℕ) :
    List σ :=
  (List.range columns).foldl (fun states t => List.zipWith step states (column grid t))
    (grid.map fun _ => start)

variable {start : σ} {step : σ → Option α → σ} {grid : List (List (Option α))}

/-- Up to a column, the loop has folded over the entries of each row before it. -/
theorem sweep_take {n columns : ℕ} (hgrid : ∀ row ∈ grid, row.length = n) (hn : columns ≤ n) :
    sweep start step grid columns = grid.map fun row => (row.take columns).foldl step start := by
  induction columns with
  | zero => simp [sweep]
  | succ t ih =>
      have hstep : sweep start step grid (t + 1) =
          List.zipWith step (sweep start step grid t) (column grid t) := by
        rw [sweep, List.range_succ, List.foldl_append, List.foldl_cons, List.foldl_nil, ← sweep]
      rw [hstep, ih (Nat.le_of_succ_le hn), column, List.zipWith_map, List.zipWith_self]
      apply List.map_congr_left
      intro row hrow
      have ht : t < row.length := by
        rw [hgrid row hrow]
        omega
      rw [List.take_succ_eq_append_getElem ht, List.foldl_append, List.getElem?_eq_getElem ht]
      rfl

/-- The loop over all columns folds over each row. -/
theorem sweep_eq {columns : ℕ} (hgrid : ∀ row ∈ grid, row.length = columns) :
    sweep start step grid columns = grid.map (List.foldl step start) := by
  rw [sweep_take hgrid (Nat.le_refl columns)]
  apply List.map_congr_left
  intro row hrow
  rw [List.take_of_length_le (Nat.le_of_eq (hgrid row hrow))]

/-- A fold that skips what is missing is one over what is there. -/
theorem foldl_reduceOption (hskip : ∀ s, step s none = s) (s : σ) (row : List (Option α)) :
    row.foldl step s = row.reduceOption.foldl (fun s y => step s (some y)) s := by
  induction row generalizing s with
  | nil => rfl
  | cons y row ih =>
      cases y with
      | none => rw [List.foldl_cons, hskip, ih, List.reduceOption_cons_of_none]
      | some y => rw [List.foldl_cons, ih, List.reduceOption_cons_of_some, List.foldl_cons]

/-- A loop that skips what is missing folds over what is there. -/
theorem sweep_eq_reduceOption (hskip : ∀ s, step s none = s) {columns : ℕ}
    (hgrid : ∀ row ∈ grid, row.length = columns) :
    sweep start step grid columns =
      (grid.map List.reduceOption).map (List.foldl (fun s y => step s (some y)) start) := by
  rw [sweep_eq hgrid, List.map_map]
  exact List.map_congr_left fun row _ => foldl_reduceOption hskip start row

/-! ## What is there -/

/-- The entries that are there, counted in their places. -/
theorem countP_isSome (row : List (Option α)) :
    row.countP Option.isSome = row.reduceOption.length := by
  rw [List.reduceOption_length_eq, List.countP_eq_length_filter]

/-- The first entry that is there. -/
def firstPresent (row : List (Option α)) : Option α :=
  row.findSome? id

/-- The last entry that is there. -/
def lastPresent (row : List (Option α)) : Option α :=
  firstPresent row.reverse

theorem firstPresent_eq (row : List (Option α)) : firstPresent row = row.reduceOption.head? := by
  rw [firstPresent, List.reduceOption, List.head?_filterMap]

theorem lastPresent_eq (row : List (Option α)) : lastPresent row = row.reduceOption.getLast? := by
  rw [lastPresent, firstPresent_eq, List.reduceOption, List.filterMap_reverse, List.head?_reverse]

end Sweeps

/-! ## Along a run -/

section Runs

variable {S E : Type} (step : S → E → S)

/-- Every step of the run of some events from a state has a property. -/
def Along (P : S → E → Prop) : S → List E → Prop
  | _, [] => True
  | s, e :: events => P s e ∧ Along P (step s e) events

instance Along.decidable (P : S → E → Prop) [∀ s e, Decidable (P s e)] (s : S)
    (events : List E) : Decidable (Along step P s events) :=
  match events with
  | [] => isTrue trivial
  | e :: events =>
      have := Along.decidable P (step s e) events
      inferInstanceAs (Decidable (P s e ∧ Along step P (step s e) events))

variable {step}
variable {I : S → Prop} {P Q : S → E → Prop} {s : S} {events : List E}

/-- Two properties of steps that agree wherever a property of states holds, which steps that have
the first of the two keep, agree along every run. -/
theorem along_iff (hiff : ∀ s e, I s → (P s e ↔ Q s e))
    (hkeep : ∀ s e, I s → P s e → I (step s e)) (hstart : I s) :
    Along step P s events ↔ Along step Q s events := by
  induction events generalizing s with
  | nil => exact Iff.rfl
  | cons e events ih =>
      rw [Along, Along, ← hiff s e hstart]
      exact and_congr_right fun hP => ih (hkeep s e hstart hP)

end Runs

end Series
