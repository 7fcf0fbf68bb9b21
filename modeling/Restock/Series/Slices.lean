import Mathlib.Algebra.Order.BigOperators.Group.List
import Mathlib.Data.List.Flatten
import Mathlib.Data.List.Range
import Mathlib.Data.List.Sort

/-!
# Slices, windows and prefixes of lists

The loop `for (i = 0; i < xs.length; i += n) … xs.slice(i, i + n)`; a list of blocks that is read
through a window over the entries of all of them, one after another, where what a block shows is the
part of it that lies in the window; and the cut of a Pareto ranking, how many of the first values it
takes to reach a bound.

* `slices`, `flatten_slices` — the slices of the loop, which together are the list;
* `part` — the part of a block, from the place the block starts at;
* `part_append` — the part of two blocks is the parts of each;
* `flatMap_part` — pages of one size, one after another, are the whole;
* `flatMap_filter_key` — entries that stand in the order of their keys, taken key by key;
* `existsUnique_of_count` — what is counted once over all pages is on exactly one of them;
* `ShortestReaching` — the number of values that reach a bound;
* `ShortestReaching.lt_iff` — a value is before the cut exactly when what precedes it is short;
* `sum_take_le_of_lt` — in a descending list, what precedes a greater value is less.
-/

namespace Series

variable {α : Type}

/-- The slices of `n` entries, the last one as long as what is left. -/
def slices (n : ℕ) (xs : List α) : List (List α) :=
  (List.range ((xs.length + (n - 1)) / n)).map fun i => (xs.drop (i * n)).take n

/-- The first slices are the beginning of the list. -/
theorem flatten_range_slices (n : ℕ) (xs : List α) (m : ℕ) :
    ((List.range m).map fun i => (xs.drop (i * n)).take n).flatten = xs.take (m * n) := by
  induction m with
  | zero => simp
  | succ m ih =>
      rw [List.range_succ, List.map_append, List.flatten_append, ih, Nat.add_one_mul,
        List.take_add]
      simp

/-- The slices together are the list. -/
theorem flatten_slices {n : ℕ} (hn : 0 < n) (xs : List α) : (slices n xs).flatten = xs := by
  rw [slices, flatten_range_slices]
  refine List.take_of_length_le ?_
  have hmod := Nat.mod_lt (xs.length + (n - 1)) hn
  have hdiv := Nat.div_add_mod (xs.length + (n - 1)) n
  rw [Nat.mul_comm] at hdiv
  omega

/-- An entry is in one of the slices exactly when it is in the list. -/
theorem mem_slices {n : ℕ} (hn : 0 < n) {xs : List α} {x : α} :
    (∃ slice ∈ slices n xs, x ∈ slice) ↔ x ∈ xs := by
  rw [← List.mem_flatten, flatten_slices hn]

/-! ## Windows over blocks -/

/-- The part of a block that lies between two places, when the block starts at the place
`cursor`. -/
def part (start stop cursor : ℕ) (block : List α) : List α :=
  (block.take (stop - cursor)).drop (start - cursor)

/-- Nothing of an empty block is in a window. -/
@[simp] theorem part_nil (start stop cursor : ℕ) : part start stop cursor ([] : List α) = [] := by
  simp [part]

/-- A part is cut out between the later start and the earlier end. -/
theorem slice_eq_part (start stop cursor : ℕ) (block : List α) :
    (block.take (min stop (cursor + block.length) - cursor)).drop (max start cursor - cursor) =
      part start stop cursor block := by
  have hstart : max start cursor - cursor = start - cursor := by omega
  have hstop : min stop (cursor + block.length) - cursor = min (stop - cursor) block.length := by
    omega
  rw [hstart, hstop, part]
  congr 1
  rw [List.take_eq_take_iff]
  omega

/-- A window that ends before it starts shows nothing. -/
theorem part_eq_nil {start stop cursor : ℕ} {block : List α}
    (h : min stop (cursor + block.length) ≤ max start cursor) :
    part start stop cursor block = [] := by
  rw [part, List.drop_eq_nil_iff, List.length_take]
  omega

/-- A window that ends after it starts shows something. -/
theorem part_ne_nil {start stop cursor : ℕ} {block : List α}
    (h : max start cursor < min stop (cursor + block.length)) :
    part start stop cursor block ≠ [] := by
  rw [part, Ne, List.drop_eq_nil_iff, List.length_take]
  omega

/-- The part of two blocks is the parts of each. -/
theorem part_append (start stop cursor : ℕ) (block more : List α) :
    part start stop cursor (block ++ more) =
      part start stop cursor block ++ part start stop (cursor + block.length) more := by
  rw [part, part, part, List.take_append, List.drop_append, Nat.sub_sub stop]
  congr 1
  -- either the block ends before the window does, or nothing of what follows it is taken
  by_cases h : cursor + block.length ≤ stop
  · congr 1
    rw [List.length_take]
    omega
  · have hnone : stop - (cursor + block.length) = 0 := by omega
    simp [hnone]

/-- A part holds no more than its window. -/
theorem length_part_le (start n cursor : ℕ) (hcursor : cursor ≤ start) (block : List α) :
    (part start (start + n) cursor block).length ≤ n := by
  rw [part, List.length_drop, List.length_take]
  omega

/-- Pages of one size, one after another, are the whole. -/
theorem flatMap_part {n m : ℕ} {whole : List α} (h : whole.length ≤ m * n) :
    ((List.range m).flatMap fun p => part (p * n) (p * n + n) 0 whole) = whole := by
  have hpage : ∀ p, part (p * n) (p * n + n) 0 whole = (whole.drop (p * n)).take n := by
    intro p
    rw [part, Nat.sub_zero, Nat.sub_zero, List.drop_take, Nat.add_sub_cancel_left]
  simp only [hpage]
  rw [List.flatMap_def, flatten_range_slices, List.take_of_length_le h]

/-- Entries that stand in the order of their keys, taken key by key, are all the entries. -/
theorem flatMap_filter_key {m : ℕ} {key : α → ℕ} {xs : List α}
    (hsorted : xs.Pairwise fun a b => key a ≤ key b) (hkey : ∀ a ∈ xs, key a < m) :
    ((List.range m).flatMap fun p => xs.filter fun a => key a = p) = xs := by
  induction m generalizing xs with
  | zero =>
      rw [List.eq_nil_iff_forall_not_mem.mpr fun a ha => Nat.not_lt_zero _ (hkey a ha)]
      rfl
  | succ m ih =>
      -- the entries of the last key stand after all others
      have hsplit : xs = (xs.filter fun a => key a < m) ++ xs.filter fun a => key a = m := by
        clear ih
        induction xs with
        | nil => rfl
        | cons a xs ih =>
            obtain ⟨ha, hxs⟩ := List.pairwise_cons.mp hsorted
            have hrest := ih hxs fun b hb => hkey b (List.mem_cons_of_mem _ hb)
            rcases Nat.lt_succ_iff_lt_or_eq.mp (hkey a List.mem_cons_self) with hlt | heq
            · rw [List.filter_cons_of_pos (by simpa using hlt),
                List.filter_cons_of_neg (by simpa using Nat.ne_of_lt hlt), List.cons_append,
                ← hrest]
            · have hnone : xs.filter (fun b => decide (key b < m)) = [] := by
                rw [List.filter_eq_nil_iff]
                intro b hb
                have := ha b hb
                simp
                omega
              rw [hnone, List.nil_append] at hrest
              rw [List.filter_cons_of_neg (by simpa using heq.ge), hnone,
                List.filter_cons_of_pos (by simpa using heq), List.nil_append, ← hrest]
      rw [List.range_succ, List.flatMap_append, List.flatMap_singleton]
      conv_rhs => rw [hsplit]
      congr 1
      rw [← ih (hsorted.filter _) fun a ha => of_decide_eq_true (List.mem_filter.mp ha).2]
      refine List.flatMap_congr fun p hp => ?_
      rw [List.filter_filter]
      refine List.filter_congr fun a _ => ?_
      rw [Bool.eq_iff_iff, Bool.and_eq_true, decide_eq_true_iff, decide_eq_true_iff]
      exact ⟨fun h => ⟨h, h ▸ List.mem_range.mp hp⟩, And.left⟩

/-- What is counted once over all pages is on exactly one of them. -/
theorem existsUnique_of_count [DecidableEq α] {m : ℕ} {page : ℕ → List α} {a : α}
    (h : ((List.range m).flatMap page).count a = 1) : ∃! p, p < m ∧ a ∈ page p := by
  induction m with
  | zero => simp at h
  | succ m ih =>
      rw [List.range_succ, List.flatMap_append, List.flatMap_singleton, List.count_append] at h
      by_cases hlast : a ∈ page m
      · -- it is on the last page, so on none before it
        have hpos := List.count_pos_iff.mpr hlast
        have hnone : a ∉ (List.range m).flatMap page := List.count_eq_zero.mp (by omega)
        refine ⟨m, ⟨Nat.lt_succ_self m, hlast⟩, fun p hp => ?_⟩
        by_contra hne
        exact hnone (List.mem_flatMap.mpr ⟨p, List.mem_range.mpr (by omega), hp.2⟩)
      · rw [List.count_eq_zero.mpr hlast, Nat.add_zero] at h
        obtain ⟨p, hp, hunique⟩ := ih h
        refine ⟨p, ⟨Nat.lt_succ_of_lt hp.1, hp.2⟩, fun q hq => hunique q ⟨?_, hq.2⟩⟩
        have hne : q ≠ m := fun heq => hlast (heq ▸ hq.2)
        omega

/-! ## The shortest prefix that reaches a sum -/

section Prefixes

variable {K : Type} [AddCommMonoid K] [LinearOrder K] [IsOrderedAddMonoid K] {xs : List K}

/-- The first values that sum up to a bound are this many. -/
structure ShortestReaching (xs : List K) (bound : K) (n : ℕ) : Prop where
  le_length : n ≤ xs.length
  reaches : bound ≤ (xs.take n).sum
  short : ∀ k < n, (xs.take k).sum < bound

omit [IsOrderedAddMonoid K] in
/-- A list that reaches the bound has a shortest prefix that does. -/
theorem exists_shortestReaching {bound : K} (h : bound ≤ xs.sum) :
    ∃ n, ShortestReaching xs bound n := by
  have hreach : ∃ n, bound ≤ (xs.take n).sum := ⟨xs.length, by rwa [List.take_length]⟩
  classical
  refine ⟨Nat.find hreach, ?_, Nat.find_spec hreach, fun k hk => ?_⟩
  · apply Nat.find_min'
    rwa [List.take_length]
  · exact not_le.mp (Nat.find_min hreach hk)

/-- With values that are not negative, a longer prefix has no smaller sum. -/
theorem sum_take_mono (hxs : ∀ x ∈ xs, 0 ≤ x) {m n : ℕ} (h : m ≤ n) :
    (xs.take m).sum ≤ (xs.take n).sum := by
  have htake : xs.take m = (xs.take n).take m := by
    rw [List.take_take, Nat.min_eq_left h]
  -- the longer prefix is the shorter one and some more values
  have hsplit : ((xs.take n).take m).sum + ((xs.take n).drop m).sum = (xs.take n).sum := by
    rw [← List.sum_append, List.take_append_drop]
  have hrest : 0 ≤ ((xs.take n).drop m).sum :=
    List.sum_nonneg fun x hx => hxs x (List.mem_of_mem_take (List.mem_of_mem_drop hx))
  rw [htake, ← hsplit]
  exact le_add_of_nonneg_right hrest

/-- Where the values are not negative, a place is before the cut exactly when what precedes it does
not reach the bound. -/
theorem ShortestReaching.lt_iff {bound : K} {n : ℕ} (h : ShortestReaching xs bound n)
    (hxs : ∀ x ∈ xs, 0 ≤ x) {k : ℕ} : k < n ↔ (xs.take k).sum < bound := by
  refine ⟨h.short k, fun hshort => ?_⟩
  by_contra hle
  exact absurd (h.reaches.trans (sum_take_mono hxs (not_lt.mp hle))) (not_le.mpr hshort)

/-- In a descending list a greater value stands before a smaller one, after less. -/
theorem sum_take_le_of_lt (hsorted : xs.Pairwise (· ≥ ·)) (hxs : ∀ x ∈ xs, 0 ≤ x) {i j : ℕ}
    {a b : K} (ha : xs[i]? = some a) (hb : xs[j]? = some b) (h : b < a) :
    (xs.take i).sum ≤ (xs.take j).sum := by
  apply sum_take_mono hxs
  -- if the smaller value stood first, the list would ascend there
  by_contra hlt
  obtain ⟨hi, rfl⟩ := List.getElem?_eq_some_iff.mp ha
  obtain ⟨hj, rfl⟩ := List.getElem?_eq_some_iff.mp hb
  exact absurd (List.pairwise_iff_getElem.mp hsorted j i hj hi (not_le.mp hlt)) (not_le.mpr h)

end Prefixes

end Series
