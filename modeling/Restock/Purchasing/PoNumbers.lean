import Mathlib.Data.List.TakeWhile
import Restock.Purchasing.CreatePo

/-!
# Numbers issued in a row

A number is one more than the highest that the pattern recognises, and the pattern stops at nine
digits. Up to there every issued number is recognised in turn; the first one with ten digits is
not, and is issued again and again.

* `poNumber`, `plainPo_poNumber` — a number as a text, and which texts are read back;
* `issue`, `issue_eq` — the numbers issued in a row;
* `issue_fresh_iff` — when none of them repeats.
-/

namespace Restock

/-! ## Texts of numbers -/

/-- The last number that the pattern recognises. -/
def LAST_PLAIN : ℕ := 999999999

/-- `PO-` and a number with at least four digits. -/
def poNumber (n : ℕ) : String :=
  let digits := Nat.toDigits 10 n
  String.ofList ("PO-".toList ++ List.replicate (4 - digits.length) '0' ++ digits)

/-- The highest of the recognised numbers and the floor. -/
def highestPlain (existing : List String) (floor : ℤ) : ℕ :=
  existing.foldl (fun highest n => max highest ((plainPo (trimChars n.toList)).getD 0))
    (max 0 floor).toNat

section Texts

variable {n m : ℕ}

/-- The digits of a number with zeros in front. -/
def paddedDigits (n : ℕ) : List Char :=
  List.replicate (4 - (Nat.toDigits 10 n).length) '0' ++ Nat.toDigits 10 n

theorem toList_poNumber (n : ℕ) : (poNumber n).toList = 'P' :: 'O' :: '-' :: paddedDigits n := by
  unfold poNumber
  rw [String.toList_ofList, List.append_assoc]
  rfl

theorem isDigit_of_mem_paddedDigits {c : Char} (h : c ∈ paddedDigits n) : c.isDigit = true := by
  rcases List.mem_append.mp h with hzero | hdigit
  · rw [(List.mem_replicate.mp hzero).2]
    decide
  · exact Nat.isDigit_of_mem_toDigits (by decide) (by decide) hdigit

/-- The zeros in front do not count. -/
theorem ofDigitChars_paddedDigits (n : ℕ) : Nat.ofDigitChars 10 (paddedDigits n) 0 = n := by
  rw [paddedDigits, Nat.ofDigitChars_append, Nat.ofDigitChars_replicate_zero, Nat.mul_zero,
    Nat.ofDigitChars_ten_toDigits]

/-- There are at most nine digits up to the last number that is recognised. -/
theorem length_paddedDigits_le_iff : (paddedDigits n).length ≤ 9 ↔ n ≤ LAST_PLAIN := by
  have hdigits : (Nat.toDigits 10 n).length ≤ 9 ↔ n < 10 ^ 9 :=
    Nat.length_toDigits_le_iff (by decide) (by decide)
  rw [paddedDigits, List.length_append, List.length_replicate, LAST_PLAIN]
  omega

/-- A number is not stripped. -/
theorem trimChars_poNumber (n : ℕ) : trimChars (poNumber n).toList = (poNumber n).toList := by
  rw [toList_poNumber]
  refine trimChars_eq_self ?_ fun c hc => ?_
  · rintro c ⟨⟩
    decide
  · have hne : paddedDigits n ≠ [] := List.append_ne_nil_of_right_ne_nil _ Nat.toDigits_ne_nil
    have hlast : c ∈ (paddedDigits n).getLast? := by
      rwa [List.getLast?_cons_cons, List.getLast?_cons_cons, List.getLast?_cons_of_ne_nil hne] at hc
    exact isTrimmed_of_isDigit (isDigit_of_mem_paddedDigits (List.mem_of_getLast? hlast))

/-- The pattern on a number. -/
theorem plainPo_poNumber (n : ℕ) :
    plainPo (trimChars (poNumber n).toList) = if n ≤ LAST_PLAIN then some n else none := by
  have hall : ∀ c ∈ paddedDigits n, c.isDigit = true := fun c hc => isDigit_of_mem_paddedDigits hc
  have hne : paddedDigits n ≠ [] := List.append_ne_nil_of_right_ne_nil _ Nat.toDigits_ne_nil
  have htake : (paddedDigits n).takeWhile Char.isDigit = paddedDigits n :=
    List.takeWhile_eq_self_iff.mpr hall
  have hdrop : (paddedDigits n).dropWhile Char.isDigit = [] :=
    List.dropWhile_eq_nil_iff.mpr hall
  rw [trimChars_poNumber, toList_poNumber, plainPo, htake, hdrop]
  by_cases hn : n ≤ LAST_PLAIN
  · have hlength := length_paddedDigits_le_iff.mpr hn
    rw [if_pos hn, if_pos ⟨by decide, by decide, hne, hlength, by decide, by decide⟩]
    exact congrArg some (ofDigitChars_paddedDigits n)
  · rw [if_neg hn, if_neg]
    rintro ⟨-, -, -, hlength, -, -⟩
    exact hn (length_paddedDigits_le_iff.mp hlength)

/-- Numbers are told apart by their texts. -/
theorem poNumber_inj : poNumber n = poNumber m ↔ n = m := by
  refine ⟨fun h => ?_, congrArg poNumber⟩
  have hdigits : paddedDigits n = paddedDigits m := by
    have hchars := congrArg String.toList h
    rw [toList_poNumber, toList_poNumber] at hchars
    exact (List.cons.inj (List.cons.inj (List.cons.inj hchars).2).2).2
  rw [← ofDigitChars_paddedDigits n, hdigits, ofDigitChars_paddedDigits]

end Texts

/-! ## The next number -/

section Next

variable {existing : List String} {floor : ℤ} {n : ℕ}

theorem nextPoNumber_eq (existing : List String) (floor : ℤ) :
    nextPoNumber existing floor = poNumber (highestPlain existing floor + 1) := rfl

/-- A number that is recognised is not above the highest one. -/
theorem le_highestPlain {text : String} (htext : text ∈ existing)
    (hn : plainPo (trimChars text.toList) = some n) : n ≤ highestPlain existing floor := by
  induction existing using List.reverseRecOn with
  | nil => cases htext
  | append_singleton existing last ih =>
      rw [highestPlain, List.foldl_append, List.foldl_cons, List.foldl_nil, ← highestPlain]
      rcases List.mem_append.mp htext with hmem | hmem
      · exact (ih hmem).trans (le_max_left _ _)
      · rw [← List.mem_singleton.mp hmem, hn]
        exact le_max_right _ _

/-- A number is added to the list: the highest one follows it up to nine digits. -/
theorem highestPlain_concat (existing : List String) (floor : ℤ) :
    highestPlain (existing ++ [nextPoNumber existing floor]) floor
      = max (highestPlain existing floor) (min (highestPlain existing floor + 1) LAST_PLAIN) := by
  rw [highestPlain, List.foldl_append, List.foldl_cons, List.foldl_nil, ← highestPlain,
    nextPoNumber_eq, plainPo_poNumber]
  split
  case isTrue h => rw [Option.getD_some, min_eq_left h]
  case isFalse h =>
    rw [not_le] at h
    rw [Option.getD_none]
    omega

/-- A number of at most nine digits is new. -/
theorem nextPoNumber_not_mem (h : highestPlain existing floor < LAST_PLAIN) :
    nextPoNumber existing floor ∉ existing := by
  intro hmem
  have hread := plainPo_poNumber (highestPlain existing floor + 1)
  rw [if_pos (Nat.succ_le_of_lt h), ← nextPoNumber_eq] at hread
  have hle : highestPlain existing floor + 1 ≤ highestPlain existing floor :=
    le_highestPlain hmem hread
  omega

end Next

/-! ## Numbers in a row -/

/-- Some numbers issued in a row, each added to the list before the next. -/
def issue (floor : ℤ) : ℕ → List String → List String
  | 0, _ => []
  | n + 1, existing =>
      let number := nextPoNumber existing floor
      number :: issue floor n (existing ++ [number])

section Issue

variable {existing : List String} {floor : ℤ}

/-- The numbers go up by one until one has ten digits, and stay there. -/
theorem issue_eq (floor : ℤ) (n : ℕ) (existing : List String) :
    issue floor n existing = (List.range n).map fun i =>
      poNumber (highestPlain existing floor + 1
        + min i (LAST_PLAIN - highestPlain existing floor)) := by
  induction n generalizing existing with
  | zero => rfl
  | succ n ih =>
      rw [issue, ih, highestPlain_concat, List.range_succ_eq_map, List.map_cons, List.map_map,
        nextPoNumber_eq, Nat.zero_min, Nat.add_zero]
      refine congrArg _ (List.map_congr_left fun i _ => congrArg poNumber ?_)
      omega

/-- The numbers are distinct exactly when all but the last have at most nine digits. -/
theorem nodup_issue_iff (floor : ℤ) (n : ℕ) (existing : List String) :
    (issue floor n existing).Nodup ↔ n ≤ 1 ∨ highestPlain existing floor + n ≤ LAST_PLAIN + 1 := by
  rw [issue_eq]
  constructor
  · intro hnodup
    by_contra! hlong
    -- the last two numbers have ten digits
    have hpos := List.pairwise_iff_getElem.mp hnodup (n - 2) (n - 1) (by simp; omega)
      (by simp; omega) (by omega)
    rw [List.getElem_map, List.getElem_map, List.getElem_range, List.getElem_range, ne_eq,
      poNumber_inj] at hpos
    omega
  · intro hshort
    refine List.Nodup.map_on (fun i hi j hj heq => ?_) List.nodup_range
    rw [List.mem_range] at hi hj
    rw [poNumber_inj] at heq
    omega

/-- The next number is new and some numbers in a row are distinct exactly when the next number has
at most nine digits, or is not there by chance, and all but the last of those in a row have at most
nine digits. -/
theorem issue_fresh_iff (existing : List String) (floor : ℤ) (n : ℕ) :
    (nextPoNumber existing floor ∉ existing ∧ (issue floor n existing).Nodup) ↔
      (highestPlain existing floor < LAST_PLAIN
          ∨ poNumber (highestPlain existing floor + 1) ∉ existing)
        ∧ (n ≤ 1 ∨ highestPlain existing floor + n ≤ LAST_PLAIN + 1) := by
  rw [nodup_issue_iff]
  refine and_congr_left fun _ => ⟨fun hnew => Or.inr hnew, ?_⟩
  rintro (hshort | hnew)
  · exact nextPoNumber_not_mem hshort
  · exact hnew

/-- After the last number of nine digits one of ten digits is issued, which is issued once more. -/
theorem nextPoNumber_repeats :
    nextPoNumber ["PO-999999999", "PO-1000000000"] 0 = "PO-1000000000" ∧
      ¬ (issue 0 2 ["PO-999999999"]).Nodup := by
  decide +kernel

end Issue

end Restock
