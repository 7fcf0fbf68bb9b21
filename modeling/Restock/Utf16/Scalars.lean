import Restock.Json.Text
import Restock.Utf8.Codec

/-!
# Scalar values of texts of code units

A scalar value takes one code unit, or two that are a pair of surrogates. A surrogate without the
other one stands for nothing, and a runtime that needs scalar values takes the replacement character
for it.

* `Paired` — every surrogate is one of a pair;
* `scalars`, `ofScalars` — the scalar values of a text, and the text of scalar values;
* `repair` — a text with the replacement character for every surrogate that is alone;
* `ofScalars_scalars`, `repair_eq_self_iff` — a text comes back repaired, so the same exactly when
  it is paired.
-/

namespace Utf16

open Json (Text)

/-- The first unit of a pair. -/
def isLead (u : UInt16) : Bool := 0xD800 ≤ u && u ≤ 0xDBFF

/-- The second unit of a pair. -/
def isTrail (u : UInt16) : Bool := 0xDC00 ≤ u && u ≤ 0xDFFF

/-- A unit of a pair. -/
def isSurrogate (u : UInt16) : Bool := isLead u || isTrail u

/-- Every surrogate is one of a pair. -/
def Paired : Text → Prop
  | [] => True
  | [u] => isSurrogate u = false
  | u :: v :: t =>
      if isLead u && isTrail v then Paired t else isSurrogate u = false ∧ Paired (v :: t)

/-- The unit, or the replacement character for a surrogate. -/
def repairUnit (u : UInt16) : UInt16 := if isSurrogate u then 0xFFFD else u

/-- A text with the replacement character for every surrogate that is alone. -/
def repair : Text → Text
  | [] => []
  | [u] => [repairUnit u]
  | u :: v :: t =>
      if isLead u && isTrail v then u :: v :: repair t else repairUnit u :: repair (v :: t)

/-- The scalar value of a pair. -/
def pairScalar (u v : UInt16) : ℕ :=
  0x10000 + (u.toNat - 0xD800) * 0x400 + (v.toNat - 0xDC00)

/-- The scalar values of a text, with the replacement character for every surrogate that is
alone. -/
def scalars : Text → List ℕ
  | [] => []
  | [u] => [(repairUnit u).toNat]
  | u :: v :: t =>
      if isLead u && isTrail v then pairScalar u v :: scalars t
      else (repairUnit u).toNat :: scalars (v :: t)

/-- The units of a scalar value. -/
def units (c : ℕ) : Text :=
  if c < 0x10000 then [c.toUInt16]
  else [(0xD800 + (c - 0x10000) / 0x400).toUInt16, (0xDC00 + (c - 0x10000) % 0x400).toUInt16]

/-- The text of scalar values. -/
def ofScalars (cs : List ℕ) : Text := cs.flatMap units

/-! ## Units -/

/-- The bounds of the units of a pair. -/
theorem isLead_and_isTrail_iff {u v : UInt16} : (isLead u && isTrail v) = true ↔
    (0xD800 ≤ u.toNat ∧ u.toNat ≤ 0xDBFF) ∧ 0xDC00 ≤ v.toNat ∧ v.toNat ≤ 0xDFFF := by
  simp [isLead, isTrail, UInt16.le_iff_toNat_le]

/-- What is repaired is no surrogate. -/
theorem isScalar_repairUnit (u : UInt16) : Utf8.IsScalar (repairUnit u).toNat := by
  rw [repairUnit]
  split
  · decide
  · next h =>
      have hlt := u.toNat_lt
      simp [isSurrogate, isLead, isTrail, UInt16.le_iff_toNat_le] at h
      rw [Utf8.IsScalar]
      omega

/-- A pair stands for a scalar value. -/
theorem isScalar_pairScalar {u v : UInt16} (h : (isLead u && isTrail v) = true) :
    Utf8.IsScalar (pairScalar u v) := by
  obtain ⟨hu, hv⟩ := isLead_and_isTrail_iff.mp h
  unfold Utf8.IsScalar pairScalar
  omega

/-- A unit is the text of its value. -/
theorem units_toNat (u : UInt16) : units u.toNat = [u] := by
  rw [units, if_pos u.toNat_lt]
  simp

/-- A pair is the text of its scalar value. -/
theorem units_pairScalar {u v : UInt16} (h : (isLead u && isTrail v) = true) :
    units (pairScalar u v) = [u, v] := by
  obtain ⟨hu, hv⟩ := isLead_and_isTrail_iff.mp h
  have hlead : 0xD800 + (pairScalar u v - 0x10000) / 0x400 = u.toNat := by
    unfold pairScalar
    omega
  have htrail : 0xDC00 + (pairScalar u v - 0x10000) % 0x400 = v.toNat := by
    unfold pairScalar
    omega
  have hhigh : ¬ pairScalar u v < 0x10000 := by
    unfold pairScalar
    omega
  rw [units, if_neg hhigh, hlead, htrail]
  simp

/-- A unit is repaired to itself exactly when it is no surrogate. -/
theorem repairUnit_eq_self_iff {u : UInt16} : repairUnit u = u ↔ isSurrogate u = false := by
  rw [repairUnit]
  split
  · next h =>
      rw [h]
      refine ⟨fun heq => ?_, fun h => by cases h⟩
      rw [← heq] at h
      exact absurd h (by decide)
  · next h => simp [h]

/-! ## Texts -/

/-- The scalar values of a text are such. -/
theorem isScalar_of_mem_scalars (t : Text) : ∀ c ∈ scalars t, Utf8.IsScalar c := by
  fun_induction scalars t with
  | case1 => exact List.forall_mem_nil _
  | case2 u => exact List.forall_mem_cons.mpr ⟨isScalar_repairUnit u, List.forall_mem_nil _⟩
  | case3 u v t h ih => exact List.forall_mem_cons.mpr ⟨isScalar_pairScalar h, ih⟩
  | case4 u v t h ih => exact List.forall_mem_cons.mpr ⟨isScalar_repairUnit u, ih⟩

/-- The text of the scalar values of a text is the text repaired. -/
theorem ofScalars_scalars (t : Text) : ofScalars (scalars t) = repair t := by
  fun_induction repair t with
  | case1 => rfl
  | case2 u =>
      rw [scalars, ofScalars, List.flatMap_singleton, units_toNat]
  | case3 u v t h ih =>
      rw [scalars, if_pos h, ofScalars, List.flatMap_cons, units_pairScalar h, ← ih]
      rfl
  | case4 u v t h ih =>
      rw [scalars, if_neg h, ofScalars, List.flatMap_cons, units_toNat, ← ih]
      rfl

/-- A repaired text is as long. -/
@[simp] theorem length_repair (t : Text) : (repair t).length = t.length := by
  fun_induction repair t with
  | case1 => rfl
  | case2 u => rfl
  | case3 u v t h ih => simp [ih]
  | case4 u v t h ih => simp [ih]

/-- A text is repaired to itself exactly when it is paired. -/
theorem repair_eq_self_iff {t : Text} : repair t = t ↔ Paired t := by
  fun_induction Paired t with
  | case1 => simp [repair]
  | case2 u =>
      rw [repair, List.cons.injEq, repairUnit_eq_self_iff]
      simp
  | case3 u v t h ih =>
      rw [repair, if_pos h, List.cons.injEq, List.cons.injEq, ih]
      simp
  | case4 u v t h ih => rw [repair, if_neg h, List.cons.injEq, repairUnit_eq_self_iff, ih]

/-- A unit of ASCII is no surrogate. -/
theorem isSurrogate_of_ascii {u : UInt16} (hu : u < 0x80) : isSurrogate u = false := by
  have hlt : u.toNat < 128 := UInt16.lt_iff_toNat_lt.mp hu
  simp [isSurrogate, isLead, isTrail, UInt16.le_iff_toNat_le]
  omega

/-- Units of ASCII need no repair. -/
theorem paired_of_ascii {t : Text} (h : ∀ u ∈ t, u < 0x80) : Paired t := by
  fun_induction Paired t with
  | case1 => trivial
  | case2 u => exact isSurrogate_of_ascii (h u List.mem_cons_self)
  | case3 u v t hpair ih =>
      exact ih fun w hw => h w (List.mem_cons_of_mem _ (List.mem_cons_of_mem _ hw))
  | case4 u v t hpair ih =>
      exact ⟨isSurrogate_of_ascii (h u List.mem_cons_self), ih fun w hw => h w (List.mem_cons_of_mem _ hw)⟩

instance decidablePaired (t : Text) : Decidable (Paired t) :=
  decidable_of_iff (repair t = t) repair_eq_self_iff

/-- The scalar values of a text of ASCII are its units. -/
theorem scalars_ascii {t : Text} (h : ∀ u ∈ t, u < 0x80) : scalars t = t.map UInt16.toNat := by
  fun_induction scalars t with
  | case1 => rfl
  | case2 u =>
      rw [repairUnit_eq_self_iff.mpr (isSurrogate_of_ascii (h u List.mem_cons_self))]
      rfl
  | case3 u v t hpair ih =>
      have hu := isSurrogate_of_ascii (h u List.mem_cons_self)
      simp only [isSurrogate, Bool.or_eq_false_iff] at hu
      simp [hu] at hpair
  | case4 u v t hpair ih =>
      rw [repairUnit_eq_self_iff.mpr (isSurrogate_of_ascii (h u List.mem_cons_self)),
        ih fun w hw => h w (List.mem_cons_of_mem _ hw)]
      rfl

end Utf16
