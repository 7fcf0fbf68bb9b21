import Mathlib.Data.List.Basic

/-!
# UTF-8

Scalar values as bytes, and bytes as scalar values: the decoder of a runtime that never fails, and
puts the replacement character in the place of what is not well formed.

* `IsScalar` — a code point that is no surrogate;
* `encode` — the bytes of some scalar values;
* `Decoder`, `decode` — bytes are read one at a time, within bounds that the byte before sets;
* `decode_encode` — encoded scalar values are read back.
-/

namespace Utf8

/-- A code point that is no surrogate. -/
def IsScalar (c : ℕ) : Prop := c < 0xD800 ∨ (0xE000 ≤ c ∧ c < 0x110000)

instance (c : ℕ) : Decidable (IsScalar c) :=
  inferInstanceAs (Decidable (c < 0xD800 ∨ (0xE000 ≤ c ∧ c < 0x110000)))

/-- The replacement character. -/
def replacement : ℕ := 0xFFFD

/-- The bytes of a scalar value. -/
def encodeScalar (c : ℕ) : List ℕ :=
  if c < 0x80 then [c]
  else if c < 0x800 then [0xC0 + c / 64, 0x80 + c % 64]
  else if c < 0x10000 then [0xE0 + c / 4096, 0x80 + c / 64 % 64, 0x80 + c % 64]
  else [0xF0 + c / 262144, 0x80 + c / 4096 % 64, 0x80 + c / 64 % 64, 0x80 + c % 64]

/-- The bytes of scalar values. -/
def encode (cs : List ℕ) : List ℕ := cs.flatMap encodeScalar

/-! ## Decoding -/

/-- How far the bytes of a scalar value were read. -/
structure Decoder where
  /-- The bytes that are still needed. -/
  needed : ℕ
  /-- What the bytes so far come to. -/
  point : ℕ
  /-- The least and the greatest byte that may come next. -/
  lower : ℕ
  upper : ℕ
  deriving DecidableEq, Repr

/-- Between two scalar values. -/
def Decoder.start : Decoder := { needed := 0, point := 0, lower := 0x80, upper := 0xBF }

/-- The first byte of a scalar value: what is read at once, and how it goes on. -/
def lead (b : ℕ) : List ℕ × Decoder :=
  if b < 0x80 then ([b], .start)
  else if 0xC2 ≤ b ∧ b ≤ 0xDF then
    ([], { needed := 1, point := b - 0xC0, lower := 0x80, upper := 0xBF })
  else if 0xE0 ≤ b ∧ b ≤ 0xEF then
    ([], { needed := 2, point := b - 0xE0, lower := if b = 0xE0 then 0xA0 else 0x80
           upper := if b = 0xED then 0x9F else 0xBF })
  else if 0xF0 ≤ b ∧ b ≤ 0xF4 then
    ([], { needed := 3, point := b - 0xF0, lower := if b = 0xF0 then 0x90 else 0x80
           upper := if b = 0xF4 then 0x8F else 0xBF })
  else ([replacement], .start)

/-- One byte: what is read, and how it goes on. A byte out of bounds ends the scalar value before it
and is read as a first one. -/
def step (d : Decoder) (b : ℕ) : List ℕ × Decoder :=
  if d.needed = 0 then lead b
  else if b < d.lower ∨ d.upper < b then (replacement :: (lead b).1, (lead b).2)
  else
    let point := d.point * 64 + b % 64
    if d.needed = 1 then ([point], .start)
    else ([], { needed := d.needed - 1, point, lower := 0x80, upper := 0xBF })

/-- The bytes that follow. -/
def decodeFrom (d : Decoder) : List ℕ → List ℕ
  | [] => if d.needed = 0 then [] else [replacement]
  | b :: bs => (step d b).1 ++ decodeFrom (step d b).2 bs

/-- The scalar values of bytes. -/
def decode (bs : List ℕ) : List ℕ := decodeFrom .start bs

/-- A byte that continues a scalar value, when more are needed. -/
theorem step_more {d : Decoder} {b : ℕ} (hneeded : 1 < d.needed) (hlow : d.lower ≤ b)
    (hup : b ≤ d.upper) :
    step d b = ([], { needed := d.needed - 1, point := d.point * 64 + b % 64
                      lower := 0x80, upper := 0xBF }) := by
  rw [step, if_neg (by omega), if_neg (by omega)]
  dsimp only
  rw [if_neg (by omega)]

/-- The last byte of a scalar value. -/
theorem step_last {d : Decoder} {b : ℕ} (hneeded : d.needed = 1) (hlow : d.lower ≤ b)
    (hup : b ≤ d.upper) : step d b = ([d.point * 64 + b % 64], .start) := by
  rw [step, if_neg (by omega), if_neg (by omega)]
  dsimp only
  rw [if_pos hneeded]

/-- Between two scalar values, a first byte is read. -/
theorem step_start (b : ℕ) : step .start b = lead b := rfl

/-- The bytes of a scalar value are read as that, whatever follows. -/
theorem decodeFrom_encodeScalar {c : ℕ} (hc : IsScalar c) (bs : List ℕ) :
    decodeFrom .start (encodeScalar c ++ bs) = c :: decodeFrom .start bs := by
  rw [IsScalar] at hc
  rw [encodeScalar]
  split
  · next hone =>
      rw [List.cons_append, decodeFrom, step_start, lead, if_pos hone]
      rfl
  · split
    · -- two bytes
      simp only [List.cons_append, List.nil_append, decodeFrom, step_start]
      rw [lead, if_neg (by omega), if_pos (by omega)]
      dsimp only
      rw [step_last rfl (by dsimp only; omega) (by dsimp only; omega)]
      simp only [List.nil_append, List.cons_append, List.cons.injEq, and_true]
      omega
    · split
      · -- three bytes: the second one is bounded below when the first is least, and above when the
        -- scalar values stand next to the surrogates
        simp only [List.cons_append, List.nil_append, decodeFrom, step_start]
        rw [lead, if_neg (by omega), if_neg (by omega), if_pos (by omega)]
        dsimp only
        rw [step_more (by dsimp only; omega) (by dsimp only; split <;> omega)
          (by dsimp only; split <;> omega)]
        dsimp only
        rw [step_last rfl (by dsimp only; omega) (by dsimp only; omega)]
        simp only [List.nil_append, List.cons_append, List.cons.injEq, and_true]
        omega
      · -- four bytes
        simp only [List.cons_append, List.nil_append, decodeFrom, step_start]
        rw [lead, if_neg (by omega), if_neg (by omega), if_neg (by omega), if_pos (by omega)]
        dsimp only
        rw [step_more (by dsimp only; omega) (by dsimp only; split <;> omega)
          (by dsimp only; split <;> omega)]
        dsimp only
        rw [step_more (by dsimp only; omega) (by dsimp only; omega) (by dsimp only; omega)]
        dsimp only
        rw [step_last rfl (by dsimp only; omega) (by dsimp only; omega)]
        simp only [List.nil_append, List.cons_append, List.cons.injEq, and_true]
        omega

/-- Encoded scalar values are read back. -/
theorem decode_encode {cs : List ℕ} (h : ∀ c ∈ cs, IsScalar c) : decode (encode cs) = cs := by
  induction cs with
  | nil => rfl
  | cons c cs ih =>
      rw [List.forall_mem_cons] at h
      rw [decode, encode, List.flatMap_cons, decodeFrom_encodeScalar h.1]
      exact congrArg (c :: ·) (ih h.2)

/-- Bytes of ASCII are their own encoding. -/
theorem encode_ascii {bs : List ℕ} (h : ∀ b ∈ bs, b < 0x80) : encode bs = bs := by
  induction bs with
  | nil => rfl
  | cons b bs ih =>
      rw [List.forall_mem_cons] at h
      rw [encode, List.flatMap_cons, encodeScalar, if_pos h.1]
      exact congrArg (b :: ·) (ih h.2)

/-- Encoded scalar values are bytes. -/
theorem lt_of_mem_encode {cs : List ℕ} (h : ∀ c ∈ cs, IsScalar c) {b : ℕ} (hb : b ∈ encode cs) :
    b < 256 := by
  obtain ⟨c, hc, hb⟩ := List.mem_flatMap.mp hb
  have hscalar := h c hc
  rw [IsScalar] at hscalar
  rw [encodeScalar] at hb
  split at hb
  · simp at hb
    omega
  · split at hb
    · simp at hb
      omega
    · split at hb
      · simp at hb
        omega
      · simp at hb
        omega

end Utf8
