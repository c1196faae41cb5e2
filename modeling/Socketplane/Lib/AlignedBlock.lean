import Mathlib.Order.Bounds.Basic
import Mathlib.Data.Nat.Bitwise

/-! # Aligned blocks of naturals

The naturals that agree with `x` above its low `h` bits form a block of `2 ^ h`
consecutive numbers, from `base h x`, `x` with those bits cleared, to `top h x`,
`x` with them set. A prefix of a fixed-width number picks out such a block; the
facts here are the ones prefix arithmetic rests on: the least and greatest
element of a block, how masking finds them, and that two blocks are nested or
disjoint, so that two of them meet exactly when one holds the other's base.
-/

namespace AlignedBlock

/-- The numbers that agree with `x` above bit `h`. -/
def block (h x : Nat) : Set Nat := {v | v / 2 ^ h = x / 2 ^ h}

/-- `x` with its low `h` bits cleared. -/
def base (h x : Nat) : Nat := x / 2 ^ h * 2 ^ h

/-- `x` with its low `h` bits set. -/
def top (h x : Nat) : Nat := base h x + (2 ^ h - 1)

variable {h h₁ h₂ x y v : Nat}

@[simp] theorem mem_block : v ∈ block h x ↔ v / 2 ^ h = x / 2 ^ h := Iff.rfl

theorem self_mem_block : x ∈ block h x := rfl

theorem block_eq_of_mem (hv : v ∈ block h x) : block h v = block h x := by
  ext w
  rw [mem_block, mem_block, mem_block.mp hv]

theorem base_mem_block : base h x ∈ block h x := by
  simp [base, Nat.mul_div_cancel _ (Nat.two_pow_pos h)]

theorem top_mem_block : top h x ∈ block h x := by
  have hlt : 2 ^ h - 1 < 2 ^ h := Nat.sub_lt (Nat.two_pow_pos h) Nat.one_pos
  rw [mem_block, top, base, Nat.add_comm, Nat.add_mul_div_right _ _ (Nat.two_pow_pos h),
    Nat.div_eq_of_lt hlt, Nat.zero_add]

theorem base_le_of_mem (hv : v ∈ block h x) : base h x ≤ v ∧ v ≤ top h x := by
  have hdm := Nat.div_add_mod v (2 ^ h)
  have hlt := Nat.mod_lt v (Nat.two_pow_pos h)
  rw [mem_block] at hv
  simp only [top, base, ← hv, Nat.mul_comm (v / 2 ^ h)]
  omega

theorem isLeast_base : IsLeast (block h x) (base h x) :=
  ⟨base_mem_block, fun _ hv => (base_le_of_mem hv).1⟩

theorem isGreatest_top : IsGreatest (block h x) (top h x) :=
  ⟨top_mem_block, fun _ hv => (base_le_of_mem hv).2⟩

theorem block_subset_of_le (hh : h₁ ≤ h₂) : block h₁ x ⊆ block h₂ x := by
  intro v hv
  have hsplit : 2 ^ h₂ = 2 ^ h₁ * 2 ^ (h₂ - h₁) := by rw [← Nat.pow_add, Nat.add_sub_cancel' hh]
  simp only [mem_block] at hv ⊢
  rw [hsplit, ← Nat.div_div_eq_div_mul, ← Nat.div_div_eq_div_mul, hv]

theorem subset_of_meet (hh : h₁ ≤ h₂) (hx : v ∈ block h₁ x) (hy : v ∈ block h₂ y) :
    block h₁ x ⊆ block h₂ y := by
  rw [← block_eq_of_mem hx, ← block_eq_of_mem hy]
  exact block_subset_of_le hh

theorem nested_or_disjoint (hmeet : (block h₁ x ∩ block h₂ y).Nonempty) :
    block h₁ x ⊆ block h₂ y ∨ block h₂ y ⊆ block h₁ x := by
  obtain ⟨v, hx, hy⟩ := hmeet
  rcases le_total h₁ h₂ with hh | hh
  · exact .inl (subset_of_meet hh hx hy)
  · exact .inr (subset_of_meet hh hy hx)

theorem meet_iff_base_mem :
    (block h₁ x ∩ block h₂ y).Nonempty ↔ base h₁ x ∈ block h₂ y ∨ base h₂ y ∈ block h₁ x := by
  constructor
  · intro hmeet
    rcases nested_or_disjoint hmeet with hsub | hsub
    · exact .inl (hsub base_mem_block)
    · exact .inr (hsub base_mem_block)
  · rintro (hb | hb)
    · exact ⟨base h₁ x, base_mem_block, hb⟩
    · exact ⟨base h₂ y, hb, base_mem_block⟩

/-! ## Masks -/

theorem and_two_pow_sub_two_pow {w : Nat} (hx : x < 2 ^ w) (hh : h ≤ w) :
    x &&& (2 ^ w - 2 ^ h) = base h x := by
  apply Nat.eq_of_testBit_eq
  intro j
  have hsub : 2 ^ w - 2 ^ h = 2 ^ h * (2 ^ (w - h) - 1) := by
    rw [Nat.mul_sub, Nat.mul_one, ← Nat.pow_add, Nat.add_sub_cancel' hh]
  rw [Nat.testBit_and, hsub, Nat.testBit_two_pow_mul, Nat.testBit_two_pow_sub_one, base,
    Nat.testBit_mul_two_pow, Nat.testBit_div_two_pow]
  by_cases hj : h ≤ j
  · have hj' : j - h + h = j := Nat.sub_add_cancel hj
    by_cases hw : j < w
    · simp [hj, hj', show j - h < w - h by omega]
    · have : x.testBit j = false :=
        Nat.testBit_lt_two_pow (Nat.lt_of_lt_of_le hx (Nat.pow_le_pow_right (by omega) (by omega)))
      simp [hj, hj', this]
  · simp [hj]

theorem or_two_pow_sub_one : x ||| (2 ^ h - 1) = top h x := by
  have hlt : 2 ^ h - 1 < 2 ^ h := Nat.sub_lt (Nat.two_pow_pos h) Nat.one_pos
  rw [top, base, Nat.mul_comm, Nat.two_pow_add_eq_or_of_lt hlt]
  apply Nat.eq_of_testBit_eq
  intro j
  rw [Nat.testBit_or, Nat.testBit_or, Nat.testBit_two_pow_mul, Nat.testBit_two_pow_sub_one,
    Nat.testBit_div_two_pow]
  by_cases hj : h ≤ j
  · simp [hj, Nat.sub_add_cancel hj, show ¬ j < h by omega]
  · simp [hj, show j < h by omega]

end AlignedBlock
