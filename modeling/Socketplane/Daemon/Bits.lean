import Socketplane.Lib.Bitmap

/-! # The bitmap helpers of `utils.go`

`setBit`, `clearBit` and `testBit` reach byte `k / 8` of a slice, and panic
(`none`) past its end. `testAndSetBit` sets the first clear bit and returns its
position counted from 1, or the number of bits when none is clear. Their specs
read the slice as the bit array of `Bitmap.bit`.
-/

namespace Daemon

open Bitmap

/-- Go's `n - 1` on a `uint`: 0 wraps to the largest `uint`. The case split on
`n % 2 ^ 64` keeps the reduction of an unknown `n` from counting down from `2 ^ 64`. -/
def uintPred (n : Nat) : Nat := if n % 2 ^ 64 = 0 then 2 ^ 64 - 1 else n % 2 ^ 64 - 1

theorem uintPred_eq_mod (n : Nat) : uintPred n = (n + 2 ^ 64 - 1) % 2 ^ 64 := by
  unfold uintPred
  split <;> omega

theorem uintPred_of_pos {n : Nat} (hn : 0 < n) (hlt : n < 2 ^ 64) : uintPred n = n - 1 := by
  rw [uintPred, Nat.mod_eq_of_lt hlt, if_neg (by omega)]

theorem uintPred_zero : uintPred 0 = 2 ^ 64 - 1 := rfl

def setBit (a : List UInt8) (k : Nat) : Option (List UInt8) :=
  if h : k / 8 < a.length then some (a.set (k / 8) (a[k / 8] ||| mask k)) else none

def clearBit (a : List UInt8) (k : Nat) : Option (List UInt8) :=
  if h : k / 8 < a.length then some (a.set (k / 8) (a[k / 8] &&& ~~~mask k)) else none

def testBit (a : List UInt8) (k : Nat) : Option Bool :=
  if h : k / 8 < a.length then some (a[k / 8] &&& mask k != 0) else none

/-- The loop of `testAndSetBit` from bit `i`, with `fuel` bits left to look at. -/
def testAndSetBit.loop (a : List UInt8) : Nat → Nat → Option (Nat × List UInt8)
  | 0, i => some (i, a)
  | fuel + 1, i => do
      let set ← testBit a i
      if !set then
        let a' ← setBit a i
        some (i + 1, a')
      else loop a fuel (i + 1)

def testAndSetBit (a : List UInt8) : Option (Nat × List UInt8) :=
  testAndSetBit.loop a (a.length * 8) 0

/-- The first clear bit of a bitmap. -/
def firstClear (a : List UInt8) : Option Nat := (List.range (a.length * 8)).find? (!bit a ·)

theorem testBit_eq {a : List UInt8} {k : Nat} (hk : k < a.length * 8) :
    testBit a k = some (bit a k) := by
  have h : k / 8 < a.length := by omega
  rw [testBit, dif_pos h, and_mask_ne_zero, bit, List.getD_eq_getElem _ _ h]

theorem setBit_eq {a : List UInt8} {k : Nat} (hk : k < a.length * 8) :
    ∃ a', setBit a k = some a' ∧ a'.length = a.length ∧ ∀ j, bit a' j = (decide (j = k) || bit a j) := by
  have h : k / 8 < a.length := by omega
  exact ⟨_, dif_pos h, List.length_set, bit_set_or h⟩

theorem clearBit_eq_some_iff {a a' : List UInt8} {k : Nat} :
    clearBit a k = some a' ↔
      k < a.length * 8 ∧ a'.length = a.length ∧ ∀ j, bit a' j = (!decide (j = k) && bit a j) := by
  unfold clearBit
  constructor
  · intro h
    split at h
    · next hk =>
        cases h
        exact ⟨by omega, List.length_set, bit_set_and_not hk⟩
    · cases h
  · rintro ⟨hk, hlen, hbit⟩
    have h : k / 8 < a.length := by omega
    rw [dif_pos h]
    congr 1
    apply ext_bit (by rw [List.length_set, hlen])
    intro j
    rw [bit_set_and_not h, hbit]

theorem clearBit_eq_none_iff {a : List UInt8} {k : Nat} :
    clearBit a k = none ↔ a.length * 8 ≤ k := by
  unfold clearBit
  split
  · next hk => simp only [reduceCtorEq, false_iff]; omega
  · next hk => simp only [true_iff]; omega

theorem testAndSetBit.loop_eq (a : List UInt8) (fuel i : Nat) (hle : i + fuel = a.length * 8) :
    ∃ r, testAndSetBit.loop a fuel i = some r ∧
      match (List.range' i fuel).find? (!bit a ·) with
      | some j => r.1 = j + 1 ∧ r.2.length = a.length ∧ ∀ k, bit r.2 k = (decide (k = j) || bit a k)
      | none => r = (a.length * 8, a) := by
  induction fuel generalizing i with
  | zero =>
      refine ⟨(i, a), rfl, ?_⟩
      simp only [List.range'_zero, List.find?_nil]
      rw [Nat.add_zero] at hle
      rw [hle]
  | succ fuel ih =>
      have hi : i < a.length * 8 := by omega
      rw [List.range'_succ, List.find?_cons]
      by_cases hb : bit a i
      · obtain ⟨r, hr, hspec⟩ := ih (i + 1) (by omega)
        refine ⟨r, ?_, ?_⟩
        · simp [testAndSetBit.loop, testBit_eq hi, hb, hr]
        · simpa [hb] using hspec
      · obtain ⟨a', ha', hlen, hbit⟩ := setBit_eq hi
        refine ⟨(i + 1, a'), ?_, ?_⟩
        · simp [testAndSetBit.loop, testBit_eq hi, hb, ha']
        · simp only [hb, Bool.not_false, true_and]
          exact ⟨hlen, hbit⟩

theorem testAndSetBit_spec (a : List UInt8) :
    ∃ r, testAndSetBit a = some r ∧
      match firstClear a with
      | some j => r.1 = j + 1 ∧ r.2.length = a.length ∧ ∀ k, bit r.2 k = (decide (k = j) || bit a k)
      | none => r = (a.length * 8, a) := by
  have := testAndSetBit.loop_eq a (a.length * 8) 0 (by omega)
  simpa [testAndSetBit, firstClear, List.range_eq_range'] using this

theorem firstClear_of_clear {a : List UInt8} {k : Nat} (hk : k < a.length * 8)
    (hb : bit a k = false) :
    ∃ j, firstClear a = some j ∧ j ≤ k ∧ bit a j = false ∧ ∀ i < j, bit a i = true := by
  cases h : firstClear a with
  | none =>
      rw [firstClear, List.find?_eq_none] at h
      have := h k (List.mem_range.mpr hk)
      simp [hb] at this
  | some j =>
      rw [firstClear, List.find?_range_eq_some] at h
      obtain ⟨hj, -, hbelow⟩ := h
      have hset : ∀ i < j, bit a i = true := fun i hi => by simpa using hbelow i hi
      refine ⟨j, rfl, ?_, by simpa using hj, hset⟩
      by_contra hkj
      have := hset k (by omega)
      rw [hb] at this
      cases this

theorem testAndSetBit_length {a a' : List UInt8} {pos : Nat} (h : testAndSetBit a = some (pos, a')) :
    a'.length = a.length := by
  obtain ⟨r, hr, hspec⟩ := testAndSetBit_spec a
  rw [h, Option.some.injEq] at hr
  subst hr
  cases hj : firstClear a with
  | some j =>
      simp only [hj] at hspec
      exact hspec.2.1
  | none =>
      simp only [hj, Prod.mk.injEq] at hspec
      rw [hspec.2]

theorem testAndSetBit_bit {a a' : List UInt8} {pos k : Nat} (h : testAndSetBit a = some (pos, a'))
    (hk : bit a k = true) : bit a' k = true := by
  obtain ⟨r, hr, hspec⟩ := testAndSetBit_spec a
  rw [h, Option.some.injEq] at hr
  subst hr
  cases hj : firstClear a with
  | some j =>
      simp only [hj] at hspec
      rw [hspec.2.2 k, hk, Bool.or_true]
  | none =>
      simp only [hj, Prod.mk.injEq] at hspec
      rw [hspec.2]
      exact hk

end Daemon
