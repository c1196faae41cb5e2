import Mathlib.Data.List.GetD
import Mathlib.Tactic.IntervalCases

/-! # Byte strings read as bit arrays

A byte string stands for the bit array whose bit `k` is bit `k % 8` of byte
`k / 8`, least significant bit first, the layout of the common `a[k/8] |= 1 << (k%8)`
idiom. Bits past the end read as clear. Setting and clearing one bit through its
byte changes that bit and no other, and two byte strings of one length are equal
as soon as they agree bit for bit.
-/

namespace Bitmap

/-- The mask of bit `k` inside its byte, `1 << (k % 8)`. -/
def mask (k : Nat) : UInt8 := 1 <<< (k % 8).toUInt8

/-- Bit `k` of a byte string. -/
def bit (a : List UInt8) (k : Nat) : Bool := (a.getD (k / 8) 0).toNat.testBit (k % 8)

theorem toNat_mask (k : Nat) : (mask k).toNat = 2 ^ (k % 8) := by
  have hk : k % 8 < 8 := Nat.mod_lt _ (by omega)
  unfold mask
  generalize k % 8 = m at hk ⊢
  interval_cases m <;> rfl

private theorem testBit_byte_eq_false {x : UInt8} {n : Nat} (hn : 8 ≤ n) :
    x.toNat.testBit n = false :=
  Nat.testBit_lt_two_pow (Nat.lt_of_lt_of_le x.toNat_lt (Nat.pow_le_pow_right (by omega) hn))

theorem and_mask_ne_zero (x : UInt8) (k : Nat) :
    (x &&& mask k != 0) = x.toNat.testBit (k % 8) := by
  rw [Bool.eq_iff_iff, bne_iff_ne, ne_eq, ← UInt8.toNat_inj, UInt8.toNat_and, toNat_mask,
    UInt8.toNat_zero]
  constructor
  · intro h
    by_contra hb
    apply h
    apply Nat.eq_of_testBit_eq
    intro i
    rw [Nat.testBit_and, Nat.testBit_two_pow, Nat.zero_testBit]
    by_cases hi : k % 8 = i
    · subst hi
      simpa using hb
    · simp [hi]
  · intro hb h
    have := congrArg (·.testBit (k % 8)) h
    simp only [Nat.testBit_and, Nat.testBit_two_pow, decide_true, Bool.and_true,
      Nat.zero_testBit] at this
    rw [this] at hb
    exact Bool.false_ne_true hb

theorem testBit_or_mask (x : UInt8) (k n : Nat) :
    (x ||| mask k).toNat.testBit n = (decide (n = k % 8) || x.toNat.testBit n) := by
  rw [UInt8.toNat_or, Nat.testBit_or, toNat_mask, Nat.testBit_two_pow, Bool.or_comm]
  simp [eq_comm]

private theorem testBit_not_pow (m n : Nat) (hm : m < 8) (hn : n < 8) :
    (255 - 2 ^ m).testBit n = !decide (n = m) := by
  interval_cases m <;> interval_cases n <;> rfl

theorem testBit_and_not_mask (x : UInt8) (k n : Nat) :
    (x &&& ~~~mask k).toNat.testBit n = (!decide (n = k % 8) && x.toNat.testBit n) := by
  have hk : k % 8 < 8 := Nat.mod_lt _ (by omega)
  rw [UInt8.toNat_and, Nat.testBit_and, UInt8.toNat_not, toNat_mask]
  by_cases hn : n < 8
  · rw [show UInt8.size - 1 - 2 ^ (k % 8) = 255 - 2 ^ (k % 8) from rfl,
      testBit_not_pow _ _ hk hn, Bool.and_comm]
  · rw [testBit_byte_eq_false (by omega)]
    simp

@[simp] theorem bit_nil (k : Nat) : bit [] k = false := by
  simp [bit]

theorem bit_eq_false_of_le {a : List UInt8} {k : Nat} (hk : a.length * 8 ≤ k) :
    bit a k = false := by
  have : a.length ≤ k / 8 := by omega
  rw [bit, List.getD_eq_default _ _ this]
  simp

@[simp] theorem bit_replicate_zero (n k : Nat) : bit (List.replicate n 0) k = false := by
  by_cases h : k / 8 < n
  · rw [bit, List.getD_eq_getElem _ _ (by simpa using h)]
    simp
  · exact bit_eq_false_of_le (by simp; omega)

theorem bit_set_or {a : List UInt8} {k : Nat} (hk : k / 8 < a.length) (j : Nat) :
    bit (a.set (k / 8) (a[k / 8] ||| mask k)) j = (decide (j = k) || bit a j) := by
  by_cases hj : j / 8 = k / 8
  · have hbyte : (a.set (k / 8) (a[k / 8] ||| mask k)).getD (j / 8) 0 = a[k / 8] ||| mask k := by
      rw [hj, List.getD_eq_getElem _ _ (by simpa using hk)]
      simp
    rw [bit, hbyte, testBit_or_mask, bit, hj, List.getD_eq_getElem _ _ hk]
    congr 1
    apply decide_eq_decide.mpr
    omega
  · have hne : j ≠ k := fun h => hj (h ▸ rfl)
    simp only [bit, List.getD_eq_getElem?_getD, List.getElem?_set_ne (Ne.symm hj), hne,
      decide_false, Bool.false_or]

theorem bit_set_and_not {a : List UInt8} {k : Nat} (hk : k / 8 < a.length) (j : Nat) :
    bit (a.set (k / 8) (a[k / 8] &&& ~~~mask k)) j = (!decide (j = k) && bit a j) := by
  by_cases hj : j / 8 = k / 8
  · have hbyte :
        (a.set (k / 8) (a[k / 8] &&& ~~~mask k)).getD (j / 8) 0 = a[k / 8] &&& ~~~mask k := by
      rw [hj, List.getD_eq_getElem _ _ (by simpa using hk)]
      simp
    rw [bit, hbyte, testBit_and_not_mask, bit, hj, List.getD_eq_getElem _ _ hk]
    congr 2
    apply decide_eq_decide.mpr
    omega
  · have hne : j ≠ k := fun h => hj (h ▸ rfl)
    simp only [bit, List.getD_eq_getElem?_getD, List.getElem?_set_ne (Ne.symm hj), hne,
      decide_false, Bool.not_false, Bool.true_and]

theorem ext_bit {a b : List UInt8} (hlen : a.length = b.length)
    (hbit : ∀ k, bit a k = bit b k) : a = b := by
  apply List.ext_getElem hlen
  intro i ha hb
  apply UInt8.toNat_inj.mp
  apply Nat.eq_of_testBit_eq
  intro n
  by_cases hn : n < 8
  · have h := hbit (8 * i + n)
    have hi : (8 * i + n) / 8 = i := by omega
    have hm : (8 * i + n) % 8 = n := by omega
    simpa only [bit, hi, hm, List.getD_eq_getElem _ _ ha, List.getD_eq_getElem _ _ hb] using h
  · rw [testBit_byte_eq_false (by omega), testBit_byte_eq_false (by omega)]

end Bitmap
