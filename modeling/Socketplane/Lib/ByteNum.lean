import Mathlib.Data.List.GetD
import Mathlib.Tactic.IntervalCases

/-! # Numbers spelled by byte strings

`ByteNum.value a` is the number a byte string spells with its most significant
byte first, the reading of network addresses. Bit `j` of it is bit `j % 8` of the
byte `j / 8` places from the end, so byte-wise loops over an address can be
followed bit by bit; strings of one length are told apart by their value.
-/

namespace ByteNum

/-- The number spelled by a byte string, most significant byte first. -/
def value : List UInt8 → Nat
  | [] => 0
  | b :: bs => 2 ^ (8 * bs.length) * b.toNat + value bs

@[simp] theorem value_nil : value [] = 0 := rfl

theorem value_cons (b : UInt8) (bs : List UInt8) :
    value (b :: bs) = 2 ^ (8 * bs.length) * b.toNat + value bs := rfl

theorem value_lt (a : List UInt8) : value a < 2 ^ (8 * a.length) := by
  induction a with
  | nil => simp
  | cons b bs ih =>
      have hb : b.toNat + 1 ≤ 2 ^ 8 := b.toNat_lt
      have hpow : 2 ^ (8 * (bs.length + 1)) = 2 ^ (8 * bs.length) * 2 ^ 8 := by
        rw [Nat.mul_add, Nat.pow_add, Nat.mul_one]
      rw [value_cons, List.length_cons, hpow]
      calc 2 ^ (8 * bs.length) * b.toNat + value bs
          < 2 ^ (8 * bs.length) * b.toNat + 2 ^ (8 * bs.length) := by omega
        _ = 2 ^ (8 * bs.length) * (b.toNat + 1) := by rw [Nat.mul_add, Nat.mul_one]
        _ ≤ 2 ^ (8 * bs.length) * 2 ^ 8 := Nat.mul_le_mul_left _ hb

private theorem testBit_byte_high {x : UInt8} {n : Nat} (hn : 8 ≤ n) :
    x.toNat.testBit n = false :=
  Nat.testBit_lt_two_pow (Nat.lt_of_lt_of_le x.toNat_lt (Nat.pow_le_pow_right (by omega) hn))

theorem testBit_value (a : List UInt8) (j : Nat) :
    (value a).testBit j =
      (decide (j / 8 < a.length) && (a.getD (a.length - 1 - j / 8) 0).toNat.testBit (j % 8)) := by
  induction a with
  | nil => simp
  | cons b bs ih =>
      rw [value_cons, Nat.testBit_two_pow_mul_add _ (value_lt bs), List.length_cons]
      by_cases hj : j < 8 * bs.length
      · have hidx : bs.length + 1 - 1 - j / 8 = (bs.length - 1 - j / 8) + 1 := by omega
        rw [if_pos hj, ih, hidx, List.getD_cons_succ]
        simp only [show j / 8 < bs.length by omega, show j / 8 < bs.length + 1 by omega,
          decide_true]
      · rw [if_neg hj]
        by_cases hlt : j / 8 < bs.length + 1
        · have hidx : bs.length + 1 - 1 - j / 8 = 0 := by omega
          have hbit : j - 8 * bs.length = j % 8 := by omega
          rw [hidx, List.getD_cons_zero, hbit]
          simp [hlt]
        · rw [testBit_byte_high (by omega)]
          simp [hlt]

theorem eq_of_value_eq {a b : List UInt8} (hlen : a.length = b.length)
    (hval : value a = value b) : a = b := by
  induction a generalizing b with
  | nil => exact (List.length_eq_zero_iff.mp hlen.symm).symm
  | cons x xs ih =>
      obtain ⟨y, ys, rfl⟩ : ∃ y ys, b = y :: ys := List.exists_cons_of_length_eq_add_one hlen.symm
      have hl : xs.length = ys.length := by simpa using hlen
      rw [value_cons, value_cons, hl] at hval
      have hx := value_lt xs
      have hy := value_lt ys
      rw [hl] at hx
      have hxy : x.toNat = y.toNat := by
        have h1 := congrArg (· / 2 ^ (8 * ys.length)) hval
        simp only [Nat.mul_add_div (Nat.two_pow_pos _), Nat.div_eq_of_lt hx,
          Nat.div_eq_of_lt hy] at h1
        simpa using h1
      rw [hxy] at hval
      rw [UInt8.toNat_inj.mp hxy, ih hl (by omega)]

theorem testBit_value_of_le {a : List UInt8} {j : Nat} (hj : a.length ≤ j / 8) :
    (value a).testBit j = false := by
  simp [testBit_value, show ¬ j / 8 < a.length by omega]

theorem testBit_value_zipWith {f : UInt8 → UInt8 → UInt8} {g : Bool → Bool → Bool}
    (hf : ∀ x y i, i < 8 → (f x y).toNat.testBit i = g (x.toNat.testBit i) (y.toNat.testBit i))
    {a b : List UInt8} (hlen : a.length = b.length) (j : Nat) :
    (value (List.zipWith f a b)).testBit j =
      (decide (j / 8 < b.length) && g ((value a).testBit j) ((value b).testBit j)) := by
  rw [testBit_value, testBit_value, testBit_value, List.length_zipWith, hlen, Nat.min_self]
  by_cases hj : j / 8 < b.length
  · have hi : b.length - 1 - j / 8 < b.length := by omega
    have hia : b.length - 1 - j / 8 < a.length := by omega
    rw [List.getD_eq_getElem _ _ (by simpa [hlen] using hi), List.getD_eq_getElem _ _ hia,
      List.getD_eq_getElem _ _ hi, List.getElem_zipWith, hf _ _ _ (Nat.mod_lt _ (by omega))]
    simp [hj]
  · simp [hj]

theorem value_zipWith_and {a b : List UInt8} (hlen : a.length = b.length) :
    value (List.zipWith (· &&& ·) a b) = value a &&& value b := by
  apply Nat.eq_of_testBit_eq
  intro j
  rw [testBit_value_zipWith (g := and) (fun x y i _ => by rw [UInt8.toNat_and, Nat.testBit_and])
    hlen, Nat.testBit_and]
  by_cases hj : j / 8 < b.length
  · simp [hj]
  · simp [hj, testBit_value_of_le (show b.length ≤ j / 8 by omega)]

theorem testBit_or_not (x y : UInt8) {i : Nat} (hi : i < 8) :
    (x ||| ~~~y).toNat.testBit i = (x.toNat.testBit i || !y.toNat.testBit i) := by
  have hy : UInt8.size - 1 - y.toNat = 2 ^ 8 - (y.toNat + 1) := by
    have := y.toNat_lt
    simp only [UInt8.size]
    omega
  rw [UInt8.toNat_or, UInt8.toNat_not, hy, Nat.testBit_or,
    Nat.testBit_two_pow_sub_succ (UInt8.toNat_lt y)]
  simp [hi]

theorem zipWith_and_eq_iff {a b m : List UInt8} (ha : a.length = m.length)
    (hb : b.length = m.length) :
    List.zipWith (· &&& ·) a m = List.zipWith (· &&& ·) b m ↔
      ∀ i < m.length, (a.getD i 0 &&& m.getD i 0) = (b.getD i 0 &&& m.getD i 0) := by
  constructor
  · intro h i hi
    have := congrArg (·[i]?) h
    rw [List.getD_eq_getElem a 0 (by omega), List.getD_eq_getElem b 0 (by omega),
      List.getD_eq_getElem m 0 hi]
    simpa [List.getElem?_zipWith, hi, show i < a.length by omega,
      show i < b.length by omega] using this
  · intro h
    apply List.ext_getElem (by simp [ha, hb])
    intro i hia hib
    have hi : i < m.length := by simpa [ha] using hia
    have := h i hi
    rw [List.getD_eq_getElem a 0 (by omega), List.getD_eq_getElem b 0 (by omega),
      List.getD_eq_getElem m 0 hi] at this
    simpa using this

theorem testBit_value_set {a : List UInt8} {q : Nat} (hq : q < a.length) (x : UInt8) (j : Nat) :
    (value (a.set q x)).testBit j =
      if j / 8 = a.length - 1 - q then x.toNat.testBit (j % 8) else (value a).testBit j := by
  rw [testBit_value, testBit_value, List.length_set]
  split
  · next hj =>
      have hidx : a.length - 1 - j / 8 = q := by omega
      rw [hidx, List.getD_eq_getElem _ _ (by simpa using hq)]
      simp [show j / 8 < a.length by omega]
  · next hj =>
      by_cases hlt : j / 8 < a.length
      · have hne : q ≠ a.length - 1 - j / 8 := by omega
        simp only [List.getD_eq_getElem?_getD, List.getElem?_set_ne hne]
      · simp [hlt]

theorem toNat_getD_eq {a : List UInt8} {q : Nat} (hq : q < a.length) :
    (a.getD q 0).toNat = value a / 2 ^ (8 * (a.length - 1 - q)) % 2 ^ 8 := by
  apply Nat.eq_of_testBit_eq
  intro t
  rw [Nat.testBit_mod_two_pow, Nat.testBit_div_two_pow, testBit_value]
  by_cases ht : t < 8
  · have h1 : (t + 8 * (a.length - 1 - q)) / 8 = a.length - 1 - q := by omega
    have h2 : (t + 8 * (a.length - 1 - q)) % 8 = t := by omega
    rw [h1, h2, show a.length - 1 - (a.length - 1 - q) = q by omega]
    simp [ht, show a.length - 1 - q < a.length by omega]
  · rw [Nat.testBit_lt_two_pow (Nat.lt_of_lt_of_le (UInt8.toNat_lt _)
      (Nat.pow_le_pow_right (by omega) (by omega)))]
    simp [ht]

end ByteNum
