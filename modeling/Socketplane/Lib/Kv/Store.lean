import Mathlib.Data.Option.Basic

/-! # Versioned key-value stores with conditional writes

A store maps each key to its current value and the modify index of the write
that produced it. Every write draws a fresh index from the store's clock, so an
index names one write for good: a conditional write quoting the index it read
succeeds only if no write to that key came in between. Index `0` is never in
use; quoting it asks for the key to be absent.
-/

namespace Kv

/-- The current value of a key and the modify index of its last write. -/
structure Cell (V : Type) where
  value : V
  index : Nat
deriving DecidableEq, Repr

/-- A versioned store. The fields after `clock` are the store's invariant: every
index in use is positive and below `clock`, the index the next write receives. -/
structure Store (K V : Type) where
  cells : K → Option (Cell V)
  clock : Nat
  clock_pos : 0 < clock
  index_pos : ∀ k c, cells k = some c → 0 < c.index
  index_lt : ∀ k c, cells k = some c → c.index < clock

namespace Store

variable {K V : Type}

/-- The store in which no key is present. -/
def empty : Store K V where
  cells := fun _ => none
  clock := 1
  clock_pos := Nat.one_pos
  index_pos := by simp
  index_lt := by simp

/-- The value of a key, the only part of the store a sequential specification sees. -/
def value (s : Store K V) (k : K) : Option V :=
  (s.cells k).map Cell.value

/-- The index a conditional write has to quote for `k`: `0` when `k` is absent. -/
def index (s : Store K V) (k : K) : Nat :=
  ((s.cells k).map Cell.index).getD 0

@[simp] theorem empty_cells (k : K) : (empty : Store K V).cells k = none := rfl

@[simp] theorem value_empty (k : K) : (empty : Store K V).value k = none := rfl

theorem index_eq_zero_iff (s : Store K V) (k : K) : s.index k = 0 ↔ s.cells k = none := by
  unfold index
  cases h : s.cells k with
  | none => simp
  | some c =>
      have hpos := s.index_pos k c h
      simp only [Option.map_some, Option.getD_some, reduceCtorEq, iff_false]
      omega

theorem index_of_cells {s : Store K V} {k : K} {c : Cell V} (h : s.cells k = some c) :
    s.index k = c.index := by
  simp [index, h]

theorem index_lt_clock_of_cells {s : Store K V} {k : K} {c : Cell V}
    (h : s.cells k = some c) : s.index k < s.clock := by
  rw [index_of_cells h]
  exact s.index_lt k c h

variable [DecidableEq K]

/-- Store `v` under `k` with a fresh modify index. -/
def write (s : Store K V) (k : K) (v : V) : Store K V where
  cells := fun k' => if k' = k then some ⟨v, s.clock⟩ else s.cells k'
  clock := s.clock + 1
  clock_pos := Nat.succ_pos _
  index_pos := by
    intro k' c h
    by_cases hk : k' = k
    · simp only [hk, if_true, Option.some.injEq] at h
      subst h
      exact s.clock_pos
    · simp only [hk, if_false] at h
      exact s.index_pos k' c h
  index_lt := by
    intro k' c h
    by_cases hk : k' = k
    · simp only [hk, if_true, Option.some.injEq] at h
      subst h
      exact Nat.lt_succ_self _
    · simp only [hk, if_false] at h
      exact Nat.lt_succ_of_lt (s.index_lt k' c h)

/-- Remove `k`. -/
def erase (s : Store K V) (k : K) : Store K V where
  cells := fun k' => if k' = k then none else s.cells k'
  clock := s.clock
  clock_pos := s.clock_pos
  index_pos := by
    intro k' c h
    by_cases hk : k' = k
    · simp [hk] at h
    · simp only [hk, if_false] at h
      exact s.index_pos k' c h
  index_lt := by
    intro k' c h
    by_cases hk : k' = k
    · simp [hk] at h
    · simp only [hk, if_false] at h
      exact s.index_lt k' c h

/-- A conditional write (`?cas=i`): it takes effect iff `i` is the current index of `k`. -/
def cas (s : Store K V) (k : K) (i : Nat) (v : V) : Option (Store K V) :=
  if s.index k = i then some (s.write k v) else none

@[simp] theorem write_cells_self (s : Store K V) (k : K) (v : V) :
    (s.write k v).cells k = some ⟨v, s.clock⟩ := by
  simp [write]

@[simp] theorem write_cells_of_ne (s : Store K V) {k k' : K} (v : V) (h : k' ≠ k) :
    (s.write k v).cells k' = s.cells k' := by
  simp [write, h]

@[simp] theorem write_clock (s : Store K V) (k : K) (v : V) :
    (s.write k v).clock = s.clock + 1 := rfl

@[simp] theorem erase_cells_self (s : Store K V) (k : K) : (s.erase k).cells k = none := by
  simp [erase]

@[simp] theorem erase_cells_of_ne (s : Store K V) {k k' : K} (h : k' ≠ k) :
    (s.erase k).cells k' = s.cells k' := by
  simp [erase, h]

@[simp] theorem erase_clock (s : Store K V) (k : K) : (s.erase k).clock = s.clock := rfl

@[simp] theorem value_write_self (s : Store K V) (k : K) (v : V) :
    (s.write k v).value k = some v := by
  simp [value]

@[simp] theorem value_write_of_ne (s : Store K V) {k k' : K} (v : V) (h : k' ≠ k) :
    (s.write k v).value k' = s.value k' := by
  simp [value, h]

@[simp] theorem value_erase_self (s : Store K V) (k : K) : (s.erase k).value k = none := by
  simp [value]

@[simp] theorem value_erase_of_ne (s : Store K V) {k k' : K} (h : k' ≠ k) :
    (s.erase k).value k' = s.value k' := by
  simp [value, h]

theorem cas_eq_some_iff {s s' : Store K V} {k : K} {i : Nat} {v : V} :
    s.cas k i v = some s' ↔ s.index k = i ∧ s' = s.write k v := by
  unfold cas
  split
  · rename_i h
    simp [h, eq_comm]
  · rename_i h
    simp [h]

end Store

end Kv
