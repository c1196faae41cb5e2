import Socketplane.Lib.Kv.CasLoop

/-! # A retry loop run alone

With no other client and every exchange answered truthfully, the second read of a
pass finds what the first one found, so the first pass either leaves without
writing or writes and succeeds: `retry (casPass k plan)` means `Plan.apply`, the
plan's sequential meaning applied to the whole store.
-/

namespace Kv

variable {K V Q : Type} {A : Q → Type} {R σ : Type} [DecidableEq K]

/-- The sequential meaning of a plan on a store: its outcome and the store after. -/
def Plan.apply (k : K) (plan : Option V → Plan V R) (s : Store K V) : Outcome R × Store K V :=
  match plan (s.value k) with
  | .finish r => (.returned r, s)
  | .crash => (.panicked, s)
  | .write new _ after => (after, s.write k new)

theorem Plan.apply_value (k : K) (plan : Option V → Plan V R) (s : Store K V) :
    ((Plan.apply k plan s).2.value k, (Plan.apply k plan s).1) = Plan.seq plan (s.value k) := by
  unfold Plan.apply Plan.seq
  split <;> simp_all

open Phase Prog

variable [DecidableEq V] {k : K} {plan : Option V → Plan V R} {env : Env σ Q A}

private theorem runs_settling (lossy : Bool) (s : Store K V) (e : σ) (after : Outcome R) :
    Runs lossy env ((settling after true).prog k plan : Prog K V Q A R) s e after s e := by
  cases after with
  | returned r => exact .tau head_settling_returned (.done rfl)
  | panicked => exact .crash head_settling_panicked

theorem runs_retry_casPass (s : Store K V) (e : σ)
    (hexp : ∀ v new expected after, s.value k = some v →
      plan (some v) = .write new expected after → expected = v) :
    Runs false env (Prog.retry (casPass k plan) : Prog K V Q A R) s e
      (Plan.apply k plan s).1 (Plan.apply k plan s).2 e := by
  rw [← prog_start (Q := Q) (A := A)]
  apply Runs.get head_start
  have hv : (s.cells k).map Cell.value = s.value k := rfl
  rw [hv]
  cases hp : plan (s.value k) with
  | finish r =>
      simp only [Plan.apply, hp]
      exact .tau (head_decided_finish hp) (.done rfl)
  | crash =>
      simp only [Plan.apply, hp]
      exact .crash (head_decided_crash hp)
  | write new expected after =>
      simp only [Plan.apply, hp]
      apply Runs.get (head_decided_write hp)
      cases hc : s.cells k with
      | some c =>
          have hval : s.value k = some c.value := by simp [Store.value, hc]
          have hexp' : c.value = expected := (hexp c.value new expected after hval (hval ▸ hp)).symm
          have hcas : s.cas k c.index new = some (s.write k new) :=
            Store.cas_eq_some_iff.mpr ⟨Store.index_of_cells hc, rfl⟩
          exact .putOk (head_compared_same hexp') hcas (runs_settling false _ e after)
      | none =>
          have hcas : s.cas k 0 new = some (s.write k new) :=
            Store.cas_eq_some_iff.mpr ⟨(Store.index_eq_zero_iff s k).mpr hc, rfl⟩
          exact .putOk head_compared_absent hcas (runs_settling false _ e after)

theorem runs_retry_casPass_lost (s : Store K V) (e : σ) {new expected : V} {r : R}
    (hp : plan (s.value k) = .write new expected (.returned r))
    (hexp : ∀ v, s.value k = some v → expected = v) :
    Runs true env (Prog.retry (casPass k plan) : Prog K V Q A R) s e (.returned r) s e := by
  rw [← prog_start (Q := Q) (A := A)]
  apply Runs.get head_start
  have hv : (s.cells k).map Cell.value = s.value k := rfl
  rw [hv]
  apply Runs.get (head_decided_write hp)
  have hlost : Runs true env (.loop (casPass k plan) (settle (.returned r) none) .done :
      Prog K V Q A R) s e (.returned r) s e := .tau rfl (.done rfl)
  cases hc : s.cells k with
  | some c =>
      have hval : s.value k = some c.value := by simp [Store.value, hc]
      exact .putLost rfl (head_compared_same (hexp c.value hval).symm) hlost
  | none => exact .putLost rfl head_compared_absent hlost

theorem runs_retry_casPass_iff {s s' : Store K V} {e e' : σ} {o : Outcome R}
    (hexp : ∀ v new expected after, s.value k = some v →
      plan (some v) = .write new expected after → expected = v) :
    Runs false env (Prog.retry (casPass k plan) : Prog K V Q A R) s e o s' e' ↔
      (o, s') = Plan.apply k plan s ∧ e' = e := by
  constructor
  · intro h
    obtain ⟨ho, hs, he⟩ := Runs.det (runs_retry_casPass s e hexp) h
    exact ⟨by rw [ho, hs], he⟩
  · rintro ⟨h, rfl⟩
    have ho : o = (Plan.apply k plan s).1 := by rw [← h]
    have hs : s' = (Plan.apply k plan s).2 := by rw [← h]
    rw [ho, hs]
    exact runs_retry_casPass s _ hexp

end Kv
