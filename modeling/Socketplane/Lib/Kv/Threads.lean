import Mathlib.Logic.Relation
import Socketplane.Lib.Kv.Run

/-! # Threads sharing one store

Any number of client programs run against one store. A step of the system lets
one thread make one move: a silent step of loop bookkeeping, or one exchange,
which the store answers truthfully and atomically. Threads are scheduled in any
order, so the reachable states cover every interleaving of their exchanges.

A history of a run is judged against sequential specifications: `Replays` says
that applying the calls of a list one after another, each to the value of its
own key, yields the recorded outcomes and ends in the given values.
-/

namespace Kv

variable {K V Q : Type} {A : Q → Type} {R : Type}

/-- A program that ends with outcome `o` without any further exchange. -/
inductive Settles : Prog K V Q A R → Outcome R → Prop
  | done (r : R) : Settles (.done r) (.returned r)
  | crash {p} : p.head = .crash → Settles p .panicked
  | tau {p p' o} : p.head = .tau p' → Settles p' o → Settles p o

theorem Settles.done_inv {r : R} {o : Outcome R} (h : Settles (.done r : Prog K V Q A R) o) :
    o = .returned r := by
  cases h with
  | done => rfl
  | crash hp => cases hp
  | tau hp => cases hp

variable [DecidableEq K]

/-- One atomic move of a program against the shared store. A call to the
environment may be answered with anything. -/
inductive Move : Prog K V Q A R → Store K V → Prog K V Q A R → Store K V → Prop
  | tau {p p' s} : p.head = .tau p' → Move p s p' s
  | get {p k next s} : p.head = .get k next → Move p s (next (s.cells k)) s
  | putOk {p k i v next s s'} :
      p.head = .put k i v next → s.cas k i v = some s' → Move p s (next (some true)) s'
  | putStale {p k i v next s} :
      p.head = .put k i v next → s.cas k i v = none → Move p s (next (some false)) s
  | del {p k next s} : p.head = .del k next → Move p s (next true) (s.erase k)
  | call {p q next s} (a : A q) : p.head = .call q next → Move p s (next a) s

namespace Move

variable {p p' : Prog K V Q A R} {s s' : Store K V}

theorem not_of_done {a : R} (hp : p.head = .done a) : ¬ Move p s p' s' := by
  intro h
  cases h <;> simp_all

theorem not_of_crash (hp : p.head = .crash) : ¬ Move p s p' s' := by
  intro h
  cases h <;> simp_all

theorem of_tau {q : Prog K V Q A R} (hp : p.head = .tau q) (h : Move p s p' s') :
    p' = q ∧ s' = s := by
  cases h <;> simp_all

theorem of_get {k : K} {next : Option (Cell V) → Prog K V Q A R} (hp : p.head = .get k next)
    (h : Move p s p' s') : p' = next (s.cells k) ∧ s' = s := by
  cases h <;> simp_all

theorem of_put {k : K} {i : Nat} {v : V} {next : Option Bool → Prog K V Q A R}
    (hp : p.head = .put k i v next) (h : Move p s p' s') :
    (s.cas k i v = some s' ∧ p' = next (some true)) ∨
      (s.cas k i v = none ∧ s' = s ∧ p' = next (some false)) := by
  cases h <;> simp_all

end Move

/-- The shared store and the program each thread has left to run. -/
structure Sys (K V Q : Type) (A : Q → Type) (R : Type) where
  store : Store K V
  threads : List (Prog K V Q A R)

namespace Sys

/-- One step of the system: one thread makes one move. -/
inductive Step : Sys K V Q A R → Sys K V Q A R → Prop
  | move {sys : Sys K V Q A R} {i : Nat} {p p' : Prog K V Q A R} {store' : Store K V} :
      sys.threads[i]? = some p → Move p sys.store p' store' →
        Step sys ⟨store', sys.threads.set i p'⟩

/-- The states a system reaches from `init` in any number of steps. -/
def Reachable (init sys : Sys K V Q A R) : Prop :=
  Relation.ReflTransGen Step init sys

end Sys

section Replay

/-- A call's sequential specification: the key it acts on, and from the key's
value the new value and the outcome. -/
abbrev SeqSpec (K V R : Type) := K × (Option V → Option V × Outcome R)

/-- Applying the calls of a history one after another, starting from the values
`m`, gives each entry's outcome and ends in the values `m'`. -/
inductive Replays (spec : Nat → SeqSpec K V R) :
    (K → Option V) → List (Nat × Outcome R) → (K → Option V) → Prop
  | nil (m : K → Option V) : Replays spec m [] m
  | cons {m m' : K → Option V} {i : Nat} {o : Outcome R} {rest : List (Nat × Outcome R)}
      {v : Option V} :
      ((spec i).2 (m (spec i).1)) = (v, o) →
        Replays spec (fun k => if k = (spec i).1 then v else m k) rest m' →
          Replays spec m ((i, o) :: rest) m'

theorem Replays.snoc {spec : Nat → SeqSpec K V R} {m m' : K → Option V}
    {hist : List (Nat × Outcome R)} {i : Nat} {o : Outcome R} {v : Option V}
    (h : Replays spec m hist m') (hi : (spec i).2 (m' (spec i).1) = (v, o)) :
    Replays spec m (hist ++ [(i, o)]) (fun k => if k = (spec i).1 then v else m' k) := by
  induction h with
  | nil m => exact .cons hi (.nil _)
  | cons hstep _ ih => exact .cons hstep (ih hi)

theorem Replays.nil_inv {spec : Nat → SeqSpec K V R} {m m' : K → Option V}
    (h : Replays spec m [] m') : m' = m := by
  cases h
  rfl

theorem Replays.cons_inv {spec : Nat → SeqSpec K V R} {m m' : K → Option V} {i : Nat}
    {o : Outcome R} {rest : List (Nat × Outcome R)} (h : Replays spec m ((i, o) :: rest) m') :
    ∃ v, (spec i).2 (m (spec i).1) = (v, o) ∧
      Replays spec (fun k => if k = (spec i).1 then v else m k) rest m' := by
  cases h with
  | cons hstep hrest => exact ⟨_, hstep, hrest⟩

/-- The values after applying the calls of a history one after another. -/
def replay (spec : Nat → SeqSpec K V R) (m : K → Option V) : List (Nat × Outcome R) → K → Option V
  | [] => m
  | (i, _) :: rest =>
      replay spec (fun k => if k = (spec i).1 then ((spec i).2 (m (spec i).1)).1 else m k) rest

variable {spec : Nat → SeqSpec K V R}

theorem Replays.replay_eq {m m' : K → Option V} {hist : List (Nat × Outcome R)}
    (h : Replays spec m hist m') : replay spec m hist = m' := by
  induction h with
  | nil m => rfl
  | cons hstep _ ih =>
      simp only [replay, hstep]
      exact ih

theorem replay_append (m : K → Option V) (h₁ h₂ : List (Nat × Outcome R)) :
    replay spec m (h₁ ++ h₂) = replay spec (replay spec m h₁) h₂ := by
  induction h₁ generalizing m with
  | nil => rfl
  | cons e rest ih =>
      obtain ⟨i, o⟩ := e
      exact ih _

theorem replay_undone (P : (K → Option V) → Prop) :
    ∀ {m : K → Option V} {h : List (Nat × Outcome R)}, P m → ¬ P (replay spec m h) →
      ∃ g₁ e g₂, h = g₁ ++ e :: g₂ ∧ P (replay spec m g₁) ∧ ¬ P (replay spec m (g₁ ++ [e])) := by
  intro m h
  induction h generalizing m with
  | nil => exact fun hp hn => absurd hp hn
  | cons e rest ih =>
      intro hp hn
      by_cases hstep : P (replay spec m [e])
      · obtain ⟨i, o⟩ := e
        obtain ⟨g₁, e', g₂, rfl, hg, hg'⟩ := ih hstep hn
        exact ⟨(i, o) :: g₁, e', g₂, rfl, hg, hg'⟩
      · exact ⟨[], e, rest, rfl, hp, hstep⟩

theorem replay_between (P : Option V → Prop) {m₀ : K → Option V}
    {before mid : List (Nat × Outcome R)} {i₁ i₂ : Nat} {o₁ : Outcome R}
    (hk : (spec i₂).1 = (spec i₁).1)
    (h₁ : P ((spec i₁).2 (replay spec m₀ before (spec i₁).1)).1)
    (h₂ : ¬ P (replay spec m₀ (before ++ (i₁, o₁) :: mid) (spec i₂).1)) :
    ∃ g₁ i o g₂, mid = g₁ ++ (i, o) :: g₂ ∧ (spec i).1 = (spec i₁).1 ∧
      P (replay spec m₀ (before ++ (i₁, o₁) :: g₁) (spec i).1) ∧
      ¬ P ((spec i).2 (replay spec m₀ (before ++ (i₁, o₁) :: g₁) (spec i).1)).1 := by
  have hsplit : ∀ g, before ++ (i₁, o₁) :: g = (before ++ [(i₁, o₁)]) ++ g := by simp
  have hafter : P (replay spec m₀ (before ++ [(i₁, o₁)]) (spec i₁).1) := by
    simpa [replay_append, replay] using h₁
  rw [hk, hsplit, replay_append] at h₂
  generalize hm₁ : replay spec m₀ (before ++ [(i₁, o₁)]) = m₁ at hafter h₂
  obtain ⟨g₁, ⟨i, o⟩, g₂, rfl, hg, hg'⟩ :=
    replay_undone (fun m => P (m (spec i₁).1)) hafter h₂
  rw [replay_append] at hg'
  simp only [replay] at hg'
  have hki : (spec i).1 = (spec i₁).1 := by
    by_contra hne
    rw [if_neg (Ne.symm hne)] at hg'
    exact hg' hg
  refine ⟨g₁, i, o, g₂, rfl, hki, ?_, ?_⟩
  · rw [hsplit, replay_append, hm₁, hki]
    exact hg
  · rw [hsplit, replay_append, hm₁, hki]
    rwa [hki, if_pos rfl] at hg'

end Replay

end Kv
