import Socketplane.Lib.Kv.Prog

/-! # Running a client program to its end

`Runs lossy env p s e o s' e'` says that program `p`, started on store `s` with
its environment in state `e`, ends with outcome `o`, leaving store `s'` and
environment state `e'`. The store answers every exchange truthfully. With
`lossy` set an exchange may also be lost on the way: a lost read reports the key
absent, and a lost write or delete changes nothing and reports the failure.

`run` computes the truthful semantics with a step budget and is what a concrete
history is evaluated with; `Runs.of_run` carries its answers over. A truthful run
is read back exchange by exchange from the program's head (`Runs.inv_get` and the
like), so it is determined by where it starts (`Runs.det`); `Runs.bind_returned`
joins a run of `p` to a run of what follows it.
-/

namespace Kv

/-- How a program ends: it returns a value or it faults. -/
inductive Outcome (α : Type) where
  | returned (a : α)
  | panicked
deriving DecidableEq, Repr

/-- Rename the value a program returned. -/
def Outcome.map {α β : Type} (f : α → β) : Outcome α → Outcome β
  | .returned a => .returned (f a)
  | .panicked => .panicked

/-- An environment with state `σ`: it answers a request and moves to a new state. -/
abbrev Env (σ Q : Type) (A : Q → Type) := σ → (q : Q) → A q × σ

/-- The environment as a program over requests `Q` sees it: each request renamed by
`f`, its answer read back through `g`. -/
def Env.comap {σ Q Q' : Type} {A : Q → Type} {A' : Q' → Type} (env : Env σ Q' A') (f : Q → Q')
    (g : ∀ q, A' (f q) → A q) : Env σ Q A :=
  fun e q => (g q (env e (f q)).1, (env e (f q)).2)

namespace Prog

variable {K V Q σ : Type} {A : Q → Type} {α β : Type}

theorem head_eq_done_iff {p : Prog K V Q A α} {a : α} : p.head = .done a ↔ p = .done a := by
  constructor
  · intro h
    cases p with
    | done a' => simp only [head, Head.done.injEq] at h; rw [h]
    | loop body cur next =>
        simp only [head] at h
        split at h <;> simp at h
    | iterate body cur next =>
        simp only [head] at h
        split at h <;> simp at h
    | _ => simp [head] at h
  · rintro rfl
    rfl

theorem head_bind (p : Prog K V Q A α) (f : α → Prog K V Q A β) :
    (p.bind f).head =
      match p.head with
      | .done a => (f a).head
      | .crash => .crash
      | .get k next => .get k fun r => (next r).bind f
      | .put k i v next => .put k i v fun r => (next r).bind f
      | .del k next => .del k fun r => (next r).bind f
      | .call q next => .call q fun r => (next r).bind f
      | .tau p' => .tau (p'.bind f) := by
  cases p with
  | loop body cur next =>
      simp only [loop_bind, head]
      split <;> simp_all
  | iterate body cur next =>
      simp only [iterate_bind, head]
      split <;> simp_all
  | _ => rfl

variable [DecidableEq K]

/-- Big-step runs against a store, the store answering truthfully unless `lossy`
lets an exchange be lost. -/
inductive Runs (lossy : Bool) (env : Env σ Q A) :
    Prog K V Q A α → Store K V → σ → Outcome α → Store K V → σ → Prop
  | done {p s e a} : p.head = .done a → Runs lossy env p s e (.returned a) s e
  | crash {p s e} : p.head = .crash → Runs lossy env p s e .panicked s e
  | tau {p p' s e o s' e'} :
      p.head = .tau p' → Runs lossy env p' s e o s' e' → Runs lossy env p s e o s' e'
  | get {p k next s e o s' e'} :
      p.head = .get k next → Runs lossy env (next (s.cells k)) s e o s' e' →
        Runs lossy env p s e o s' e'
  | putOk {p k i v next s s₁ e o s' e'} :
      p.head = .put k i v next → s.cas k i v = some s₁ →
        Runs lossy env (next (some true)) s₁ e o s' e' → Runs lossy env p s e o s' e'
  | putStale {p k i v next s e o s' e'} :
      p.head = .put k i v next → s.cas k i v = none →
        Runs lossy env (next (some false)) s e o s' e' → Runs lossy env p s e o s' e'
  | del {p k next s e o s' e'} :
      p.head = .del k next → Runs lossy env (next true) (s.erase k) e o s' e' →
        Runs lossy env p s e o s' e'
  | call {p q next s e a e₁ o s' e'} :
      p.head = .call q next → env e q = (a, e₁) → Runs lossy env (next a) s e₁ o s' e' →
        Runs lossy env p s e o s' e'
  | getLost {p k next s e o s' e'} :
      lossy = true → p.head = .get k next → Runs lossy env (next none) s e o s' e' →
        Runs lossy env p s e o s' e'
  | putLost {p k i v next s e o s' e'} :
      lossy = true → p.head = .put k i v next → Runs lossy env (next none) s e o s' e' →
        Runs lossy env p s e o s' e'
  | delLost {p k next s e o s' e'} :
      lossy = true → p.head = .del k next → Runs lossy env (next false) s e o s' e' →
        Runs lossy env p s e o s' e'

/-- The truthful semantics with a budget of `fuel` moves; `none` when the budget runs out. -/
def run (env : Env σ Q A) : Nat → Prog K V Q A α → Store K V → σ →
    Option (Outcome α) × Store K V × σ
  | 0, _, s, e => (none, s, e)
  | fuel + 1, p, s, e =>
      match p.head with
      | .done a => (some (.returned a), s, e)
      | .crash => (some .panicked, s, e)
      | .tau p' => run env fuel p' s e
      | .get k next => run env fuel (next (s.cells k)) s e
      | .put k i v next =>
          match s.cas k i v with
          | some s₁ => run env fuel (next (some true)) s₁ e
          | none => run env fuel (next (some false)) s e
      | .del k next => run env fuel (next true) (s.erase k) e
      | .call q next => run env fuel (next (env e q).1) s (env e q).2

theorem Runs.of_run {env : Env σ Q A} {lossy : Bool} :
    ∀ {fuel : Nat} {p : Prog K V Q A α} {s : Store K V} {e : σ} {o : Outcome α}
      {s' : Store K V} {e' : σ},
      run env fuel p s e = (some o, s', e') → Runs lossy env p s e o s' e'
  | 0, _, _, _, _, _, _, h => by simp [run] at h
  | fuel + 1, p, s, e, o, s', e', h => by
      unfold run at h
      cases hp : p.head with
      | done a =>
          simp only [hp, Prod.mk.injEq, Option.some.injEq] at h
          obtain ⟨rfl, rfl, rfl⟩ := h
          exact .done hp
      | crash =>
          simp only [hp, Prod.mk.injEq, Option.some.injEq] at h
          obtain ⟨rfl, rfl, rfl⟩ := h
          exact .crash hp
      | tau p' =>
          simp only [hp] at h
          exact .tau hp (Runs.of_run h)
      | get k next =>
          simp only [hp] at h
          exact .get hp (Runs.of_run h)
      | put k i v next =>
          simp only [hp] at h
          cases hc : s.cas k i v with
          | some s₁ =>
              simp only [hc] at h
              exact .putOk hp hc (Runs.of_run h)
          | none =>
              simp only [hc] at h
              exact .putStale hp hc (Runs.of_run h)
      | del k next =>
          simp only [hp] at h
          exact .del hp (Runs.of_run h)
      | call q next =>
          simp only [hp] at h
          exact .call hp rfl (Runs.of_run h)

theorem Runs.of_run_fst {env : Env σ Q A} {lossy : Bool} (fuel : Nat) {p : Prog K V Q A α}
    {s : Store K V} {e : σ} {o : Outcome α} (h : (run env fuel p s e).1 = some o) :
    Runs lossy env p s e o (run env fuel p s e).2.1 (run env fuel p s e).2.2 :=
  Runs.of_run (by rw [← h])

section Inversion

/-! A truthful run is read off the head of its program, one exchange at a time. -/

variable {env : Env σ Q A} {p : Prog K V Q A α} {s s' : Store K V} {e e' : σ} {o : Outcome α}

theorem Runs.inv_done {a : α} (hp : p.head = .done a) (h : Runs false env p s e o s' e') :
    o = .returned a ∧ s' = s ∧ e' = e := by
  cases h with
  | done hp' =>
      rw [hp] at hp'
      cases hp'
      exact ⟨rfl, rfl, rfl⟩
  | getLost hl => cases hl
  | putLost hl => cases hl
  | delLost hl => cases hl
  | _ => simp_all

theorem Runs.inv_crash (hp : p.head = .crash) (h : Runs false env p s e o s' e') :
    o = .panicked ∧ s' = s ∧ e' = e := by
  cases h with
  | crash _ => exact ⟨rfl, rfl, rfl⟩
  | getLost hl => cases hl
  | putLost hl => cases hl
  | delLost hl => cases hl
  | _ => simp_all

theorem Runs.inv_tau {p' : Prog K V Q A α} (hp : p.head = .tau p')
    (h : Runs false env p s e o s' e') : Runs false env p' s e o s' e' := by
  cases h with
  | tau hp' h' =>
      rw [hp] at hp'
      cases hp'
      exact h'
  | getLost hl => cases hl
  | putLost hl => cases hl
  | delLost hl => cases hl
  | _ => simp_all

theorem Runs.inv_get {k : K} {next : Option (Cell V) → Prog K V Q A α} (hp : p.head = .get k next)
    (h : Runs false env p s e o s' e') : Runs false env (next (s.cells k)) s e o s' e' := by
  cases h with
  | get hp' h' =>
      rw [hp] at hp'
      cases hp'
      exact h'
  | getLost hl => cases hl
  | putLost hl => cases hl
  | delLost hl => cases hl
  | _ => simp_all

theorem Runs.inv_put {k : K} {i : Nat} {v : V} {next : Option Bool → Prog K V Q A α}
    (hp : p.head = .put k i v next) (h : Runs false env p s e o s' e') :
    (∃ s₁, s.cas k i v = some s₁ ∧ Runs false env (next (some true)) s₁ e o s' e') ∨
      (s.cas k i v = none ∧ Runs false env (next (some false)) s e o s' e') := by
  cases h with
  | putOk hp' hc h' =>
      rw [hp] at hp'
      cases hp'
      exact .inl ⟨_, hc, h'⟩
  | putStale hp' hc h' =>
      rw [hp] at hp'
      cases hp'
      exact .inr ⟨hc, h'⟩
  | getLost hl => cases hl
  | putLost hl => cases hl
  | delLost hl => cases hl
  | _ => simp_all

theorem Runs.inv_del {k : K} {next : Bool → Prog K V Q A α} (hp : p.head = .del k next)
    (h : Runs false env p s e o s' e') : Runs false env (next true) (s.erase k) e o s' e' := by
  cases h with
  | del hp' h' =>
      rw [hp] at hp'
      cases hp'
      exact h'
  | getLost hl => cases hl
  | putLost hl => cases hl
  | delLost hl => cases hl
  | _ => simp_all

theorem Runs.inv_call {q : Q} {next : A q → Prog K V Q A α} (hp : p.head = .call q next)
    (h : Runs false env p s e o s' e') :
    Runs false env (next (env e q).1) s (env e q).2 o s' e' := by
  cases h with
  | call hp' he h' =>
      rw [hp] at hp'
      cases hp'
      rw [he]
      exact h'
  | getLost hl => cases hl
  | putLost hl => cases hl
  | delLost hl => cases hl
  | _ => simp_all

theorem Runs.done_iff {lossy : Bool} {a : α} :
    Runs lossy env (.done a) s e o s' e' ↔ o = .returned a ∧ s' = s ∧ e' = e := by
  constructor
  · intro h
    cases h with
    | done hp => cases hp; exact ⟨rfl, rfl, rfl⟩
    | _ => contradiction
  · rintro ⟨rfl, rfl, rfl⟩
    exact .done rfl

theorem Runs.det {o₂ : Outcome α} {s₂ : Store K V} {e₂ : σ} (h₁ : Runs false env p s e o s' e')
    (h₂ : Runs false env p s e o₂ s₂ e₂) : o₂ = o ∧ s₂ = s' ∧ e₂ = e' := by
  induction h₁ generalizing o₂ s₂ e₂ with
  | done hp => exact Runs.inv_done hp h₂
  | crash hp => exact Runs.inv_crash hp h₂
  | tau hp _ ih => exact ih (Runs.inv_tau hp h₂)
  | get hp _ ih => exact ih (Runs.inv_get hp h₂)
  | putOk hp hc _ ih =>
      rcases Runs.inv_put hp h₂ with ⟨s₁, hc', h'⟩ | ⟨hc', -⟩
      · rw [hc] at hc'
        cases hc'
        exact ih h'
      · rw [hc] at hc'
        cases hc'
  | putStale hp hc _ ih =>
      rcases Runs.inv_put hp h₂ with ⟨s₁, hc', -⟩ | ⟨-, h'⟩
      · rw [hc] at hc'
        cases hc'
      · exact ih h'
  | del hp _ ih => exact ih (Runs.inv_del hp h₂)
  | call hp he _ ih =>
      have h' := Runs.inv_call hp h₂
      rw [he] at h'
      exact ih h'
  | getLost hl => cases hl
  | putLost hl => cases hl
  | delLost hl => cases hl

end Inversion

section Compose

variable {lossy : Bool} {env : Env σ Q A} {f : α → Prog K V Q A β}

theorem Runs.bind_returned {p : Prog K V Q A α} {s s₁ s' : Store K V} {e e₁ e' : σ} {a : α}
    {o : Outcome β} (h₁ : Runs lossy env p s e (.returned a) s₁ e₁)
    (h₂ : Runs lossy env (f a) s₁ e₁ o s' e') : Runs lossy env (p.bind f) s e o s' e' := by
  generalize ho : (Outcome.returned a : Outcome α) = o₁ at h₁
  induction h₁ with
  | done hp =>
      cases ho
      rw [head_eq_done_iff.mp hp]
      exact h₂
  | crash _ => cases ho
  | tau hp _ ih => exact .tau (by rw [head_bind, hp]) (ih h₂ ho)
  | get hp _ ih => exact .get (by rw [head_bind, hp]) (ih h₂ ho)
  | putOk hp hc _ ih => exact .putOk (by rw [head_bind, hp]) hc (ih h₂ ho)
  | putStale hp hc _ ih => exact .putStale (by rw [head_bind, hp]) hc (ih h₂ ho)
  | del hp _ ih => exact .del (by rw [head_bind, hp]) (ih h₂ ho)
  | call hp he _ ih => exact .call (by rw [head_bind, hp]) he (ih h₂ ho)
  | getLost hl hp _ ih => exact .getLost hl (by rw [head_bind, hp]) (ih h₂ ho)
  | putLost hl hp _ ih => exact .putLost hl (by rw [head_bind, hp]) (ih h₂ ho)
  | delLost hl hp _ ih => exact .delLost hl (by rw [head_bind, hp]) (ih h₂ ho)

theorem Runs.bind_panicked {p : Prog K V Q A α} {s s' : Store K V} {e e' : σ}
    (h : Runs lossy env p s e .panicked s' e') :
    Runs lossy env (p.bind f) s e .panicked s' e' := by
  generalize ho : (Outcome.panicked : Outcome α) = o₁ at h
  induction h with
  | done _ => cases ho
  | crash hp => exact .crash (by rw [head_bind, hp])
  | tau hp _ ih => exact .tau (by rw [head_bind, hp]) (ih ho)
  | get hp _ ih => exact .get (by rw [head_bind, hp]) (ih ho)
  | putOk hp hc _ ih => exact .putOk (by rw [head_bind, hp]) hc (ih ho)
  | putStale hp hc _ ih => exact .putStale (by rw [head_bind, hp]) hc (ih ho)
  | del hp _ ih => exact .del (by rw [head_bind, hp]) (ih ho)
  | call hp he _ ih => exact .call (by rw [head_bind, hp]) he (ih ho)
  | getLost hl hp _ ih => exact .getLost hl (by rw [head_bind, hp]) (ih ho)
  | putLost hl hp _ ih => exact .putLost hl (by rw [head_bind, hp]) (ih ho)
  | delLost hl hp _ ih => exact .delLost hl (by rw [head_bind, hp]) (ih ho)

private theorem split_lift {p p' : Prog K V Q A α} {s s₁ s' : Store K V} {e e₁ e' : σ}
    {o : Outcome β}
    (hlift : ∀ {o₁ s₂ e₂}, Runs lossy env p' s₁ e₁ o₁ s₂ e₂ → Runs lossy env p s e o₁ s₂ e₂) :
    ((∃ a s₂ e₂, Runs lossy env p' s₁ e₁ (.returned a) s₂ e₂ ∧ Runs lossy env (f a) s₂ e₂ o s' e') ∨
      (o = .panicked ∧ Runs lossy env p' s₁ e₁ .panicked s' e')) →
    ((∃ a s₂ e₂, Runs lossy env p s e (.returned a) s₂ e₂ ∧ Runs lossy env (f a) s₂ e₂ o s' e') ∨
      (o = .panicked ∧ Runs lossy env p s e .panicked s' e'))
  | .inl ⟨a, s₂, e₂, h₁, h₂⟩ => .inl ⟨a, s₂, e₂, hlift h₁, h₂⟩
  | .inr ⟨ho, h₁⟩ => .inr ⟨ho, hlift h₁⟩

theorem Runs.of_bind {p : Prog K V Q A α} {s s' : Store K V} {e e' : σ} {o : Outcome β}
    (h : Runs lossy env (p.bind f) s e o s' e') :
    (∃ a s₁ e₁, Runs lossy env p s e (.returned a) s₁ e₁ ∧ Runs lossy env (f a) s₁ e₁ o s' e') ∨
      (o = .panicked ∧ Runs lossy env p s e .panicked s' e') := by
  generalize hq : p.bind f = q at h
  induction h generalizing p with
  | done hp =>
      subst hq
      rw [head_bind] at hp
      cases hph : p.head with
      | done a => rw [hph] at hp; exact .inl ⟨a, _, _, .done hph, .done hp⟩
      | _ => rw [hph] at hp; cases hp
  | crash hp =>
      subst hq
      rw [head_bind] at hp
      cases hph : p.head with
      | done a => rw [hph] at hp; exact .inl ⟨a, _, _, .done hph, .crash hp⟩
      | crash => exact .inr ⟨rfl, .crash hph⟩
      | _ => rw [hph] at hp; cases hp
  | tau hp hrun ih =>
      subst hq
      rw [head_bind] at hp
      cases hph : p.head with
      | done a => rw [hph] at hp; exact .inl ⟨a, _, _, .done hph, .tau hp hrun⟩
      | tau p' => rw [hph] at hp; cases hp; exact split_lift (.tau hph) (ih rfl)
      | _ => rw [hph] at hp; cases hp
  | get hp hrun ih =>
      subst hq
      rw [head_bind] at hp
      cases hph : p.head with
      | done a => rw [hph] at hp; exact .inl ⟨a, _, _, .done hph, .get hp hrun⟩
      | get k next => rw [hph] at hp; cases hp; exact split_lift (.get hph) (ih rfl)
      | _ => rw [hph] at hp; cases hp
  | putOk hp hc hrun ih =>
      subst hq
      rw [head_bind] at hp
      cases hph : p.head with
      | done a => rw [hph] at hp; exact .inl ⟨a, _, _, .done hph, .putOk hp hc hrun⟩
      | put k i v next => rw [hph] at hp; cases hp; exact split_lift (.putOk hph hc) (ih rfl)
      | _ => rw [hph] at hp; cases hp
  | putStale hp hc hrun ih =>
      subst hq
      rw [head_bind] at hp
      cases hph : p.head with
      | done a => rw [hph] at hp; exact .inl ⟨a, _, _, .done hph, .putStale hp hc hrun⟩
      | put k i v next => rw [hph] at hp; cases hp; exact split_lift (.putStale hph hc) (ih rfl)
      | _ => rw [hph] at hp; cases hp
  | del hp hrun ih =>
      subst hq
      rw [head_bind] at hp
      cases hph : p.head with
      | done a => rw [hph] at hp; exact .inl ⟨a, _, _, .done hph, .del hp hrun⟩
      | del k next => rw [hph] at hp; cases hp; exact split_lift (.del hph) (ih rfl)
      | _ => rw [hph] at hp; cases hp
  | call hp he hrun ih =>
      subst hq
      rw [head_bind] at hp
      cases hph : p.head with
      | done a => rw [hph] at hp; exact .inl ⟨a, _, _, .done hph, .call hp he hrun⟩
      | call q next => rw [hph] at hp; cases hp; exact split_lift (.call hph he) (ih rfl)
      | _ => rw [hph] at hp; cases hp
  | getLost hl hp hrun ih =>
      subst hq
      rw [head_bind] at hp
      cases hph : p.head with
      | done a => rw [hph] at hp; exact .inl ⟨a, _, _, .done hph, .getLost hl hp hrun⟩
      | get k next => rw [hph] at hp; cases hp; exact split_lift (.getLost hl hph) (ih rfl)
      | _ => rw [hph] at hp; cases hp
  | putLost hl hp hrun ih =>
      subst hq
      rw [head_bind] at hp
      cases hph : p.head with
      | done a => rw [hph] at hp; exact .inl ⟨a, _, _, .done hph, .putLost hl hp hrun⟩
      | put k i v next => rw [hph] at hp; cases hp; exact split_lift (.putLost hl hph) (ih rfl)
      | _ => rw [hph] at hp; cases hp
  | delLost hl hp hrun ih =>
      subst hq
      rw [head_bind] at hp
      cases hph : p.head with
      | done a => rw [hph] at hp; exact .inl ⟨a, _, _, .done hph, .delLost hl hp hrun⟩
      | del k next => rw [hph] at hp; cases hp; exact split_lift (.delLost hl hph) (ih rfl)
      | _ => rw [hph] at hp; cases hp

end Compose

section LiftCalls

variable {Q' : Type} {A' : Q' → Type} {f : Q → Q'} {g : ∀ q, A' (f q) → A q}

theorem Runs.liftCalls {lossy : Bool} {env : Env σ Q' A'} {p : Prog K V Q A α}
    {s s' : Store K V} {e e' : σ} {o : Outcome α}
    (h : Runs lossy (env.comap f g) p s e o s' e') :
    Runs lossy env (p.liftCalls f g) s e o s' e' := by
  induction h with
  | done hp => exact .done (by rw [head_liftCalls, hp]; rfl)
  | crash hp => exact .crash (by rw [head_liftCalls, hp]; rfl)
  | tau hp _ ih => exact .tau (by rw [head_liftCalls, hp]; rfl) ih
  | get hp _ ih => exact .get (by rw [head_liftCalls, hp]; rfl) ih
  | putOk hp hc _ ih => exact .putOk (by rw [head_liftCalls, hp]; rfl) hc ih
  | putStale hp hc _ ih => exact .putStale (by rw [head_liftCalls, hp]; rfl) hc ih
  | del hp _ ih => exact .del (by rw [head_liftCalls, hp]; rfl) ih
  | @call p q next s e a e₁ o s' e' hp he _ ih =>
      have ha : g q (env e (f q)).1 = a := congrArg Prod.fst he
      have he₁ : (env e (f q)).2 = e₁ := congrArg Prod.snd he
      exact .call (by rw [head_liftCalls, hp]; rfl) rfl (by rw [ha, he₁]; exact ih)
  | getLost hl hp _ ih => exact .getLost hl (by rw [head_liftCalls, hp]; rfl) ih
  | putLost hl hp _ ih => exact .putLost hl (by rw [head_liftCalls, hp]; rfl) ih
  | delLost hl hp _ ih => exact .delLost hl (by rw [head_liftCalls, hp]; rfl) ih

theorem Runs.of_liftCalls {lossy : Bool} {env : Env σ Q' A'} {p : Prog K V Q A α}
    {s s' : Store K V} {e e' : σ} {o : Outcome α}
    (h : Runs lossy env (p.liftCalls f g) s e o s' e') :
    Runs lossy (env.comap f g) p s e o s' e' := by
  generalize hq : p.liftCalls f g = q at h
  induction h generalizing p with
  | done hp =>
      subst hq
      rw [head_liftCalls] at hp
      cases hph : p.head <;> simp only [hph, Head.liftCalls, reduceCtorEq] at hp
      cases hp
      exact .done hph
  | crash hp =>
      subst hq
      rw [head_liftCalls] at hp
      cases hph : p.head <;> simp only [hph, Head.liftCalls, reduceCtorEq] at hp
      exact .crash hph
  | tau hp _ ih =>
      subst hq
      rw [head_liftCalls] at hp
      cases hph : p.head <;> simp only [hph, Head.liftCalls, reduceCtorEq] at hp
      cases hp
      exact .tau hph (ih rfl)
  | get hp _ ih =>
      subst hq
      rw [head_liftCalls] at hp
      cases hph : p.head <;> simp only [hph, Head.liftCalls, reduceCtorEq] at hp
      obtain ⟨rfl, rfl⟩ := hp
      exact .get hph (ih rfl)
  | putOk hp hc _ ih =>
      subst hq
      rw [head_liftCalls] at hp
      cases hph : p.head <;> simp only [hph, Head.liftCalls, reduceCtorEq] at hp
      obtain ⟨rfl, rfl, rfl, rfl⟩ := hp
      exact .putOk hph hc (ih rfl)
  | putStale hp hc _ ih =>
      subst hq
      rw [head_liftCalls] at hp
      cases hph : p.head <;> simp only [hph, Head.liftCalls, reduceCtorEq] at hp
      obtain ⟨rfl, rfl, rfl, rfl⟩ := hp
      exact .putStale hph hc (ih rfl)
  | del hp _ ih =>
      subst hq
      rw [head_liftCalls] at hp
      cases hph : p.head <;> simp only [hph, Head.liftCalls, reduceCtorEq] at hp
      obtain ⟨rfl, rfl⟩ := hp
      exact .del hph (ih rfl)
  | call hp he _ ih =>
      subst hq
      rw [head_liftCalls] at hp
      cases hph : p.head <;> simp only [hph, Head.liftCalls, reduceCtorEq] at hp
      cases hp
      exact .call hph (by simp only [Env.comap, he]) (ih rfl)
  | getLost hl hp _ ih =>
      subst hq
      rw [head_liftCalls] at hp
      cases hph : p.head <;> simp only [hph, Head.liftCalls, reduceCtorEq] at hp
      obtain ⟨rfl, rfl⟩ := hp
      exact .getLost hl hph (ih rfl)
  | putLost hl hp _ ih =>
      subst hq
      rw [head_liftCalls] at hp
      cases hph : p.head <;> simp only [hph, Head.liftCalls, reduceCtorEq] at hp
      obtain ⟨rfl, rfl, rfl, rfl⟩ := hp
      exact .putLost hl hph (ih rfl)
  | delLost hl hp _ ih =>
      subst hq
      rw [head_liftCalls] at hp
      cases hph : p.head <;> simp only [hph, Head.liftCalls, reduceCtorEq] at hp
      obtain ⟨rfl, rfl⟩ := hp
      exact .delLost hl hph (ih rfl)

end LiftCalls

end Prog

end Kv
