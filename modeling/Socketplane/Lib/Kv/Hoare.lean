import Socketplane.Lib.Kv.CasSeq

/-! # Pre- and postconditions of client programs

`Triple env P p R`: every truthful run of `p` from a store satisfying `P`, from any
state of the environment, ends in an outcome and a store satisfying `R`. This is
partial correctness: a retry loop that never leaves has no run and meets every
triple. There is one rule for each move `Prog.head` can make, one for composition,
and one for each loop form, whose invariant is what every pass keeps.

`WritesWithin env W p` is the frame condition: a run of `p` changes no key outside
`W`. A retry loop of `casPass k` writes within `k`, and the condition is closed under
composition.
-/

namespace Kv

namespace Store

variable {K V : Type}

/-- `s` has the values of `s₀` at every key outside `W`. -/
def SameOutside (W : K → Prop) (s₀ s : Store K V) : Prop :=
  ∀ k, ¬ W k → s.value k = s₀.value k

theorem SameOutside.refl (W : K → Prop) (s : Store K V) : s.SameOutside W s := fun _ _ => rfl

theorem SameOutside.trans {W : K → Prop} {s₀ s₁ s₂ : Store K V} (h₁ : s₀.SameOutside W s₁)
    (h₂ : s₁.SameOutside W s₂) : s₀.SameOutside W s₂ := fun k hk => (h₂ k hk).trans (h₁ k hk)

theorem SameOutside.mono {W W' : K → Prop} {s₀ s : Store K V} (h : s₀.SameOutside W s)
    (hW : ∀ k, W k → W' k) : s₀.SameOutside W' s := fun k hk => h k fun hw => hk (hW k hw)

variable [DecidableEq K]

theorem SameOutside.write {W : K → Prop} {s₀ s : Store K V} (h : s₀.SameOutside W s) {k : K}
    (hk : W k) (v : V) : s₀.SameOutside W (s.write k v) := fun k' hk' => by
  have hne : k' ≠ k := fun h => hk' (h ▸ hk)
  rw [value_write_of_ne _ _ hne]
  exact h k' hk'

theorem SameOutside.erase {W : K → Prop} {s₀ s : Store K V} (h : s₀.SameOutside W s) {k : K}
    (hk : W k) : s₀.SameOutside W (s.erase k) := fun k' hk' => by
  have hne : k' ≠ k := fun h => hk' (h ▸ hk)
  rw [value_erase_of_ne _ hne]
  exact h k' hk'

end Store

namespace Prog

variable {K V Q σ : Type} {A : Q → Type} {α β γ : Type} [DecidableEq K]

/-- Every truthful run of `p` from a store satisfying `P` ends where `R` holds. -/
def Triple (env : Env σ Q A) (P : Store K V → Prop) (p : Prog K V Q A α)
    (R : Outcome α → Store K V → Prop) : Prop :=
  ∀ ⦃s e o s' e'⦄, P s → Runs false env p s e o s' e' → R o s'

/-- What the first part of a composition ends in: `M a` when it returns `a`, and what
the whole composition promises when it faults. -/
def ThenPost (M : α → Store K V → Prop) (R : Outcome β → Store K V → Prop) :
    Outcome α → Store K V → Prop
  | .returned a, s => M a s
  | .panicked, s => R .panicked s

/-- What a pass of a loop ends in: the invariant for the next pass (`again`), what
the loop continues with (`finish b`), or the loop's postcondition for a fault. -/
def LoopPost (I : Store K V → Prop) (M : β → Store K V → Prop)
    (R : Outcome α → Store K V → Prop) : Outcome (Loop β) → Store K V → Prop
  | .returned .again, s => I s
  | .returned (.finish b), s => M b s
  | .panicked, s => R .panicked s

/-- What a pass of `iterate` ends in: the invariant for the next argument (`inl x`),
what the loop continues with (`inr b`), or the postcondition for a fault. -/
def IterPost (I : γ → Store K V → Prop) (M : β → Store K V → Prop)
    (R : Outcome α → Store K V → Prop) : Outcome (γ ⊕ β) → Store K V → Prop
  | .returned (.inl x), s => I x s
  | .returned (.inr b), s => M b s
  | .panicked, s => R .panicked s

namespace Triple

variable {env : Env σ Q A} {P P' : Store K V → Prop} {R R' : Outcome α → Store K V → Prop}
  {p : Prog K V Q A α}

theorem mono (h : Triple env P p R) (hP : ∀ s, P' s → P s) (hR : ∀ o s, R o s → R' o s) :
    Triple env P' p R' :=
  fun _ _ _ _ _ hs hrun => hR _ _ (h (hP _ hs) hrun)

theorem of_forall {ι : Type} {P : ι → Store K V → Prop} (h : ∀ i, Triple env (P i) p R) :
    Triple env (fun s => ∃ i, P i s) p R :=
  fun _ _ _ _ _ ⟨i, hs⟩ hrun => h i hs hrun

theorem and (h₁ : Triple env P p R) (h₂ : Triple env P p R') :
    Triple env P p fun o s => R o s ∧ R' o s :=
  fun _ _ _ _ _ hs hrun => ⟨h₁ hs hrun, h₂ hs hrun⟩

theorem of_not (h : ∀ s, ¬ P s) : Triple env P p R := fun _ _ _ _ _ hs _ => absurd hs (h _)

theorem done {a : α} (h : ∀ s, P s → R (.returned a) s) : Triple env P (.done a) R := by
  intro s e o s' e' hs hrun
  obtain ⟨rfl, rfl, -⟩ := Runs.done_iff.mp hrun
  exact h _ hs

theorem crash (h : ∀ s, P s → R .panicked s) : Triple env P (.crash : Prog K V Q A α) R := by
  intro s e o s' e' hs hrun
  obtain ⟨rfl, rfl, -⟩ := Runs.inv_crash rfl hrun
  exact h _ hs

theorem get {k : K} {next : Option (Cell V) → Prog K V Q A α}
    (h : ∀ c, Triple env (fun s => P s ∧ s.cells k = c) (next c) R) :
    Triple env P (.get k next) R :=
  fun _ _ _ _ _ hs hrun => h _ ⟨hs, rfl⟩ (Runs.inv_get rfl hrun)

theorem put {k : K} {i : Nat} {v : V} {next : Option Bool → Prog K V Q A α}
    (hok : Triple env (fun s₁ => ∃ s, P s ∧ s.cas k i v = some s₁) (next (some true)) R)
    (hstale : Triple env (fun s => P s ∧ s.cas k i v = none) (next (some false)) R) :
    Triple env P (.put k i v next) R := by
  intro s e o s' e' hs hrun
  rcases Runs.inv_put rfl hrun with ⟨s₁, hc, h'⟩ | ⟨hc, h'⟩
  · exact hok ⟨s, hs, hc⟩ h'
  · exact hstale ⟨hs, hc⟩ h'

theorem del {k : K} {next : Bool → Prog K V Q A α}
    (h : Triple env (fun s₁ => ∃ s, P s ∧ s₁ = s.erase k) (next true) R) :
    Triple env P (.del k next) R :=
  fun s _ _ _ _ hs hrun => h ⟨s, hs, rfl⟩ (Runs.inv_del rfl hrun)

theorem call {q : Q} {next : A q → Prog K V Q A α} (h : ∀ e, Triple env P (next (env e q).1) R) :
    Triple env P (.call q next) R :=
  fun _ e _ _ _ hs hrun => h e hs (Runs.inv_call rfl hrun)

theorem bind {f : α → Prog K V Q A β} {M : α → Store K V → Prop}
    {R : Outcome β → Store K V → Prop}
    (hp : Triple env P p (ThenPost M R)) (hf : ∀ a, Triple env (M a) (f a) R) :
    Triple env P (p.bind f) R := by
  intro s e o s' e' hs hrun
  rcases Runs.of_bind hrun with ⟨a, s₁, e₁, h₁, h₂⟩ | ⟨rfl, h₁⟩
  · exact hf a (hp hs h₁) h₂
  · exact hp hs h₁

theorem liftCalls {Q' : Type} {A' : Q' → Type} {f : Q → Q'} {g : ∀ q, A' (f q) → A q}
    {env : Env σ Q' A'} (h : Triple (env.comap f g) P p R) : Triple env P (p.liftCalls f g) R :=
  fun _ _ _ _ _ hs hrun => h hs (Runs.of_liftCalls hrun)

theorem bind_same {f : α → Prog K V Q A β} {R : Outcome β → Store K V → Prop}
    (hp : Triple env P p fun _ => P) (hf : ∀ a, Triple env P (f a) R)
    (hfault : ∀ s, P s → R .panicked s) : Triple env P (p.bind f) R :=
  bind (M := fun _ => P) (hp.mono (fun _ h => h) fun o s h => by
    cases o
    · exact h
    · exact hfault s h) hf

section Loops

/-! Both loop rules follow a run of the loop move by move; what the current pass
still owes is that every run of it from the current store and state ends in the pass
postcondition, and each move of the pass keeps that obligation for what is left. -/

variable {M : β → Store K V → Prop}

private theorem loop_runs {I : Store K V → Prop} {body : Prog K V Q A (Loop β)}
    {next : β → Prog K V Q A α} (hbody : Triple env I body (LoopPost I M R))
    (hnext : ∀ b, Triple env (M b) (next b) R) {q : Prog K V Q A α} {s s' : Store K V}
    {e e' : σ} {o : Outcome α} (h : Runs false env q s e o s' e') :
    ∀ cur, q = .loop body cur next →
      (∀ o₁ s₁ e₁, Runs false env cur s e o₁ s₁ e₁ → LoopPost I M R o₁ s₁) → R o s' := by
  induction h with
  | done hp =>
      intro cur hq _
      subst hq
      simp only [head] at hp
      split at hp <;> cases hp
  | crash hp =>
      intro cur hq hcur
      subst hq
      simp only [head] at hp
      split at hp <;> first | exact hcur _ _ _ (.crash ‹_›) | cases hp
  | tau hp hrun ih =>
      intro cur hq hcur
      subst hq
      simp only [head] at hp
      split at hp <;> try cases hp
      · rename_i hc
        have hI : I _ := hcur (.returned .again) _ _ (.done hc)
        exact ih body rfl fun _ _ _ h => hbody hI h
      · rename_i b hc
        have hM : M b _ := hcur (.returned (.finish b)) _ _ (.done hc)
        exact hnext b hM hrun
      · rename_i c hc
        exact ih c rfl fun _ _ _ h => hcur _ _ _ (.tau hc h)
  | get hp _ ih =>
      intro cur hq hcur
      subst hq
      simp only [head] at hp
      split at hp <;> cases hp
      exact ih _ rfl fun _ _ _ h => hcur _ _ _ (.get ‹_› h)
  | putOk hp hc _ ih =>
      intro cur hq hcur
      subst hq
      simp only [head] at hp
      split at hp <;> cases hp
      exact ih _ rfl fun _ _ _ h => hcur _ _ _ (.putOk ‹_› hc h)
  | putStale hp hc _ ih =>
      intro cur hq hcur
      subst hq
      simp only [head] at hp
      split at hp <;> cases hp
      exact ih _ rfl fun _ _ _ h => hcur _ _ _ (.putStale ‹_› hc h)
  | del hp _ ih =>
      intro cur hq hcur
      subst hq
      simp only [head] at hp
      split at hp <;> cases hp
      exact ih _ rfl fun _ _ _ h => hcur _ _ _ (.del ‹_› h)
  | call hp he _ ih =>
      intro cur hq hcur
      subst hq
      simp only [head] at hp
      split at hp <;> cases hp
      exact ih _ rfl fun _ _ _ h => hcur _ _ _ (.call ‹_› he h)
  | getLost hl => cases hl
  | putLost hl => cases hl
  | delLost hl => cases hl

theorem retry {I : Store K V → Prop} {body : Prog K V Q A (Loop β)}
    {R : Outcome β → Store K V → Prop}
    (hbody : Triple env I body (LoopPost I (fun b => R (.returned b)) R)) :
    Triple env I (Prog.retry body) R :=
  fun _ _ _ _ _ hs hrun => loop_runs hbody (fun _ => done fun _ h => h) hrun body rfl
    fun _ _ _ h => hbody hs h

private theorem iterate_runs {I : γ → Store K V → Prop} {body : γ → Prog K V Q A (γ ⊕ β)}
    {next : β → Prog K V Q A α} (hbody : ∀ x, Triple env (I x) (body x) (IterPost I M R))
    (hnext : ∀ b, Triple env (M b) (next b) R) {q : Prog K V Q A α} {s s' : Store K V}
    {e e' : σ} {o : Outcome α} (h : Runs false env q s e o s' e') :
    ∀ cur, q = .iterate body cur next →
      (∀ o₁ s₁ e₁, Runs false env cur s e o₁ s₁ e₁ → IterPost I M R o₁ s₁) → R o s' := by
  induction h with
  | done hp =>
      intro cur hq _
      subst hq
      simp only [head] at hp
      split at hp <;> cases hp
  | crash hp =>
      intro cur hq hcur
      subst hq
      simp only [head] at hp
      split at hp <;> first | exact hcur _ _ _ (.crash ‹_›) | cases hp
  | tau hp hrun ih =>
      intro cur hq hcur
      subst hq
      simp only [head] at hp
      split at hp <;> try cases hp
      · rename_i x hc
        have hI : I x _ := hcur (.returned (.inl x)) _ _ (.done hc)
        exact ih (body x) rfl fun _ _ _ h => hbody x hI h
      · rename_i b hc
        have hM : M b _ := hcur (.returned (.inr b)) _ _ (.done hc)
        exact hnext b hM hrun
      · rename_i c hc
        exact ih c rfl fun _ _ _ h => hcur _ _ _ (.tau hc h)
  | get hp _ ih =>
      intro cur hq hcur
      subst hq
      simp only [head] at hp
      split at hp <;> cases hp
      exact ih _ rfl fun _ _ _ h => hcur _ _ _ (.get ‹_› h)
  | putOk hp hc _ ih =>
      intro cur hq hcur
      subst hq
      simp only [head] at hp
      split at hp <;> cases hp
      exact ih _ rfl fun _ _ _ h => hcur _ _ _ (.putOk ‹_› hc h)
  | putStale hp hc _ ih =>
      intro cur hq hcur
      subst hq
      simp only [head] at hp
      split at hp <;> cases hp
      exact ih _ rfl fun _ _ _ h => hcur _ _ _ (.putStale ‹_› hc h)
  | del hp _ ih =>
      intro cur hq hcur
      subst hq
      simp only [head] at hp
      split at hp <;> cases hp
      exact ih _ rfl fun _ _ _ h => hcur _ _ _ (.del ‹_› h)
  | call hp he _ ih =>
      intro cur hq hcur
      subst hq
      simp only [head] at hp
      split at hp <;> cases hp
      exact ih _ rfl fun _ _ _ h => hcur _ _ _ (.call ‹_› he h)
  | getLost hl => cases hl
  | putLost hl => cases hl
  | delLost hl => cases hl

theorem iter {I : γ → Store K V → Prop} {body : γ → Prog K V Q A (γ ⊕ β)}
    {R : Outcome β → Store K V → Prop}
    (hbody : ∀ x, Triple env (I x) (body x) (IterPost I (fun b => R (.returned b)) R)) (x : γ) :
    Triple env (I x) (Prog.iter body x) R :=
  fun _ _ _ _ _ hs hrun => iterate_runs hbody (fun _ => done fun _ h => h) hrun (body x) rfl
    fun _ _ _ h => hbody x hs h

end Loops

end Triple

/-- A run of `p` changes no key outside `W`. -/
def WritesWithin (env : Env σ Q A) (W : K → Prop) (p : Prog K V Q A α) : Prop :=
  ∀ s₀, Triple env (Store.SameOutside W s₀) p fun _ => Store.SameOutside W s₀

namespace WritesWithin

variable {env : Env σ Q A} {W W' : K → Prop} {p : Prog K V Q A α}

theorem mono (h : WritesWithin env W p) (hW : ∀ k, W k → W' k) : WritesWithin env W' p := by
  intro s₀ s e o s' e' hs hrun
  have hs' : s.SameOutside W s' := h s (Store.SameOutside.refl W s) hrun
  exact hs.trans (hs'.mono hW)

theorem done (a : α) : WritesWithin env W (.done a : Prog K V Q A α) :=
  fun _ => Triple.done fun _ h => h

theorem crash : WritesWithin env W (.crash : Prog K V Q A α) := fun _ => Triple.crash fun _ h => h

theorem get {k : K} {next : Option (Cell V) → Prog K V Q A α}
    (h : ∀ c, WritesWithin env W (next c)) : WritesWithin env W (.get k next) :=
  fun s₀ => Triple.get fun c => (h c s₀).mono (fun _ h => h.1) fun _ _ h => h

theorem call {q : Q} {next : A q → Prog K V Q A α} (h : ∀ a, WritesWithin env W (next a)) :
    WritesWithin env W (.call q next) := fun s₀ => Triple.call fun _ => h _ s₀

theorem bind {f : α → Prog K V Q A β} (hp : WritesWithin env W p)
    (hf : ∀ a, WritesWithin env W (f a)) : WritesWithin env W (p.bind f) := fun s₀ =>
  Triple.bind (M := fun _ => Store.SameOutside W s₀) ((hp s₀).mono (fun _ h => h) fun o _ h => by
    cases o <;> exact h) fun a => hf a s₀

theorem triple {P P' : Store K V → Prop} (h : WritesWithin env W p)
    (hP : ∀ s s', P s → s.SameOutside W s' → P' s') : Triple env P p fun _ s' => P' s' :=
  fun s _ _ _ _ hs hrun => hP s _ hs (h s (Store.SameOutside.refl W s) hrun)

theorem of_run {s s' : Store K V} {e e' : σ} {o : Outcome α} (h : WritesWithin env W p)
    (hrun : Runs false env p s e o s' e') :
    s.SameOutside W s' := h s (Store.SameOutside.refl W s) hrun

end WritesWithin

section CasPass

variable [DecidableEq V] {R : Type} {env : Env σ Q A}

theorem WritesWithin.retry_casPass (k : K) (plan : Option V → Plan V R) :
    WritesWithin env (· = k) (Prog.retry (casPass k plan) : Prog K V Q A R) := by
  intro s₀
  have hpost : ∀ (o : Outcome (Loop R)) s, s₀.SameOutside (· = k) s →
      LoopPost (α := R) (s₀.SameOutside (· = k)) (fun _ => s₀.SameOutside (· = k))
        (fun _ => s₀.SameOutside (· = k)) o s := by
    intro o s h
    rcases o with (_ | _) | _ <;> exact h
  have hsettle : ∀ (P : Store K V → Prop), (∀ s, P s → s₀.SameOutside (· = k) s) →
      ∀ after r, Triple env P (settle after r : Prog K V Q A (Loop R))
        (LoopPost (α := R) (s₀.SameOutside (· = k)) (fun _ => s₀.SameOutside (· = k))
          (fun _ => s₀.SameOutside (· = k))) := by
    intro P hP after r
    unfold settle
    split
    · exact Triple.done fun s h => hpost _ s (hP s h)
    · split
      · exact Triple.done fun s h => hpost _ s (hP s h)
      · exact Triple.crash fun s h => hpost _ s (hP s h)
  have hwrite : ∀ (P : Store K V → Prop), (∀ s, P s → s₀.SameOutside (· = k) s) →
      ∀ i new after, Triple env P (.put k i new (settle after) : Prog K V Q A (Loop R))
        (LoopPost (α := R) (s₀.SameOutside (· = k)) (fun _ => s₀.SameOutside (· = k))
          (fun _ => s₀.SameOutside (· = k))) := by
    intro P hP i new after
    apply Triple.put
    · apply hsettle
      rintro s₁ ⟨s, hs, hc⟩
      rw [(Store.cas_eq_some_iff.mp hc).2]
      exact (hP s hs).write rfl new
    · exact hsettle _ (fun s h => hP s h.1) _ _
  apply Triple.retry
  apply Triple.get
  intro c
  unfold casDecide
  split
  · exact Triple.done fun s h => hpost _ s h.1
  · exact Triple.crash fun s h => hpost _ s h.1
  · apply Triple.get
    intro c'
    unfold casWrite
    split
    · split
      · exact hwrite _ (fun s h => h.1.1) _ _ _
      · exact Triple.done fun s h => hpost _ s h.1.1
    · exact hwrite _ (fun s h => h.1.1) _ _ _

theorem Triple.retry_casPass {k : K} {plan : Option V → Plan V R} {P : Store K V → Prop}
    {R' : Outcome R → Store K V → Prop}
    (hexp : ∀ s, P s → ∀ v new expected after, s.value k = some v →
      plan (some v) = .write new expected after → expected = v)
    (h : ∀ s, P s → R' (Plan.apply k plan s).1 (Plan.apply k plan s).2) :
    Triple env P (Prog.retry (casPass k plan) : Prog K V Q A R) R' := by
  intro s e o s' e' hs hrun
  obtain ⟨happ, -⟩ := (runs_retry_casPass_iff (hexp s hs)).mp hrun
  have ho : o = (Plan.apply k plan s).1 := by rw [← happ]
  have hs' : s' = (Plan.apply k plan s).2 := by rw [← happ]
  rw [ho, hs']
  exact h s hs

end CasPass

end Prog

end Kv
