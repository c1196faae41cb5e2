import Socketplane.Lib.Kv.Threads

/-! # Read, compare, write conditionally, retry

The loop `retry (casPass k plan)` reads key `k`, lets `plan` decide from the value
it read, and to write reads `k` again, gives up the pass if the value changed from
the one the plan expects, and otherwise writes conditionally on the index of the
second read. A refused write starts the loop over.

Run by any number of threads against one store, such loops are linearizable
(`linearizable`): there is one order of the calls that took effect in which
replaying every call's sequential meaning gives the store's values and every
returned result. A call that writes takes effect at its successful write
(`Plan.seq` applied to the value at that instant), a call that leaves without
writing at its first read.

The argument follows each thread through the phases of its pass (`Phase`). What a
phase knows about the store only gets truer as other threads write
(`Store.Extends`), except that the expected value a second read confirmed is
known only for as long as the key keeps the index that read returned; a
successful write is therefore one that sees the expected value.
-/

namespace Kv

variable {K V Q : Type} {A : Q → Type} {R : Type}

/-- What one pass decides from the value its first read returned. -/
inductive Plan (V R : Type) where
  | finish (r : R)
  | crash
  | write (new expected : V) (after : Outcome R)

/-- The sequential meaning of a plan on the key's current value. -/
def Plan.seq (plan : Option V → Plan V R) (cur : Option V) : Option V × Outcome R :=
  match plan cur with
  | .finish r => (cur, .returned r)
  | .crash => (cur, .panicked)
  | .write new _ after => (some new, after)

/-- The conditions under which a plan's pass means its sequential meaning, relative
to a predicate `wf` that every stored value of the key satisfies and to `absent`, which
holds when the key may be absent. A pass that expects a value other than the one it
read never writes when the expected value is not well formed: the key never holds it. -/
structure Plan.Coherent (wf : V → Prop) (absent : Prop) (plan : Option V → Plan V R) : Prop where
  expected_eq : ∀ {v new expected after}, wf v → wf expected →
    plan (some v) = .write new expected after → expected = v
  absent_write : ∀ {new expected after}, absent → wf expected →
    plan none = .write new expected after → plan (some expected) = .write new expected after
  wf_new : ∀ {cur new expected after}, (cur = none → absent) →
    (∀ v, cur = some v → wf v ∧ v = expected) → plan cur = .write new expected after → wf new

/-- Rename the result of a plan; what it writes stays. -/
def Plan.map {R' : Type} (f : R → R') : Plan V R → Plan V R'
  | .finish r => .finish (f r)
  | .crash => .crash
  | .write new expected after => .write new expected (after.map f)

theorem Plan.map_eq_write {R' : Type} {f : R → R'} {p : Plan V R} {new expected : V}
    {after' : Outcome R'} (h : p.map f = .write new expected after') :
    ∃ after, p = .write new expected after ∧ after' = after.map f := by
  cases p with
  | write n e a =>
      simp only [Plan.map, Plan.write.injEq] at h
      obtain ⟨rfl, rfl, rfl⟩ := h
      exact ⟨a, rfl, rfl⟩
  | _ => simp [Plan.map] at h

theorem Plan.seq_fst (plan : Option V → Plan V R) (cur : Option V) :
    (Plan.seq plan cur).1 = cur ∨
      ∃ new expected after, plan cur = .write new expected after ∧ (Plan.seq plan cur).1 = some new := by
  unfold Plan.seq
  cases plan cur with
  | finish r => exact .inl rfl
  | crash => exact .inl rfl
  | write new expected after => exact .inr ⟨new, expected, after, rfl, rfl⟩

theorem Plan.seq_map {R' : Type} (f : R → R') (plan : Option V → Plan V R) (cur : Option V) :
    Plan.seq (fun v => (plan v).map f) cur = ((Plan.seq plan cur).1, (Plan.seq plan cur).2.map f) := by
  unfold Plan.seq
  cases h : plan cur <;> simp [h, Plan.map, Outcome.map]

theorem Plan.Coherent.map {R' : Type} {wf : V → Prop} {absent : Prop} {plan : Option V → Plan V R}
    (h : Plan.Coherent wf absent plan) (f : R → R') :
    Plan.Coherent wf absent (fun v => (plan v).map f) where
  expected_eq hv he hp := by
    obtain ⟨after, hp', -⟩ := Plan.map_eq_write hp
    exact h.expected_eq hv he hp'
  absent_write ha he hp := by
    obtain ⟨after, hp', rfl⟩ := Plan.map_eq_write hp
    simp only [h.absent_write ha he hp', Plan.map]
  wf_new hnone hcur hp := by
    obtain ⟨after, hp', -⟩ := Plan.map_eq_write hp
    exact h.wf_new hnone hcur hp'

theorem Plan.Coherent.stuck {v₀ : V} {absent : Prop} {plan : Option V → Plan V R}
    (habs : ¬ absent)
    (h : ∀ {new expected after}, plan (some v₀) = .write new expected after → expected ≠ v₀) :
    Plan.Coherent (· = v₀) absent plan where
  expected_eq hv he _ := he.trans hv.symm
  absent_write ha := (habs ha).elim
  wf_new {cur _ _ _} hnone hcur hp := by
    cases cur with
    | none => exact (habs (hnone rfl)).elim
    | some v =>
        obtain ⟨rfl, hve⟩ := hcur v rfl
        exact absurd hve.symm (h hp)

section Pass

variable (k : K)

/-- The end of a pass after its conditional write: a refusal starts over; an
accepted or lost write ends the loop as planned. -/
def settle (after : Outcome R) : Option Bool → Prog K V Q A (Loop R)
  | some false => .done .again
  | _ =>
      match after with
      | .returned r => .done (.finish r)
      | .panicked => .crash

variable [DecidableEq V]

/-- Compare the second read with the expected value and write conditionally on
its index (`0` for an absent key). -/
def casWrite (new expected : V) (after : Outcome R) : Option (Cell V) → Prog K V Q A (Loop R)
  | some c => if c.value = expected then .put k c.index new (settle after) else .done .again
  | none => .put k 0 new (settle after)

/-- Act on the plan for the value of the first read. -/
def casDecide (plan : Option V → Plan V R) (v1 : Option V) : Prog K V Q A (Loop R) :=
  match plan v1 with
  | .finish r => .done (.finish r)
  | .crash => .crash
  | .write new expected after => .get k (casWrite k new expected after)

/-- One pass of the loop. -/
def casPass (plan : Option V → Plan V R) : Prog K V Q A (Loop R) :=
  .get k fun r => casDecide k plan (r.map Cell.value)

theorem casPass_bind_map {R' : Type} (f : R → R') (plan : Option V → Plan V R) :
    (casPass k plan : Prog K V Q A (Loop R)).bind (fun l => .done (l.map f)) =
      casPass k (fun v => (plan v).map f) := by
  simp only [casPass, Prog.get_bind]
  congr 1
  funext r
  unfold casDecide
  dsimp only
  cases plan (r.map Cell.value) with
  | finish r => rfl
  | crash => rfl
  | write new expected after =>
      simp only [Plan.map, Prog.get_bind]
      congr 1
      funext r2
      have hsettle : ∀ b, (settle after b : Prog K V Q A (Loop R)).bind
          (fun l => .done (l.map f)) = settle (after.map f) b := by
        intro b
        rcases b with _ | _ | _ <;> cases after <;> rfl
      cases r2 with
      | none =>
          simp only [casWrite, Prog.put_bind, hsettle]
      | some c =>
          by_cases hc : c.value = expected
          · simp only [casWrite, hc, if_true, Prog.put_bind, hsettle]
          · simp only [casWrite, hc, if_false, Prog.done_bind]
            rfl

end Pass

namespace Store

/-- `s'` follows `s` by writes: present keys stay present, the clock does not go
back, and a key whose index in `s'` is older than `s.clock` is as it was in `s`. -/
structure Extends (s s' : Store K V) : Prop where
  present : ∀ k, (s.cells k).isSome → (s'.cells k).isSome
  clock_le : s.clock ≤ s'.clock
  old_cell : ∀ k, s'.index k < s.clock → s'.cells k = s.cells k

theorem Extends.refl (s : Store K V) : s.Extends s :=
  ⟨fun _ h => h, Nat.le_refl _, fun _ _ => rfl⟩

theorem Extends.value_eq_none {s s' : Store K V} {k : K} (hs : s.Extends s')
    (h : s'.value k = none) : s.value k = none := by
  cases hc : s.cells k with
  | none => simp [Store.value, hc]
  | some c =>
      have hpres := hs.present k (by simp [hc])
      simp only [Store.value, Option.map_eq_none_iff] at h
      simp [h] at hpres

variable [DecidableEq K]

theorem extends_write (s : Store K V) (k : K) (v : V) : s.Extends (s.write k v) := by
  refine ⟨?_, Nat.le_succ _, ?_⟩
  · intro k' h
    by_cases hk : k' = k
    · subst hk
      simp
    · simpa [hk] using h
  · intro k' h
    by_cases hk : k' = k
    · subst hk
      simp [index] at h
    · simp [hk]

end Store

/-- Where a thread is in its loop. -/
inductive Phase (V R : Type) where
  | start
  | decided (v1 : Option V)
  | compared (v1 : Option V) (new expected : V) (after : Outcome R) (r2 : Option (Cell V))
  | settling (after : Outcome R) (reply : Bool)
  | returned (r : R)

namespace Phase

variable (k : K) (plan : Option V → Plan V R) (wf : V → Prop) (absent : Prop)

/-- What a thread in a phase knows about the store, with `rec` the outcome its
call is recorded with in the history (`none`: not taken effect). -/
def Inv (s : Store K V) (rec : Option (Outcome R)) : Phase V R → Prop
  | .start => rec = none
  | .decided v1 =>
      match plan v1 with
      | .finish r => rec = some (.returned r)
      | .crash => rec = none
      | .write _ _ _ => rec = none ∧ (v1 = none → absent) ∧
          ∀ v, v1 = some v → wf v ∧ (s.cells k).isSome
  | .compared v1 new expected after r2 =>
      rec = none ∧ plan v1 = .write new expected after ∧ (v1 = none → absent) ∧
        (∀ v, v1 = some v → wf v ∧ (s.cells k).isSome) ∧
        match r2 with
        | some c => c.value = expected → c.index < s.clock ∧
            (s.index k = c.index → s.value k = some expected)
        | none => v1 = none
  | .settling after reply => rec = if reply then some after else none
  | .returned r => rec = some (.returned r)

variable {k plan wf absent}

theorem Inv.mono {s s' : Store K V} {rec : Option (Outcome R)} {ph : Phase V R}
    (hs : s.Extends s') (h : ph.Inv k plan wf absent s rec) : ph.Inv k plan wf absent s' rec := by
  cases ph with
  | decided v1 =>
      cases hp : plan v1 with
      | write new expected after =>
          simp only [Inv, hp] at h ⊢
          exact ⟨h.1, h.2.1, fun v hv => ⟨(h.2.2 v hv).1, hs.present k (h.2.2 v hv).2⟩⟩
      | _ =>
          simp only [Inv, hp] at h ⊢
          exact h
  | compared v1 new expected after r2 =>
      obtain ⟨hrec, hplan, habs, hv1, hr2⟩ := h
      refine ⟨hrec, hplan, habs, fun v hv => ⟨(hv1 v hv).1, hs.present k (hv1 v hv).2⟩, ?_⟩
      cases r2 with
      | none => exact hr2
      | some c =>
          intro hc
          obtain ⟨hlt, hval⟩ := hr2 hc
          refine ⟨Nat.lt_of_lt_of_le hlt hs.clock_le, fun hidx => ?_⟩
          have hcell := hs.old_cell k (by omega)
          have hidx' : s.index k = c.index := by
            rw [← hidx]
            simp [Store.index, hcell]
          rw [← hval hidx']
          simp [Store.value, hcell]
  | _ => exact h

variable (k plan) [DecidableEq V]

/-- The program a thread in a phase has left to run. -/
def prog : Phase V R → Prog K V Q A R
  | .start => .loop (casPass k plan) (casPass k plan) .done
  | .decided v1 => .loop (casPass k plan) (casDecide k plan v1) .done
  | .compared _ new expected after r2 =>
      .loop (casPass k plan) (casWrite k new expected after r2) .done
  | .settling after reply => .loop (casPass k plan) (settle after (some reply)) .done
  | .returned r => .done r

theorem prog_start : (start.prog k plan : Prog K V Q A R) = Prog.retry (casPass k plan) := rfl

section Heads

variable {k plan}

theorem head_start :
    ((start : Phase V R).prog k plan : Prog K V Q A R).head =
      .get k fun r => (decided (r.map Cell.value)).prog k plan := rfl

theorem head_decided_finish {v1 : Option V} {r : R} (h : plan v1 = .finish r) :
    ((decided v1).prog k plan : Prog K V Q A R).head = .tau (.done r) := by
  simp [prog, Prog.head, casDecide, h]

theorem head_decided_crash {v1 : Option V} (h : plan v1 = .crash) :
    ((decided v1).prog k plan : Prog K V Q A R).head = .crash := by
  simp [prog, Prog.head, casDecide, h]

theorem head_decided_write {v1 : Option V} {new expected : V} {after : Outcome R}
    (h : plan v1 = .write new expected after) :
    ((decided v1).prog k plan : Prog K V Q A R).head =
      .get k fun r2 => (compared v1 new expected after r2).prog k plan := by
  simp [prog, Prog.head, casDecide, h]

theorem head_compared_same {v1 : Option V} {new expected : V} {after : Outcome R}
    {c : Cell V} (h : c.value = expected) :
    ((compared v1 new expected after (some c)).prog k plan : Prog K V Q A R).head =
      .put k c.index new fun r => .loop (casPass k plan) (settle after r) .done := by
  simp [prog, Prog.head, casWrite, h]

theorem head_compared_changed {v1 : Option V} {new expected : V} {after : Outcome R}
    {c : Cell V} (h : c.value ≠ expected) :
    ((compared v1 new expected after (some c)).prog k plan : Prog K V Q A R).head =
      .tau (start.prog k plan) := by
  simp [prog, Prog.head, casWrite, h]

theorem head_compared_absent {v1 : Option V} {new expected : V} {after : Outcome R} :
    ((compared v1 new expected after none).prog k plan : Prog K V Q A R).head =
      .put k 0 new fun r => .loop (casPass k plan) (settle after r) .done := by
  simp [prog, Prog.head, casWrite]

theorem head_settling_refused {after : Outcome R} :
    ((settling after false).prog k plan : Prog K V Q A R).head = .tau (start.prog k plan) := by
  simp [prog, Prog.head, settle]

theorem head_settling_returned {r : R} :
    ((settling (.returned r) true).prog k plan : Prog K V Q A R).head = .tau (.done r) := by
  simp [prog, Prog.head, settle]

theorem head_settling_panicked :
    ((settling .panicked true).prog k plan : Prog K V Q A R).head = .crash := by
  simp [prog, Prog.head, settle]

end Heads

theorem settles_of_inv {k : K} {plan : Option V → Plan V R} {wf : V → Prop} {absent : Prop}
    {s : Store K V} {o : Outcome R} {ph : Phase V R}
    (h : ph.Inv k plan wf absent s (some o)) : Settles (ph.prog k plan : Prog K V Q A R) o := by
  cases ph with
  | start => simp [Inv] at h
  | decided v1 =>
      cases hp : plan v1 with
      | finish r =>
          simp only [Inv, hp, Option.some.injEq] at h
          subst h
          exact .tau (head_decided_finish hp) (.done r)
      | _ => simp [Inv, hp] at h
  | compared => simp [Inv] at h
  | settling after reply =>
      cases reply with
      | false => simp [Inv] at h
      | true =>
          simp only [Inv, if_true, Option.some.injEq] at h
          subst h
          cases o with
          | returned r => exact .tau head_settling_returned (.done r)
          | panicked => exact .crash head_settling_panicked
  | returned r =>
      simp only [Inv, Option.some.injEq] at h
      subst h
      exact .done r

section Step

variable [DecidableEq K] {wf : V → Prop} {absent : Prop} {k : K} {plan : Option V → Plan V R}

/-- What one move of a thread from a phase may do: stay quiet, leaving the store
as it is, or take effect, recording outcome `o` as the sequential meaning of its
call on the key's value at that instant and changing at most that key. -/
def Moved (wf : V → Prop) (absent : Prop) (k : K) (plan : Option V → Plan V R) (s : Store K V)
    (rec : Option (Outcome R)) (p' : Prog K V Q A R) (s' : Store K V) : Prop :=
  ∃ ph' : Phase V R, p' = ph'.prog k plan ∧
    ((s' = s ∧ ph'.Inv k plan wf absent s rec) ∨
      (rec = none ∧ s.Extends s' ∧ (∀ k', k' ≠ k → s'.value k' = s.value k') ∧
        (∀ v, s'.value k = some v → wf v) ∧
        ∃ o, Plan.seq plan (s.value k) = (s'.value k, o) ∧ ph'.Inv k plan wf absent s' (some o)))

omit [DecidableEq K] in
theorem Moved.quiet {s : Store K V} {rec : Option (Outcome R)} (ph' : Phase V R)
    (h : ph'.Inv k plan wf absent s rec) :
    Moved (Q := Q) (A := A) wf absent k plan s rec (ph'.prog k plan) s :=
  ⟨ph', rfl, .inl ⟨rfl, h⟩⟩

theorem step_start {s s' : Store K V} {rec : Option (Outcome R)} {p' : Prog K V Q A R}
    (hwf : ∀ v, s.value k = some v → wf v) (habs : s.value k = none → absent)
    (h : (start : Phase V R).Inv k plan wf absent s rec) (hm : Move (start.prog k plan) s p' s') :
    Moved wf absent k plan s rec p' s' := by
  obtain ⟨rfl, hs⟩ := Move.of_get head_start hm
  rw [hs]
  have hv : (s.cells k).map Cell.value = s.value k := rfl
  rw [hv]
  cases hp : plan (s.value k) with
  | finish r =>
      refine ⟨decided (s.value k), rfl, .inr ⟨h, Store.Extends.refl s, fun _ _ => rfl, hwf, ?_⟩⟩
      exact ⟨.returned r, by simp [Plan.seq, hp], by simp [Inv, hp]⟩
  | crash => exact Moved.quiet _ (by simpa [Inv, hp] using h)
  | write new expected after =>
      refine Moved.quiet _ ?_
      simp only [Inv, hp]
      refine ⟨h, habs, fun v hv => ⟨hwf v hv, ?_⟩⟩
      simp only [Store.value, Option.map_eq_some_iff] at hv
      obtain ⟨c, hc, -⟩ := hv
      simp [hc]

theorem step_decided {s s' : Store K V} {rec : Option (Outcome R)} {p' : Prog K V Q A R}
    {v1 : Option V} (h : (decided v1 : Phase V R).Inv k plan wf absent s rec)
    (hm : Move ((decided v1).prog k plan) s p' s') : Moved wf absent k plan s rec p' s' := by
  cases hp : plan v1 with
  | finish r =>
      obtain ⟨rfl, rfl⟩ := Move.of_tau (head_decided_finish hp) hm
      exact Moved.quiet (returned r) (by simpa [Inv, hp] using h)
  | crash => exact absurd hm (Move.not_of_crash (head_decided_crash hp))
  | write new expected after =>
      obtain ⟨rfl, hs⟩ := Move.of_get (head_decided_write hp) hm
      rw [hs]
      simp only [Inv, hp] at h
      refine Moved.quiet _ ⟨h.1, hp, h.2.1, h.2.2, ?_⟩
      cases hc : s.cells k with
      | some c =>
          intro hval
          exact ⟨s.index_lt k c hc, fun _ => by simp [Store.value, hc, hval]⟩
      | none =>
          cases v1 with
          | none => rfl
          | some v => simp [hc] at h

/-- The write of a pass that takes effect: the key held what the plan expects (or
was absent, when the first read found it absent), so the write is the call's
sequential meaning on the value at that instant. -/
private theorem moved_of_write {s : Store K V} {v1 : Option V} {new expected : V}
    {after : Outcome R} (hcoh : Plan.Coherent wf absent plan)
    (hwf : ∀ v, s.value k = some v → wf v) (hplan : plan v1 = .write new expected after)
    (habs : v1 = none → absent) (hv1 : ∀ v, v1 = some v → wf v ∧ (s.cells k).isSome)
    (hcur : s.value k = some expected ∨ (s.value k = none ∧ v1 = none)) :
    Moved wf absent k plan s none ((settling after true).prog k plan : Prog K V Q A R)
      (s.write k new) := by
  have hwrite : s.value k = some expected → plan (some expected) = .write new expected after := by
    intro hfound
    cases v1 with
    | none => exact hcoh.absent_write (habs rfl) (hwf _ hfound) hplan
    | some v =>
        obtain rfl := hcoh.expected_eq (hv1 v rfl).1 (hwf _ hfound) hplan
        exact hplan
  have hseq : Plan.seq plan (s.value k) = (some new, after) := by
    rcases hcur with hcur | ⟨hcur, rfl⟩
    · simp [Plan.seq, hcur, hwrite hcur]
    · simp [Plan.seq, hcur, hplan]
  refine ⟨settling after true, rfl, .inr ⟨rfl, s.extends_write k new, ?_, ?_, after, ?_, rfl⟩⟩
  · intro k' hk
    simp [hk]
  · intro v hv
    simp only [Store.value_write_self, Option.some.injEq] at hv
    subst hv
    rcases hcur with hcur | ⟨hcur, rfl⟩
    · refine hcoh.wf_new (fun h => by cases h) (fun v h => ?_) (hwrite hcur)
      cases h
      exact ⟨hwf _ hcur, rfl⟩
    · exact hcoh.wf_new (fun _ => habs rfl) (fun v h => by cases h) hplan
  · simpa using hseq

theorem step_compared {s s' : Store K V} {rec : Option (Outcome R)} {p' : Prog K V Q A R}
    {v1 : Option V} {new expected : V} {after : Outcome R} {r2 : Option (Cell V)}
    (hcoh : Plan.Coherent wf absent plan) (hwf : ∀ v, s.value k = some v → wf v)
    (h : (compared v1 new expected after r2 : Phase V R).Inv k plan wf absent s rec)
    (hm : Move ((compared v1 new expected after r2).prog k plan) s p' s') :
    Moved wf absent k plan s rec p' s' := by
  obtain ⟨rfl, hplan, habs, hv1, hr2⟩ := h
  cases r2 with
  | some c =>
      by_cases hc : c.value = expected
      · rcases Move.of_put (head_compared_same hc) hm with ⟨hcas, rfl⟩ | ⟨-, rfl, rfl⟩
        · obtain ⟨hidx, rfl⟩ := Store.cas_eq_some_iff.mp hcas
          exact moved_of_write hcoh hwf hplan habs hv1 (.inl ((hr2 hc).2 hidx))
        · exact Moved.quiet (settling after false) rfl
      · obtain ⟨rfl, rfl⟩ := Move.of_tau (head_compared_changed hc) hm
        exact Moved.quiet start rfl
  | none =>
      rcases Move.of_put head_compared_absent hm with ⟨hcas, rfl⟩ | ⟨-, rfl, rfl⟩
      · obtain ⟨hidx, rfl⟩ := Store.cas_eq_some_iff.mp hcas
        have habsent : s.value k = none := by
          simp [Store.value, (Store.index_eq_zero_iff s k).mp hidx]
        exact moved_of_write hcoh hwf hplan habs hv1 (.inr ⟨habsent, hr2⟩)
      · exact Moved.quiet (settling after false) rfl

theorem step_settling {s s' : Store K V} {rec : Option (Outcome R)} {p' : Prog K V Q A R}
    {after : Outcome R} {reply : Bool}
    (h : (settling after reply : Phase V R).Inv k plan wf absent s rec)
    (hm : Move ((settling after reply).prog k plan) s p' s') : Moved wf absent k plan s rec p' s' := by
  cases reply with
  | false =>
      obtain ⟨rfl, rfl⟩ := Move.of_tau head_settling_refused hm
      exact Moved.quiet start (by simpa [Inv] using h)
  | true =>
      cases after with
      | returned r =>
          obtain ⟨rfl, rfl⟩ := Move.of_tau head_settling_returned hm
          exact Moved.quiet (returned r) (by simpa [Inv] using h)
      | panicked => exact absurd hm (Move.not_of_crash head_settling_panicked)

theorem step {ph : Phase V R} {s s' : Store K V} {rec : Option (Outcome R)}
    {p' : Prog K V Q A R} (hcoh : Plan.Coherent wf absent plan)
    (hwf : ∀ v, s.value k = some v → wf v) (habs : s.value k = none → absent)
    (h : ph.Inv k plan wf absent s rec) (hm : Move (ph.prog k plan) s p' s') :
    Moved wf absent k plan s rec p' s' := by
  cases ph with
  | start => exact step_start hwf habs h hm
  | decided v1 => exact step_decided h hm
  | compared v1 new expected after r2 => exact step_compared hcoh hwf h hm
  | settling after reply => exact step_settling h hm
  | returned r => exact absurd hm (Move.not_of_done rfl)

end Step

end Phase

section System

variable [DecidableEq K] [DecidableEq V]

private theorem lookup_of_mem {hist : List (Nat × Outcome R)} {i : Nat} {o : Outcome R}
    (hnd : (hist.map Prod.fst).Nodup) (h : (i, o) ∈ hist) : hist.lookup i = some o := by
  induction hist with
  | nil => simp at h
  | cons e rest ih =>
      obtain ⟨j, o'⟩ := e
      simp only [List.map_cons, List.nodup_cons, List.mem_map] at hnd
      rcases List.mem_cons.mp h with he | hrest
      · simp only [Prod.mk.injEq] at he
        obtain ⟨rfl, rfl⟩ := he
        simp
      · have hij : (i == j) = false := by
          rw [beq_eq_false_iff_ne]
          rintro rfl
          exact hnd.1 ⟨(i, o), hrest, rfl⟩
        simp [List.lookup_cons, hij, ih hnd.2 hrest]

private theorem mem_of_lookup {hist : List (Nat × Outcome R)} {i : Nat} {o : Outcome R}
    (h : hist.lookup i = some o) : (i, o) ∈ hist := by
  obtain ⟨l₁, l₂, rfl, -⟩ := List.lookup_eq_some_iff.mp h
  simp

private theorem lookup_snoc {hist : List (Nat × Outcome R)} {i j : Nat} {o : Outcome R}
    (hi : hist.lookup i = none) :
    (hist ++ [(i, o)]).lookup j = if j = i then some o else hist.lookup j := by
  by_cases hj : j = i
  · subst hj
    simp [List.lookup_append, hi]
  · cases h : hist.lookup j <;> simp [List.lookup_append, h, hj]

/-- The sequential specification of the call thread `i` runs. -/
def callSpec (call : Nat → K × (Option V → Plan V R)) (i : Nat) : SeqSpec K V R :=
  ((call i).1, Plan.seq (call i).2)

/-- The invariant of a system of loops, thread `i` running the loop of `call i`:
the history `hist` of the calls that took effect replays from the values `m₀` to
the store's values, every stored value is well formed for its key, only keys that
may be absent are, and every thread is in a phase consistent with the store and with
its record in `hist`. -/
structure LoopInv (wf : K → V → Prop) (absent : K → Prop) (call : Nat → K × (Option V → Plan V R))
    (m₀ : K → Option V) (sys : Sys K V Q A R) (hist : List (Nat × Outcome R)) : Prop where
  replays : Replays (callSpec call) m₀ hist sys.store.value
  nodup : (hist.map Prod.fst).Nodup
  bound : ∀ i o, (i, o) ∈ hist → i < sys.threads.length
  wf_store : ∀ k v, sys.store.value k = some v → wf k v
  absent_store : ∀ k, sys.store.value k = none → absent k
  phase : ∀ i p, sys.threads[i]? = some p →
    ∃ ph : Phase V R, p = ph.prog (call i).1 (call i).2 ∧
      ph.Inv (call i).1 (call i).2 (wf (call i).1) (absent (call i).1) sys.store (hist.lookup i)

variable {wf : K → V → Prop} {absent : K → Prop} {call : Nat → K × (Option V → Plan V R)}
  {m₀ : K → Option V}

theorem loopInv_init {init : Sys K V Q A R}
    (hthreads : ∀ i p, init.threads[i]? = some p → p = Prog.retry (casPass (call i).1 (call i).2))
    (hwf : ∀ k v, init.store.value k = some v → wf k v)
    (habs : ∀ k, init.store.value k = none → absent k) :
    LoopInv wf absent call init.store.value init [] where
  replays := .nil _
  nodup := List.nodup_nil
  bound := by simp
  wf_store := hwf
  absent_store := habs
  phase := fun i p hp => ⟨.start, hthreads i p hp, rfl⟩

private theorem getElem?_set_cases {α : Type _} {l : List α} {i j : Nat} {x q : α}
    (hlen : i < l.length) (hq : (l.set i x)[j]? = some q) :
    (j = i ∧ q = x) ∨ (j ≠ i ∧ l[j]? = some q) := by
  by_cases hji : j = i
  · subst hji
    simp only [List.getElem?_set_self hlen, Option.some.injEq] at hq
    exact .inl ⟨rfl, hq.symm⟩
  · rw [List.getElem?_set_ne (Ne.symm hji)] at hq
    exact .inr ⟨hji, hq⟩

theorem loopInv_step (hcoh : ∀ i, Plan.Coherent (wf (call i).1) (absent (call i).1) (call i).2)
    {sys sys' : Sys K V Q A R} {hist : List (Nat × Outcome R)}
    (h : LoopInv wf absent call m₀ sys hist) (hs : Sys.Step sys sys') :
    ∃ hist', LoopInv wf absent call m₀ sys' hist' := by
  obtain ⟨hi, hm⟩ := hs
  rename_i i p p' store'
  obtain ⟨ph, rfl, hph⟩ := h.phase i _ hi
  have hlen : i < sys.threads.length := (List.getElem?_eq_some_iff.mp hi).1
  obtain ⟨ph', rfl, ⟨rfl, hinv'⟩ | ⟨hrec, hext, hother, hwfk, o, hseq, hinv'⟩⟩ :=
    Phase.step (hcoh i) (fun v hv => h.wf_store _ v hv) (h.absent_store _) hph hm
  · refine ⟨hist, h.replays, h.nodup, fun j o hj => by simpa using h.bound j o hj, h.wf_store,
      h.absent_store, ?_⟩
    intro j q hq
    rcases getElem?_set_cases hlen hq with ⟨rfl, rfl⟩ | ⟨-, hq⟩
    · exact ⟨ph', rfl, hinv'⟩
    · exact h.phase j q hq
  · have hvals : (fun k => if k = (call i).1 then store'.value (call i).1 else
        sys.store.value k) = store'.value := by
      funext k
      by_cases hk : k = (call i).1
      · simp [hk]
      · simp [hk, hother k hk]
    refine ⟨hist ++ [(i, o)], ?_, ?_, ?_, ?_, ?_, ?_⟩
    · have := h.replays.snoc (i := i) (o := o) (v := store'.value (call i).1) hseq
      show Replays _ _ _ store'.value
      rw [← hvals]
      exact this
    · have hnot : i ∉ hist.map Prod.fst := by
        intro hmem
        obtain ⟨⟨j, o'⟩, hj, hji⟩ := List.mem_map.mp hmem
        simp only at hji
        subst hji
        have := lookup_of_mem h.nodup hj
        simp [hrec] at this
      rw [List.map_append, List.nodup_append]
      refine ⟨h.nodup, by simp, ?_⟩
      intro a ha b hb hab
      simp only [List.map_cons, List.map_nil, List.mem_singleton] at hb
      subst hb hab
      exact hnot ha
    · intro j o' hj
      rcases List.mem_append.mp hj with hj | hj
      · simpa using h.bound j o' hj
      · simp only [List.mem_singleton, Prod.mk.injEq] at hj
        obtain ⟨rfl, -⟩ := hj
        simpa using hlen
    · intro k v hv
      by_cases hk : k = (call i).1
      · subst hk
        exact hwfk v hv
      · rw [hother k hk] at hv
        exact h.wf_store k v hv
    · intro k hk
      exact h.absent_store k (hext.value_eq_none hk)
    · intro j q hq
      rw [lookup_snoc hrec]
      rcases getElem?_set_cases hlen hq with ⟨rfl, rfl⟩ | ⟨hji, hq⟩
      · exact ⟨ph', rfl, by simpa using hinv'⟩
      · obtain ⟨phj, rfl, hphj⟩ := h.phase j q hq
        exact ⟨phj, rfl, by simpa [hji] using Phase.Inv.mono (k := (call j).1) hext hphj⟩

theorem loopInv_reachable
    (hcoh : ∀ i, Plan.Coherent (wf (call i).1) (absent (call i).1) (call i).2)
    {init sys : Sys K V Q A R}
    (hthreads : ∀ i p, init.threads[i]? = some p → p = Prog.retry (casPass (call i).1 (call i).2))
    (hwf : ∀ k v, init.store.value k = some v → wf k v)
    (habs : ∀ k, init.store.value k = none → absent k) (hreach : init.Reachable sys) :
    ∃ hist, LoopInv wf absent call init.store.value sys hist := by
  induction hreach with
  | refl => exact ⟨[], loopInv_init hthreads hwf habs⟩
  | tail _ hs ih =>
      obtain ⟨hist, h⟩ := ih
      exact loopInv_step hcoh h hs

section Linearizable

variable {wf : K → V → Prop} {absent : K → Prop} {call : Nat → K × (Option V → Plan V R)}
  {init sys : Sys K V Q A R}

/-- **Linearizability of read-compare-write loops.** Thread `i` runs the loop of
`call i`, every stored value satisfies `wf` at the start and only keys for which
`absent` holds are absent. In every reachable
state there is one history of the calls that took effect, each once, such that
every call that has returned is in it with its result, every call in it ends
with its recorded outcome without another exchange, and replaying the calls'
sequential meanings in this order from the initial values gives the recorded
outcomes and the store's current values. -/
theorem linearizable (hcoh : ∀ i, Plan.Coherent (wf (call i).1) (absent (call i).1) (call i).2)
    (hthreads : ∀ i p, init.threads[i]? = some p → p = Prog.retry (casPass (call i).1 (call i).2))
    (hwf : ∀ k v, init.store.value k = some v → wf k v)
    (habs : ∀ k, init.store.value k = none → absent k) (hreach : init.Reachable sys) :
    ∃ hist : List (Nat × Outcome R),
      (hist.map Prod.fst).Nodup ∧
      (∀ i r, sys.threads[i]? = some (.done r) → (i, .returned r) ∈ hist) ∧
      (∀ i o, (i, o) ∈ hist → ∃ p, sys.threads[i]? = some p ∧ Settles p o) ∧
      Replays (callSpec call) init.store.value hist sys.store.value := by
  obtain ⟨hist, h⟩ := loopInv_reachable hcoh hthreads hwf habs hreach
  refine ⟨hist, h.nodup, ?_, ?_, h.replays⟩
  · intro i r hi
    obtain ⟨ph, hp, hinv⟩ := h.phase i _ hi
    cases ph with
    | returned r' =>
        simp only [Phase.prog, Prog.done.injEq] at hp
        subst hp
        exact mem_of_lookup hinv
    | _ => simp [Phase.prog] at hp
  · intro i o hmem
    have hlt := h.bound i o hmem
    obtain ⟨ph, hp, hinv⟩ := h.phase i _ (List.getElem?_eq_getElem hlt)
    rw [lookup_of_mem h.nodup hmem] at hinv
    exact ⟨_, List.getElem?_eq_getElem hlt, hp ▸ Phase.settles_of_inv hinv⟩

/-- A call takes effect at the instant of its write: every step that changes the
store is one thread's successful write, which changes the key of its call as the
call's sequential meaning on the value at that instant says and no other key, after
which the thread ends with the sequential outcome. -/
theorem effect_step (hcoh : ∀ i, Plan.Coherent (wf (call i).1) (absent (call i).1) (call i).2)
    (hthreads : ∀ i p, init.threads[i]? = some p → p = Prog.retry (casPass (call i).1 (call i).2))
    (hwf : ∀ k v, init.store.value k = some v → wf k v)
    (habs : ∀ k, init.store.value k = none → absent k) (hreach : init.Reachable sys)
    {sys' : Sys K V Q A R} (hs : Sys.Step sys sys') (hne : sys'.store ≠ sys.store) :
    ∃ i o, Plan.seq (call i).2 (sys.store.value (call i).1) = (sys'.store.value (call i).1, o) ∧
      (∀ k, k ≠ (call i).1 → sys'.store.value k = sys.store.value k) ∧
      ∃ p, sys'.threads[i]? = some p ∧ Settles p o := by
  obtain ⟨hist, h⟩ := loopInv_reachable hcoh hthreads hwf habs hreach
  obtain ⟨hi, hm⟩ := hs
  rename_i i p p' store'
  obtain ⟨ph, rfl, hph⟩ := h.phase i _ hi
  have hlen : i < sys.threads.length := (List.getElem?_eq_some_iff.mp hi).1
  obtain ⟨ph', rfl, ⟨rfl, -⟩ | ⟨-, -, hother, -, o, hseq, hinv'⟩⟩ :=
    Phase.step (hcoh i) (fun v hv => h.wf_store _ v hv) (h.absent_store _) hph hm
  · exact absurd rfl hne
  · exact ⟨i, o, hseq, hother, _, List.getElem?_set_self hlen, Phase.settles_of_inv hinv'⟩

end Linearizable

end System

end Kv
