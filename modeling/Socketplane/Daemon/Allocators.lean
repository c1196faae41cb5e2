import Socketplane.Daemon.Ipam
import Socketplane.Daemon.Vlan
import Socketplane.Lib.Kv.CasSeq

/-! # The four allocator calls are read-compare-write loops

`IPAMRequest`, `IPAMRelease`, `allocateVlan` and `releaseVlan` each read one key,
compute from what they read, and write through `ecc.Put`, which reads the key again
and writes conditionally on that second read. Each pass is `Kv.casPass` of a plan
(`requestPlan`, `releasePlan`, `allocPlan`, `releaseVlanPlan`): what the call
decides from the bitmap it read, the bytes it expects to still find, and what it
returns once written.
-/

namespace Daemon

open Net Kv Ecc

def ipamKey (subnet : IPNet) : Key := ⟨dataStore, subnet.String⟩

def vlanKey : Key := ⟨vlanStore, "vlan"⟩

/-- The address a position stands for, or a panic. -/
def ipOutcome (subnet : IPNet) (pos : Nat) : Outcome Net.IP :=
  match getIP subnet pos with
  | some ip => .returned ip
  | none => .panicked

/-- What `IPAMRequest` does with the bitmap it read. -/
def requestPlan (subnet : IPNet) (v1 : Option Value) : Plan Value Net.IP :=
  let currVal := (v1.map Value.bytes).getD []
  match (if v1.isSome then some currVal else makeBytes (bitmapBytes (bitCount subnet))) with
  | none => .crash
  | some addrArray =>
      match testAndSetBit addrArray with
      | none => .crash
      | some (pos, addrArray) => .write (.raw addrArray) (.raw currVal) (ipOutcome subnet pos)

/-- What `IPAMRelease` does with the bitmap it read. -/
def releasePlan (address : Net.IP) (subnet : IPNet) : Option Value → Plan Value Bool
  | none => .finish false
  | some v =>
      match getBitPosition address subnet with
      | none => .crash
      | some pos =>
          match clearBit v.bytes (uintPred pos) with
          | none => .crash
          | some addrArray => .write (.raw addrArray) (.raw v.bytes) (.returned true)

/-- What `allocateVlan` does with the bitmap it read. -/
def allocPlan (v1 : Option Value) : Plan Value (Nat × Option String) :=
  let read := (v1.map Value.bytes).getD []
  let currVal := copyInto (List.replicate (vlanCount / 8) 0) read
  let vlanArray := if v1.isNone then List.replicate (vlanCount / 8) 0 else read
  match testAndSetBit vlanArray with
  | none => .crash
  | some (vlan, vlanArray) =>
      if vlan ≥ vlanCount then .finish (vlanCount, some "Vlan unavailable")
      else .write (.raw vlanArray) (.raw currVal) (.returned (vlan, none))

/-- What `releaseVlan` does with the bitmap it read. -/
def releaseVlanPlan (vlan : Nat) (v1 : Option Value) : Plan Value Unit :=
  let read := (v1.map Value.bytes).getD []
  let currVal := copyInto (List.replicate (vlanCount / 8) 0) read
  let vlanArray := if v1.isNone then List.replicate (vlanCount / 8) 0 else read
  match clearBit vlanArray (uintPred vlan) with
  | none => .crash
  | some vlanArray => .write (.raw vlanArray) (.raw currVal) (.returned ())

/-! ## What a pass writes -/

/-- A stored IPAM bitmap: raw bytes, at least one of them. -/
def ipamWf : Value → Prop
  | .raw b => b ≠ []
  | .record _ => False

/-- Raw bytes, what every pass of an IPAM call writes and expects. -/
def rawWf : Value → Prop
  | .raw _ => True
  | .record _ => False

/-- The stored VLAN bitmap: raw bytes, one bit for each VLAN. -/
def vlanWf : Value → Prop
  | .raw b => b.length = vlanCount / 8
  | .record _ => False

theorem requestPlan_eq_write {subnet : IPNet} {v1 : Option Value} {new expected : Value}
    {after : Outcome Net.IP} (h : requestPlan subnet v1 = .write new expected after) :
    expected = .raw ((v1.map Value.bytes).getD []) ∧
      ∃ a pos a', (if v1.isSome then some ((v1.map Value.bytes).getD []) else
          makeBytes (bitmapBytes (bitCount subnet))) = some a ∧
        testAndSetBit a = some (pos, a') ∧ new = .raw a' ∧ after = ipOutcome subnet pos := by
  obtain ⟨a, ha, h⟩ : ∃ a, (if v1.isSome then some ((v1.map Value.bytes).getD []) else
      makeBytes (bitmapBytes (bitCount subnet))) = some a ∧
      (match testAndSetBit a with
        | none => .crash
        | some (pos, a') => .write (.raw a') (.raw ((v1.map Value.bytes).getD [])) (ipOutcome subnet pos)) =
        Plan.write new expected after := by
    unfold requestPlan at h
    dsimp only at h
    revert h
    cases (if v1.isSome then some ((v1.map Value.bytes).getD []) else
      makeBytes (bitmapBytes (bitCount subnet))) with
    | none => intro h; cases h
    | some a => exact fun h => ⟨a, rfl, h⟩
  cases ht : testAndSetBit a with
  | none => rw [ht] at h; cases h
  | some r =>
      obtain ⟨pos, a'⟩ := r
      rw [ht] at h
      simp only [Plan.write.injEq] at h
      obtain ⟨rfl, rfl, rfl⟩ := h
      exact ⟨rfl, a, pos, a', ha, ht, rfl, rfl⟩

theorem requestPlan_of_bitmap {subnet : IPNet} {v1 : Option Value} {a : List UInt8}
    (ha : (if v1.isSome then some ((v1.map Value.bytes).getD []) else
      makeBytes (bitmapBytes (bitCount subnet))) = some a) :
    requestPlan subnet v1 =
      match testAndSetBit a with
      | none => .crash
      | some (pos, a') => .write (.raw a') (.raw ((v1.map Value.bytes).getD [])) (ipOutcome subnet pos) := by
  unfold requestPlan
  dsimp only
  rw [ha]

theorem releasePlan_eq_write {address : Net.IP} {subnet : IPNet} {v1 : Option Value}
    {new expected : Value} {after : Outcome Bool}
    (h : releasePlan address subnet v1 = .write new expected after) :
    ∃ v pos a, v1 = some v ∧ expected = .raw v.bytes ∧ getBitPosition address subnet = some pos ∧
      clearBit v.bytes (uintPred pos) = some a ∧ new = .raw a ∧ after = .returned true := by
  cases v1 with
  | none => cases h
  | some v =>
      simp only [releasePlan] at h
      cases hpos : getBitPosition address subnet with
      | none => simp only [hpos, reduceCtorEq] at h
      | some pos =>
          cases ha : clearBit v.bytes (uintPred pos) with
          | none => simp only [hpos, ha, reduceCtorEq] at h
          | some a =>
              simp only [hpos, ha, Plan.write.injEq] at h
              obtain ⟨rfl, rfl, rfl⟩ := h
              exact ⟨v, pos, a, rfl, rfl, rfl, ha, rfl, rfl⟩

theorem allocPlan_eq_write {v1 : Option Value} {new expected : Value}
    {after : Outcome (Nat × Option String)} (h : allocPlan v1 = .write new expected after) :
    expected = .raw (copyInto (List.replicate (vlanCount / 8) 0) ((v1.map Value.bytes).getD [])) ∧
      ∃ vlan a', testAndSetBit (if v1.isNone then List.replicate (vlanCount / 8) 0
          else (v1.map Value.bytes).getD []) = some (vlan, a') ∧
        vlan < vlanCount ∧ new = .raw a' ∧ after = .returned (vlan, none) := by
  unfold allocPlan at h
  dsimp only at h
  revert h
  cases ht : testAndSetBit (if v1.isNone then List.replicate (vlanCount / 8) 0
      else (v1.map Value.bytes).getD []) with
  | none => intro h; cases h
  | some r =>
      obtain ⟨vlan, a'⟩ := r
      intro h
      dsimp only at h
      by_cases hlt : vlan ≥ vlanCount
      · rw [if_pos hlt] at h
        cases h
      · rw [if_neg hlt] at h
        simp only [Plan.write.injEq] at h
        obtain ⟨rfl, rfl, rfl⟩ := h
        exact ⟨rfl, vlan, a', rfl, by omega, rfl, rfl⟩

theorem releaseVlanPlan_eq_write {vlan : Nat} {v1 : Option Value} {new expected : Value}
    {after : Outcome Unit} (h : releaseVlanPlan vlan v1 = .write new expected after) :
    expected = .raw (copyInto (List.replicate (vlanCount / 8) 0) ((v1.map Value.bytes).getD [])) ∧
      ∃ a, clearBit (if v1.isNone then List.replicate (vlanCount / 8) 0
          else (v1.map Value.bytes).getD []) (uintPred vlan) = some a ∧
        new = .raw a ∧ after = .returned () := by
  unfold releaseVlanPlan at h
  dsimp only at h
  revert h
  cases ha : clearBit (if v1.isNone then List.replicate (vlanCount / 8) 0
      else (v1.map Value.bytes).getD []) (uintPred vlan) with
  | none => intro h; cases h
  | some a =>
      intro h
      simp only [Plan.write.injEq] at h
      obtain ⟨rfl, rfl, rfl⟩ := h
      exact ⟨rfl, a, rfl, rfl, rfl⟩

private theorem bytes_of_wf {wf : Value → Prop} (hwf : ∀ n, ¬ wf (.record n)) {v : Value}
    (hv : wf v) : ∃ b, v = .raw b ∧ wf (.raw b) := by
  cases v with
  | raw b => exact ⟨b, rfl, hv⟩
  | record n => exact absurd hv (hwf n)

/-- With a fresh bitmap of at least one byte, a request's pass is coherent: it
expects the bitmap it read, an absent key (expected `[]`) never looks present, and
what it writes is a bitmap of the length it read. -/
theorem requestPlan_coherent {absent : Prop} {subnet : IPNet}
    (hbc : 0 < bitmapBytes (bitCount subnet)) :
    Plan.Coherent ipamWf absent (requestPlan subnet) where
  expected_eq hv _ h := by
    obtain ⟨b, rfl, -⟩ := bytes_of_wf (fun _ h => h) hv
    simpa [Value.bytes] using (requestPlan_eq_write h).1
  absent_write _ he h := by
    obtain ⟨rfl, -⟩ := requestPlan_eq_write h
    exact absurd rfl he
  wf_new {cur _ _ _} _ hcur h := by
    obtain ⟨-, a, pos, a', ha, ht, rfl, -⟩ := requestPlan_eq_write h
    have hne : a ≠ [] := by
      cases cur with
      | none =>
          rw [makeBytes_eq_some ha]
          simp only [ne_eq, List.replicate_eq_nil_iff]
          omega
      | some v =>
          obtain ⟨b, rfl, hb⟩ := bytes_of_wf (fun _ h => h) (hcur v rfl).1
          simp only [Option.isSome_some, if_true, Option.map_some, Option.getD_some,
            Value.bytes, Option.some.injEq] at ha
          rw [← ha]
          exact hb
    show a' ≠ []
    rw [← List.length_pos_iff, testAndSetBit_length ht]
    exact List.length_pos_iff.mpr hne

theorem requestPlan_coherent_raw {absent : Prop} {subnet : IPNet} (habs : ¬ absent) :
    Plan.Coherent rawWf absent (requestPlan subnet) where
  expected_eq hv _ h := by
    obtain ⟨b, rfl, -⟩ := bytes_of_wf (fun _ h => h) hv
    simpa [Value.bytes] using (requestPlan_eq_write h).1
  absent_write ha := (habs ha).elim
  wf_new _ _ h := by
    obtain ⟨-, a, pos, a', -, -, rfl, -⟩ := requestPlan_eq_write h
    trivial

theorem releasePlan_coherent {absent : Prop} (address : Net.IP) (subnet : IPNet) :
    Plan.Coherent ipamWf absent (releasePlan address subnet) where
  expected_eq hv _ h := by
    obtain ⟨v, pos, a, hv1, rfl, -⟩ := releasePlan_eq_write h
    cases hv1
    obtain ⟨b, rfl, -⟩ := bytes_of_wf (fun _ h => h) hv
    rfl
  absent_write _ _ h := by
    obtain ⟨v, _, _, hv1, -⟩ := releasePlan_eq_write h
    cases hv1
  wf_new _ hcur h := by
    obtain ⟨v, pos, a, rfl, -, -, ha, rfl, -⟩ := releasePlan_eq_write h
    obtain ⟨b, rfl, hb⟩ := bytes_of_wf (fun _ h => h) (hcur _ rfl).1
    show a ≠ []
    rw [← List.length_pos_iff, (clearBit_eq_some_iff.mp ha).2.1]
    exact List.length_pos_iff.mpr hb

theorem releasePlan_coherent_raw {absent : Prop} (address : Net.IP) (subnet : IPNet)
    (habs : ¬ absent) : Plan.Coherent rawWf absent (releasePlan address subnet) where
  expected_eq hv _ h := by
    obtain ⟨v, pos, a, hv1, rfl, -⟩ := releasePlan_eq_write h
    cases hv1
    obtain ⟨b, rfl, -⟩ := bytes_of_wf (fun _ h => h) hv
    rfl
  absent_write ha := (habs ha).elim
  wf_new _ _ h := by
    obtain ⟨v, pos, a, -, -, -, -, rfl, -⟩ := releasePlan_eq_write h
    trivial

private theorem length_zeros : (List.replicate (vlanCount / 8) (0 : UInt8)).length = vlanCount / 8 :=
  List.length_replicate

private theorem copyInto_zeros_zeros :
    copyInto (List.replicate (vlanCount / 8) 0) (List.replicate (vlanCount / 8) 0) =
      List.replicate (vlanCount / 8) 0 :=
  copyInto_of_length_eq rfl

private theorem copyInto_zeros_nil :
    copyInto (List.replicate (vlanCount / 8) 0) [] = List.replicate (vlanCount / 8) 0 := by
  simp [copyInto]

private theorem vlanArray_length {v1 : Option Value}
    (hcur : ∀ v, v1 = some v → vlanWf v) :
    (if v1.isNone then List.replicate (vlanCount / 8) 0 else (v1.map Value.bytes).getD []).length =
      vlanCount / 8 := by
  cases v1 with
  | none => exact length_zeros
  | some v =>
      obtain ⟨b, rfl, hb⟩ := bytes_of_wf (fun _ h => h) (hcur _ rfl)
      exact hb

theorem allocPlan_expected_eq {v new expected : Value} {after : Outcome (Nat × Option String)}
    (hv : vlanWf v) (h : allocPlan (some v) = .write new expected after) : expected = v := by
  obtain ⟨b, rfl, hb⟩ := bytes_of_wf (fun _ h => h) hv
  rw [(allocPlan_eq_write h).1]
  simp only [Option.map_some, Option.getD_some, Value.bytes]
  rw [copyInto_of_length_eq (hb.trans length_zeros.symm)]

theorem releaseVlanPlan_expected_eq {vlan : Nat} {v new expected : Value} {after : Outcome Unit}
    (hv : vlanWf v) (h : releaseVlanPlan vlan (some v) = .write new expected after) :
    expected = v := by
  obtain ⟨b, rfl, hb⟩ := bytes_of_wf (fun _ h => h) hv
  rw [(releaseVlanPlan_eq_write h).1]
  simp only [Option.map_some, Option.getD_some, Value.bytes]
  rw [copyInto_of_length_eq (hb.trans length_zeros.symm)]

theorem allocPlan_coherent {absent : Prop} : Plan.Coherent vlanWf absent allocPlan where
  expected_eq hv _ h := allocPlan_expected_eq hv h
  absent_write _ _ h := by
    have hexp := (allocPlan_eq_write h).1
    simp only [Option.map_none, Option.getD_none, copyInto_zeros_nil] at hexp
    subst hexp
    rw [← h]
    simp only [allocPlan, Option.map_some, Option.getD_some, Value.bytes, Option.isNone_some,
      Option.isNone_none, Option.map_none, Option.getD_none, copyInto_zeros_nil,
      copyInto_zeros_zeros, Bool.false_eq_true, if_true, if_false]
  wf_new _ hcur h := by
    obtain ⟨-, vlan, a', ht, -, rfl, -⟩ := allocPlan_eq_write h
    show a'.length = vlanCount / 8
    rw [testAndSetBit_length ht, vlanArray_length fun v hv => (hcur v hv).1]

theorem releaseVlanPlan_coherent {absent : Prop} (vlan : Nat) :
    Plan.Coherent vlanWf absent (releaseVlanPlan vlan) where
  expected_eq hv _ h := releaseVlanPlan_expected_eq hv h
  absent_write _ _ h := by
    have hexp := (releaseVlanPlan_eq_write h).1
    simp only [Option.map_none, Option.getD_none, copyInto_zeros_nil] at hexp
    subst hexp
    rw [← h]
    simp only [releaseVlanPlan, Option.map_some, Option.getD_some, Value.bytes, Option.isNone_some,
      Option.isNone_none, Option.map_none, Option.getD_none, copyInto_zeros_nil,
      copyInto_zeros_zeros, Bool.false_eq_true, if_true, if_false]
  wf_new _ hcur h := by
    obtain ⟨-, a, ha, rfl, -⟩ := releaseVlanPlan_eq_write h
    show a.length = vlanCount / 8
    rw [(clearBit_eq_some_iff.mp ha).2.1, vlanArray_length fun v hv => (hcur v hv).1]

/-! What a pass expects is what the calls themselves write: raw bytes for the IPAM
calls, a 512-byte bitmap for the VLAN calls. -/

theorem requestPlan_expected {subnet : IPNet} {v1 : Option Value} {new expected : Value}
    {after : Outcome Net.IP} (h : requestPlan subnet v1 = .write new expected after) :
    rawWf expected := by
  rw [(requestPlan_eq_write h).1]
  trivial

theorem releasePlan_expected {address : Net.IP} {subnet : IPNet} {v1 : Option Value}
    {new expected : Value} {after : Outcome Bool}
    (h : releasePlan address subnet v1 = .write new expected after) : rawWf expected := by
  obtain ⟨v, pos, a, -, rfl, -⟩ := releasePlan_eq_write h
  trivial

theorem allocPlan_expected {v1 : Option Value} {new expected : Value}
    {after : Outcome (Nat × Option String)} (h : allocPlan v1 = .write new expected after) :
    vlanWf expected := by
  rw [(allocPlan_eq_write h).1]
  exact (length_copyInto _ _).trans length_zeros

theorem releaseVlanPlan_expected {vlan : Nat} {v1 : Option Value} {new expected : Value}
    {after : Outcome Unit} (h : releaseVlanPlan vlan v1 = .write new expected after) :
    vlanWf expected := by
  rw [(releaseVlanPlan_eq_write h).1]
  exact (length_copyInto _ _).trans length_zeros

variable {Q : Type} {A : Q → Type}

/-- The retry test after `ecc.Put`: start over on `OUTDATED`, otherwise leave with
the planned outcome. -/
def retryOnOutdated {R : Type} (after : Outcome R) (eccerr : Eccerror) : Prog Key Value Q A (Loop R) :=
  if eccerr = .OUTDATED then .done .again
  else
    match after with
    | .returned r => .done (.finish r)
    | .panicked => .crash

theorem put_bind_eq_casWrite {R : Type} (k : Key) (new old : Value) (after : Outcome R) :
    (Ecc.Put k.store k.key new old : Prog Key Value Q A Eccerror).bind (retryOnOutdated after) =
      .get k (casWrite k new old after) := by
  simp only [Ecc.Put, Prog.get_bind]
  congr 1
  funext r
  cases r with
  | none =>
      simp only [casWrite, Prog.put_bind]
      congr 1
      funext b
      rcases b with _ | _ | _ <;> cases after <;> rfl
  | some c =>
      by_cases hc : c.value = old
      · simp only [casWrite, hc, ne_eq, not_true_eq_false, if_false, if_true, Prog.put_bind]
        congr 1
        funext b
        rcases b with _ | _ | _ <;> cases after <;> rfl
      · simp [casWrite, hc, Ne.symm hc, retryOnOutdated]

private theorem retry_getIP (subnet : IPNet) (pos : Nat) :
    (fun eccerr => if eccerr = Eccerror.OUTDATED then Prog.done Loop.again else
      match getIP subnet pos with
      | some ip => Prog.done (Loop.finish ip)
      | none => Prog.crash) =
      (retryOnOutdated (ipOutcome subnet pos) : Eccerror → Prog Key Value Q A (Loop Net.IP)) := by
  funext eccerr
  cases hg : getIP subnet pos <;> simp [retryOnOutdated, ipOutcome, hg]

theorem IPAMRequest.pass_eq (subnet : IPNet) :
    (IPAMRequest.pass subnet : Prog Key Value Q A (Loop Net.IP)) =
      casPass (ipamKey subnet) (requestPlan subnet) := by
  simp only [IPAMRequest.pass, casPass, Ecc.Get, Prog.bind_eq, Prog.get_bind]
  congr 1
  funext r
  cases r with
  | none =>
      simp only [Prog.done_bind, Option.map_none, casDecide, requestPlan, Option.isSome_none,
        Bool.false_eq_true, if_false]
      rcases makeBytes (bitmapBytes (bitCount subnet)) with _ | a
      · rfl
      · dsimp only
        rcases testAndSetBit a with _ | ⟨pos, a'⟩
        · rfl
        · dsimp only
          refine Eq.trans ?_ (put_bind_eq_casWrite (ipamKey subnet) _ _ _)
          congr 1
          exact retry_getIP subnet pos
  | some c =>
      simp only [Prog.done_bind, Option.map_some, casDecide, requestPlan, Option.isSome_some,
        if_true, Option.getD_some]
      rcases testAndSetBit (c.value.bytes) with _ | ⟨pos, a'⟩
      · rfl
      · dsimp only
        refine Eq.trans ?_ (put_bind_eq_casWrite (ipamKey subnet) _ _ _)
        congr 1
        exact retry_getIP subnet pos

theorem IPAMRelease.pass_eq (address : Net.IP) (subnet : IPNet) :
    (IPAMRelease.pass address subnet : Prog Key Value Q A (Loop Bool)) =
      casPass (ipamKey subnet) (releasePlan address subnet) := by
  simp only [IPAMRelease.pass, casPass, Ecc.Get, Prog.bind_eq, Prog.get_bind]
  congr 1
  funext r
  cases r with
  | none => rfl
  | some c =>
      simp only [Prog.done_bind, Option.map_some, casDecide, releasePlan, Option.getD_some,
        Bool.not_true, Bool.false_eq_true, if_false]
      rcases getBitPosition address subnet with _ | pos
      · rfl
      · dsimp only
        rcases clearBit c.value.bytes (uintPred pos) with _ | a
        · rfl
        · exact put_bind_eq_casWrite (ipamKey subnet) _ _ (.returned true)

theorem allocateVlan.pass_eq :
    (allocateVlan.pass : Prog Key Value Q A (Loop (Nat × Option String))) =
      casPass vlanKey allocPlan := by
  simp only [allocateVlan.pass, casPass, Ecc.Get, Prog.bind_eq, Prog.get_bind]
  congr 1
  funext r
  cases r with
  | none =>
      simp only [Prog.done_bind, Option.map_none, casDecide, allocPlan, Option.isNone_none,
        Option.getD_none, Bool.not_false, if_true]
      rcases testAndSetBit (List.replicate (vlanCount / 8) 0) with _ | ⟨vlan, a⟩
      · rfl
      · dsimp only
        split
        · rfl
        · exact put_bind_eq_casWrite vlanKey _ _ (.returned (vlan, none))
  | some c =>
      simp only [Prog.done_bind, Option.map_some, casDecide, allocPlan, Option.isNone_some,
        Option.getD_some, Bool.not_true, Bool.false_eq_true, if_false]
      rcases testAndSetBit c.value.bytes with _ | ⟨vlan, a⟩
      · rfl
      · dsimp only
        split
        · rfl
        · exact put_bind_eq_casWrite vlanKey _ _ (.returned (vlan, none))

theorem releaseVlan.pass_eq (vlan : Nat) :
    (releaseVlan.pass vlan : Prog Key Value Q A (Loop Unit)) =
      casPass vlanKey (releaseVlanPlan vlan) := by
  simp only [releaseVlan.pass, casPass, Ecc.Get, Prog.bind_eq, Prog.get_bind]
  congr 1
  funext r
  cases r with
  | none =>
      simp only [Prog.done_bind, Option.map_none, casDecide, releaseVlanPlan, Option.isNone_none,
        Option.getD_none, Bool.not_false, if_true]
      rcases clearBit (List.replicate (vlanCount / 8) 0) (uintPred vlan) with _ | a
      · rfl
      · exact put_bind_eq_casWrite vlanKey _ _ (.returned ())
  | some c =>
      simp only [Prog.done_bind, Option.map_some, casDecide, releaseVlanPlan, Option.isNone_some,
        Option.getD_some, Bool.not_true, Bool.false_eq_true, if_false]
      rcases clearBit c.value.bytes (uintPred vlan) with _ | a
      · rfl
      · exact put_bind_eq_casWrite vlanKey _ _ (.returned ())

end Daemon
