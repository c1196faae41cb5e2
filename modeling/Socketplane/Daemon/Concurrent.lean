import Socketplane.Daemon.IpamSession

/-! # Daemons calling the allocators at once

Every daemon of a cluster runs `IPAMRequest`, `IPAMRelease`, `allocateVlan` and
`releaseVlan` against the one Consul store. A system of such calls is a system of
`Kv` read-compare-write loops, one thread a call, whose results are tagged with the
call they come from (`Reply`). Its loops are linearizable from any store, as long as
an absent key is never confused with a stored bitmap: the fresh bitmap every request
would write has a byte. A subnet whose fresh bitmap is empty (an IPv4-mapped IPv6
network with more than 32 mask bits) writes the empty bitmap, which `ecc.Put` takes
for the absent key that another request read.

What a key holds over a run depends on what it held at the start (`runWf`): the calls
write well-formed bitmaps under a key they find absent, keep raw bytes (IPAM) or the
512-byte bitmap (VLAN) under a key that holds one, and never replace anything else,
since every write of theirs expects a value of that kind.
-/

namespace Daemon

open Net Kv Ecc Bitmap

/-- A call of one of the four allocator functions. -/
inductive Call where
  | IPAMRequest (subnet : IPNet)
  | IPAMRelease (address : Net.IP) (subnet : IPNet)
  | allocateVlan
  | releaseVlan (vlan : Nat)
deriving DecidableEq, Repr

/-- What a call returns, tagged with the function. -/
inductive Reply where
  | address (ip : Net.IP)
  | released (ok : Bool)
  | vlan (vlan : Nat) (err : Option String)
  | vlanReleased
deriving DecidableEq, Repr

namespace Call

def key : Call → Key
  | .IPAMRequest subnet => ipamKey subnet
  | .IPAMRelease _ subnet => ipamKey subnet
  | .allocateVlan => vlanKey
  | .releaseVlan _ => vlanKey

def plan : Call → Option Value → Plan Value Reply
  | .IPAMRequest subnet => fun v => (requestPlan subnet v).map .address
  | .IPAMRelease address subnet => fun v => (releasePlan address subnet v).map .released
  | .allocateVlan => fun v => (allocPlan v).map fun r => .vlan r.1 r.2
  | .releaseVlan vlan => fun v => (releaseVlanPlan vlan v).map fun _ => .vlanReleased

variable {Q : Type} {A : Q → Type}

/-- One pass of the call's function, its result tagged. -/
def pass : Call → Prog Key Value Q A (Loop Reply)
  | .IPAMRequest subnet => (IPAMRequest.pass subnet).bind fun l => .done (l.map .address)
  | .IPAMRelease address subnet =>
      (IPAMRelease.pass address subnet).bind fun l => .done (l.map .released)
  | .allocateVlan => allocateVlan.pass.bind fun l => .done (l.map fun r => .vlan r.1 r.2)
  | .releaseVlan vlan => (releaseVlan.pass vlan).bind fun l => .done (l.map fun _ => .vlanReleased)

theorem pass_eq (c : Call) : (c.pass : Prog Key Value Q A (Loop Reply)) = casPass c.key c.plan := by
  cases c with
  | IPAMRequest subnet => rw [pass, IPAMRequest.pass_eq, casPass_bind_map]; rfl
  | IPAMRelease address subnet => rw [pass, IPAMRelease.pass_eq, casPass_bind_map]; rfl
  | allocateVlan => rw [pass, allocateVlan.pass_eq, casPass_bind_map]; rfl
  | releaseVlan vlan => rw [pass, releaseVlan.pass_eq, casPass_bind_map]; rfl

/-- A request's fresh bitmap has at least one byte; other calls write no fresh bitmap. -/
def FreshBitmap : Call → Prop
  | .IPAMRequest subnet => 0 < bitmapBytes (bitCount subnet)
  | _ => True

instance : DecidablePred FreshBitmap := fun c =>
  match c with
  | .IPAMRequest subnet => inferInstanceAs (Decidable (0 < bitmapBytes (bitCount subnet)))
  | .IPAMRelease _ _ => instDecidableTrue
  | .allocateVlan => instDecidableTrue
  | .releaseVlan _ => instDecidableTrue

theorem freshBitmap_of_v4 {s : IPNet} {p : Nat} (hs : V4Prefix s p) : (IPAMRequest s).FreshBitmap := by
  show 0 < bitmapBytes (bitCount s)
  rw [bitCount_v4 hs]
  exact bitmapBytes_pos (by have := hs.le; omega) (by omega)

end Call

/-- What the calls write under a key they find absent: a nonempty raw bitmap under an
IPAM key, the 512-byte bitmap under the VLAN key. -/
def storeWf (k : Key) (v : Value) : Prop :=
  if k.store = dataStore then ipamWf v else if k = vlanKey then vlanWf v else True

theorem storeWf_ipamKey (subnet : IPNet) : storeWf (ipamKey subnet) = ipamWf := by
  funext v
  simp [storeWf, ipamKey]

theorem storeWf_vlanKey : storeWf vlanKey = vlanWf := by
  funext v
  have hne : vlanKey.store ≠ dataStore := by decide
  simp [storeWf, hne]

/-- What the calls keep under a key that holds it already: raw bytes under an IPAM key,
the 512-byte bitmap under the VLAN key. -/
def keepsWf (k : Key) (v : Value) : Prop :=
  if k.store = dataStore then rawWf v else if k = vlanKey then vlanWf v else True

theorem keepsWf_ipamKey (subnet : IPNet) : keepsWf (ipamKey subnet) = rawWf := by
  funext v
  simp [keepsWf, ipamKey]

theorem keepsWf_vlanKey : keepsWf vlanKey = vlanWf := by
  funext v
  have hne : vlanKey.store ≠ dataStore := by decide
  simp [keepsWf, hne]

open Classical in
/-- What a key holds in a run that starts with `v₀` under it: what the calls write under
a key they find absent, what they keep under a key that holds it already, and otherwise
`v₀` itself, which no call then replaces. -/
def runWf (k : Key) (v₀ : Option Value) (v : Value) : Prop :=
  match v₀ with
  | none => storeWf k v
  | some v₀ => if keepsWf k v₀ then keepsWf k v else v = v₀

theorem runWf_self (k : Key) (v : Value) : runWf k (some v) v := by
  unfold runWf
  dsimp only
  split_ifs with h
  · exact h
  · rfl

theorem Call.expected_keeps {c : Call} {v : Option Value} {new expected : Value}
    {after : Outcome Reply} (h : c.plan v = .write new expected after) : keepsWf c.key expected := by
  cases c with
  | IPAMRequest subnet =>
      rw [plan] at h
      obtain ⟨after', hp, -⟩ := Plan.map_eq_write h
      rw [key, keepsWf_ipamKey]
      exact requestPlan_expected hp
  | IPAMRelease address subnet =>
      rw [plan] at h
      obtain ⟨after', hp, -⟩ := Plan.map_eq_write h
      rw [key, keepsWf_ipamKey]
      exact releasePlan_expected hp
  | allocateVlan =>
      rw [plan] at h
      obtain ⟨after', hp, -⟩ := Plan.map_eq_write h
      rw [key, keepsWf_vlanKey]
      exact allocPlan_expected hp
  | releaseVlan vlan =>
      rw [plan] at h
      obtain ⟨after', hp, -⟩ := Plan.map_eq_write h
      rw [key, keepsWf_vlanKey]
      exact releaseVlanPlan_expected hp

theorem Call.coherent_store {c : Call} (hc : c.FreshBitmap) {absent : Prop} :
    Plan.Coherent (storeWf c.key) absent c.plan := by
  cases c with
  | IPAMRequest subnet =>
      rw [key, storeWf_ipamKey]
      exact (requestPlan_coherent hc).map _
  | IPAMRelease address subnet =>
      rw [key, storeWf_ipamKey]
      exact (releasePlan_coherent address subnet).map _
  | allocateVlan =>
      rw [key, storeWf_vlanKey]
      exact allocPlan_coherent.map _
  | releaseVlan vlan =>
      rw [key, storeWf_vlanKey]
      exact (releaseVlanPlan_coherent vlan).map _

theorem Call.coherent_keeps (c : Call) {absent : Prop} (habs : ¬ absent) :
    Plan.Coherent (keepsWf c.key) absent c.plan := by
  cases c with
  | IPAMRequest subnet =>
      rw [key, keepsWf_ipamKey]
      exact (requestPlan_coherent_raw habs).map _
  | IPAMRelease address subnet =>
      rw [key, keepsWf_ipamKey]
      exact (releasePlan_coherent_raw address subnet habs).map _
  | allocateVlan =>
      rw [key, keepsWf_vlanKey]
      exact allocPlan_coherent.map _
  | releaseVlan vlan =>
      rw [key, keepsWf_vlanKey]
      exact (releaseVlanPlan_coherent vlan).map _

theorem Call.coherent {c : Call} (hc : c.FreshBitmap) (v₀ : Option Value) :
    Plan.Coherent (runWf c.key v₀) (v₀ = none) c.plan := by
  cases v₀ with
  | none => exact Call.coherent_store hc
  | some v₀ =>
      have habs : ¬ (some v₀ = none) := Option.some_ne_none v₀
      by_cases hk : keepsWf c.key v₀
      · have hwf : runWf c.key (some v₀) = keepsWf c.key := by
          funext v
          exact if_pos hk
        rw [hwf]
        exact Call.coherent_keeps c habs
      · have hwf : runWf c.key (some v₀) = (· = v₀) := by
          funext v
          exact if_neg hk
        rw [hwf]
        exact Plan.Coherent.stuck habs fun hp he => hk (he ▸ Call.expected_keeps hp)

/-! ## Bits set and cleared -/

/-- The sequential meaning of the calls of a system, thread `i` running `calls i`. -/
def allocSpec (calls : Nat → Call) (i : Nat) : SeqSpec Key Value Reply :=
  ((calls i).key, Plan.seq (calls i).plan)

/-- The bytes of a key's value; an absent key has none. -/
def bitsOf (v : Option Value) : List UInt8 := (v.map Value.bytes).getD []

/-- Call `i`, applied after the calls of `before`, finds bit `j` of its key clear and
sets it. -/
def SetsBit (calls : Nat → Call) (m₀ : Key → Option Value) (before : List (Nat × Outcome Reply))
    (i j : Nat) : Prop :=
  bit (bitsOf (replay (allocSpec calls) m₀ before (calls i).key)) j = false ∧
    bit (bitsOf (Plan.seq (calls i).plan
      (replay (allocSpec calls) m₀ before (calls i).key)).1) j = true

/-- Call `i`, applied after the calls of `before`, finds bit `j` of its key set and
clears it. -/
def ClearsBit (calls : Nat → Call) (m₀ : Key → Option Value) (before : List (Nat × Outcome Reply))
    (i j : Nat) : Prop :=
  bit (bitsOf (replay (allocSpec calls) m₀ before (calls i).key)) j = true ∧
    bit (bitsOf (Plan.seq (calls i).plan
      (replay (allocSpec calls) m₀ before (calls i).key)).1) j = false

/-- The calls that give a bit back. -/
def Call.IsRelease : Call → Prop
  | .IPAMRequest _ => False
  | .IPAMRelease _ _ => True
  | .allocateVlan => False
  | .releaseVlan _ => True

theorem bit_seq_of_writes {R : Type} {plan : Option Value → Plan Value R} {v : Option Value}
    {j : Nat} (hset : bit (bitsOf v) j = true)
    (hw : ∀ {new expected after}, plan v = .write new expected after → bit (bitsOf (some new)) j = true) :
    bit (bitsOf (Plan.seq plan v).1) j = true := by
  rcases Plan.seq_fst plan v with hsame | ⟨new, expected, after, hp, hnew⟩
  · rw [hsame]
    exact hset
  · rw [hnew]
    exact hw hp

theorem Call.isRelease_of_clears {c : Call} {v : Option Value} {j : Nat}
    (hset : bit (bitsOf v) j = true) (hclr : bit (bitsOf (Plan.seq c.plan v).1) j = false) :
    c.IsRelease := by
  obtain ⟨w, rfl⟩ : ∃ w, v = some w := by
    cases v with
    | none => simp [bitsOf] at hset
    | some w => exact ⟨w, rfl⟩
  cases c with
  | IPAMRelease address subnet => trivial
  | releaseVlan vlan => trivial
  | IPAMRequest subnet =>
      have hkeep : bit (bitsOf (Plan.seq (requestPlan subnet) (some w)).1) j = true :=
        bit_seq_of_writes hset fun hp => by
          obtain ⟨-, a, pos, a', ha, ht, rfl, -⟩ := requestPlan_eq_write hp
          simp only [Option.isSome_some, if_true, Option.some.injEq] at ha
          subst ha
          exact testAndSetBit_bit ht hset
      rw [plan, Plan.seq_map] at hclr
      dsimp only at hclr
      rw [hkeep] at hclr
      cases hclr
  | allocateVlan =>
      have hkeep : bit (bitsOf (Plan.seq allocPlan (some w)).1) j = true :=
        bit_seq_of_writes hset fun hp => by
          obtain ⟨-, vlan, a', ht, -, rfl, -⟩ := allocPlan_eq_write hp
          exact testAndSetBit_bit ht hset
      rw [plan, Plan.seq_map] at hclr
      dsimp only at hclr
      rw [hkeep] at hclr
      cases hclr

section System

variable {Q : Type} {A : Q → Type}

/-- **The allocators are linearizable.** Thread `i` runs the loop of `calls i` and every
request's fresh bitmap has a byte; the store starts with anything at all. In every
reachable state there is one order of the calls that took effect, each once,
containing every call that returned with its result, such that replaying each call's
sequential meaning in this order from the initial store gives the recorded results
and the stored values; in that order, between two calls that set the same bit of a
bitmap lies a release that clears it. Every step that changes the store is the
successful write of one call, which changes its key as the call's sequential meaning
on the value at that instant says and no other key, after which the call ends with
the sequential result. -/
theorem allocators_linearizable {calls : Nat → Call} {init sys : Sys Key Value Q A Reply}
    (hfresh : ∀ i, (calls i).FreshBitmap)
    (hthreads : ∀ i p, init.threads[i]? = some p → p = Prog.retry (calls i).pass)
    (hreach : init.Reachable sys) :
    (∃ hist : List (Nat × Outcome Reply),
      (hist.map Prod.fst).Nodup ∧
      (∀ i r, sys.threads[i]? = some (.done r) → (i, .returned r) ∈ hist) ∧
      (∀ i o, (i, o) ∈ hist → ∃ p, sys.threads[i]? = some p ∧ Settles p o) ∧
      Replays (allocSpec calls) init.store.value hist sys.store.value ∧
      ∀ before i₁ o₁ mid i₂ o₂ after j,
        hist = before ++ (i₁, o₁) :: (mid ++ (i₂, o₂) :: after) →
        (calls i₂).key = (calls i₁).key →
        SetsBit calls init.store.value before i₁ j →
        SetsBit calls init.store.value (before ++ (i₁, o₁) :: mid) i₂ j →
        ∃ g₁ i o g₂, mid = g₁ ++ (i, o) :: g₂ ∧ (calls i).key = (calls i₁).key ∧
          (calls i).IsRelease ∧ ClearsBit calls init.store.value (before ++ (i₁, o₁) :: g₁) i j) ∧
    ∀ sys', Sys.Step sys sys' → sys'.store ≠ sys.store →
      ∃ i o, Plan.seq (calls i).plan (sys.store.value (calls i).key) =
          (sys'.store.value (calls i).key, o) ∧
        (∀ k, k ≠ (calls i).key → sys'.store.value k = sys.store.value k) ∧
        ∃ p, sys'.threads[i]? = some p ∧ Settles p o := by
  have hcoh : ∀ i, Plan.Coherent (runWf (calls i).key (init.store.value (calls i).key))
      (init.store.value (calls i).key = none) (calls i).plan :=
    fun i => Call.coherent (hfresh i) _
  have hthreads' : ∀ i p, init.threads[i]? = some p →
      p = Prog.retry (casPass (calls i).key (calls i).plan) :=
    fun i p hp => (hthreads i p hp).trans (by rw [Call.pass_eq])
  have hwf : ∀ k v, init.store.value k = some v → runWf k (init.store.value k) v := by
    intro k v hv
    rw [hv]
    exact runWf_self k v
  obtain ⟨hist, hnd, hret, hset, hrep⟩ := @linearizable Key Value Q A Reply _ _
    (fun k => runWf k (init.store.value k)) (fun k => init.store.value k = none)
    (fun i => ((calls i).key, (calls i).plan)) init sys hcoh hthreads' hwf (fun _ h => h) hreach
  refine ⟨⟨hist, hnd, hret, hset, hrep, ?_⟩, ?_⟩
  · intro before i₁ o₁ mid i₂ o₂ after j _ hk h₁ h₂
    obtain ⟨g₁, i, o, g₂, rfl, hki, hbset, hbclr⟩ :=
      @replay_between Key Value Reply _ (allocSpec calls) (fun v => bit (bitsOf v) j = true)
        _ _ _ _ _ _ hk h₁.2
        (Bool.eq_false_iff.mp h₂.1)
    have hbclr' := Bool.eq_false_iff.mpr hbclr
    exact ⟨g₁, i, o, g₂, rfl, hki, Call.isRelease_of_clears hbset hbclr', hbset, hbclr'⟩
  · intro sys' hs hne
    exact @effect_step Key Value Q A Reply _ _ (fun k => runWf k (init.store.value k))
      (fun k => init.store.value k = none) (fun i => ((calls i).key, (calls i).plan)) init sys
      hcoh hthreads' hwf (fun _ h => h) hreach sys' hs hne

private theorem eq_pair_of_mem {α β : Type} {l : List (α × β)} {a b : α × β} (hab : a.1 ≠ b.1)
    (hnd : (l.map Prod.fst).Nodup) (ha : a ∈ l) (hb : b ∈ l) (hmem : ∀ e ∈ l, e = a ∨ e = b) :
    l = [a, b] ∨ l = [b, a] := by
  rcases l with _ | ⟨x, _ | ⟨y, rest⟩⟩
  · simp at ha
  · simp only [List.mem_singleton] at ha hb
    exact absurd (congrArg Prod.fst (ha.trans hb.symm)) hab
  · simp only [List.map_cons, List.nodup_cons, List.mem_cons, List.mem_map, not_or,
      not_exists, not_and] at hnd
    have hxy : x.1 ≠ y.1 := hnd.1.1
    have hx := hmem x (by simp)
    have hy := hmem y (by simp)
    cases rest with
    | nil =>
        rcases hx with rfl | rfl <;> rcases hy with rfl | rfl
        · exact absurd rfl hxy
        · exact .inl rfl
        · exact .inr rfl
        · exact absurd rfl hxy
    | cons z rest =>
        have hz := hmem z (by simp)
        have hzx : z.1 ≠ x.1 := fun h => hnd.1.2 z (by simp) h
        have hzy : z.1 ≠ y.1 := fun h => hnd.2.1 z (by simp) h
        rcases hx with rfl | rfl <;> rcases hy with rfl | rfl <;> rcases hz with rfl | rfl <;>
          simp_all

/-- Two requests on `10.0.0.0/30`. -/
def twoInit : Sys Key Value Empty (fun _ => Empty) Reply :=
  ⟨Store.empty, [Prog.retry (Call.IPAMRequest net30).pass, Prog.retry (Call.IPAMRequest net30).pass]⟩

set_option maxRecDepth 100000 in
/-- Two requests on `10.0.0.0/30` both read the absent key; thread 1 writes first, so
thread 0's write is refused, and its second pass takes the next address. The calls are
linearized thread 1 first. -/
theorem two_requests_linearized :
    ∃ sys, twoInit.Reachable sys ∧
      sys.threads = [.done (.address [10, 0, 0, 2]), .done (.address [10, 0, 0, 1])] ∧
      ∃ hist, Replays (allocSpec fun _ => .IPAMRequest net30) twoInit.store.value hist
          sys.store.value ∧
        hist = [(1, .returned (.address [10, 0, 0, 1])), (0, .returned (.address [10, 0, 0, 2]))] := by
  have hP0 : (Call.IPAMRequest net30).plan none =
      .write (.raw [1]) (.raw []) (.returned (.address [10, 0, 0, 1])) := rfl
  have hP1 : (Call.IPAMRequest net30).plan (some (.raw [1])) =
      .write (.raw [3]) (.raw [1]) (.returned (.address [10, 0, 0, 2])) := rfl
  have ht : (Prog.retry (Call.IPAMRequest net30).pass : Prog Key Value Empty (fun _ => Empty) Reply) =
      Phase.start.prog (Call.IPAMRequest net30).key (Call.IPAMRequest net30).plan := by
    rw [Call.pass_eq]
    rfl
  have hinit : twoInit = ⟨Store.empty,
      [Phase.start.prog (Call.IPAMRequest net30).key (Call.IPAMRequest net30).plan,
        Phase.start.prog (Call.IPAMRequest net30).key (Call.IPAMRequest net30).plan]⟩ := by
    rw [twoInit, ht]
  let sys : Sys Key Value Empty (fun _ => Empty) Reply :=
    ⟨(Store.empty.write (Call.IPAMRequest net30).key (.raw [1])).write
        (Call.IPAMRequest net30).key (.raw [3]),
      [.done (.address [10, 0, 0, 2]), .done (.address [10, 0, 0, 1])]⟩
  have hreach : twoInit.Reachable sys := by
    rw [hinit]
    refine .head (.move (i := 0) rfl (Move.get Phase.head_start)) ?_
    refine .head (.move (i := 1) rfl (Move.get Phase.head_start)) ?_
    refine .head (.move (i := 1) rfl (Move.get (Phase.head_decided_write hP0))) ?_
    refine .head (.move (i := 1) rfl (Move.putOk Phase.head_compared_absent
      (Store.cas_eq_some_iff.mpr ⟨rfl, rfl⟩))) ?_
    refine .head (.move (i := 1) rfl (Move.tau Phase.head_settling_returned)) ?_
    refine .head (.move (i := 0) rfl (Move.get (Phase.head_decided_write hP0))) ?_
    refine .head (.move (i := 0) rfl (Move.tau (Phase.head_compared_changed (by decide)))) ?_
    refine .head (.move (i := 0) rfl (Move.get Phase.head_start)) ?_
    refine .head (.move (i := 0) rfl (Move.get (Phase.head_decided_write hP1))) ?_
    refine .head (.move (i := 0) rfl (Move.putOk (Phase.head_compared_same rfl)
      (Store.cas_eq_some_iff.mpr ⟨rfl, rfl⟩))) ?_
    refine .head (.move (i := 0) rfl (Move.tau Phase.head_settling_returned)) ?_
    exact .refl
  obtain ⟨⟨hist, hnd, hret, hset, hrep, -⟩, -⟩ := allocators_linearizable
    (fun _ => Call.freshBitmap_of_v4 net30_v4)
    (fun i p hp => by
      rw [twoInit] at hp
      match i, hp with
      | 0, hp => exact (Option.some.inj hp).symm
      | 1, hp => exact (Option.some.inj hp).symm
      | j + 2, hp => simp at hp) hreach
  refine ⟨sys, hreach, rfl, hist, hrep, ?_⟩
  have hmem : ∀ e ∈ hist, e = (0, .returned (.address [10, 0, 0, 2])) ∨
      e = (1, .returned (.address [10, 0, 0, 1])) := by
    rintro ⟨i, o⟩ he
    obtain ⟨p, hp, hs⟩ := hset i o he
    match i, hp with
    | 0, hp =>
        simp only [sys, List.getElem?_cons_zero, Option.some.injEq] at hp
        subst hp
        exact .inl (by rw [Settles.done_inv hs])
    | 1, hp =>
        simp only [sys, List.getElem?_cons_succ, List.getElem?_cons_zero, Option.some.injEq] at hp
        subst hp
        exact .inr (by rw [Settles.done_inv hs])
    | j + 2, hp => simp [sys] at hp
  rcases eq_pair_of_mem (by decide) hnd (hret 0 _ rfl) (hret 1 _ rfl) hmem with rfl | rfl
  · obtain ⟨v, hv, -⟩ := Replays.cons_inv hrep
    have ho := congrArg Prod.snd hv
    dsimp only at ho
    exact absurd ho (by decide)
  · rfl

/-- `::ffff:10.0.0.0/126`, the same block as an IPv4-mapped IPv6 network. -/
def net126 : IPNet := ⟨IPv4 10 0 0 0, CIDRMask 126 128⟩

/-- A request on each form of the block. -/
def mixedCalls (i : Nat) : Call := if i = 0 then .IPAMRequest net30 else .IPAMRequest net126

def mixedInit : Sys Key Value Empty (fun _ => Empty) Reply :=
  ⟨Store.empty, [Prog.retry (mixedCalls 0).pass, Prog.retry (mixedCalls 1).pass]⟩

theorem mixed_subnets_not_linearizable :
    ParseCIDR "10.0.0.0/30" = some (IPv4 10 0 0 0, net30) ∧
      ParseCIDR "::ffff:10.0.0.0/126" = some (IPv4 10 0 0 0, net126) ∧
      ¬ (mixedCalls 1).FreshBitmap ∧
      ∃ sys, mixedInit.Reachable sys ∧
        ¬ ∃ hist : List (Nat × Outcome Reply),
          (hist.map Prod.fst).Nodup ∧
          (∀ i r, sys.threads[i]? = some (.done r) → (i, .returned r) ∈ hist) ∧
          (∀ i o, (i, o) ∈ hist → ∃ p, sys.threads[i]? = some p ∧ Settles p o) ∧
          Replays (fun i => ((mixedCalls i).key, Plan.seq (mixedCalls i).plan))
            mixedInit.store.value hist sys.store.value := by
  refine ⟨by decide, by decide, by decide, ?_⟩
  have hk : (mixedCalls 1).key = (mixedCalls 0).key := by decide
  have hP0 : (mixedCalls 0).plan none =
      .write (.raw [1]) (.raw []) (.returned (.address [10, 0, 0, 1])) := rfl
  have hP1 : (mixedCalls 1).plan none =
      .write (.raw []) (.raw []) (.returned (.address (IPv4 10 0 0 0))) := rfl
  have ht0 : (Prog.retry (mixedCalls 0).pass : Prog Key Value Empty (fun _ => Empty) Reply) =
      Phase.start.prog (mixedCalls 0).key (mixedCalls 0).plan := by rw [Call.pass_eq]; rfl
  have ht1 : (Prog.retry (mixedCalls 1).pass : Prog Key Value Empty (fun _ => Empty) Reply) =
      Phase.start.prog (mixedCalls 0).key (mixedCalls 1).plan := by rw [Call.pass_eq, hk]; rfl
  rw [show mixedInit = ⟨Store.empty, [Phase.start.prog (mixedCalls 0).key (mixedCalls 0).plan,
      Phase.start.prog (mixedCalls 0).key (mixedCalls 1).plan]⟩ by rw [mixedInit, ht0, ht1]]
  refine ⟨⟨(Store.empty.write (mixedCalls 0).key (.raw [])).write (mixedCalls 0).key (.raw [1]),
    [.done (.address [10, 0, 0, 1]), .done (.address (IPv4 10 0 0 0))]⟩, ?_, ?_⟩
  · refine .head (.move (i := 0) rfl (Move.get Phase.head_start)) ?_
    refine .head (.move (i := 1) rfl (Move.get Phase.head_start)) ?_
    refine .head (.move (i := 1) rfl (Move.get (Phase.head_decided_write hP1))) ?_
    refine .head (.move (i := 1) rfl (Move.putOk Phase.head_compared_absent
      (Store.cas_eq_some_iff.mpr ⟨rfl, rfl⟩))) ?_
    refine .head (.move (i := 1) rfl (Move.tau Phase.head_settling_returned)) ?_
    refine .head (.move (i := 0) rfl (Move.get (Phase.head_decided_write hP0))) ?_
    refine .head (.move (i := 0) rfl (Move.putOk (Phase.head_compared_same rfl)
      (Store.cas_eq_some_iff.mpr ⟨rfl, rfl⟩))) ?_
    refine .head (.move (i := 0) rfl (Move.tau Phase.head_settling_returned)) ?_
    exact .refl
  · rintro ⟨hist, hnd, hret, hset, hrep⟩
    have hmem : ∀ e ∈ hist, e = (0, .returned (.address [10, 0, 0, 1])) ∨
        e = (1, .returned (.address (IPv4 10 0 0 0))) := by
      rintro ⟨i, o⟩ he
      obtain ⟨p, hp, hs⟩ := hset i o he
      match i, hp with
      | 0, hp =>
          simp only [List.getElem?_cons_zero, Option.some.injEq] at hp
          subst hp
          exact .inl (by rw [Settles.done_inv hs])
      | 1, hp =>
          simp only [List.getElem?_cons_succ, List.getElem?_cons_zero, Option.some.injEq] at hp
          subst hp
          exact .inr (by rw [Settles.done_inv hs])
      | j + 2, hp => simp at hp
    rcases eq_pair_of_mem (by decide) hnd (hret 0 _ rfl) (hret 1 _ rfl) hmem with rfl | rfl
    · obtain ⟨v, hv, hrest⟩ := Replays.cons_inv hrep
      obtain rfl := (congrArg Prod.fst hv).symm
      obtain ⟨v', hv', hrest'⟩ := Replays.cons_inv hrest
      obtain rfl := (congrArg Prod.fst hv').symm
      exact absurd (congrFun (Replays.nil_inv hrest') (mixedCalls 0).key) (by decide)
    · obtain ⟨v, hv, hrest⟩ := Replays.cons_inv hrep
      obtain rfl := (congrArg Prod.fst hv).symm
      obtain ⟨v', hv', -⟩ := Replays.cons_inv hrest
      obtain rfl := (congrArg Prod.fst hv').symm
      exact absurd (congrArg Prod.snd hv') (by decide)
end System

end Daemon
