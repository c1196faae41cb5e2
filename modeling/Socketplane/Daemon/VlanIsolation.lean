import Socketplane.Daemon.Bridge
import Socketplane.Daemon.Gateway
import Socketplane.Lib.Kv.Hoare

/-! # No two networks share a VLAN

`CreateNetwork` gives a new network the VLAN `allocateVlan` takes from the bitmap
under `vlan/vlan`, and `DeleteNetwork` gives it back after deleting the record. Over
any sequence of these calls, and of calls that write IPAM bitmaps only, each run
alone against the store on whatever host, the stored networks keep distinct VLANs
between 1 and `vlanCount - 1`, each with its bit set (`VlanInv`). The converse does
not hold: a VLAN can stay set with no network stored for it
(`create_without_ovs_keeps_vlan`).
-/

namespace Daemon

open Net Kv Ecc Prog Bitmap

/-- A key of the IPAM bitmaps. -/
def IsIpamKey (k : Key) : Prop := k.store = dataStore

theorem vlanKey_ne_network (id : String) : vlanKey ≠ ⟨networkStore, id⟩ := fun h => by
  have hs : vlanStore = networkStore := congrArg Key.store h
  exact absurd hs (by decide)

theorem not_isIpamKey_vlan : ¬ IsIpamKey vlanKey := by
  show vlanStore ≠ dataStore
  decide

theorem not_isIpamKey_network (id : String) : ¬ IsIpamKey ⟨networkStore, id⟩ := by
  show networkStore ≠ dataStore
  decide

theorem isIpamKey_ipamKey (subnet : IPNet) : IsIpamKey (ipamKey subnet) := rfl

/-- Bit `v - 1` of the stored VLAN bitmap is set. -/
def VlanSet (st : Store Key Value) (v : Nat) : Prop :=
  ∃ b, st.value vlanKey = some (.raw b) ∧ bit b (v - 1) = true

/-- What the store keeps of networks and VLANs: records under `network/`, a bitmap of
`vlanCount` bits under `vlan/vlan`, a VLAN between 1 and `vlanCount - 1` with its bit
set for every stored network, and a different one for each. -/
structure VlanInv (st : Store Key Value) : Prop where
  records : ∀ id v, st.value ⟨networkStore, id⟩ = some v → ∃ n, v = .record n
  bitmap : ∀ v, st.value vlanKey = some v → vlanWf v
  held : ∀ id n, st.value ⟨networkStore, id⟩ = some (.record n) →
    1 ≤ n.Vlan ∧ n.Vlan < vlanCount ∧ VlanSet st n.Vlan
  distinct : ∀ id id' n n', st.value ⟨networkStore, id⟩ = some (.record n) →
    st.value ⟨networkStore, id'⟩ = some (.record n') → n.Vlan = n'.Vlan → id = id'

/-- The state of `CreateNetwork` once `allocateVlan` returned `v`: the invariant, and
`v` set in the bitmap with no stored network on it. -/
structure VlanInv.Reserved (st : Store Key Value) (v : Nat) : Prop where
  inv : VlanInv st
  pos : 1 ≤ v
  lt : v < vlanCount
  set : VlanSet st v
  unused : ∀ id n, st.value ⟨networkStore, id⟩ = some (.record n) → n.Vlan ≠ v

theorem VlanInv.empty : VlanInv (Store.empty : Store Key Value) where
  records _ _ h := by cases h
  bitmap _ h := by cases h
  held _ _ h := by cases h
  distinct _ _ _ _ h := by cases h

section Frame

variable {st st' : Store Key Value}

theorem VlanInv.of_sameOutside (h : VlanInv st) (hs : st.SameOutside IsIpamKey st') :
    VlanInv st' := by
  have hv : st'.value vlanKey = st.value vlanKey := hs _ not_isIpamKey_vlan
  have hn : ∀ id, st'.value ⟨networkStore, id⟩ = st.value ⟨networkStore, id⟩ :=
    fun id => hs _ (not_isIpamKey_network id)
  have hset : ∀ v, VlanSet st' v ↔ VlanSet st v := fun v => by rw [VlanSet, VlanSet, hv]
  refine ⟨fun id v hv' => h.records id v ((hn id).symm ▸ hv'),
    fun v hv' => h.bitmap v (hv ▸ hv'), fun id n hn' => ?_, fun id id' n n' h₁ h₂ => h.distinct id id' n n' ((hn id).symm ▸ h₁)
      ((hn id').symm ▸ h₂)⟩
  obtain ⟨h1, h2, h3⟩ := h.held id n ((hn id).symm ▸ hn')
  exact ⟨h1, h2, (hset _).mpr h3⟩

theorem VlanInv.Reserved.of_sameOutside {v : Nat} (h : VlanInv.Reserved st v)
    (hs : st.SameOutside IsIpamKey st') : VlanInv.Reserved st' v := by
  have hv : st'.value vlanKey = st.value vlanKey := hs _ not_isIpamKey_vlan
  have hn : ∀ id, st'.value ⟨networkStore, id⟩ = st.value ⟨networkStore, id⟩ :=
    fun id => hs _ (not_isIpamKey_network id)
  refine ⟨h.inv.of_sameOutside hs, h.pos, h.lt, ?_,
    fun id n hn' => h.unused id n ((hn id).symm ▸ hn')⟩
  obtain ⟨b, hb, hbit⟩ := h.set
  exact ⟨b, hv ▸ hb, hbit⟩

end Frame

/-! ## Taking and giving back a VLAN -/

/-- The bitmap `allocateVlan` and `releaseVlan` work on: the one read, or a fresh one
when the key is absent. -/
def vlanArray (v1 : Option Value) : List UInt8 :=
  if v1.isNone then List.replicate (vlanCount / 8) 0 else (v1.map Value.bytes).getD []

theorem allocPlan_eq (v1 : Option Value) :
    allocPlan v1 =
      match testAndSetBit (vlanArray v1) with
      | none => .crash
      | some (vlan, a) =>
          if vlan ≥ vlanCount then .finish (vlanCount, some "Vlan unavailable")
          else .write (.raw a) (.raw (copyInto (List.replicate (vlanCount / 8) 0)
            ((v1.map Value.bytes).getD []))) (.returned (vlan, none)) := rfl

theorem releaseVlanPlan_eq (vlan : Nat) (v1 : Option Value) :
    releaseVlanPlan vlan v1 =
      match clearBit (vlanArray v1) (uintPred vlan) with
      | none => .crash
      | some a => .write (.raw a) (.raw (copyInto (List.replicate (vlanCount / 8) 0)
          ((v1.map Value.bytes).getD []))) (.returned ()) := rfl

theorem bit_firstClear {a : List UInt8} {j : Nat} (h : firstClear a = some j) :
    bit a j = false := by
  rw [firstClear, List.find?_range_eq_some] at h
  simpa using h.1

section Alloc

variable {st : Store Key Value}

theorem VlanInv.array (h : VlanInv st) :
    (vlanArray (st.value vlanKey)).length = vlanCount / 8 ∧
      ∀ id n, st.value ⟨networkStore, id⟩ = some (.record n) →
        bit (vlanArray (st.value vlanKey)) (n.Vlan - 1) = true := by
  cases hv : st.value vlanKey with
  | none =>
      refine ⟨List.length_replicate, fun id n hn => ?_⟩
      obtain ⟨-, -, b, hb, -⟩ := h.held id n hn
      rw [hv] at hb
      cases hb
  | some v =>
      obtain ⟨b, rfl⟩ : ∃ b, v = .raw b := by
        cases v with
        | raw b => exact ⟨b, rfl⟩
        | record n => exact absurd (h.bitmap _ hv) id
      refine ⟨h.bitmap _ hv, fun id n hn => ?_⟩
      obtain ⟨-, -, b', hb', hbit⟩ := h.held id n hn
      rw [hv, Option.some.injEq, Value.raw.injEq] at hb'
      subst hb'
      exact hbit

/-- `allocateVlan`'s plan on a store that keeps the invariant: either no VLAN is left
below `vlanCount` and nothing is written, or it sets the bit of a VLAN no stored
network has, and writes the bitmap alone. -/
theorem VlanInv.alloc (h : VlanInv st) :
    Plan.apply vlanKey allocPlan st = (.returned (vlanCount, some "Vlan unavailable"), st) ∨
      ∃ v, (Plan.apply vlanKey allocPlan st).1 = .returned (v, none) ∧
        VlanInv.Reserved (Plan.apply vlanKey allocPlan st).2 v ∧
        st.SameOutside (· = vlanKey) (Plan.apply vlanKey allocPlan st).2 := by
  obtain ⟨hlen, hheld⟩ := h.array
  obtain ⟨r, hr, hspec⟩ := testAndSetBit_spec (vlanArray (st.value vlanKey))
  have hfull : (vlanArray (st.value vlanKey)).length * 8 = vlanCount := by
    rw [hlen]
    rfl
  unfold Plan.apply
  rw [allocPlan_eq, hr]
  cases hj : firstClear (vlanArray (st.value vlanKey)) with
  | none =>
      rw [hj] at hspec
      subst hspec
      left
      simp [hfull]
  | some j =>
      rw [hj] at hspec
      obtain ⟨hpos, hlen', hbits⟩ := hspec
      obtain ⟨vlan, a'⟩ := r
      dsimp only at hpos hlen' hbits ⊢
      subst hpos
      by_cases hlt : j + 1 ≥ vlanCount
      · left
        simp [hlt]
      · right
        rw [if_neg hlt]
        refine ⟨j + 1, rfl, ?_, (Store.SameOutside.refl (· = vlanKey) st).write rfl _⟩
        have hn : ∀ id, (st.write vlanKey (.raw a')).value ⟨networkStore, id⟩ =
            st.value ⟨networkStore, id⟩ := fun id =>
          Store.value_write_of_ne _ _ (vlanKey_ne_network id).symm
        have hv : (st.write vlanKey (.raw a')).value vlanKey = some (.raw a') :=
          Store.value_write_self _ _ _
        have hclear := bit_firstClear hj
        refine ⟨⟨fun id v hv' => h.records id v (hn id ▸ hv'), ?_, fun id n hn' => ?_,
          fun id id' n n' h₁ h₂ => h.distinct id id' n n' (hn id ▸ h₁) (hn id' ▸ h₂)⟩,
          by omega, by omega, ⟨a', hv, by simp [hbits]⟩, fun id n hn' hvl => ?_⟩
        · intro v hv'
          rw [hv, Option.some.injEq] at hv'
          subst hv'
          exact hlen'.trans hlen
        · obtain ⟨h1, h2, -⟩ := h.held id n (hn id ▸ hn')
          exact ⟨h1, h2, a', hv, by simp [hbits, hheld id n (hn id ▸ hn')]⟩
        · have hset := hheld id n (hn id ▸ hn')
          rw [hvl, Nat.add_sub_cancel, hclear] at hset
          cases hset

theorem VlanInv.release (h : VlanInv st) {v : Nat} (hv : v < vlanCount)
    (hfree : ∀ id n, st.value ⟨networkStore, id⟩ = some (.record n) → n.Vlan ≠ v) :
    VlanInv (Plan.apply vlanKey (releaseVlanPlan v) st).2 ∧
      st.SameOutside (· = vlanKey) (Plan.apply vlanKey (releaseVlanPlan v) st).2 := by
  obtain ⟨hlen, hheld⟩ := h.array
  unfold Plan.apply
  rw [releaseVlanPlan_eq]
  cases hc : clearBit (vlanArray (st.value vlanKey)) (uintPred v) with
  | none => exact ⟨h, Store.SameOutside.refl _ st⟩
  | some a' =>
      obtain ⟨hk, hlen', hbits⟩ := clearBit_eq_some_iff.mp hc
      dsimp only
      refine ⟨?_, (Store.SameOutside.refl (· = vlanKey) st).write rfl _⟩
      have hv0 : 0 < v := by
        rcases Nat.eq_zero_or_pos v with rfl | hpos
        · rw [uintPred_zero, hlen] at hk
          exact absurd hk (by decide)
        · exact hpos
      have hpred : uintPred v = v - 1 := uintPred_of_pos hv0 (by unfold vlanCount at hv; omega)
      have hn : ∀ id, (st.write vlanKey (.raw a')).value ⟨networkStore, id⟩ =
          st.value ⟨networkStore, id⟩ := fun id =>
        Store.value_write_of_ne _ _ (vlanKey_ne_network id).symm
      have hvk : (st.write vlanKey (.raw a')).value vlanKey = some (.raw a') :=
        Store.value_write_self _ _ _
      refine ⟨fun id v hv' => h.records id v (hn id ▸ hv'), ?_, fun id n hn' => ?_,
        fun id id' n n' h₁ h₂ => h.distinct id id' n n' (hn id ▸ h₁) (hn id' ▸ h₂)⟩
      · intro v' hv'
        rw [hvk, Option.some.injEq] at hv'
        subst hv'
        exact hlen'.trans hlen
      · obtain ⟨h1, h2, -⟩ := h.held id n (hn id ▸ hn')
        have hne : n.Vlan - 1 ≠ uintPred v := by
          have := hfree id n (hn id ▸ hn')
          omega
        exact ⟨h1, h2, a', hvk, by simp [hbits, hne, hheld id n (hn id ▸ hn')]⟩

end Alloc

/-! ## The calls, one at a time -/

section Calls

variable {σ Q : Type} {A : Q → Type} {env : Env σ Q A}

theorem writesWithin_IPAMRequest (subnet : IPNet) :
    WritesWithin env IsIpamKey (IPAMRequest subnet : Prog Key Value Q A Net.IP) := by
  unfold IPAMRequest
  rw [IPAMRequest.pass_eq]
  exact (WritesWithin.retry_casPass _ _).mono fun k hk => hk ▸ isIpamKey_ipamKey subnet

theorem writesWithin_IPAMRelease (address : Net.IP) (subnet : IPNet) :
    WritesWithin env IsIpamKey (IPAMRelease address subnet : Prog Key Value Q A Bool) := by
  unfold IPAMRelease
  rw [IPAMRelease.pass_eq]
  exact (WritesWithin.retry_casPass _ _).mono fun k hk => hk ▸ isIpamKey_ipamKey subnet

theorem writesWithin_releaseVlan (vlan : Nat) :
    WritesWithin env (· = vlanKey) (releaseVlan vlan : Prog Key Value Q A Unit) := by
  unfold releaseVlan
  rw [releaseVlan.pass_eq]
  exact WritesWithin.retry_casPass _ _

theorem triple_GetNetwork {env : Env σ HostReq HostReq.Answer} (id : String)
    (P : Store Key Value → Prop) :
    Triple env P (GetNetwork id) fun o s => P s ∧ ∃ network err, o = .returned (network, err) ∧
      (err = none → ∃ n, network = some n ∧ s.value ⟨networkStore, id⟩ = some (.record n)) ∧
      (err ≠ none → ∀ n, s.value ⟨networkStore, id⟩ ≠ some (.record n)) := by
  unfold GetNetwork Ecc.Get
  simp only [bind_eq, get_bind]
  apply Triple.get
  rintro (_ | c)
  · refine Triple.done fun s h => ⟨h.1, _, _, rfl, by simp, fun _ n hn => ?_⟩
    simp [Store.value, h.2] at hn
  · simp only [done_bind, if_true]
    cases hv : c.value with
    | record n =>
        refine Triple.done fun s h => ⟨h.1, _, _, rfl, fun _ => ⟨n, rfl, ?_⟩, by simp⟩
        simp [Store.value, h.2, hv]
    | raw b =>
        refine Triple.done fun s h => ⟨h.1, _, _, rfl, by simp, fun _ n hn => ?_⟩
        simp [Store.value, h.2, hv] at hn

/-- `allocateVlan` on a store that keeps the invariant: `Vlan unavailable` with the
store as it was, or a VLAN reserved for the caller; either way only the bitmap
changes, so what holds of the other keys still holds. -/
theorem triple_allocateVlan {F : Store Key Value → Prop}
    (hF : ∀ s s', F s → s.SameOutside (· = vlanKey) s' → F s') :
    Triple env (fun s => VlanInv s ∧ F s) (allocateVlan : Prog Key Value Q A _) fun o s' =>
      (o = .returned (vlanCount, some "Vlan unavailable") ∧ VlanInv s' ∧ F s') ∨
        ∃ v, o = .returned (v, none) ∧ VlanInv.Reserved s' v ∧ F s' := by
  unfold allocateVlan
  rw [allocateVlan.pass_eq]
  refine Triple.retry_casPass (fun s hs v _ _ _ hv hplan =>
    allocPlan_expected_eq (hs.1.bitmap v hv) hplan) fun s hs => ?_
  obtain ⟨hinv, hFs⟩ := hs
  rcases hinv.alloc with happ | ⟨v, ho, hres, hsame⟩
  · rw [happ]
    exact .inl ⟨rfl, hinv, hFs⟩
  · exact .inr ⟨v, ho, hres, hF s _ hFs hsame⟩

theorem triple_releaseVlan {F : Store Key Value → Prop} {v : Nat} (hv : v < vlanCount)
    (hF : ∀ s s', F s → s.SameOutside (· = vlanKey) s' → F s') :
    Triple env (fun s => VlanInv s ∧ F s ∧
        ∀ id n, s.value ⟨networkStore, id⟩ = some (.record n) → n.Vlan ≠ v)
      (releaseVlan v : Prog Key Value Q A Unit) fun _ s' => VlanInv s' ∧ F s' := by
  unfold releaseVlan
  rw [releaseVlan.pass_eq]
  refine Triple.retry_casPass (fun s hs v' _ _ _ hv' hplan =>
    releaseVlanPlan_expected_eq (hs.1.bitmap v' hv') hplan)
    fun s hs => ?_
  obtain ⟨hinv, hFs, hfree⟩ := hs
  obtain ⟨hinv', hsame⟩ := hinv.release hv hfree
  exact ⟨hinv', hF s _ hFs hsame⟩

end Calls

/-! ## Creating and deleting a network -/

section Network

variable {σ : Type} {env : Env σ HostReq HostReq.Answer}

theorem value_write_network {st : Store Key Value} {id id' : String} (v : Value) :
    (st.write ⟨networkStore, id⟩ v).value ⟨networkStore, id'⟩ =
      if id' = id then some v else st.value ⟨networkStore, id'⟩ := by
  by_cases h : id' = id
  · subst h
    simp
  · rw [if_neg h, Store.value_write_of_ne _ _ fun hk => h (congrArg Key.key hk)]

theorem VlanInv.Reserved.store {st : Store Key Value} {v : Nat} (h : VlanInv.Reserved st v)
    (id : String) {network : Network} (hv : network.Vlan = v) : VlanInv (st.write ⟨networkStore, id⟩ (.record network)) := by
  have hvk : (st.write ⟨networkStore, id⟩ (.record network)).value vlanKey = st.value vlanKey :=
    Store.value_write_of_ne _ _ (vlanKey_ne_network id)
  have hset : ∀ w, VlanSet st w → VlanSet (st.write ⟨networkStore, id⟩ (.record network)) w :=
    fun w hw => by
      obtain ⟨b, hb, hbit⟩ := hw
      exact ⟨b, hvk ▸ hb, hbit⟩
  refine ⟨fun id' x hx => ?_, fun x hx => h.inv.bitmap x (hvk ▸ hx), fun id' n hn => ?_,
    fun id₁ id₂ n₁ n₂ h₁ h₂ hvl => ?_⟩
  · rw [value_write_network] at hx
    split at hx
    · exact ⟨network, (Option.some.inj hx).symm⟩
    · exact h.inv.records id' x hx
  · rw [value_write_network] at hn
    split at hn
    · cases hn
      exact ⟨hv ▸ h.pos, hv ▸ h.lt, hset _ (hv ▸ h.set)⟩
    · obtain ⟨h1, h2, h3⟩ := h.inv.held id' n hn
      exact ⟨h1, h2, hset _ h3⟩
  · rw [value_write_network] at h₁ h₂
    split at h₁ <;> split at h₂
    · rename_i hid₁ hid₂
      rw [hid₁, hid₂]
    · cases h₁
      exact absurd (hvl.symm.trans hv) (h.unused id₂ n₂ h₂)
    · cases h₂
      exact absurd (hvl.trans hv) (h.unused id₁ n₁ h₁)
    · exact h.inv.distinct id₁ id₂ n₁ n₂ h₁ h₂ hvl

/-- What `CreateNetwork` and `DeleteNetwork` need of a property `G` of the store kept
beside the VLAN invariant: it survives the writes of the VLAN bitmap and the write and
the erasure of a network record. -/
structure NetFrame (G : Store Key Value → Prop) : Prop where
  vlan : ∀ s s', G s → s.SameOutside (· = vlanKey) s' → G s'
  write : ∀ s id n, G s → G (s.write ⟨networkStore, id⟩ (.record n))
  erase : ∀ s id, G s → G (s.erase ⟨networkStore, id⟩)

theorem NetFrame.of_ipam {G : Store Key Value → Prop}
    (hG : ∀ s s', G s → (∀ k, IsIpamKey k → s'.value k = s.value k) → G s') : NetFrame G where
  vlan s s' h hsame := hG s s' h fun k hk => hsame k fun he => not_isIpamKey_vlan (he ▸ hk)
  write s id _ h := hG s _ h fun _ hk =>
    Store.value_write_of_ne _ _ fun he => not_isIpamKey_network id (he ▸ hk)
  erase s id h := hG s _ h fun _ hk =>
    Store.value_erase_of_ne _ fun he => not_isIpamKey_network id (he ▸ hk)

theorem NetFrame.true : NetFrame fun _ => True := NetFrame.of_ipam fun _ _ _ _ => trivial

variable {G H : Store Key Value → Prop}

/-- The record write of `CreateNetwork`: under an id that holds nothing, the write
with index 0 takes effect, so the branch that gives the VLAN back and starts over is
never taken. -/
theorem triple_CreateNetwork_store (hG : NetFrame G) {v : Nat} {id : String} {subnet : IPNet}
    {gateway : Net.IP} {network : Network} (hv : network.Vlan = v) :
    Triple env (fun s => (VlanInv.Reserved s v ∧ s.value ⟨networkStore, id⟩ = none) ∧ G s)
      (CreateNetwork.store id subnet gateway network)
      fun o s => (VlanInv s ∧ G s) ∧ ∀ x, o ≠ .returned (.inl x) := by
  unfold CreateNetwork.store Ecc.Put
  simp only [bind_eq, get_bind]
  apply Triple.get
  rintro (_ | c)
  · simp only [put_bind]
    apply Triple.put
    · refine Triple.mono (P := fun s => VlanInv s ∧ G s) ?_ (fun s₁ h => by
        obtain ⟨s, ⟨⟨⟨hres, -⟩, hGs⟩, -⟩, hcas⟩ := h
        rw [(Store.cas_eq_some_iff.mp hcas).2]
        exact ⟨hres.store id hv, hG.write s id network hGs⟩) fun _ _ h => h
      simp only [Ecc.Put.reply, done_bind]
      rw [if_neg (by decide)]
      refine Triple.call fun e => ?_
      simp only [done_bind]
      split <;> exact Triple.done fun _ h => ⟨h, by simp⟩
    · refine Triple.of_not fun s h => ?_
      obtain ⟨⟨-, hc⟩, hcas⟩ := h
      rw [Store.cas, if_pos ((Store.index_eq_zero_iff s _).mpr hc)] at hcas
      cases hcas
  · refine Triple.of_not fun s h => ?_
    obtain ⟨⟨⟨-, habs⟩, -⟩, hc⟩ := h
    simp [Store.value, hc] at habs

theorem triple_request {β : Type} {P : Store Key Value → Prop}
    {R : Outcome β → Store Key Value → Prop} {q : HostReq} {next : q.Answer → NetProg β}
    (h : ∀ a, Triple env P (next a) R) : Triple env P (request q >>= next) R :=
  Triple.call fun _ => h _

theorem triple_CreateNetwork_newIface (hG : NetFrame G) {subnet : IPNet}
    (hreq : Triple env (fun s => G s ∧ H s) (IPAMRequest subnet : NetProg Net.IP) fun _ s => G s)
    {v : Nat} (id : String) :
    Triple env (fun s => (VlanInv.Reserved s v ∧ s.value ⟨networkStore, id⟩ = none) ∧ G s ∧ H s)
      (CreateNetwork.newIface id subnet v)
      fun o s => (VlanInv s ∧ G s) ∧ ∀ x, o ≠ .returned (.inl x) := by
  unfold CreateNetwork.newIface
  refine triple_request fun connected => ?_
  split
  · exact Triple.done fun _ h => ⟨⟨h.1.1.inv, h.2.1⟩, by simp⟩
  · have hframe : Triple env (fun s => (VlanInv.Reserved s v ∧ s.value ⟨networkStore, id⟩ = none) ∧
        G s ∧ H s) (IPAMRequest subnet) fun _ s =>
          VlanInv.Reserved s v ∧ s.value ⟨networkStore, id⟩ = none :=
      ((writesWithin_IPAMRequest subnet).triple fun s s' h hsame =>
        ⟨h.1.of_sameOutside hsame, (hsame _ (not_isIpamKey_network id)).trans h.2⟩).mono
        (fun _ h => h.1) fun _ _ h => h
    refine Triple.bind (M := fun _ s => (VlanInv.Reserved s v ∧
        s.value ⟨networkStore, id⟩ = none) ∧ G s)
      ((hframe.and (hreq.mono (fun _ h => h.2) fun _ _ h => h)).mono (fun _ h => h)
        fun o s h => ?_) fun gateway => ?_
    · cases o
      · exact h
      · exact ⟨⟨h.1.1.inv, h.2⟩, by simp⟩
    iterate 4
      refine triple_request fun err => ?_
      rcases err with _ | err
      swap
      · exact Triple.done fun _ h => ⟨⟨h.1.1.inv, h.2⟩, by simp⟩
      dsimp only
    exact triple_CreateNetwork_store hG rfl

theorem VlanInv.absent {st : Store Key Value} (h : VlanInv st) {id : String}
    (hnot : ∀ n, st.value ⟨networkStore, id⟩ ≠ some (.record n)) :
    st.value ⟨networkStore, id⟩ = none := by
  cases hv : st.value ⟨networkStore, id⟩ with
  | none => rfl
  | some x =>
      obtain ⟨n, rfl⟩ := h.records id x hv
      exact absurd hv (hnot n)

theorem triple_CreateNetwork_pass (hG : NetFrame G) (hH : NetFrame H) {subnet : IPNet}
    (hreq : Triple env (fun s => G s ∧ H s) (IPAMRequest subnet : NetProg Net.IP) fun _ s => G s)
    (id : String) :
    Triple env (fun s => VlanInv s ∧ G s ∧ H s) (CreateNetwork.pass id subnet)
      fun o s => (VlanInv s ∧ G s) ∧ ∀ x, o ≠ .returned (.inl x) := by
  unfold CreateNetwork.pass
  have hget : Triple env (fun s => VlanInv s ∧ G s ∧ H s) (GetNetwork id)
      (ThenPost (β := IPNet ⊕ (Option Network × Option String))
        (fun r s => (VlanInv s ∧ G s ∧ H s) ∧ (r.2 ≠ none → s.value ⟨networkStore, id⟩ = none))
        fun o s => (VlanInv s ∧ G s) ∧ ∀ x, o ≠ .returned (.inl x)) :=
    (triple_GetNetwork id _).mono (fun _ h => h) fun o s h => by
      obtain ⟨hs, network, err, ho, -, hnot⟩ := h
      subst ho
      exact ⟨hs, fun herr => hs.1.absent (hnot herr)⟩
  refine Triple.bind hget fun r => ?_
  obtain ⟨network, err⟩ := r
  dsimp only
  split
  · exact Triple.done fun _ h => ⟨⟨h.1.1, h.1.2.1⟩, by simp⟩
  · rename_i herr
    have hF : ∀ s s' : Store Key Value, (s.value ⟨networkStore, id⟩ = none ∧ G s ∧ H s) →
        s.SameOutside (· = vlanKey) s' → s'.value ⟨networkStore, id⟩ = none ∧ G s' ∧ H s' :=
      fun s s' h hsame => ⟨(hsame _ fun hk => vlanKey_ne_network id hk.symm).trans h.1,
        hG.vlan s s' h.2.1 hsame, hH.vlan s s' h.2.2 hsame⟩
    have halloc : Triple env (fun s => (VlanInv s ∧ G s ∧ H s) ∧
          (err ≠ none → s.value ⟨networkStore, id⟩ = none)) allocateVlan
        (ThenPost (β := IPNet ⊕ (Option Network × Option String))
          (fun r s => (r.2 = none → VlanInv.Reserved s r.1 ∧
            s.value ⟨networkStore, id⟩ = none ∧ G s ∧ H s) ∧ VlanInv s ∧ G s)
          fun o s => (VlanInv s ∧ G s) ∧ ∀ x, o ≠ .returned (.inl x)) :=
      Triple.mono (triple_allocateVlan hF)
        (fun s h => ⟨h.1.1, h.2 fun he => herr (Option.isNone_iff_eq_none.mpr he), h.1.2⟩)
        fun o s h => by
          rcases h with ⟨rfl, hinv, hFs⟩ | ⟨v, rfl, hres, hFs⟩
          · exact ⟨fun h => absurd h (by simp), hinv, hFs.2.1⟩
          · exact ⟨fun _ => ⟨hres, hFs⟩, hres.inv, hFs.2.1⟩
    refine Triple.bind halloc fun r => ?_
    obtain ⟨vlan, err'⟩ := r
    dsimp only
    cases err' with
    | some err' => exact Triple.done fun _ h => ⟨h.2, by simp⟩
    | none =>
        dsimp only
        refine Triple.mono (P := fun s => (VlanInv.Reserved s vlan ∧
          s.value ⟨networkStore, id⟩ = none) ∧ G s ∧ H s) ?_ (fun s h => by
            obtain ⟨hres, habs, hGs, hHs⟩ := h.1 rfl
            exact ⟨⟨hres, habs⟩, hGs, hHs⟩) fun _ _ h => h
        refine triple_request fun addr => ?_
        rcases addr with _ | addr
        · exact triple_CreateNetwork_newIface hG hreq id
        · dsimp only
          split
          · exact Triple.done fun _ h => ⟨⟨h.1.1.inv, h.2.1⟩, by simp⟩
          · exact (triple_CreateNetwork_store hG rfl).mono (fun _ h => ⟨h.1, h.2.1⟩)
              fun _ _ h => h

theorem triple_CreateNetwork (hG : NetFrame G) (hH : NetFrame H) {subnet : IPNet}
    (hreq : Triple env (fun s => G s ∧ H s) (IPAMRequest subnet : NetProg Net.IP) fun _ s => G s)
    (id : String) :
    Triple env (fun s => VlanInv s ∧ G s ∧ H s) (CreateNetwork id subnet)
      fun _ s => VlanInv s ∧ G s := by
  refine (Triple.iter (I := fun x s => x = subnet ∧ VlanInv s ∧ G s ∧ H s) (fun x => ?_)
    subnet).mono (fun _ h => ⟨rfl, h⟩) fun _ _ h => h
  by_cases hx : x = subnet
  · subst hx
    refine (triple_CreateNetwork_pass hG hH hreq id).mono (fun _ h => h.2) fun o s h => ?_
    rcases o with (x' | b) | _
    · exact absurd rfl (h.2 x')
    · exact h.1
    · exact h.1
  · exact Triple.of_not fun s h => hx h.1

theorem triple_CreateNetwork_vlan (id : String) (subnet : IPNet) :
    Triple env VlanInv (CreateNetwork id subnet) fun _ s => VlanInv s :=
  (triple_CreateNetwork NetFrame.true NetFrame.true (fun _ _ _ _ _ _ _ => trivial) id).mono
    (fun _ h => ⟨h, trivial, trivial⟩) fun _ _ h => h.1

theorem triple_CreateDefaultNetwork (routes : Except String (List (Option IPNet))) :
    Triple env VlanInv (CreateDefaultNetwork routes) fun _ s => VlanInv s := by
  unfold CreateDefaultNetwork
  split
  · exact Triple.crash fun _ h => h
  · exact Triple.done fun _ h => h
  · exact triple_CreateNetwork_vlan _ _

theorem value_erase_network {st : Store Key Value} {id id' : String} :
    (st.erase ⟨networkStore, id⟩).value ⟨networkStore, id'⟩ =
      if id' = id then none else st.value ⟨networkStore, id'⟩ := by
  by_cases h : id' = id
  · subst h
    simp
  · rw [if_neg h, Store.value_erase_of_ne _ fun hk => h (congrArg Key.key hk)]

theorem VlanInv.erase {st : Store Key Value} (h : VlanInv st) {id : String} {n : Network}
    (hn : st.value ⟨networkStore, id⟩ = some (.record n)) :
    VlanInv (st.erase ⟨networkStore, id⟩) ∧
      ∀ id' n', (st.erase ⟨networkStore, id⟩).value ⟨networkStore, id'⟩ = some (.record n') →
        n'.Vlan ≠ n.Vlan := by
  have hvk : (st.erase ⟨networkStore, id⟩).value vlanKey = st.value vlanKey :=
    Store.value_erase_of_ne _ (vlanKey_ne_network id)
  have hkeep : ∀ id' x, (st.erase ⟨networkStore, id⟩).value ⟨networkStore, id'⟩ = some x →
      id' ≠ id ∧ st.value ⟨networkStore, id'⟩ = some x := fun id' x hx => by
    rw [value_erase_network] at hx
    split at hx
    · cases hx
    · rename_i hid
      exact ⟨hid, hx⟩
  refine ⟨⟨fun id' x hx => h.records id' x (hkeep id' x hx).2,
    fun x hx => h.bitmap x (hvk ▸ hx), fun id' n' hn' => ?_,
    fun id₁ id₂ n₁ n₂ h₁ h₂ => h.distinct id₁ id₂ n₁ n₂ (hkeep _ _ h₁).2 (hkeep _ _ h₂).2⟩,
    fun id' n' hn' hvl => (hkeep _ _ hn').1 (h.distinct _ _ _ _ (hkeep _ _ hn').2 hn hvl)⟩
  obtain ⟨h1, h2, b, hb, hbit⟩ := h.held id' n' (hkeep _ _ hn').2
  exact ⟨h1, h2, b, hvk ▸ hb, hbit⟩

theorem triple_DeleteNetwork (hG : NetFrame G) (id : String) :
    Triple env (fun s => VlanInv s ∧ G s) (DeleteNetwork id) fun _ s => VlanInv s ∧ G s := by
  unfold DeleteNetwork
  have hget : Triple env (fun s => VlanInv s ∧ G s) (GetNetwork id) (ThenPost (β := Option String)
      (fun r s => (VlanInv s ∧ G s) ∧ (r.2 = none → ∃ n, r.1 = some n ∧
        s.value ⟨networkStore, id⟩ = some (.record n))) fun _ s => VlanInv s ∧ G s) :=
    (triple_GetNetwork id _).mono (fun _ h => h) fun o s h => by
      obtain ⟨hs, network, err, ho, hfound, -⟩ := h
      subst ho
      exact ⟨hs, hfound⟩
  refine Triple.bind hget fun r => ?_
  obtain ⟨network, err⟩ := r
  dsimp only
  split
  · exact Triple.done fun _ h => h.1
  · exact Triple.crash fun _ h => h.1
  · rename_i network
    refine Triple.mono (P := fun s => (VlanInv s ∧ G s) ∧
      s.value ⟨networkStore, id⟩ = some (.record network)) ?_ (fun s h => by
        obtain ⟨hs, hfound⟩ := h
        obtain ⟨n, hn, hv⟩ := hfound rfl
        cases hn
        exact ⟨hs, hv⟩) fun _ _ h => h
    refine triple_request fun connected => ?_
    split
    · exact Triple.done fun _ h => h.1
    · unfold Ecc.Delete
      simp only [bind_eq, del_bind]
      apply Triple.del
      simp only [done_bind, ne_eq, not_true_eq_false, if_false]
      intro s₁ e o s' e' hpre hrun
      obtain ⟨s, ⟨⟨hinv, hGs⟩, hn⟩, hs₁⟩ := hpre
      subst hs₁
      obtain ⟨-, hlt, -⟩ := hinv.held id network hn
      obtain ⟨hinv', hfree⟩ := hinv.erase hn
      have hrel : Triple env (fun s => VlanInv s ∧ G s ∧ ∀ id n,
          s.value ⟨networkStore, id⟩ = some (.record n) → n.Vlan ≠ network.Vlan)
          (releaseVlan network.Vlan) (ThenPost (β := Option String) (fun _ s => VlanInv s ∧ G s)
            fun _ s => VlanInv s ∧ G s) :=
        (triple_releaseVlan hlt hG.vlan).mono (fun _ h => h) fun o s h => by
          cases o <;> exact h
      exact Triple.bind hrel (fun _ => triple_request fun _ => Triple.done fun _ h => h)
        ⟨hinv', hG.erase s id hGs, hfree⟩ hrun

end Network


/-! ## Connection rounds write IPAM bitmaps only

`AddConnection` and `DeleteConnection` read the network record and write nothing but
the bitmap of the subnet they take an address from or give one back to. -/

section Connections

variable {σ : Type} {env : Env σ BridgeReq BridgeReq.Answer}

theorem writesWithin_bridgeRequest {β : Type} {q : BridgeReq} {next : q.Answer → BridgeProg β}
    (h : ∀ a, WritesWithin env IsIpamKey (next a)) :
    WritesWithin env IsIpamKey (bridgeRequest q >>= next) :=
  WritesWithin.call fun _ => h _

theorem writesWithin_GetNetwork (id : String) :
    WritesWithin env IsIpamKey (fromNetwork (GetNetwork id)) :=
  WritesWithin.get fun c => by
    rcases c with _ | ⟨_ | _, _⟩ <;> exact .done _

theorem writesWithin_createOvsInternalPort (pre bridge : String) (tag : Nat) :
    WritesWithin env IsIpamKey (createOvsInternalPort pre bridge tag) :=
  writesWithin_bridgeRequest fun name => by
    rcases name with err | port
    · exact .done _
    · refine writesWithin_bridgeRequest fun connected => ?_
      split
      · exact .done _
      · exact writesWithin_bridgeRequest fun _ => .done _

theorem writesWithin_orFail (conn : OvsConnection) (err : Option String)
    {k : BridgeProg (OvsConnection × Option String)} (hk : WritesWithin env IsIpamKey k) :
    WritesWithin env IsIpamKey (AddConnection.orFail conn err k) := by
  rcases err with _ | err
  · exact hk
  · exact .done _

theorem writesWithin_configure (nspid : Int) (portName ipText subnetPrefix mac gateway : String)
    (conn : OvsConnection) :
    WritesWithin env IsIpamKey
      (AddConnection.configure nspid portName ipText subnetPrefix mac gateway conn) := by
  unfold AddConnection.configure
  iterate 13
    refine writesWithin_bridgeRequest fun err => writesWithin_orFail conn err ?_
  exact .done _

theorem writesWithin_AddConnection (nspid : Int) (networkName : String) :
    WritesWithin env IsIpamKey (AddConnection nspid networkName) := by
  unfold AddConnection
  dsimp only
  split
  · exact .done _
  refine WritesWithin.bind (writesWithin_GetNetwork _) ?_
  rintro ⟨bridgeNetwork, err⟩
  dsimp only
  split
  · exact .done _
  · exact .crash
  refine WritesWithin.bind (writesWithin_createOvsInternalPort _ _ _) ?_
  rintro ⟨portName, err⟩
  dsimp only
  split
  · exact .done _
  split
  · exact .crash
  exact (writesWithin_IPAMRequest _).bind fun _ => writesWithin_configure _ _ _ _ _ _ _

theorem writesWithin_DeleteConnection (connection : OvsConnection) :
    WritesWithin env IsIpamKey (DeleteConnection connection) := by
  unfold DeleteConnection
  refine writesWithin_bridgeRequest fun connected => ?_
  split
  · exact .done _
  refine writesWithin_bridgeRequest fun _ => ?_
  dsimp only
  split
  · exact .crash
  exact (writesWithin_IPAMRelease _ _).bind fun _ => .done _

theorem writesWithin_handle (d : Daemon) (c : ConnectionContext) :
    WritesWithin env IsIpamKey (ConnectionRPCHandler.handle d c) := by
  unfold ConnectionRPCHandler.handle
  split
  · exact (writesWithin_AddConnection _ _).bind fun _ => .done _
  split
  · exact .done _
  split
  · exact (writesWithin_DeleteConnection _).bind fun _ => .done _
  exact .done _
end Connections

/-! ## Sessions -/

/-- A sequence of calls against one store, each run to its end alone on a host of its
own: network creations (the default network's too) and deletions, rounds of the connection handler, and any
program that writes IPAM bitmaps only. -/
inductive NetSession : Store Key Value → Store Key Value → Prop
  | nil {st : Store Key Value} : NetSession st st
  | create {st st₁ st' : Store Key Value} {σ : Type} (env : Env σ HostReq HostReq.Answer)
      {e e₁ : σ} (id : String) (subnet : IPNet) {o : Outcome (Option Network × Option String)} :
      Runs false env (CreateNetwork id subnet) st e o st₁ e₁ → NetSession st₁ st' →
        NetSession st st'
  | createDefault {st st₁ st' : Store Key Value} {σ : Type} (env : Env σ HostReq HostReq.Answer)
      {e e₁ : σ} (routes : Except String (List (Option IPNet)))
      {o : Outcome (Option Network × Option String)} :
      Runs false env (CreateDefaultNetwork routes) st e o st₁ e₁ → NetSession st₁ st' →
        NetSession st st'
  | delete {st st₁ st' : Store Key Value} {σ : Type} (env : Env σ HostReq HostReq.Answer)
      {e e₁ : σ} (id : String) {o : Outcome (Option String)} :
      Runs false env (DeleteNetwork id) st e o st₁ e₁ → NetSession st₁ st' → NetSession st st'
  | connection {st st₁ st' : Store Key Value} {σ : Type}
      (env : Env σ BridgeReq BridgeReq.Answer) {e e₁ : σ} (d : Daemon) (c : ConnectionContext)
      {o : Outcome (Daemon × Option Connection)} :
      Runs false env (ConnectionRPCHandler.handle d c) st e o st₁ e₁ → NetSession st₁ st' →
        NetSession st st'
  | ipam {st st₁ st' : Store Key Value} {σ Q : Type} {A : Q → Type} (env : Env σ Q A)
      {α : Type} (p : Prog Key Value Q A α) {e e₁ : σ} {o : Outcome α} :
      WritesWithin env IsIpamKey p → Runs false env p st e o st₁ e₁ → NetSession st₁ st' →
        NetSession st st'

theorem NetSession.inv {st st' : Store Key Value} (h : NetSession st st') (hinv : VlanInv st) :
    VlanInv st' := by
  induction h with
  | nil => exact hinv
  | create env id subnet hrun _ ih => exact ih (triple_CreateNetwork_vlan id subnet hinv hrun)
  | createDefault env routes hrun _ ih => exact ih (triple_CreateDefaultNetwork routes hinv hrun)
  | delete env id hrun _ ih => exact ih (triple_DeleteNetwork NetFrame.true id ⟨hinv, trivial⟩ hrun).1
  | connection env d c hrun _ ih =>
      exact ih (hinv.of_sameOutside ((writesWithin_handle d c).of_run hrun))
  | ipam env p hw hrun _ ih => exact ih (hinv.of_sameOutside (hw.of_run hrun))

/-- After any session from the empty store, every stored network has a VLAN between 1
and `vlanCount - 1` with its bit set in the bitmap, and no other stored network has
the same VLAN. -/
theorem networks_have_distinct_vlans {st : Store Key Value} (h : NetSession Store.empty st)
    {id id' : String} {n n' : Network} (hn : st.value ⟨networkStore, id⟩ = some (.record n))
    (hn' : st.value ⟨networkStore, id'⟩ = some (.record n')) :
    1 ≤ n.Vlan ∧ n.Vlan < vlanCount ∧ VlanSet st n.Vlan ∧ (n.Vlan = n'.Vlan → id = id') := by
  have hinv : VlanInv st := h.inv VlanInv.empty
  obtain ⟨h1, h2, h3⟩ := hinv.held id n hn
  exact ⟨h1, h2, h3, hinv.distinct id id' n n' hn hn'⟩

set_option maxRecDepth 100000 in
/-- Creating `n1` on `10.1.0.0/24` and then `n2` on `10.0.0.0/30` from the empty store
gives `n2` VLAN 2, set in the bitmap, and `n1` VLAN 1. -/
theorem two_networks_distinct_vlans :
    ∃ st, NetSession Store.empty st ∧
      st.value ⟨networkStore, "n1"⟩ = some (.record ⟨"n1", "10.1.0.0/24", "10.1.0.1", 1⟩) ∧
      st.value ⟨networkStore, "n2"⟩ = some (.record ⟨"n2", "10.0.0.0/30", "10.0.0.1", 2⟩) ∧
      1 ≤ 2 ∧ 2 < vlanCount ∧ VlanSet st 2 ∧ (2 = 1 → "n2" = "n1") := by
  let st₁ := (run freshEnv 200 (CreateNetwork "n1" net24) Store.empty ()).2.1
  let st₂ := (run freshEnv 200 (CreateNetwork "n2" net30) st₁ ()).2.1
  have hrun₁ : Runs false freshEnv (CreateNetwork "n1" net24) Store.empty ()
      (.returned (some ⟨"n1", "10.1.0.0/24", "10.1.0.1", 1⟩, none)) st₁ _ :=
    Runs.of_run_fst 200 (by decide)
  have hrun₂ : Runs false freshEnv (CreateNetwork "n2" net30) st₁ ()
      (.returned (some ⟨"n2", "10.0.0.0/30", "10.0.0.1", 2⟩, none)) st₂ _ :=
    Runs.of_run_fst 200 (by decide)
  have hs : NetSession Store.empty st₂ :=
    .create freshEnv "n1" net24 hrun₁ (.create freshEnv "n2" net30 hrun₂ .nil)
  have hn₁ : st₂.value ⟨networkStore, "n1"⟩ =
      some (.record ⟨"n1", "10.1.0.0/24", "10.1.0.1", 1⟩) := by decide +kernel
  have hn₂ : st₂.value ⟨networkStore, "n2"⟩ =
      some (.record ⟨"n2", "10.0.0.0/30", "10.0.0.1", 2⟩) := by decide +kernel
  exact ⟨st₂, hs, hn₁, hn₂, networks_have_distinct_vlans hs hn₂ hn₁⟩

end Daemon
