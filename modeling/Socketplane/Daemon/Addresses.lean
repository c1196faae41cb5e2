import Socketplane.Daemon.VlanIsolation

/-! # Connections hold distinct addresses

Each add round of the connection handler takes an address from `IPAMRequest` on the
subnet of the network it names and records it in the connection's details, as the
address's text and the last three characters of the subnet's text; each delete round
gives the address back with `IPAMRelease` on the subnet it parses from that text.
Over a session of network creations and deletions and of such rounds, for subnets
whose prefix length has two digits and requests made while an address is free, the
bitmaps of the subnets (`Pools`) record a list of held addresses per subnet, and the
daemon's connections (`Recorded`) name held addresses, no two the same one. A
delete round keeps the others held since no other connection names the address it
gives back.
-/

namespace Daemon

open Net Kv Ecc ByteNum Bitmap Prog

section Pools

variable {s s' : IPNet} {p p' : Nat}

theorem ipamKey_inj (hs : V4Prefix s p) (hs' : V4Prefix s' p') (h : ipamKey s = ipamKey s') :
    s = s' := by
  have htext : s.String = s'.String := congrArg Key.key h
  have hparse := hs.ParseCIDR_String
  rw [htext, hs'.ParseCIDR_String] at hparse
  exact (Prod.mk.inj (Option.some.inj hparse)).2.symm

/-- The pools of a session: under the key of every IPv4 subnet whose prefix length has
two digits, what a session of requests and releases keeps for the addresses `H s`. -/
def Pools (H : IPNet → List Net.IP) (st : Store Key Value) : Prop :=
  ∀ s p, V4Prefix s p → 10 ≤ p → SessionInv s p (st.value (ipamKey s)) (H s)

variable {H : IPNet → List Net.IP} {st st' : Store Key Value}

theorem Pools.empty : Pools (fun _ => []) Store.empty := fun s _ _ _ => by
  rw [Store.value_empty]
  rfl

theorem Pools.of_ipam (h : Pools H st) (hsame : ∀ k, IsIpamKey k → st'.value k = st.value k) :
    Pools H st' := fun s p hs hp => by
  rw [hsame _ (isIpamKey_ipamKey s)]
  exact h s p hs hp

theorem Pools.write (h : Pools H st) (hs : V4Prefix s p) {v : Value} {held : List Net.IP}
    (hv : SessionInv s p (some v) held) :
    Pools (Function.update H s held) (st.write (ipamKey s) v) := fun s' p' hs' hp' => by
  by_cases hss : s' = s
  · subst hss
    rw [← hs.unique hs', Store.value_write_self, Function.update_self]
    exact hv
  · have hk : ipamKey s' ≠ ipamKey s := fun hk => hss (ipamKey_inj hs' hs hk)
    rw [Store.value_write_of_ne _ _ hk, Function.update_of_ne hss]
    exact h s' p' hs' hp'

/-- Some address of `s` other than its network address has its bit clear in the
subnet's bitmap, or there is no bitmap yet. -/
def FreeIn (st : Store Key Value) (s : IPNet) : Prop :=
  ∃ o, 0 < o ∧ o < 2 ^ (bitCount s).toNat ∧
    ∀ b, st.value (ipamKey s) = some (.raw b) → bit b (o - 1) = false

theorem FreeIn.of_ipam (h : FreeIn st s) (hsame : ∀ k, IsIpamKey k → st'.value k = st.value k) :
    FreeIn st' s := by
  unfold FreeIn
  rw [hsame _ (isIpamKey_ipamKey s)]
  exact h

theorem FreeIn.of_bitmap {b : List UInt8} {o : Nat} (hv : st.value (ipamKey s) = some (.raw b))
    (ho : 0 < o) (hlt : o < 2 ^ (bitCount s).toNat) (hbit : bit b (o - 1) = false) :
    FreeIn st s :=
  ⟨o, ho, hlt, fun b' hb' => by
    rw [hv] at hb'
    cases hb'
    exact hbit⟩

theorem FreeIn.of_none (hv : st.value (ipamKey s) = none) (hlt : 1 < 2 ^ (bitCount s).toNat) :
    FreeIn st s :=
  ⟨1, Nat.one_pos, hlt, fun b hb => by
    rw [hv] at hb
    cases hb⟩

theorem SessionInv.hasFree (hs : V4Prefix s p) {held : List Net.IP}
    (hinv : SessionInv s p (st.value (ipamKey s)) held) (hfree : FreeIn st s) :
    HasFree s p held := by
  obtain ⟨o, ho0, ho, hclear⟩ := hfree
  have hbits : (bitCount s).toNat = 32 - p := by
    have := bitCount_v4 hs
    omega
  rw [hbits] at ho
  refine ⟨o, ho0, ho, fun a ha hval => ?_⟩
  cases hv : st.value (ipamKey s) with
  | none =>
      rw [hv] at hinv
      cases (hinv : held = [])
      cases ha
  | some v =>
      obtain ⟨b, rfl⟩ := SessionInv.raw (hv ▸ hinv)
      have hr : Records s p b held := by
        rw [hv] at hinv
        exact hinv
      have hset := (hr.bit_iff (o - 1)).mpr ⟨by omega, a, ha, by rw [hval, Nat.sub_add_cancel ho0]⟩
      rw [hclear b hv] at hset
      cases hset

theorem subset_update_cons (H : IPNet → List Net.IP) (s : IPNet) (ip : Net.IP) (s' : IPNet) :
    H s' ⊆ Function.update H s (ip :: H s) s' := by
  by_cases hss : s' = s
  · subst hss
    rw [Function.update_self]
    exact List.subset_cons_self _ _
  · rw [Function.update_of_ne hss]
    exact List.Subset.refl _

variable {σ Q : Type} {A : Q → Type} {env : Env σ Q A}

theorem triple_IPAMRequest (hs : V4Prefix s p) (hp : 10 ≤ p) :
    Triple env (fun st => Pools H st ∧ FreeIn st s) (IPAMRequest s) fun o st =>
      ∃ ip, o = .returned ip ∧ ip.length = 4 ∧ s.Contains ip = true ∧ ip ∉ H s ∧
        Pools (Function.update H s (ip :: H s)) st := by
  intro st e o st' e' hpre hrun
  obtain ⟨hpools, hfree⟩ := hpre
  have hinv := hpools s p hs hp
  obtain ⟨j, ip, b, b', rfl, rfl, -, -, hlen, hval, hjh, -, -, hr'⟩ :=
    request_step hs (by omega) hinv (hinv.hasFree hs hfree) hrun
  exact ⟨ip, rfl, hlen, contains_of_offset hs hlen hval hjh, (List.nodup_cons.mp hr'.nodup).1,
    hpools.write hs (show SessionInv s p (some (.raw b')) (ip :: H s) from hr')⟩

theorem triple_IPAMRelease (hs : V4Prefix s p) (hp : 10 ≤ p) {a : Net.IP} (ha : a ∈ H s) :
    Triple env (Pools H) (IPAMRelease a s) fun _ st =>
      Pools (Function.update H s ((H s).erase a)) st := by
  intro st e o st' e' hpools hrun
  obtain ⟨-, b, b', -, -, rfl, -, -, -, -, hr'⟩ :=
    release_step hs (by omega) (hpools s p hs hp) ha hrun
  exact hpools.write hs (show SessionInv s p (some (.raw b')) ((H s).erase a) from hr')

end Pools

/-! ## The daemon's connections -/

section Recorded

variable {det det' : OvsConnection} {s s' : IPNet} {ip ip' : Net.IP}

/-- Details that name address `ip` of subnet `s`: the text of `ip`, and the last three
characters of the text of `s`, an IPv4 subnet whose prefix length has two digits. -/
structure Placed (det : OvsConnection) (s : IPNet) (ip : Net.IP) : Prop where
  v4 : ∃ p, V4Prefix s p ∧ 10 ≤ p
  mem : s.Contains ip = true
  length : ip.length = 4
  ip_eq : det.Ip = ip.String
  subnet_eq : det.Subnet = AddConnection.subnetPrefix s

theorem Placed.parse (h : Placed det s ip) :
    ParseCIDR (det.Ip ++ det.Subnet) = some (v4InV6Prefix ++ ip, s) := by
  obtain ⟨p, hs, hp⟩ := h.v4
  rw [h.ip_eq, h.subnet_eq, ParseCIDR_configured hs hp h.mem, To4_of_length h.length]

theorem Placed.unique (h : Placed det s ip) (h' : Placed det s' ip') : s = s' ∧ ip = ip' := by
  have heq := h.parse.symm.trans h'.parse
  simp only [Option.some.injEq, Prod.mk.injEq, List.append_cancel_left_eq] at heq
  exact ⟨heq.2, heq.1⟩

theorem Placed.of_texts (h : Placed det s ip) (hip : det'.Ip = det.Ip)
    (hsub : det'.Subnet = det.Subnet) : Placed det' s ip :=
  ⟨h.v4, h.mem, h.length, hip.trans h.ip_eq, hsub.trans h.subnet_eq⟩

theorem Placed.ne_default (h : Placed det s ip) : det ≠ default := by
  rintro rfl
  have h4 : ip.To4 ≠ [] := by
    rw [To4_of_length h.length]
    exact List.ne_nil_of_length_pos (by rw [h.length]; omega)
  have hparse := ParseIP_String h4
  rw [← h.ip_eq] at hparse
  have hempty : ParseIP (default : OvsConnection).Ip = [] := by decide
  rw [hempty] at hparse
  simp [v4InV6Prefix] at hparse

/-- What the daemon's connections keep, for the held addresses `H`: each is recorded
under its container's key; its details are empty, from an add whose call failed
before it took an address, or name an address of a tracked subnet, held there; and no
two connections name the same address of the same subnet. -/
structure Recorded (H : IPNet → List Net.IP) (d : Daemon) : Prop where
  key : ∀ k c, d.Connections k = some c → c.ContainerID = k
  details : ∀ k c, d.Connections k = some c →
    c.ConnectionDetails = default ∨ ∃ s ip, Placed c.ConnectionDetails s ip
  held : ∀ k c s ip, d.Connections k = some c → Placed c.ConnectionDetails s ip → ip ∈ H s
  distinct : ∀ k k' c c' s ip, d.Connections k = some c → d.Connections k' = some c' →
    Placed c.ConnectionDetails s ip → Placed c'.ConnectionDetails s ip → k = k'

variable {H H' : IPNet → List Net.IP} {d : Daemon}

theorem Recorded.empty : Recorded H noConnections where
  key _ _ h := nomatch h
  details _ _ h := nomatch h
  held _ _ _ _ h := nomatch h
  distinct _ _ _ _ _ _ h := nomatch h

theorem Recorded.mono (h : Recorded H d) (hH : ∀ s, H s ⊆ H' s) : Recorded H' d :=
  ⟨h.key, h.details, fun k c s ip hc hpl => hH s (h.held k c s ip hc hpl), h.distinct⟩

theorem Recorded.set (h : Recorded H d) (conn : Connection)
    (hdet : conn.ConnectionDetails = default ∨ ∃ s ip, Placed conn.ConnectionDetails s ip)
    (hheld : ∀ s ip, Placed conn.ConnectionDetails s ip → ip ∈ H s)
    (hfresh : ∀ k c s ip, k ≠ conn.ContainerID → d.Connections k = some c →
      Placed conn.ConnectionDetails s ip → ¬ Placed c.ConnectionDetails s ip) :
    Recorded H (d.setConnection conn.ContainerID (some conn)) where
  key k c hc := by
    rcases Daemon.setConnection_eq_some.mp hc with ⟨rfl, hsome⟩ | ⟨-, hc⟩
    · cases hsome
      rfl
    · exact h.key k c hc
  details k c hc := by
    rcases Daemon.setConnection_eq_some.mp hc with ⟨-, hsome⟩ | ⟨-, hc⟩
    · cases hsome
      exact hdet
    · exact h.details k c hc
  held k c s ip hc hpl := by
    rcases Daemon.setConnection_eq_some.mp hc with ⟨-, hsome⟩ | ⟨-, hc⟩
    · cases hsome
      exact hheld s ip hpl
    · exact h.held k c s ip hc hpl
  distinct k k' c c' s ip hc hc' hpl hpl' := by
    rcases Daemon.setConnection_eq_some.mp hc with ⟨rfl, hsome⟩ | ⟨hk, hc⟩ <;>
      rcases Daemon.setConnection_eq_some.mp hc' with ⟨rfl, hsome'⟩ | ⟨hk', hc'⟩
    · rfl
    · cases hsome
      exact absurd hpl' (hfresh k' c' s ip hk' hc' hpl)
    · cases hsome'
      exact absurd hpl (hfresh k c s ip hk hc hpl')
    · exact h.distinct k k' c c' s ip hc hc' hpl hpl'

theorem Recorded.drop (h : Recorded H d) (key : String)
    (hheld : ∀ k c s ip, k ≠ key → d.Connections k = some c → Placed c.ConnectionDetails s ip →
      ip ∈ H' s) :
    Recorded H' (d.setConnection key none) where
  key k c hc := h.key k c (Daemon.setConnection_eq_some.mp hc |>.resolve_left (by simp)).2
  details k c hc := h.details k c (Daemon.setConnection_eq_some.mp hc |>.resolve_left (by simp)).2
  held k c s ip hc hpl := by
    obtain ⟨hk, hc⟩ := Daemon.setConnection_eq_some.mp hc |>.resolve_left (by simp)
    exact hheld k c s ip hk hc hpl
  distinct k k' c c' s ip hc hc' :=
    h.distinct k k' c c' s ip (Daemon.setConnection_eq_some.mp hc |>.resolve_left (by simp)).2
      (Daemon.setConnection_eq_some.mp hc' |>.resolve_left (by simp)).2

theorem Recorded.add_default (h : Recorded H d) (conn : Connection)
    (hdet : conn.ConnectionDetails = default) :
    Recorded H (d.setConnection conn.ContainerID (some conn)) :=
  h.set conn (.inl hdet) (fun _ _ hpl => absurd hdet hpl.ne_default)
    fun _ _ _ _ _ _ hpl => absurd hdet hpl.ne_default

theorem Recorded.add_placed (h : Recorded H d) (conn : Connection)
    (hpl : Placed conn.ConnectionDetails s ip) (hfresh : ip ∉ H s) :
    Recorded (Function.update H s (ip :: H s))
      (d.setConnection conn.ContainerID (some conn)) := by
  refine (h.mono (subset_update_cons H s ip)).set conn (.inr ⟨s, ip, hpl⟩) ?_ ?_
  · intro s' ip' hpl'
    obtain ⟨rfl, rfl⟩ := hpl.unique hpl'
    rw [Function.update_self]
    exact List.mem_cons_self
  · intro k c s' ip' _ hc hpl' hplc
    obtain ⟨rfl, rfl⟩ := hpl.unique hpl'
    exact hfresh (h.held k c s ip hc hplc)

theorem Recorded.release (h : Recorded H d) {k : String} {c : Connection}
    (hc : d.Connections k = some c) (hpl : Placed c.ConnectionDetails s ip) :
    Recorded (Function.update H s ((H s).erase ip)) (d.setConnection k none) := by
  refine h.drop k fun k' c' s' ip' hk' hc' hpl' => ?_
  by_cases hss : s' = s
  · subst hss
    rw [Function.update_self]
    have hne : ip' ≠ ip := by
      rintro rfl
      exact hk' (h.distinct k' k c' c s' ip' hc' hc hpl' hpl)
    exact (List.mem_erase_of_ne hne).mpr (h.held k' c' s' ip' hc' hpl')
  · rw [Function.update_of_ne hss]
    exact h.held k' c' s' ip' hc' hpl'

end Recorded

/-! ## Rounds of the connection handler -/

section Rounds

variable {σ : Type} {env : Env σ BridgeReq BridgeReq.Answer} {H : IPNet → List Net.IP}

theorem triple_bridgeRequest {β : Type} {P : Store Key Value → Prop}
    {R : Outcome β → Store Key Value → Prop} {q : BridgeReq} {next : q.Answer → BridgeProg β}
    (h : ∀ a, Triple env P (next a) R) : Triple env P (bridgeRequest q >>= next) R :=
  Triple.call fun _ => h _

theorem triple_createOvsInternalPort {P : Store Key Value → Prop} (pre bridge : String)
    (tag : Nat) : Triple env P (createOvsInternalPort pre bridge tag) fun _ => P := by
  unfold createOvsInternalPort
  refine triple_bridgeRequest fun name => ?_
  rcases name with err | port
  · exact Triple.done fun _ h => h
  · refine triple_bridgeRequest fun connected => ?_
    split
    · exact Triple.done fun _ h => h
    · exact triple_bridgeRequest fun _ => Triple.done fun _ h => h

theorem triple_configure {P : Store Key Value → Prop} (nspid : Int)
    (portName ipText subnetPrefix mac gateway : String) (conn : OvsConnection) :
    Triple env P (AddConnection.configure nspid portName ipText subnetPrefix mac gateway conn)
      fun o st => P st ∧ ∀ r, o = .returned r → r.1 = conn := by
  have hfail : ∀ err k, Triple env P k (fun o st => P st ∧ ∀ r, o = .returned r → r.1 = conn) →
      Triple env P (AddConnection.orFail conn err k)
        fun o st => P st ∧ ∀ r, o = .returned r → r.1 = conn := fun err k hk => by
    rcases err with _ | err
    · exact hk
    · exact Triple.done fun _ h => ⟨h, fun r hr => by cases hr; rfl⟩
  unfold AddConnection.configure
  iterate 13 refine triple_bridgeRequest fun err => hfail err _ ?_
  exact Triple.done fun _ h => ⟨h, fun r hr => by cases hr; rfl⟩

/-- What an add round needs of the network it names: when it is stored, its subnet
text parses to an IPv4 subnet whose prefix length has two digits, with an address
free. -/
def AddGuard (st : Store Key Value) (networkName : String) : Prop :=
  ∀ n, st.value ⟨networkStore, if networkName = "" then DefaultNetworkName else networkName⟩ =
      some (.record n) →
    ∀ ip s, ParseCIDR n.Subnet = some (ip, s) → ∃ p, V4Prefix s p ∧ 10 ≤ p ∧ FreeIn st s

theorem AddGuard.of_record {st : Store Key Value} {networkName : String} {n : Network}
    {ip : Net.IP} {s : IPNet} {p : Nat}
    (hn : st.value ⟨networkStore, if networkName = "" then DefaultNetworkName else networkName⟩ =
      some (.record n))
    (hparse : ParseCIDR n.Subnet = some (ip, s)) (hs : V4Prefix s p) (hp : 10 ≤ p)
    (hfree : FreeIn st s) : AddGuard st networkName := by
  intro n' hn' ip' s' hs'
  rw [hn] at hn'
  cases hn'
  rw [hparse] at hs'
  cases hs'
  exact ⟨p, hs, hp, hfree⟩

/-- What `AddConnection` returns under the guard: empty details with the pools as they
were, or details that name a fresh address of a tracked subnet, which the pools then
hold. -/
theorem triple_AddConnection (nspid : Int) (networkName : String) :
    Triple env (fun st => Pools H st ∧ AddGuard st networkName) (AddConnection nspid networkName)
      fun o st => ∀ r, o = .returned r → (r.1 = default ∧ Pools H st) ∨
        ∃ s ip, Placed r.1 s ip ∧ ip ∉ H s ∧ Pools (Function.update H s (ip :: H s)) st := by
  unfold AddConnection
  dsimp only
  split
  · exact Triple.done fun _ h r hr => by cases hr; exact .inl ⟨rfl, h.1⟩
  refine Triple.bind (M := fun r st => (Pools H st ∧ AddGuard st networkName) ∧
      (r.2 = none → ∃ n, r.1 = some n ∧ st.value ⟨networkStore,
        if networkName = "" then DefaultNetworkName else networkName⟩ = some (.record n)))
    ((Triple.liftCalls (triple_GetNetwork _ _)).mono (fun _ h => h) fun o st h => ?_) fun r => ?_
  · obtain ⟨hst, network, err, rfl, hfound, -⟩ := h
    exact ⟨hst, hfound⟩
  obtain ⟨bridgeNetwork, err⟩ := r
  rcases err with _ | err
  swap
  · exact Triple.done fun _ h r hr => by cases hr; exact .inl ⟨rfl, h.1.1⟩
  rcases bridgeNetwork with _ | n
  · exact Triple.crash fun _ _ r hr => by cases hr
  dsimp only
  refine Triple.mono (P := fun st => (Pools H st ∧ AddGuard st networkName) ∧
      st.value ⟨networkStore, if networkName = "" then DefaultNetworkName else networkName⟩ =
        some (.record n)) ?_ (fun st h => by
        obtain ⟨hst, hfound⟩ := h
        obtain ⟨n', hn', hv⟩ := hfound rfl
        cases hn'
        exact ⟨hst, hv⟩) fun _ _ h => h
  refine Triple.bind_same (triple_createOvsInternalPort _ _ _) (fun r => ?_)
    fun _ _ r hr => by cases hr
  obtain ⟨portName, err⟩ := r
  rcases err with _ | err
  swap
  · exact Triple.done fun _ h r hr => by cases hr; exact .inl ⟨rfl, h.1.1⟩
  dsimp only
  rcases hsub : ParseCIDR n.Subnet with _ | ⟨ip₀, subnet⟩
  · exact Triple.crash fun _ _ r hr => by cases hr
  dsimp only
  by_cases hv : ∃ p, V4Prefix subnet p ∧ 10 ≤ p
  swap
  · refine Triple.of_not fun st h => hv ?_
    obtain ⟨p, hs, hp, -⟩ := h.1.2 n h.2 ip₀ subnet hsub
    exact ⟨p, hs, hp⟩
  obtain ⟨p, hs, hp⟩ := hv
  refine Triple.mono (P := fun st => Pools H st ∧ FreeIn st subnet) ?_ (fun st h => by
      obtain ⟨-, -, -, hfree⟩ := h.1.2 n h.2 ip₀ subnet hsub
      exact ⟨h.1.1, hfree⟩) fun _ _ h => h
  refine Triple.bind (M := fun ip st => ip.length = 4 ∧ subnet.Contains ip = true ∧
      ip ∉ H subnet ∧ Pools (Function.update H subnet (ip :: H subnet)) st)
    ((triple_IPAMRequest hs hp).mono (fun _ h => h) fun o st h => ?_) fun ip => ?_
  · obtain ⟨ip, rfl, hlen, hmem, hnot, hpools'⟩ := h
    exact ⟨hlen, hmem, hnot, hpools'⟩
  refine (triple_configure _ _ _ _ _ _ _).mono (fun _ h => h) fun o st h r hr => .inr ?_
  obtain ⟨⟨hlen, hmem, hnot, hpools'⟩, hret⟩ := h
  rw [hret r hr]
  exact ⟨subnet, ip, ⟨⟨p, hs, hp⟩, hmem, hlen, rfl, rfl⟩, hnot, hpools'⟩

theorem triple_DeleteConnection_default {P : Store Key Value → Prop} :
    Triple env P (DeleteConnection default) fun _ => P := by
  unfold DeleteConnection
  refine triple_bridgeRequest fun connected => ?_
  split
  · exact Triple.done fun _ h => h
  · refine triple_bridgeRequest fun _ => ?_
    have hparse : ParseCIDR ((default : OvsConnection).Ip ++ (default : OvsConnection).Subnet) =
        none := by decide
    simp only [hparse]
    exact Triple.crash fun _ h => h

theorem triple_DeleteConnection {det : OvsConnection} {s : IPNet} {ip : Net.IP}
    (hpl : Placed det s ip) (hip : ip ∈ H s) :
    Triple env (Pools H) (DeleteConnection det) fun _ st =>
      Pools H st ∨ Pools (Function.update H s ((H s).erase ip)) st := by
  obtain ⟨p, hs, hp⟩ := hpl.v4
  have hdet : det = ⟨det.Name, ip.String, AddConnection.subnetPrefix s, det.Mac, det.Gateway⟩ := by
    rw [← hpl.ip_eq, ← hpl.subnet_eq]
  rw [hdet, DeleteConnection_configured hs hp hpl.mem, To4_of_length hpl.length]
  refine triple_bridgeRequest fun connected => ?_
  split
  · exact Triple.done fun _ h => .inl h
  · refine triple_bridgeRequest fun _ => Triple.bind ((triple_IPAMRelease hs hp hip).mono
      (fun _ h => h) fun o st h => ?_) fun _ => Triple.done fun _ h => .inr h
    rcases o with _ | _
    · exact h
    · exact .inr h

end Rounds

/-! ## Sessions -/

/-- The invariant of a session: the VLAN invariant, and pools and connections that
agree on the held addresses. -/
def AddressInv (d : Daemon) (st : Store Key Value) : Prop :=
  VlanInv st ∧ ∃ H, Recorded H d ∧ Pools H st

theorem AddressInv.empty : AddressInv noConnections Store.empty :=
  ⟨VlanInv.empty, fun _ => [], Recorded.empty, Pools.empty⟩

section Steps

variable {d d₁ : Daemon} {st st' : Store Key Value} {σ : Type}

theorem netFrame_pools (d : Daemon) : NetFrame fun st => ∃ H, Recorded H d ∧ Pools H st :=
  NetFrame.of_ipam fun _ _ h hsame => by
    obtain ⟨H, hrec, hpools⟩ := h
    exact ⟨H, hrec, hpools.of_ipam hsame⟩

theorem AddressInv.create {env : Env σ HostReq HostReq.Answer} {e e' : σ} {id : String}
    {subnet : IPNet} {p : Nat} {o : Outcome (Option Network × Option String)}
    (h : AddressInv d st) (hs : V4Prefix subnet p) (hp : 10 ≤ p) (hfree : FreeIn st subnet)
    (hrun : Runs false env (CreateNetwork id subnet) st e o st' e') : AddressInv d st' := by
  have hframe : NetFrame fun st => FreeIn st subnet :=
    NetFrame.of_ipam fun _ _ h hsame => h.of_ipam hsame
  have hreq : Triple env (fun st => (∃ H, Recorded H d ∧ Pools H st) ∧ FreeIn st subnet)
      (IPAMRequest subnet : NetProg Net.IP) fun _ st => ∃ H, Recorded H d ∧ Pools H st := by
    intro st e o st' e' hpre hrun
    obtain ⟨⟨H, hrec, hpools⟩, hfree⟩ := hpre
    obtain ⟨ip, -, -, -, -, hpools'⟩ := triple_IPAMRequest hs hp ⟨hpools, hfree⟩ hrun
    exact ⟨_, hrec.mono (subset_update_cons H subnet ip), hpools'⟩
  obtain ⟨hvlan, hG⟩ := h
  exact triple_CreateNetwork (netFrame_pools d) hframe hreq id ⟨hvlan, hG, hfree⟩ hrun

theorem AddressInv.createDefault {env : Env σ HostReq HostReq.Answer} {e e' : σ}
    {routes : Except String (List (Option IPNet))} {o : Outcome (Option Network × Option String)}
    (h : AddressInv d st) (hfree : ∀ s, GetAvailableSubnet routes = some (.ok s) → FreeIn st s)
    (hrun : Runs false env (CreateDefaultNetwork routes) st e o st' e') : AddressInv d st' := by
  unfold CreateDefaultNetwork at hrun
  split at hrun
  · obtain ⟨-, rfl, -⟩ := Runs.inv_crash rfl hrun
    exact h
  · obtain ⟨-, rfl, -⟩ := Runs.done_iff.mp hrun
    exact h
  · rename_i subnet hsubnet
    obtain ⟨p, hs, hp⟩ := GetAvailableSubnet_v4 hsubnet
    exact h.create hs hp (hfree subnet hsubnet) hrun

theorem AddressInv.delete {env : Env σ HostReq HostReq.Answer} {e e' : σ} {id : String}
    {o : Outcome (Option String)} (h : AddressInv d st)
    (hrun : Runs false env (DeleteNetwork id) st e o st' e') : AddressInv d st' :=
  triple_DeleteNetwork (netFrame_pools d) id h hrun

theorem AddressInv.add {env : Env σ BridgeReq BridgeReq.Answer} {e e' : σ} {conn : Connection}
    {r : Option Connection} (h : AddressInv d st) (hguard : AddGuard st conn.Network)
    (hrun : Runs false env (ConnectionRPCHandler.handle d ⟨ConnectionAdd, conn⟩) st e
      (.returned (d₁, r)) st' e') : AddressInv d₁ st' := by
  obtain ⟨hvlan, H, hrec, hpools⟩ := h
  have hvlan' := hvlan.of_sameOutside ((writesWithin_handle d _).of_run hrun)
  obtain ⟨details, err, hadd, rfl⟩ := runs_handle_add_inv hrun
  let c : Connection := { conn with OvsPortID := details.Name, ConnectionDetails := details }
  rcases triple_AddConnection _ _ ⟨hpools, hguard⟩ hadd (details, err) rfl with
    ⟨hdet, hpools'⟩ | ⟨s, ip, hpl, hnot, hpools'⟩
  · exact ⟨hvlan', H, hrec.add_default c hdet, hpools'⟩
  · exact ⟨hvlan', _, hrec.add_placed c hpl hnot, hpools'⟩

theorem AddressInv.remove {env : Env σ BridgeReq BridgeReq.Answer} {e e' : σ} {k : String}
    {c : Connection} {r : Option Connection} (h : AddressInv d st)
    (hc : d.Connections k = some c)
    (hrun : Runs false env (ConnectionRPCHandler.handle d ⟨ConnectionDelete, c⟩) st e
      (.returned (d₁, r)) st' e') : AddressInv d₁ st' := by
  obtain ⟨hvlan, H, hrec, hpools⟩ := h
  have hvlan' := hvlan.of_sameOutside ((writesWithin_handle d _).of_run hrun)
  obtain ⟨err, hdel, rfl⟩ := runs_handle_delete_inv hrun
  rw [hrec.key k c hc]
  have hkeep : ∀ k' c' s ip, k' ≠ k → d.Connections k' = some c' →
      Placed c'.ConnectionDetails s ip → ip ∈ H s := fun k' c' s ip _ hc' hpl =>
    hrec.held k' c' s ip hc' hpl
  rcases hrec.details k c hc with hdet | ⟨s, ip, hpl⟩
  · rw [hdet] at hdel
    exact ⟨hvlan', H, hrec.drop k hkeep, triple_DeleteConnection_default hpools hdel⟩
  · rcases triple_DeleteConnection hpl (hrec.held k c s ip hc hpl) hpools hdel with
      hpools' | hpools'
    · exact ⟨hvlan', H, hrec.drop k hkeep, hpools'⟩
    · exact ⟨hvlan', _, hrec.release hc hpl, hpools'⟩

end Steps

/-- A sequence of calls on the daemon and its store, each run to its end alone on a
host of its own: creations of networks on IPv4 subnets whose prefix length has two
digits, and of the default network, made while the subnet has an address free;
deletions of networks; add rounds
of the connection handler for networks that meet `AddGuard`; and delete rounds for
recorded connections, as `deleteConnection` sends them. Rounds return. -/
inductive AddressSession : Daemon → Store Key Value → Daemon → Store Key Value → Prop
  | nil {d : Daemon} {st : Store Key Value} : AddressSession d st d st
  | create {d d' : Daemon} {st st₁ st' : Store Key Value} {σ : Type}
      (env : Env σ HostReq HostReq.Answer) {e e₁ : σ} (id : String) {subnet : IPNet} {p : Nat}
      {o : Outcome (Option Network × Option String)} :
      V4Prefix subnet p → 10 ≤ p → FreeIn st subnet →
      Runs false env (CreateNetwork id subnet) st e o st₁ e₁ → AddressSession d st₁ d' st' →
        AddressSession d st d' st'
  | createDefault {d d' : Daemon} {st st₁ st' : Store Key Value} {σ : Type}
      (env : Env σ HostReq HostReq.Answer) {e e₁ : σ} (routes : Except String (List (Option IPNet)))
      {o : Outcome (Option Network × Option String)} :
      (∀ s, GetAvailableSubnet routes = some (.ok s) → FreeIn st s) →
      Runs false env (CreateDefaultNetwork routes) st e o st₁ e₁ → AddressSession d st₁ d' st' →
        AddressSession d st d' st'
  | delete {d d' : Daemon} {st st₁ st' : Store Key Value} {σ : Type}
      (env : Env σ HostReq HostReq.Answer) {e e₁ : σ} (id : String) {o : Outcome (Option String)} :
      Runs false env (DeleteNetwork id) st e o st₁ e₁ → AddressSession d st₁ d' st' →
        AddressSession d st d' st'
  | add {d d₁ d' : Daemon} {st st₁ st' : Store Key Value} {σ : Type}
      (env : Env σ BridgeReq BridgeReq.Answer) {e e₁ : σ} (conn : Connection)
      {r : Option Connection} :
      AddGuard st conn.Network →
      Runs false env (ConnectionRPCHandler.handle d ⟨ConnectionAdd, conn⟩) st e
        (.returned (d₁, r)) st₁ e₁ → AddressSession d₁ st₁ d' st' → AddressSession d st d' st'
  | remove {d d₁ d' : Daemon} {st st₁ st' : Store Key Value} {σ : Type}
      (env : Env σ BridgeReq BridgeReq.Answer) {e e₁ : σ} {k : String} {c : Connection}
      {r : Option Connection} :
      d.Connections k = some c →
      Runs false env (ConnectionRPCHandler.handle d ⟨ConnectionDelete, c⟩) st e
        (.returned (d₁, r)) st₁ e₁ → AddressSession d₁ st₁ d' st' → AddressSession d st d' st'

theorem AddressSession.inv {d d' : Daemon} {st st' : Store Key Value}
    (h : AddressSession d st d' st') (hinv : AddressInv d st) : AddressInv d' st' := by
  induction h with
  | nil => exact hinv
  | create env id hs hp hfree hrun _ ih => exact ih (hinv.create hs hp hfree hrun)
  | createDefault env routes hfree hrun _ ih => exact ih (hinv.createDefault hfree hrun)
  | delete env id hrun _ ih => exact ih (hinv.delete hrun)
  | add env conn hguard hrun _ ih => exact ih (hinv.add hguard hrun)
  | remove env hc hrun _ ih => exact ih (hinv.remove hc hrun)

theorem Pools.bit_set {H : IPNet → List Net.IP} {st : Store Key Value} {s : IPNet} {ip : Net.IP}
    {p : Nat} (h : Pools H st) (hs : V4Prefix s p) (hp : 10 ≤ p) (hip : ip ∈ H s) :
    ∃ o b, 0 < o ∧ value ip = value s.IP + o ∧ st.value (ipamKey s) = some (.raw b) ∧
      bit b (o - 1) = true := by
  have hinv := h s p hs hp
  cases hv : st.value (ipamKey s) with
  | none =>
      rw [hv] at hinv
      rw [(hinv : H s = [])] at hip
      cases hip
  | some v =>
      obtain ⟨b, rfl⟩ := SessionInv.raw (hv ▸ hinv)
      have hr : Records s p b (H s) := by
        rw [hv] at hinv
        exact hinv
      obtain ⟨-, o, ho0, ho, hval⟩ := hr.held_addr ip hip
      refine ⟨o, b, ho0, hval, rfl, (hr.bit_iff (o - 1)).mpr ⟨by omega, ip, hip, ?_⟩⟩
      rw [hval, Nat.sub_add_cancel ho0]

/-- What the invariant says of the recorded connections: each has empty details, or
details whose text parses to an address of a subnet that the subnet's bitmap marks as
taken, and no other connection has non-empty details with the same texts. -/
theorem AddressInv.addresses {d : Daemon} {st : Store Key Value} (hinv : AddressInv d st)
    {k k' : String} {c c' : Connection}
    (hc : d.Connections k = some c) (hc' : d.Connections k' = some c') :
    (c.ConnectionDetails = default ∨ ∃ s ip o b,
      ParseCIDR (c.ConnectionDetails.Ip ++ c.ConnectionDetails.Subnet) =
        some (v4InV6Prefix ++ ip, s) ∧ s.Contains ip = true ∧ 0 < o ∧
      value ip = value s.IP + o ∧ st.value (ipamKey s) = some (.raw b) ∧ bit b (o - 1) = true) ∧
    (c.ConnectionDetails ≠ default → c.ConnectionDetails.Ip = c'.ConnectionDetails.Ip →
      c.ConnectionDetails.Subnet = c'.ConnectionDetails.Subnet → k = k') := by
  obtain ⟨-, H, hrec, hpools⟩ := hinv
  refine ⟨?_, fun hne hip hsub => ?_⟩
  · rcases hrec.details k c hc with hdet | ⟨s, ip, hpl⟩
    · exact .inl hdet
    obtain ⟨p, hs, hp⟩ := hpl.v4
    obtain ⟨o, b, ho0, hval, hv, hbit⟩ := hpools.bit_set hs hp (hrec.held k c s ip hc hpl)
    exact .inr ⟨s, ip, o, b, hpl.parse, hpl.mem, ho0, hval, hv, hbit⟩
  · obtain ⟨s, ip, hpl⟩ := (hrec.details k c hc).resolve_left hne
    exact hrec.distinct k k' c c' s ip hc hc' hpl (hpl.of_texts hip.symm hsub.symm)

/-- **No two connections share an address.** After any session from no connections
and the empty store, each recorded connection has empty details, or details whose
text parses to an address of a subnet that the subnet's bitmap marks as taken; and no
other recorded connection has details with the same address and subnet texts unless
both are empty. -/
theorem connections_hold_distinct_addresses {d : Daemon} {st : Store Key Value}
    (h : AddressSession noConnections Store.empty d st) {k k' : String} {c c' : Connection}
    (hc : d.Connections k = some c) (hc' : d.Connections k' = some c') :
    (c.ConnectionDetails = default ∨ ∃ s ip o b,
      ParseCIDR (c.ConnectionDetails.Ip ++ c.ConnectionDetails.Subnet) =
        some (v4InV6Prefix ++ ip, s) ∧ s.Contains ip = true ∧ 0 < o ∧
      value ip = value s.IP + o ∧ st.value (ipamKey s) = some (.raw b) ∧ bit b (o - 1) = true) ∧
    (c.ConnectionDetails ≠ default → c.ConnectionDetails.Ip = c'.ConnectionDetails.Ip →
      c.ConnectionDetails.Subnet = c'.ConnectionDetails.Subnet → k = k') :=
  (h.inv AddressInv.empty).addresses hc hc'

theorem net24_v4 : V4Prefix net24 24 := ⟨by decide, rfl, rfl, by decide⟩

/-- `dbConnection`: container `db`, pid 4243, on a network. -/
def dbConnection (network : String) : Connection :=
  { webConnection network with ContainerID := "db", ContainerPID := "4243" }

set_option maxRecDepth 100000 in
/-- Creating `n1` on `10.1.0.0/24` from the empty store, which takes `10.1.0.1` for the
gateway, then adding containers `web` and `db` to it, gives them `10.1.0.2` and
`10.1.0.3`. -/
theorem web_and_db_hold_distinct_addresses :
    ∃ d st c c', AddressSession noConnections Store.empty d st ∧
      d.Connections "web" = some c ∧ d.Connections "db" = some c' ∧
      c.ConnectionDetails.Ip = "10.1.0.2" ∧ c'.ConnectionDetails.Ip = "10.1.0.3" ∧
      ((c.ConnectionDetails = default ∨ ∃ s ip o b,
        ParseCIDR (c.ConnectionDetails.Ip ++ c.ConnectionDetails.Subnet) =
          some (v4InV6Prefix ++ ip, s) ∧ s.Contains ip = true ∧ 0 < o ∧
        value ip = value s.IP + o ∧ st.value (ipamKey s) = some (.raw b) ∧
        bit b (o - 1) = true) ∧
      (c.ConnectionDetails ≠ default → c.ConnectionDetails.Ip = c'.ConnectionDetails.Ip →
        c.ConnectionDetails.Subnet = c'.ConnectionDetails.Subnet → "web" = "db")) := by
  have hparse : ParseCIDR "10.1.0.0/24" = some (IPv4 10 1 0 0, net24) := by decide
  have hsize : (bitCount net24).toNat = 8 := by
    rw [bitCount_v4 net24_v4]
    rfl
  let st₁ := (run freshEnv 200 (CreateNetwork "n1" net24) Store.empty ()).2.1
  let st₂ := (run freshBridgeEnv 200 (AddConnection (Strconv.Atoi "4242") "n1") st₁ 0).2.1
  have hcreate : Runs false freshEnv (CreateNetwork "n1" net24) Store.empty ()
      (.returned (some ⟨"n1", "10.1.0.0/24", "10.1.0.1", 1⟩, none)) st₁ () :=
    Runs.of_run_fst 200 (by decide)
  have hadd₁ : Runs false freshBridgeEnv (AddConnection (Strconv.Atoi "4242") "n1") st₁ 0
      (.returned (⟨"ovs0000000", "10.1.0.2", "/24", "02:42:0a:01:00:02", "10.1.0.1"⟩, none))
      st₂ _ :=
    Runs.of_run_fst 200 (by decide)
  have hadd₂ : Runs false freshBridgeEnv (AddConnection (Strconv.Atoi "4243") "n1") st₂ 1
      (.returned (⟨"ovs0000001", "10.1.0.3", "/24", "02:42:0a:01:00:03", "10.1.0.1"⟩, none))
      _ _ :=
    Runs.of_run_fst 200 (by decide)
  have hguard₁ : AddGuard st₁ "n1" :=
    AddGuard.of_record (n := ⟨"n1", "10.1.0.0/24", "10.1.0.1", 1⟩) (by decide +kernel) hparse
      net24_v4 (by decide) (FreeIn.of_bitmap (b := 1 :: List.replicate 31 0) (o := 2)
        (by decide +kernel) (by decide) (by rw [hsize]; decide) (by decide))
  have hguard₂ : AddGuard st₂ "n1" :=
    AddGuard.of_record (n := ⟨"n1", "10.1.0.0/24", "10.1.0.1", 1⟩) (by decide +kernel) hparse
      net24_v4 (by decide) (FreeIn.of_bitmap (b := 3 :: List.replicate 31 0) (o := 3)
        (by decide +kernel) (by decide) (by rw [hsize]; decide) (by decide))
  have hsess : AddressSession noConnections Store.empty _ _ :=
    AddressSession.create freshEnv "n1" net24_v4 (by decide)
      (FreeIn.of_none (Store.value_empty _) (by rw [hsize]; decide)) hcreate
      (.add freshBridgeEnv (webConnection "n1") hguard₁ (handle_add hadd₁)
        (.add freshBridgeEnv (dbConnection "n1") hguard₂ (handle_add hadd₂) .nil))
  let cWeb : Connection :=
    { webConnection "n1" with
      OvsPortID := "ovs0000000"
      ConnectionDetails := ⟨"ovs0000000", "10.1.0.2", "/24", "02:42:0a:01:00:02", "10.1.0.1"⟩ }
  let cDb : Connection :=
    { dbConnection "n1" with
      OvsPortID := "ovs0000001"
      ConnectionDetails := ⟨"ovs0000001", "10.1.0.3", "/24", "02:42:0a:01:00:03", "10.1.0.1"⟩ }
  have hweb : ((noConnections.setConnection "web" (some cWeb)).setConnection "db"
      (some cDb)).Connections "web" = some cWeb := by
    rw [Daemon.setConnection_ne _ _ (by decide), Daemon.setConnection_self]
  have hdb := Daemon.setConnection_self (noConnections.setConnection "web" (some cWeb)) "db"
    (some cDb)
  exact ⟨_, _, _, _, hsess, hweb, hdb, rfl, rfl,
    connections_hold_distinct_addresses hsess hweb hdb⟩

end Daemon
