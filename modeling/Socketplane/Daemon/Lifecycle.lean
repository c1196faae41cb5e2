import Socketplane.Daemon.Bridge

/-! # A connection's life on a network

On a host where every call of `bridge.go` succeeds, `AddConnection` on a stored
network reads the record, creates the port, takes the first free address of the
record's subnet from `IPAMRequest` and configures the port, changing nothing in the
store but the subnet's bitmap. When the prefix length has two digits, the
`DeleteConnection` of the details it recorded gives exactly that address back, so an
add round followed by the delete round of its connection leaves the store as it
found it.
-/

namespace Daemon

open Net Kv Ecc Prog

/-- The answer of a host call that succeeds: OVS connected, a random name generated,
and nil for every error. -/
def BridgeReq.Succeeds : (q : BridgeReq) → q.Answer → Prop
  | .net q, a => a = freshHost q
  | .GenerateRandomName .., a => ∃ port, a = Except.ok port
  | .Symlink _, a => a = (none : Option String)
  | .netnsGet, a => a = (none : Option String)
  | .netnsGetFromName _, a => a = (none : Option String)
  | .SetInterfaceInNamespaceFd _, a => a = (none : Option String)
  | .netnsSet _, a => a = (none : Option String)
  | .InterfaceDown _, a => a = (none : Option String)
  | .ChangeInterfaceName .., a => a = (none : Option String)
  | .SetInterfaceMac .., a => a = (none : Option String)
  | .SetDefaultGateway .., a => a = (none : Option String)

/-- A host on which every call of `bridge.go` succeeds, in every state. -/
def HostSucceeds {σ : Type} (env : Env σ BridgeReq BridgeReq.Answer) : Prop :=
  ∀ e q, (q : BridgeReq).Succeeds (env e q).1

variable {σ : Type} {env : Env σ BridgeReq BridgeReq.Answer}

theorem runs_request_bind {lossy : Bool} {β : Type} {q : BridgeReq} {k : q.Answer → BridgeProg β}
    {st st' : Store Key Value} {e e' : σ} {o : Outcome β}
    (h : Runs lossy env (k (env e q).1) st (env e q).2 o st' e') :
    Runs lossy env (bridgeRequest q >>= k) st e o st' e' :=
  .call rfl rfl h

section Succeeding

variable (henv : HostSucceeds env)
include henv

private theorem runs_succeeding_call {R : Type} {q : BridgeReq} {k' : q.Answer → BridgeProg R}
    {k : BridgeProg R} {st : Store Key Value} {o : Outcome R}
    (hk' : ∀ a, q.Succeeds a → k' a = k) (hk : ∀ e, ∃ e', Runs false env k st e o st e') :
    ∀ e, ∃ e', Runs false env (bridgeRequest q >>= k') st e o st e' := fun e => by
  obtain ⟨e', h⟩ := hk (env e q).2
  exact ⟨e', runs_request_bind (by rw [hk' _ (henv e q)]; exact h)⟩

theorem runs_configure (st : Store Key Value) (nspid : Int)
    (portName ipText subnetPrefix mac gateway : String) (conn : OvsConnection) :
    ∀ e, ∃ e', Runs false env
      (AddConnection.configure nspid portName ipText subnetPrefix mac gateway conn) st e
      (.returned (conn, none)) st e' := by
  unfold AddConnection.configure
  iterate 13 refine runs_succeeding_call henv (fun _ ha => by cases ha; rfl) ?_
  exact fun e => ⟨e, .done rfl⟩

theorem runs_createOvsInternalPort (st : Store Key Value) (e : σ) (pre bridge : String)
    (tag : Nat) :
    ∃ port e', Runs false env (createOvsInternalPort pre bridge tag) st e
      (.returned (port, none)) st e' := by
  obtain ⟨port, hport⟩ := henv e (.GenerateRandomName pre 7)
  have hconn : (env (env e (.GenerateRandomName pre 7)).2 (.net .OvsConnected)).1 = true :=
    henv _ (.net .OvsConnected)
  exact ⟨port, _, runs_request_bind (by
    rw [hport]
    exact runs_request_bind (by
      rw [hconn]
      exact runs_request_bind (.done rfl)))⟩

variable {s : IPNet} {p : Nat} {held : List Net.IP}

/-- On a stored network whose subnet has an address free, `AddConnection` returns the
details of a new port with the least free address of the subnet, and writes the
subnet's bitmap alone, which then records that address too. -/
theorem runs_AddConnection (hs : V4Prefix s p) (hp : 1 ≤ p) {st : Store Key Value} {nspid : Int}
    {networkName : String} {n : Network} {ip₀ : Net.IP}
    (hname : networkName ≠ "") (hnet : st.value ⟨networkStore, networkName⟩ = some (.record n))
    (hsub : ParseCIDR n.Subnet = some (ip₀, s))
    (hinv : SessionInv s p (st.value (ipamKey s)) held) (hfree : HasFree s p held) (e : σ) :
    ∃ ip port mac b' e', Runs false env (AddConnection nspid networkName) st e
        (.returned (⟨port, ip.String, AddConnection.subnetPrefix s, mac, n.Gateway⟩, none))
        (st.write (ipamKey s) (.raw b')) e' ∧
      s.Contains ip = true ∧ ip ∉ held ∧ Records s p b' (ip :: held) := by
  obtain ⟨port, e₁, hport⟩ := runs_createOvsInternalPort henv st e "ovs" defaultBridgeName n.Vlan
  have hreq : Runs false env (IPAMRequest s) st e₁ (Plan.apply (ipamKey s) (requestPlan s) st).1
      (Plan.apply (ipamKey s) (requestPlan s) st).2 e₁ :=
    (runs_IPAMRequest_iff hinv).mpr ⟨rfl, rfl⟩
  obtain ⟨j, ip, b, b', ho, hst, -, -, hlen, hval, hjh, -, -, hr'⟩ :=
    request_step hs hp hinv hfree hreq
  rw [ho, hst] at hreq
  let subnetPrefix := AddConnection.subnetPrefix s
  let mac := HardwareAddr.String (generateMacAddr ip)
  obtain ⟨e₂, hconf⟩ := runs_configure henv (st.write (ipamKey s) (.raw b')) nspid port ip.String
    subnetPrefix mac n.Gateway ⟨port, ip.String, subnetPrefix, mac, n.Gateway⟩ e₁
  refine ⟨ip, port, mac, b', e₂, ?_, contains_of_offset hs hlen hval hjh,
    (List.nodup_cons.mp hr'.nodup).1, hr'⟩
  have hbridge : ¬ defaultBridgeName = "" := by decide
  unfold AddConnection
  simp only [hbridge, if_false, hname]
  refine Runs.bind_returned (Runs.liftCalls (runs_GetNetwork_record hnet e)) ?_
  refine Runs.bind_returned hport ?_
  simp only [hsub]
  exact Runs.bind_returned hreq hconf

/-- For a prefix length of two digits, `DeleteConnection` of the details
`AddConnection` records for a held address gives the address back: it writes the
subnet's bitmap alone, which then records the other addresses. -/
theorem runs_DeleteConnection_configured (hs : V4Prefix s p) (hp : 10 ≤ p)
    {st : Store Key Value} {b : List UInt8} {ip : Net.IP}
    (hst : st.value (ipamKey s) = some (.raw b)) (hr : Records s p b held) (hip : ip ∈ held)
    (name mac gateway : String) (e : σ) :
    ∃ b' e', Runs false env
        (DeleteConnection ⟨name, ip.String, AddConnection.subnetPrefix s, mac, gateway⟩) st e
        (.returned none) (st.write (ipamKey s) (.raw b')) e' ∧ Records s p b' (held.erase ip) := by
  obtain ⟨hlen, o, -, ho, hval⟩ := hr.held_addr ip hip
  have hinv : SessionInv s p (st.value (ipamKey s)) held := by rw [hst]; exact hr
  have hconn : (env e (.net .OvsConnected)).1 = true := henv _ (.net .OvsConnected)
  let e₁ := (env (env e (.net .OvsConnected)).2 (.net (.deletePort defaultBridgeName name))).2
  have hrel : Runs false env (IPAMRelease ip s) st e₁
      (Plan.apply (ipamKey s) (releasePlan ip s) st).1
      (Plan.apply (ipamKey s) (releasePlan ip s) st).2 e₁ :=
    (runs_IPAMRelease_iff hinv).mpr ⟨rfl, rfl⟩
  obtain ⟨-, b₀, b', ho', -, hst', -, -, -, -, hr'⟩ := release_step hs (by omega) hinv hip hrel
  rw [ho', hst'] at hrel
  refine ⟨b', e₁, ?_, hr'⟩
  rw [DeleteConnection_configured hs hp (contains_of_offset hs hlen hval ho), To4_of_length hlen]
  exact runs_request_bind (by
    rw [hconn]
    exact runs_request_bind (Runs.bind_returned hrel (.done rfl)))

/-- **A connection gives its address back.** On a host where every call succeeds, a
container added to a stored network whose subnet has a prefix length of two digits,
while the subnet has an address free, gets an address of the subnet that no one
holds. Deleting the connection the daemon recorded for it then gives the address
back: every key of the store reads as before, the subnet's bitmap too when there was
one, and the bitmap records the addresses held before. -/
theorem add_then_delete_restores_store (hs : V4Prefix s p) (hp : 10 ≤ p)
    {st : Store Key Value} {conn : Connection} {n : Network} {ip₀ : Net.IP}
    (hname : conn.Network ≠ "") (hnet : st.value ⟨networkStore, conn.Network⟩ = some (.record n))
    (hsub : ParseCIDR n.Subnet = some (ip₀, s))
    (hinv : SessionInv s p (st.value (ipamKey s)) held) (hfree : HasFree s p held)
    (d : Daemon) (e : σ) :
    ∃ d₁ c st₁ e₁ st₂ e₂ ip,
      Runs false env (ConnectionRPCHandler.handle d ⟨ConnectionAdd, conn⟩) st e
        (.returned (d₁, some c)) st₁ e₁ ∧
      d₁.Connections conn.ContainerID = some c ∧ c.ConnectionDetails.Ip = ip.String ∧
      s.Contains ip = true ∧ ip ∉ held ∧ SessionInv s p (st₁.value (ipamKey s)) (ip :: held) ∧
      Runs false env (ConnectionRPCHandler.handle d₁ ⟨ConnectionDelete, c⟩) st₁ e₁
        (.returned (d₁.setConnection conn.ContainerID none, some c)) st₂ e₂ ∧
      SessionInv s p (st₂.value (ipamKey s)) held ∧
      (∀ k, k ≠ ipamKey s → st₂.value k = st.value k) ∧
      (st.value (ipamKey s) ≠ none → st₂.value (ipamKey s) = st.value (ipamKey s)) := by
  obtain ⟨ip, port, mac, b', e₁, hadd, hin, hnotin, hr'⟩ :=
    runs_AddConnection henv hs (by omega) hname hnet hsub hinv hfree e
  have hst₁ : (st.write (ipamKey s) (.raw b')).value (ipamKey s) = some (.raw b') :=
    Store.value_write_self _ _ _
  obtain ⟨b'', e₂, hdel, hr''⟩ :=
    runs_DeleteConnection_configured henv hs hp hst₁ hr' List.mem_cons_self port mac n.Gateway e₁
  rw [List.erase_cons_head] at hr''
  refine ⟨_, _, _, _, _, _, ip, handle_add hadd, Daemon.setConnection_self _ _ _, rfl, hin, hnotin,
    by rw [hst₁]; exact hr', handle_delete hdel, by rw [Store.value_write_self]; exact hr'', ?_, ?_⟩
  · intro k hk
    rw [Store.value_write_of_ne _ _ hk, Store.value_write_of_ne _ _ hk]
  · intro hsome
    obtain ⟨v, hv⟩ := Option.ne_none_iff_exists'.mp hsome
    obtain ⟨b, rfl⟩ := SessionInv.raw (hv ▸ hinv)
    have hr : Records s p b held := by rw [hv] at hinv; exact hinv
    rw [Store.value_write_self, hv, Records.unique hr'' hr]

end Succeeding

theorem freshBridgeEnv_succeeds : HostSucceeds freshBridgeEnv := by
  intro e q
  cases q with
  | net q => rfl
  | GenerateRandomName pre size => exact ⟨_, rfl⟩
  | _ => rfl

/-- The network `n1` on `10.0.0.0/30`, stored with no bitmap for its subnet yet. -/
def n1Store : Store Key Value :=
  Store.empty.write ⟨networkStore, "n1"⟩ (.record ⟨"n1", "10.0.0.0/30", "10.0.0.1", 1⟩)

set_option maxRecDepth 100000 in
/-- Adding `web` to `n1` on `10.0.0.0/30` and deleting it, on a host where every call
succeeds, gives back the address the add took: from a store without the subnet's
bitmap, and from the store in which a request has taken `10.0.0.1`, whose bitmap reads
as before afterwards. -/
theorem add_then_delete_restores_store_net30 :
    (∃ d₁ c st₁ e₁ st₂ e₂ ip,
      Runs false freshBridgeEnv
        (ConnectionRPCHandler.handle noConnections ⟨ConnectionAdd, webConnection "n1"⟩) n1Store 0
        (.returned (d₁, some c)) st₁ e₁ ∧
      d₁.Connections "web" = some c ∧ c.ConnectionDetails.Ip = ip.String ∧
      net30.Contains ip = true ∧ ip ∉ ([] : List Net.IP) ∧
      SessionInv net30 30 (st₁.value (ipamKey net30)) [ip] ∧
      Runs false freshBridgeEnv (ConnectionRPCHandler.handle d₁ ⟨ConnectionDelete, c⟩) st₁ e₁
        (.returned (d₁.setConnection "web" none, some c)) st₂ e₂ ∧
      SessionInv net30 30 (st₂.value (ipamKey net30)) [] ∧
      (∀ k, k ≠ ipamKey net30 → st₂.value k = n1Store.value k) ∧
      (n1Store.value (ipamKey net30) ≠ none →
        st₂.value (ipamKey net30) = n1Store.value (ipamKey net30))) ∧
    ∃ st₀ : Store Key Value, st₀.value (ipamKey net30) = some (.raw [1]) ∧
      ∃ d₁ c st₁ e₁ st₂ e₂ ip,
      Runs false freshBridgeEnv
        (ConnectionRPCHandler.handle noConnections ⟨ConnectionAdd, webConnection "n1"⟩) st₀ 0
        (.returned (d₁, some c)) st₁ e₁ ∧
      d₁.Connections "web" = some c ∧ c.ConnectionDetails.Ip = ip.String ∧
      net30.Contains ip = true ∧ ip ∉ [[10, 0, 0, 1]] ∧
      SessionInv net30 30 (st₁.value (ipamKey net30)) [ip, [10, 0, 0, 1]] ∧
      Runs false freshBridgeEnv (ConnectionRPCHandler.handle d₁ ⟨ConnectionDelete, c⟩) st₁ e₁
        (.returned (d₁.setConnection "web" none, some c)) st₂ e₂ ∧
      SessionInv net30 30 (st₂.value (ipamKey net30)) [[10, 0, 0, 1]] ∧
      (∀ k, k ≠ ipamKey net30 → st₂.value k = st₀.value k) ∧
      (st₀.value (ipamKey net30) ≠ none →
        st₂.value (ipamKey net30) = st₀.value (ipamKey net30)) := by
  have hparse : ParseCIDR "10.0.0.0/30" = some (IPv4 10 0 0 0, net30) := by decide
  have hn1 : SessionInv net30 30 (n1Store.value (ipamKey net30)) [] := by
    rw [n1Store, Store.value_write_of_ne _ _ (by decide), Store.value_empty]
    rfl
  refine ⟨add_then_delete_restores_store freshBridgeEnv_succeeds net30_v4 (by decide) (by decide)
    (Store.value_write_self _ _ _) hparse hn1 ⟨1, by decide, by decide, by simp⟩ noConnections 0,
    ?_⟩
  have hsess : Session noEnv (HasFree net30 30) net30 n1Store () [] _ _ [[10, 0, 0, 1]] :=
    .request ⟨1, by decide, by decide, by simp⟩
      (Runs.of_run_fst (o := .returned [10, 0, 0, 1]) 50 (by decide)) .nil
  have hinv := hsess.inv net30_v4 (by decide) hn1
  have hnet : (run noEnv 50 (IPAMRequest net30) n1Store ()).2.1.value ⟨networkStore, "n1"⟩ =
      some (.record ⟨"n1", "10.0.0.0/30", "10.0.0.1", 1⟩) := by decide +kernel
  exact ⟨_, by decide +kernel, add_then_delete_restores_store freshBridgeEnv_succeeds net30_v4
    (by decide) (by decide) hnet hparse hinv ⟨2, by decide, by decide, by decide⟩ noConnections 0⟩

end Daemon
