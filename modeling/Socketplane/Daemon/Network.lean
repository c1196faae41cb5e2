import Socketplane.Daemon.Allocators

/-! # Networks (`network.go`)

A network is a record under `network/<id>` with the VLAN it was given and the
gateway address `IPAMRequest` handed out for it. `CreateNetwork` allocates both,
creates the network's OVS port and sets the gateway on it (or, when an interface
of that name already exists, takes the gateway and the subnet from it), then
writes the record with `ecc.Put(…, nil)`; on `OUTDATED` it gives the VLAN and the
gateway back and calls itself again, with the subnet it ended up with.
`DeleteNetwork` deletes the record, gives the VLAN back and deletes the port.

The host answers the netlink, OVS and iptables calls: `HostReq` lists them, each
answered with an error (`none` for nil) except `GetIfaceAddr`, answered with the
interface's address or nothing, and the check of the global OVS connection.
`time.Sleep` has no effect here.
-/

namespace Daemon

open Net Kv Ecc Prog

def networkStore : String := "network"

def defaultBridgeName : String := "docker0-ovs"

def mtu : Nat := 1440

/-- The requests of `network.go` to the host. -/
inductive HostReq where
  | GetIfaceAddr (name : String)
  | OvsConnected
  | AddInternalPort (bridgeName portName : String) (tag : Nat)
  | SetMtu (name : String) (mtu : Nat)
  | SetInterfaceIp (name rawIp : String)
  | InterfaceUp (name : String)
  | setupIPTables (bridgeName bridgeIP : String)
  | deletePort (bridgeName portName : String)
deriving DecidableEq, Repr

def HostReq.Answer : HostReq → Type
  | .GetIfaceAddr _ => Option IPNet
  | .OvsConnected => Bool
  | _ => Option String

/-- A program of `network.go`. -/
abbrev NetProg := Prog Key Value HostReq HostReq.Answer

/-- Ask the host. -/
def request (q : HostReq) : NetProg q.Answer := .call q .done

/-- `GetNetwork`: the stored record, or the error. A stored record reads back as
itself; raw bytes under `network/` are not parsed as JSON and are an error. -/
def GetNetwork (id : String) : NetProg (Option Network × Option String) :=
  Ecc.Get networkStore id >>= fun (netByteArray, _, ok) =>
    if ok then
      match netByteArray with
      | some (.record network) => .done (some network, none)
      | _ => .done (none, some "invalid character looking for beginning of value")
    else .done (none, some "Network unavailable")

theorem runs_GetNetwork_record {τ : Type} {env : Env τ HostReq HostReq.Answer}
    {st : Store Key Value} {id : String} {n : Network}
    (h : st.value ⟨networkStore, id⟩ = some (.record n)) (e : τ) :
    Runs false env (GetNetwork id) st e (.returned (some n, none)) st e := by
  obtain ⟨c, hc, hv⟩ : ∃ c, st.cells ⟨networkStore, id⟩ = some c ∧ c.value = .record n := by
    simpa [Store.value] using h
  exact .get rfl (by rw [hc]; simp only [hv]; exact .done rfl)

/-- The part of `CreateNetwork` after the interface: write the record, and give the
VLAN and the gateway back and start over with `subnet` when the write is
`OUTDATED`. -/
def CreateNetwork.store (id : String) (subnet : IPNet) (gateway : Net.IP) (network : Network) :
    NetProg (IPNet ⊕ (Option Network × Option String)) :=
  Ecc.Put networkStore id (.record network) (.raw []) >>= fun eccerr =>
    if eccerr = .OUTDATED then
      releaseVlan network.Vlan >>= fun _ =>
        IPAMRelease gateway subnet >>= fun _ => .done (.inl subnet)
    else
      request (.setupIPTables network.ID network.Subnet) >>= fun err =>
        match (err : Option String) with
        | some err => .done (.inr (some network, some err))
        | none => .done (.inr (some network, none))

/-- The interface does not exist: take a gateway from IPAM, create the port and
set the gateway on it. -/
def CreateNetwork.newIface (id : String) (subnet : IPNet) (vlan : Nat) :
    NetProg (IPNet ⊕ (Option Network × Option String)) :=
  request .OvsConnected >>= fun connected =>
    if !(connected : Bool) then .done (.inr (none, some "OVS not connected"))
    else
      IPAMRequest subnet >>= fun gateway =>
        let network : Network := ⟨id, subnet.String, gateway.String, vlan⟩
        let gatewayNet : IPNet := ⟨gateway, subnet.Mask⟩
        request (.AddInternalPort defaultBridgeName network.ID vlan) >>= fun err =>
          match (err : Option String) with
          | some err => .done (.inr (some network, some err))
          | none =>
              request (.SetMtu network.ID mtu) >>= fun err =>
                match (err : Option String) with
                | some err => .done (.inr (some network, some err))
                | none =>
                    request (.SetInterfaceIp network.ID gatewayNet.String) >>= fun err =>
                      match (err : Option String) with
                      | some err => .done (.inr (some network, some err))
                      | none =>
                          request (.InterfaceUp network.ID) >>= fun err =>
                            match (err : Option String) with
                            | some err => .done (.inr (some network, some err))
                            | none => CreateNetwork.store id subnet gateway network

/-- One pass of `CreateNetwork`, up to its recursive call. -/
def CreateNetwork.pass (id : String) (subnet : IPNet) :
    NetProg (IPNet ⊕ (Option Network × Option String)) :=
  GetNetwork id >>= fun (network, err) =>
    if err.isNone then .done (.inr (network, none))
    else
      allocateVlan >>= fun (vlan, err) =>
        match err with
        | some err => .done (.inr (none, some err))
        | none =>
            request (.GetIfaceAddr id) >>= fun addr =>
              match (addr : Option IPNet) with
              | none => CreateNetwork.newIface id subnet vlan
              | some addr =>
                  -- the interface exists: its address gives the gateway and the subnet
                  let ifaceAddr := addr.String
                  match ParseCIDR ifaceAddr with
                  | none => .done (.inr (none, some ("invalid CIDR address: " ++ ifaceAddr)))
                  | some (gateway, subnet) =>
                      CreateNetwork.store id subnet gateway ⟨id, subnet.String, gateway.String, vlan⟩

def CreateNetwork (id : String) (subnet : IPNet) : NetProg (Option Network × Option String) :=
  Prog.iter (CreateNetwork.pass id) subnet

/-- `DeleteNetwork`: the error, `none` for nil. -/
def DeleteNetwork (id : String) : NetProg (Option String) :=
  GetNetwork id >>= fun (network, err) =>
    match err, network with
    | some err, _ => .done (some err)
    | none, none => .crash
    | none, some network =>
        request .OvsConnected >>= fun connected =>
          if !(connected : Bool) then .done (some "OVS not connected")
          else
            Ecc.Delete networkStore id >>= fun eccerror =>
              if eccerror ≠ .OK then .done (some "Error deleting network")
              else
                releaseVlan network.Vlan >>= fun _ =>
                  request (.deletePort defaultBridgeName id) >>= fun _ => .done none

/-- A host on which no interface exists yet, OVS is connected and every call
succeeds. -/
def freshHost : (q : HostReq) → q.Answer
  | .GetIfaceAddr _ => (none : Option IPNet)
  | .OvsConnected => true
  | .AddInternalPort .. => (none : Option String)
  | .SetMtu .. => (none : Option String)
  | .SetInterfaceIp .. => (none : Option String)
  | .InterfaceUp .. => (none : Option String)
  | .setupIPTables .. => (none : Option String)
  | .deletePort .. => (none : Option String)

def freshEnv : Env Unit HostReq HostReq.Answer := fun _ q => (freshHost q, ())

/-- `10.1.0.0/24` as `ParseCIDR` returns it. -/
def net24 : IPNet := ⟨[10, 1, 0, 0], CIDRMask 24 32⟩

set_option maxRecDepth 100000 in
/-- On an empty store, creating network `n1` on `10.1.0.0/24` and deleting it leaves
the gateway `10.1.0.1` set in the IPAM bitmap of the subnet, which had none, and the
next creation gets the gateway `10.1.0.2`. -/
theorem create_delete_keeps_gateway :
    ∃ st₁ st₂ st₃ : Store Key Value,
      Runs false freshEnv (CreateNetwork "n1" net24) Store.empty ()
        (.returned (some ⟨"n1", "10.1.0.0/24", "10.1.0.1", 1⟩, none)) st₁ () ∧
      Runs false freshEnv (DeleteNetwork "n1") st₁ () (.returned none) st₂ () ∧
      (Store.empty : Store Key Value).value (ipamKey net24) = none ∧
      st₂.value (ipamKey net24) = some (.raw (1 :: List.replicate 31 0)) ∧
      Runs false freshEnv (CreateNetwork "n1" net24) st₂ ()
        (.returned (some ⟨"n1", "10.1.0.0/24", "10.1.0.2", 1⟩, none)) st₃ () := by
  refine ⟨_, _, _, Runs.of_run_fst 200 (by decide), Runs.of_run_fst 200 (by decide), rfl,
    by decide, Runs.of_run_fst 200 (by decide)⟩

/-- The VLAN bitmap records the stored networks: bit `j` is set exactly when a network
with VLAN `j + 1` is stored. -/
def VlanRecords (st : Store Key Value) : Prop :=
  ∀ j, (∃ b, st.value vlanKey = some (.raw b) ∧ Bitmap.bit b j = true) ↔
    ∃ id n, st.value ⟨networkStore, id⟩ = some (.record n) ∧ n.Vlan = j + 1

/-- A host on which OVS is not connected; it answers the other calls as `freshHost`. -/
def ovsDownHost : (q : HostReq) → q.Answer
  | .OvsConnected => (false : Bool)
  | q => freshHost q

def ovsDownEnv : Env Unit HostReq HostReq.Answer := fun _ q => (ovsDownHost q, ())

set_option maxRecDepth 100000 in
/-- On an empty store, which records no VLAN, `CreateNetwork` on a host without OVS
takes VLAN 1 and returns the error without storing the network or giving the VLAN
back: the store it leaves has bit 0 set and no network. -/
theorem create_without_ovs_keeps_vlan :
    VlanRecords Store.empty ∧
      ∃ st₁, Runs false ovsDownEnv (CreateNetwork "n1" net24) Store.empty ()
          (.returned (none, some "OVS not connected")) st₁ () ∧
        st₁.value vlanKey = some (.raw (1 :: List.replicate 511 0)) ∧ ¬ VlanRecords st₁ := by
  have hst : (run ovsDownEnv 200 (CreateNetwork "n1" net24) Store.empty ()).2.1 =
      Store.empty.write vlanKey (.raw (1 :: List.replicate 511 0)) := by rfl
  refine ⟨fun j => by simp, _, Runs.of_run_fst 200 (by decide), by rw [hst]; rfl, ?_⟩
  intro hrec
  obtain ⟨id, n, hn, -⟩ := (hrec 0).mp ⟨_, by rw [hst]; rfl, by decide⟩
  have hkey : (⟨networkStore, id⟩ : Key) ≠ vlanKey := fun h => by
    have hstore : networkStore = vlanStore := congrArg Key.store h
    exact absurd hstore (by decide)
  rw [hst, Store.value_write_of_ne _ _ hkey, Store.value_empty] at hn
  cases hn

end Daemon
