import Socketplane.Daemon.IpamSession
import Socketplane.Daemon.Network
import Socketplane.Daemon.Powerstrip

/-! # Connections (`bridge.go`)

`AddConnection` creates an OVS internal port for a container on the network it
names, takes an address for it from `IPAMRequest` on the network's subnet, moves
the port into the container's namespace and configures it there. A failing host
call after the address is taken returns the connection so far with the error. The
address is configured as its text followed by the last three characters of the
subnet's text, which are `/` and the prefix length only when the length has two
digits. `DeleteConnection` deletes the port and gives the address back with
`IPAMRelease` on the subnet it parses from the address and that suffix; a text that
does not parse leaves a nil subnet, which it dereferences: a panic.

`ConnectionRPCHandler.handle` is one round of the handler's loop, with both calls
run as programs: it records the connection `AddConnection` returns whatever its
error, and drops the entry whatever `DeleteConnection` did. `time.Sleep`, the
thread lock and the deferred namespace restores have no effect here.
-/

namespace Daemon

open Net Kv Ecc Prog Strconv

/-- The requests of `bridge.go` to the host: those of `network.go`, and the calls of
`AddConnection` for the port name, the namespaces and the links, each answered with
an error (`none` for nil) but the random name. -/
inductive BridgeReq where
  | net (q : HostReq)
  | GenerateRandomName (pre : String) (size : Nat)
  | Symlink (nspid : Int)
  | netnsGet
  | netnsGetFromName (name : String)
  | SetInterfaceInNamespaceFd (name : String)
  | netnsSet (name : String)
  | InterfaceDown (name : String)
  | ChangeInterfaceName (old newName : String)
  | SetInterfaceMac (name macaddr : String)
  | SetDefaultGateway (ip ifaceName : String)
deriving DecidableEq, Repr

def BridgeReq.Answer : BridgeReq → Type
  | .net q => q.Answer
  | .GenerateRandomName .. => Except String String
  | _ => Option String

/-- A program of `bridge.go`. -/
abbrev BridgeProg := Prog Key Value BridgeReq BridgeReq.Answer

def bridgeRequest (q : BridgeReq) : BridgeProg q.Answer := .call q .done

/-- A program of `network.go` called from `bridge.go`. -/
def fromNetwork {α : Type} (p : NetProg α) : BridgeProg α := p.liftCalls .net fun _ a => a

/-- `createOvsInternalPort`: the port name and the error, `none` for nil. -/
def createOvsInternalPort (pre bridge : String) (tag : Nat) : BridgeProg (String × Option String) :=
  bridgeRequest (.GenerateRandomName pre 7) >>= fun (name : Except String String) =>
    match name with
    | .error err => .done ("", some err)
    | .ok port =>
        bridgeRequest (.net .OvsConnected) >>= fun connected =>
          if !(connected : Bool) then .done (port, some "OVS not connected")
          else bridgeRequest (.net (.AddInternalPort bridge port tag)) >>= fun _ => .done (port, none)

/-- `generateMacAddr`: `02:42` followed by the IPv4 form of `ip`, zeros where it has none. -/
def generateMacAddr (ip : Net.IP) : List UInt8 := [0x02, 0x42] ++ (ip.To4 ++ List.replicate 4 0).take 4

/-- `subnetString[len(subnetString)-3 : len(subnetString)]`. -/
def AddConnection.subnetPrefix (subnet : IPNet) : String :=
  let subnetString := subnet.String
  String.ofList (subnetString.toList.drop (subnetString.length - 3))

/-- Go on with `k` when a host call answered nil; return `conn` with the error otherwise. -/
def AddConnection.orFail (conn : OvsConnection) (err : Option String)
    (k : BridgeProg (OvsConnection × Option String)) : BridgeProg (OvsConnection × Option String) :=
  match err with
  | some err => .done (conn, some err)
  | none => k

/-- The host calls of `AddConnection` once the address is taken, in order. -/
def AddConnection.configure (nspid : Int) (portName ipText subnetPrefix mac gateway : String)
    (ovsConnection : OvsConnection) : BridgeProg (OvsConnection × Option String) :=
  let orFail := AddConnection.orFail ovsConnection
  bridgeRequest (.net (.SetMtu portName mtu)) >>= fun err => orFail err <|
  bridgeRequest (.net (.InterfaceUp portName)) >>= fun err => orFail err <|
  bridgeRequest (.Symlink nspid) >>= fun err => orFail err <|
  bridgeRequest .netnsGet >>= fun err => orFail err <|
  bridgeRequest (.netnsGetFromName (Itoa nspid)) >>= fun err => orFail err <|
  bridgeRequest (.SetInterfaceInNamespaceFd portName) >>= fun err => orFail err <|
  bridgeRequest (.netnsSet (Itoa nspid)) >>= fun err => orFail err <|
  bridgeRequest (.InterfaceDown portName) >>= fun err => orFail err <|
  bridgeRequest (.ChangeInterfaceName portName portName) >>= fun err => orFail err <|
  bridgeRequest (.net (.SetInterfaceIp portName (ipText ++ subnetPrefix))) >>= fun err => orFail err <|
  bridgeRequest (.SetInterfaceMac portName mac) >>= fun err => orFail err <|
  bridgeRequest (.net (.InterfaceUp portName)) >>= fun err => orFail err <|
  bridgeRequest (.SetDefaultGateway gateway portName) >>= fun err => orFail err <|
  .done (ovsConnection, none)

/-- `AddConnection`: the connection and the error, `none` for nil. -/
def AddConnection (nspid : Int) (networkName : String) : BridgeProg (OvsConnection × Option String) :=
  let bridge := defaultBridgeName
  if bridge = "" then .done (default, some "bridge is not available")
  else
    let networkName := if networkName = "" then DefaultNetworkName else networkName
    fromNetwork (GetNetwork networkName) >>= fun (bridgeNetwork, err) =>
      match err, bridgeNetwork with
      | some err, _ => .done (default, some err)
      | none, none => .crash
      | none, some bridgeNetwork =>
          createOvsInternalPort "ovs" bridge bridgeNetwork.Vlan >>= fun (portName, err) =>
            match err with
            | some err => .done (default, some err)
            | none =>
                match ParseCIDR bridgeNetwork.Subnet with
                -- `*subnet` on the nil subnet of a text that does not parse
                | none => .crash
                | some (_, subnet) =>
                    IPAMRequest subnet >>= fun ip =>
                      let mac := HardwareAddr.String (generateMacAddr ip)
                      let subnetPrefix := AddConnection.subnetPrefix subnet
                      AddConnection.configure nspid portName ip.String subnetPrefix mac
                        bridgeNetwork.Gateway ⟨portName, ip.String, subnetPrefix, mac, bridgeNetwork.Gateway⟩

/-- `DeleteConnection`: the error, `none` for nil. -/
def DeleteConnection (connection : OvsConnection) : BridgeProg (Option String) :=
  bridgeRequest (.net .OvsConnected) >>= fun connected =>
    if !(connected : Bool) then .done (some "OVS not connected")
    else
      bridgeRequest (.net (.deletePort defaultBridgeName connection.Name)) >>= fun _ =>
        let ip := ParseIP connection.Ip
        match ParseCIDR (connection.Ip ++ connection.Subnet) with
        -- `*subnet` on the nil subnet of a text that does not parse
        | none => .crash
        | some (_, subnet) => IPAMRelease ip subnet >>= fun _ => .done none

/-- One round of `ConnectionRPCHandler`: the daemon after the context, and the
connection sent back on `Result` (nothing for an update). -/
def ConnectionRPCHandler.handle (d : Daemon) (c : ConnectionContext) :
    BridgeProg (Daemon × Option Connection) :=
  if c.Action = ConnectionAdd then
    let pid := Atoi c.Connection.ContainerPID
    AddConnection pid c.Connection.Network >>= fun (connDetails, _) =>
      let conn := { c.Connection with OvsPortID := connDetails.Name, ConnectionDetails := connDetails }
      .done (d.setConnection conn.ContainerID (some conn), some conn)
  else if c.Action = ConnectionUpdate then .done (d, none)
  else if c.Action = ConnectionDelete then
    DeleteConnection c.Connection.ConnectionDetails >>= fun _ =>
      .done (d.setConnection c.Connection.ContainerID none, some c.Connection)
  else .done (d, none)

section Handle

variable {σ : Type} {lossy : Bool} {env : Env σ BridgeReq BridgeReq.Answer} {st st' : Store Key Value}
  {e e' : σ} {d : Daemon} {conn : Connection}

theorem handle_add {details : OvsConnection} {err : Option String}
    (h : Runs lossy env (AddConnection (Atoi conn.ContainerPID) conn.Network) st e
      (.returned (details, err)) st' e') :
    Runs lossy env (ConnectionRPCHandler.handle d ⟨ConnectionAdd, conn⟩) st e
      (.returned (d.setConnection conn.ContainerID
          (some { conn with OvsPortID := details.Name, ConnectionDetails := details }),
        some { conn with OvsPortID := details.Name, ConnectionDetails := details })) st' e' := by
  unfold ConnectionRPCHandler.handle
  rw [if_pos rfl]
  exact Runs.bind_returned h (.done rfl)

private theorem handle_delete_eq (d : Daemon) (conn : Connection) :
    ConnectionRPCHandler.handle d ⟨ConnectionDelete, conn⟩ =
      DeleteConnection conn.ConnectionDetails >>= fun _ =>
        .done (d.setConnection conn.ContainerID none, some conn) := by
  have hadd : ConnectionDelete ≠ ConnectionAdd := by decide
  have hupd : ConnectionDelete ≠ ConnectionUpdate := by decide
  simp only [ConnectionRPCHandler.handle, hadd, hupd, ↓reduceIte]

theorem handle_delete {err : Option String}
    (h : Runs lossy env (DeleteConnection conn.ConnectionDetails) st e (.returned err) st' e') :
    Runs lossy env (ConnectionRPCHandler.handle d ⟨ConnectionDelete, conn⟩) st e
      (.returned (d.setConnection conn.ContainerID none, some conn)) st' e' := by
  rw [handle_delete_eq]
  exact Runs.bind_returned h (.done rfl)

theorem handle_delete_panicked
    (h : Runs lossy env (DeleteConnection conn.ConnectionDetails) st e .panicked st' e') :
    Runs lossy env (ConnectionRPCHandler.handle d ⟨ConnectionDelete, conn⟩) st e .panicked st' e' := by
  rw [handle_delete_eq]
  exact Runs.bind_panicked h

theorem runs_handle_add_inv {d₁ : Daemon} {r : Option Connection}
    (h : Runs lossy env (ConnectionRPCHandler.handle d ⟨ConnectionAdd, conn⟩) st e
      (.returned (d₁, r)) st' e') :
    ∃ details err, Runs lossy env (AddConnection (Atoi conn.ContainerPID) conn.Network) st e
        (.returned (details, err)) st' e' ∧
      d₁ = d.setConnection conn.ContainerID
        (some { conn with OvsPortID := details.Name, ConnectionDetails := details }) := by
  unfold ConnectionRPCHandler.handle at h
  rw [if_pos rfl] at h
  rcases Runs.of_bind h with ⟨⟨details, err⟩, st₁, e₁, h₁, h₂⟩ | ⟨ho, -⟩
  · obtain ⟨hr, rfl, rfl⟩ := Runs.done_iff.mp h₂
    cases hr
    exact ⟨details, err, h₁, rfl⟩
  · cases ho

theorem runs_handle_delete_inv {d₁ : Daemon} {r : Option Connection}
    (h : Runs lossy env (ConnectionRPCHandler.handle d ⟨ConnectionDelete, conn⟩) st e
      (.returned (d₁, r)) st' e') :
    ∃ err, Runs lossy env (DeleteConnection conn.ConnectionDetails) st e (.returned err) st' e' ∧
      d₁ = d.setConnection conn.ContainerID none := by
  rw [handle_delete_eq] at h
  rcases Runs.of_bind h with ⟨err, st₁, e₁, h₁, h₂⟩ | ⟨ho, -⟩
  · obtain ⟨hr, rfl, rfl⟩ := Runs.done_iff.mp h₂
    cases hr
    exact ⟨err, h₁, rfl⟩
  · cases ho

/-- What the program does for an effect of the abstract round, from one store and
host state to the next, the host answering `AddConnection` with `host`'s details. -/
def HostEffect.Runs (host : Host) (lossy : Bool) (env : Env σ BridgeReq BridgeReq.Answer) :
    HostEffect → Store Key Value → σ → Store Key Value → σ → Prop
  | .AddConnection nspid networkName, st, e, st', e' => ∃ err,
      Prog.Runs lossy env (Daemon.AddConnection nspid networkName) st e
        (.returned (host.AddConnection nspid networkName, err)) st' e'
  | .DeleteConnection connection, st, e, st', e' => ∃ err,
      Prog.Runs lossy env (Daemon.DeleteConnection connection) st e (.returned err) st' e'

/-- The effects of a round, one after another. -/
def HostEffect.RunsAll (host : Host) (lossy : Bool) (env : Env σ BridgeReq BridgeReq.Answer) :
    List HostEffect → Store Key Value → σ → Store Key Value → σ → Prop
  | [], st, e, st', e' => st' = st ∧ e' = e
  | eff :: rest, st, e, st', e' => ∃ st₁ e₁, eff.Runs host lossy env st e st₁ e₁ ∧
      RunsAll host lossy env rest st₁ e₁ st' e'

/-- A host whose `AddConnection` answers `details`. -/
def Host.answering (details : OvsConnection) : Host := ⟨fun _ => .error "", fun _ _ => details⟩

private theorem runs_done_iff_step {a r : Daemon × Option Connection} :
    Prog.Runs lossy env (.done a) st e (.returned r) st' e' ↔
      ∃ host : Host, r = a ∧ HostEffect.RunsAll host lossy env [] st e st' e' := by
  rw [Runs.done_iff]
  constructor
  · rintro ⟨hr, rfl, rfl⟩
    cases hr
    exact ⟨Host.answering default, rfl, rfl, rfl⟩
  · rintro ⟨-, rfl, rfl, rfl⟩
    exact ⟨rfl, rfl, rfl⟩

/-- **The handler implements its abstract round.** A round of `ConnectionRPCHandler`
run as a program returns exactly what `ConnectionRPCHandler.step` gives for some
host, the abstract round's effect on the host being a run of `AddConnection` that
answers that host's details, or a run of `DeleteConnection`. -/
theorem handle_runs_iff_step {c : ConnectionContext} {r : Daemon × Option Connection} :
    Prog.Runs lossy env (ConnectionRPCHandler.handle d c) st e (.returned r) st' e' ↔
      ∃ host : Host,
        r = ((ConnectionRPCHandler.step host d c).1, (ConnectionRPCHandler.step host d c).2.2) ∧
        HostEffect.RunsAll host lossy env (ConnectionRPCHandler.step host d c).2.1 st e st' e' := by
  unfold ConnectionRPCHandler.handle ConnectionRPCHandler.step
  by_cases hadd : c.Action = ConnectionAdd
  · simp only [if_pos hadd]
    constructor
    · intro h
      rcases Runs.of_bind h with ⟨⟨details, err⟩, st₁, e₁, h₁, h₂⟩ | ⟨ho, -⟩
      · obtain ⟨hr, rfl, rfl⟩ := Runs.done_iff.mp h₂
        cases hr
        exact ⟨Host.answering details, rfl, st', e', ⟨err, h₁⟩, rfl, rfl⟩
      · cases ho
    · rintro ⟨host, rfl, st₁, e₁, ⟨err, h₁⟩, rfl, rfl⟩
      exact Runs.bind_returned h₁ (.done rfl)
  simp only [if_neg hadd]
  by_cases hupd : c.Action = ConnectionUpdate
  · simp only [if_pos hupd]
    exact runs_done_iff_step
  simp only [if_neg hupd]
  by_cases hdel : c.Action = ConnectionDelete
  · simp only [if_pos hdel]
    constructor
    · intro h
      rcases Runs.of_bind h with ⟨err, st₁, e₁, h₁, h₂⟩ | ⟨ho, -⟩
      · obtain ⟨hr, rfl, rfl⟩ := Runs.done_iff.mp h₂
        cases hr
        exact ⟨Host.answering default, rfl, st', e', ⟨err, h₁⟩, rfl, rfl⟩
      · cases ho
    · rintro ⟨host, rfl, st₁, e₁, ⟨err, h₁⟩, rfl, rfl⟩
      exact Runs.bind_returned h₁ (.done rfl)
  simp only [if_neg hdel]
  exact runs_done_iff_step

end Handle

section Configured

/-! ## The address text of a connection

`AddConnection` records the address as `ip.String()` and the subnet as the last three
characters of the subnet's text. With a prefix length of two digits these are `/`
and the length, so the delete parses back the address and the subnet the address
was taken from. With one digit they are the `0` that ends the subnet's address, `/`
and the length: the delete reads the address with a `0` appended to its last octet. -/

variable {s : IPNet} {p : Nat}

private theorem length_toDigits_two {p : Nat} (h10 : 10 ≤ p) (h100 : p < 100) :
    (Nat.toDigits 10 p).length = 2 := by
  have hle : (Nat.toDigits 10 p).length ≤ 2 :=
    (Nat.length_toDigits_le_iff (by decide) (by decide)).mpr h100
  have hge : ¬ (Nat.toDigits 10 p).length ≤ 1 := fun h =>
    absurd ((Nat.length_toDigits_le_iff (by decide) (by decide)).mp h) (by omega)
  omega

theorem subnetPrefix_of_two_digits (hs : V4Prefix s p) (hp : 10 ≤ p) :
    AddConnection.subnetPrefix s = "/" ++ itod p := by
  have h2 := length_toDigits_two hp (by have := hs.le; omega)
  have hlist : s.String.toList = s.IP.String.toList ++ '/' :: Nat.toDigits 10 p := by
    rw [hs.String_eq, String.toList_append, String.toList_append, toList_itod, List.append_assoc]
    rfl
  apply String.toList_inj.mp
  rw [AddConnection.subnetPrefix, String.toList_ofList, ← String.length_toList, hlist,
    String.toList_append, toList_itod]
  apply List.drop_left'
  simp [h2]

theorem ParseCIDR_configured (hs : V4Prefix s p) (hp : 10 ≤ p) {ip : Net.IP}
    (h : s.Contains ip = true) :
    ParseCIDR (ip.String ++ AddConnection.subnetPrefix s) = some (v4InV6Prefix ++ ip.To4, s) := by
  rw [subnetPrefix_of_two_digits hs hp, ← String.append_assoc]
  exact hs.ParseCIDR_of_Contains h

theorem subnetPrefix_of_one_digit (hs : V4Prefix s p) (hp : p < 10) :
    AddConnection.subnetPrefix s = "0/" ++ itod p := by
  obtain ⟨a, b, c, hip⟩ := hs.last_octet_zero (by omega)
  have h4 : s.IP.To4 = [a, b, c, 0] := by rw [hs.To4, hip]
  have hlist : s.String.toList = (Nat.toDigits 10 a.toNat ++ '.' :: (Nat.toDigits 10 b.toNat ++
      '.' :: (Nat.toDigits 10 c.toNat ++ ['.']))) ++ ['0', '/', Nat.digitChar p] := by
    rw [hs.String_eq, String.toList_append, String.toList_append, toList_String_of_To4 h4,
      toList_itod, Nat.toDigits_of_lt_base hp]
    simp
  apply String.toList_inj.mp
  rw [AddConnection.subnetPrefix, String.toList_ofList, ← String.length_toList, hlist,
    List.length_append, List.drop_left' (by simp), String.toList_append, toList_itod,
    Nat.toDigits_of_lt_base hp]
  rfl

/-- For a prefix length of one digit, the text `AddConnection` configures for an address
`a.b.c.d` of the subnet parses as `a.b.c.(10d)`, on the subnet, and fails when `10d`
is not an octet. -/
theorem ParseCIDR_configured_one_digit (hs : V4Prefix s p) (hp : p < 10) {ip : Net.IP}
    {a b c d : UInt8} (h4 : ip.To4 = [a, b, c, d]) (h : s.Contains ip = true) :
    ParseCIDR (ip.String ++ AddConnection.subnetPrefix s) =
      if 10 * d.toNat > 0xFF then none else some (IPv4 a b c (10 * d.toNat).toUInt8, s) := by
  have hsplit : "0/" ++ itod p = "0" ++ "/" ++ itod p := rfl
  rw [subnetPrefix_of_one_digit hs hp, hsplit, ← String.append_assoc, ← String.append_assoc,
    ParseCIDR_String_zero_slash h4 hs.le]
  have hmask := hs.Mask_of_Contains (hs.Contains_of_last (by omega) h4 h (10 * d.toNat).toUInt8)
  rw [hmask, ← hs.mask_eq]

/-- On `10.0.0.0/8`, the text configured for `10.0.0.1` reads as `10.0.0.10`. -/
theorem ParseCIDR_configured_one_digit_slash8 :
    V4Prefix ⟨[10, 0, 0, 0], CIDRMask 8 32⟩ 8 ∧ IP.To4 [10, 0, 0, 1] = [10, 0, 0, 1] ∧
      IPNet.Contains ⟨[10, 0, 0, 0], CIDRMask 8 32⟩ [10, 0, 0, 1] = true ∧
      ParseCIDR (IP.String [10, 0, 0, 1] ++ AddConnection.subnetPrefix ⟨[10, 0, 0, 0], CIDRMask 8 32⟩) =
        if 10 * (1 : UInt8).toNat > 0xFF then none
        else some (IPv4 10 0 0 (10 * (1 : UInt8).toNat).toUInt8, ⟨[10, 0, 0, 0], CIDRMask 8 32⟩) :=
  have hs : V4Prefix ⟨[10, 0, 0, 0], CIDRMask 8 32⟩ 8 := ⟨by decide, rfl, rfl, by decide⟩
  ⟨hs, by decide, by decide, ParseCIDR_configured_one_digit hs (by decide) (by decide) (by decide)⟩

theorem DeleteConnection_configured (hs : V4Prefix s p) (hp : 10 ≤ p) {ip : Net.IP}
    (h : s.Contains ip = true) (name mac gateway : String) :
    DeleteConnection ⟨name, ip.String, AddConnection.subnetPrefix s, mac, gateway⟩ =
      bridgeRequest (.net .OvsConnected) >>= fun connected =>
        if !(connected : Bool) then .done (some "OVS not connected")
        else
          bridgeRequest (.net (.deletePort defaultBridgeName name)) >>= fun _ =>
            IPAMRelease ip.To4 s >>= fun _ => .done none := by
  have h4 := hs.To4_ne_nil_of_Contains h
  have h16 : IP.To4 (v4InV6Prefix ++ ip.To4) = ip.To4 := To4_v4InV6Prefix (To4_length h4)
  have hrel : (IPAMRelease (v4InV6Prefix ++ ip.To4) s : BridgeProg Bool) = IPAMRelease ip.To4 s := by
    rw [← IPAMRelease_To4 (by rw [h16]; exact h4), h16]
  simp only [DeleteConnection, ParseIP_String h4, ParseCIDR_configured hs hp h, hrel]

end Configured

/-- A host on which OVS is connected and every call succeeds; the random port names
count up with the host's state. -/
def freshBridgeEnv : Env Nat BridgeReq BridgeReq.Answer
  | n, .net q => (freshHost q, n)
  | n, .GenerateRandomName pre size =>
      (.ok (pre ++ String.ofList ((Nat.toDigits 16 n).leftpad size '0')), n + 1)
  | n, .Symlink _ => ((none : Option String), n)
  | n, .netnsGet => ((none : Option String), n)
  | n, .netnsGetFromName _ => ((none : Option String), n)
  | n, .SetInterfaceInNamespaceFd _ => ((none : Option String), n)
  | n, .netnsSet _ => ((none : Option String), n)
  | n, .InterfaceDown _ => ((none : Option String), n)
  | n, .ChangeInterfaceName .. => ((none : Option String), n)
  | n, .SetInterfaceMac .. => ((none : Option String), n)
  | n, .SetDefaultGateway .. => ((none : Option String), n)

def noConnections : Daemon := ⟨fun _ => none⟩

/-- The connection `createConnection` sends for container `web`, pid 4242, on a network. -/
def webConnection (network : String) : Connection :=
  { ContainerID := "web", ContainerName := "/web", ContainerPID := "4242", Network := network,
    OvsPortID := "", ConnectionDetails := default }

/-- `10.0.0.0/8` as `ParseCIDR` returns it. -/
def net8 : IPNet := ⟨[10, 0, 0, 0], CIDRMask 8 32⟩

/-- On `10.0.0.0/8` the first request from a store without its bitmap returns
`10.0.0.1`, but the suffix `AddConnection` cuts from the subnet's text is `0/8`, so the
text it configures on the container parses to `10.0.0.10`. -/
theorem add_connection_one_digit_prefix :
    ParseCIDR "10.0.0.0/8" = some (IPv4 10 0 0 0, net8) ∧
      (∃ st, Runs false noEnv (IPAMRequest net8) Store.empty () (.returned [10, 0, 0, 1]) st ()) ∧
      AddConnection.subnetPrefix net8 = "0/8" ∧
      ParseCIDR (IP.String [10, 0, 0, 1] ++ AddConnection.subnetPrefix net8) =
        some (IPv4 10 0 0 10, net8) := by
  have hv4 : V4Prefix net8 8 := ⟨by decide, by decide, rfl, by decide⟩
  have hfresh : ∃ ip st, Runs false noEnv (IPAMRequest net8) Store.empty () (.returned ip) st () ∧
      ip.length = 4 ∧ ByteNum.value ip = ByteNum.value net8.IP + 1 :=
    request_fresh hv4 (by decide) (by decide) (Store.value_empty _) ()
  obtain ⟨ip, st, hrun, hlen, hval⟩ := hfresh
  have hip : ip = [10, 0, 0, 1] := ByteNum.eq_of_value_eq (by rw [hlen]; rfl) (by rw [hval]; decide)
  exact ⟨by decide, ⟨st, hip ▸ hrun⟩, by decide, by decide⟩

set_option maxRecDepth 100000 in
/-- A container that asks for a network that does not exist gets its connection
recorded with empty details; the delete round for it parses the empty text as a CIDR
and panics. -/
theorem add_missing_network_then_delete_panics :
    ∃ st₁ st₂ : Store Key Value, ∃ d₁ c₁ e₁ e₂,
      Runs false freshBridgeEnv
        (ConnectionRPCHandler.handle noConnections ⟨ConnectionAdd, webConnection "nonet"⟩)
        Store.empty 0 (.returned (d₁, some c₁)) st₁ e₁ ∧
      d₁.Connections "web" = some c₁ ∧ c₁.ConnectionDetails = default ∧
      Runs false freshBridgeEnv (ConnectionRPCHandler.handle d₁ ⟨ConnectionDelete, c₁⟩) st₁ e₁
        .panicked st₂ e₂ := by
  have hadd : Runs false freshBridgeEnv (AddConnection (Atoi "4242") "nonet") Store.empty 0
      (.returned (default, some "Network unavailable")) _ _ := Runs.of_run_fst 200 (by decide)
  exact ⟨_, _, _, _, _, _, handle_add hadd, Daemon.setConnection_self _ _ _, rfl,
    handle_delete_panicked (Runs.of_run_fst 200 (by decide))⟩

set_option maxRecDepth 100000 in
/-- After `CreateNetwork` of `n1` on `10.0.0.0/30` takes the gateway `10.0.0.1`, two add
rounds for container `web` take `10.0.0.2` and then `10.0.0.3`: the daemon keeps only
the second connection, while the bitmap holds both addresses. -/
theorem readd_keeps_first_address :
    ∃ st₁ st₂ st₃ : Store Key Value, ∃ d₁ d₂ c₁ c₂ e₁ e₂,
      Runs false freshEnv (CreateNetwork "n1" net30) Store.empty ()
        (.returned (some ⟨"n1", "10.0.0.0/30", "10.0.0.1", 1⟩, none)) st₁ () ∧
      Runs false freshBridgeEnv
        (ConnectionRPCHandler.handle noConnections ⟨ConnectionAdd, webConnection "n1"⟩) st₁ 0
        (.returned (d₁, some c₁)) st₂ e₁ ∧
      Runs false freshBridgeEnv (ConnectionRPCHandler.handle d₁ ⟨ConnectionAdd, webConnection "n1"⟩)
        st₂ e₁ (.returned (d₂, some c₂)) st₃ e₂ ∧
      c₁.ConnectionDetails.Ip = "10.0.0.2" ∧ c₂.ConnectionDetails.Ip = "10.0.0.3" ∧
      (∀ k, d₂.Connections k = if k = "web" then some c₂ else none) ∧
      st₃.value (ipamKey net30) = some (.raw [7]) := by
  have hcreate : Runs false freshEnv (CreateNetwork "n1" net30) Store.empty ()
      (.returned (some ⟨"n1", "10.0.0.0/30", "10.0.0.1", 1⟩, none)) _ () :=
    Runs.of_run_fst 200 (by decide)
  have hadd₁ : Runs false freshBridgeEnv (AddConnection (Atoi "4242") "n1")
      (run freshEnv 200 (CreateNetwork "n1" net30) Store.empty ()).2.1 0
      (.returned (⟨"ovs0000000", "10.0.0.2", "/30", "02:42:0a:00:00:02", "10.0.0.1"⟩, none)) _ _ :=
    Runs.of_run_fst 200 (by decide)
  have hadd₂ : Runs false freshBridgeEnv (AddConnection (Atoi "4242") "n1")
      (run freshBridgeEnv 200 (AddConnection (Atoi "4242") "n1")
        (run freshEnv 200 (CreateNetwork "n1" net30) Store.empty ()).2.1 0).2.1 1
      (.returned (⟨"ovs0000001", "10.0.0.3", "/30", "02:42:0a:00:00:03", "10.0.0.1"⟩, none)) _ _ :=
    Runs.of_run_fst 200 (by decide)
  refine ⟨_, _, _, _, _, _, _, _, _, hcreate, handle_add hadd₁, handle_add hadd₂, rfl, rfl,
    fun k => ?_, by decide⟩
  by_cases hk : k = "web"
  · simp [Daemon.setConnection, webConnection, hk]
  · simp [Daemon.setConnection, noConnections, webConnection, hk]

/-- A host on which the interface of network `n1` outlived the store, with its
gateway address `10.0.0.1/30`. -/
def ifaceHost : (q : HostReq) → q.Answer
  | .GetIfaceAddr "n1" => (some ⟨[10, 0, 0, 1], CIDRMask 30 32⟩ : Option IPNet)
  | q => freshHost q

def ifaceEnv : Env Unit HostReq HostReq.Answer := fun _ q => (ifaceHost q, ())

set_option maxRecDepth 100000 in
/-- On an empty store and a host where interface `n1` kept its address `10.0.0.1/30`,
`CreateNetwork` of `n1` takes the gateway from the interface without marking it in the
subnet's bitmap; the first connection on `n1` is then given the gateway's address. -/
theorem existing_port_gateway_handed_out :
    ∃ st₁ st₂ : Store Key Value, ∃ d₁ c₁ e₁,
      Runs false ifaceEnv (CreateNetwork "n1" net30) Store.empty ()
        (.returned (some ⟨"n1", "10.0.0.0/30", "10.0.0.1", 1⟩, none)) st₁ () ∧
      st₁.value ⟨networkStore, "n1"⟩ = some (.record ⟨"n1", "10.0.0.0/30", "10.0.0.1", 1⟩) ∧
      st₁.value (ipamKey net30) = none ∧
      Runs false freshBridgeEnv
        (ConnectionRPCHandler.handle noConnections ⟨ConnectionAdd, webConnection "n1"⟩) st₁ 0
        (.returned (d₁, some c₁)) st₂ e₁ ∧
      c₁.ConnectionDetails.Ip = "10.0.0.1" := by
  have hcreate : Runs false ifaceEnv (CreateNetwork "n1" net30) Store.empty ()
      (.returned (some ⟨"n1", "10.0.0.0/30", "10.0.0.1", 1⟩, none)) _ () :=
    Runs.of_run_fst 200 (by decide)
  have hadd : Runs false freshBridgeEnv (AddConnection (Atoi "4242") "n1")
      (run ifaceEnv 200 (CreateNetwork "n1" net30) Store.empty ()).2.1 0
      (.returned (⟨"ovs0000000", "10.0.0.1", "/30", "02:42:0a:00:00:01", "10.0.0.1"⟩, none)) _ _ :=
    Runs.of_run_fst 200 (by decide)
  exact ⟨_, _, _, _, _, hcreate, by decide, by decide, handle_add hadd, rfl⟩

end Daemon
