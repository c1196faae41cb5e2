import Socketplane.Go.Strings

/-! # The Powerstrip post hook and the connection handler

`psAdapterPostHook` (`powerstrip.go`) runs after Docker answers a container start
(`POST`) or delete (`DELETE`). It takes the container's key from the request path,
split on `/` into at most five pieces: piece 3 after an API version prefix `/v…`,
piece 2 without one. A start inspects the container and asks the connection
handler (`ConnectionRPCHandler`, `bridge.go`) to add an OVS connection under that
key; a delete looks the key up among the daemon's connections and asks the
handler to delete what it finds. The hook waits for the handler's answer, so one
call of the hook is one round of the handler.

The host is what the hook asks and what the handler does outside the daemon:
`InspectContainer` answers, `AddConnection` answers with the port it creates, and
the two connection calls are recorded as effects. A Go panic (an index out of
range) is `none`.
-/

namespace Daemon

open Regexp Strings Strconv

def DefaultNetworkName : String := "default"

/-- The OVS port of a connection, as `AddConnection` reports it. -/
structure OvsConnection where
  Name : String
  Ip : String
  Subnet : String
  Mac : String
  Gateway : String
deriving DecidableEq, Repr, Inhabited

structure Connection where
  ContainerID : String
  ContainerName : String
  ContainerPID : String
  Network : String
  OvsPortID : String
  ConnectionDetails : OvsConnection
deriving DecidableEq, Repr

-- the daemon's own type is `daemon.Daemon`: the package name is the namespace
set_option linter.dupNamespace false

/-- The daemon's connections, by container key. -/
structure Daemon where
  Connections : String → Option Connection

def Daemon.setConnection (d : Daemon) (key : String) (c : Option Connection) : Daemon :=
  ⟨fun k => if k = key then c else d.Connections k⟩

@[simp] theorem Daemon.setConnection_self (d : Daemon) (key : String) (c : Option Connection) :
    (d.setConnection key c).Connections key = c := by
  simp [Daemon.setConnection]

@[simp] theorem Daemon.setConnection_ne (d : Daemon) {key k : String} (c : Option Connection)
    (h : k ≠ key) : (d.setConnection key c).Connections k = d.Connections k := by
  simp [Daemon.setConnection, h]

theorem Daemon.setConnection_eq_some {d : Daemon} {key k : String} {c? : Option Connection}
    {c : Connection} : (d.setConnection key c?).Connections k = some c ↔
      (k = key ∧ c? = some c) ∨ (k ≠ key ∧ d.Connections k = some c) := by
  by_cases hk : k = key <;> simp [Daemon.setConnection, hk]

/-- What `docker.InspectContainer` reports that the hook reads: `Name`,
`State.Pid` and `Config.Env`. -/
structure ContainerInfo where
  Name : String
  Pid : Int
  Env : List String

structure Host where
  InspectContainer : String → Except String ContainerInfo
  AddConnection : Int → String → OvsConnection

/-- The calls to the host that change it. -/
inductive HostEffect where
  | AddConnection (nspid : Int) (networkName : String)
  | DeleteConnection (connection : OvsConnection)
deriving DecidableEq, Repr

def ConnectionAdd : Nat := 0

def ConnectionUpdate : Nat := 1

def ConnectionDelete : Nat := 2

structure ConnectionContext where
  Action : Nat
  Connection : Connection

/-- One round of `ConnectionRPCHandler`: the daemon after the request, the effects
on the host, and the connection sent back on `Result` (nothing for an update). -/
def ConnectionRPCHandler.step (host : Host) (d : Daemon) (c : ConnectionContext) :
    Daemon × List HostEffect × Option Connection :=
  if c.Action = ConnectionAdd then
    let pid := Atoi c.Connection.ContainerPID
    let connDetails := host.AddConnection pid c.Connection.Network
    let conn := { c.Connection with OvsPortID := connDetails.Name, ConnectionDetails := connDetails }
    (d.setConnection conn.ContainerID (some conn), [.AddConnection pid c.Connection.Network],
      some conn)
  else if c.Action = ConnectionUpdate then (d, [], none)
  else if c.Action = ConnectionDelete then
    (d.setConnection c.Connection.ContainerID none,
      [.DeleteConnection c.Connection.ConnectionDetails], some c.Connection)
  else (d, [], none)

structure ServerResponse where
  Body : String
  Code : Int
  ContentType : String
deriving DecidableEq, Repr

structure ClientRequest where
  Method : String
  Request : String
deriving DecidableEq, Repr

/-- A Powerstrip adapter request, with the fields the post hook reads. -/
structure AdapterRequest where
  PowerstripProtocolVersion : Int
  ClientRequest : ClientRequest
  ServerResponse : ServerResponse

structure AdapterPostResponse where
  PowerstripProtocolVersion : Int
  ModifiedServerResponse : ServerResponse
deriving DecidableEq, Repr

def AdapterPostResponse.withCode (r : AdapterPostResponse) (code : Int) : AdapterPostResponse :=
  { r with ModifiedServerResponse := { r.ModifiedServerResponse with Code := code } }

/-- The container key of a request path: piece 3 of the path split on `/` into at
most five pieces when the path starts with `/v`, piece 2 otherwise. -/
def psAdapterPostHook.cid (request : String) : Option String :=
  let s := Split '/' request 5
  if HasPrefix request "/v" then s[3]? else s[2]?

/-- The network a container asks for: the value of its last `SP_NETWORK=` entry,
trimmed of spaces. An entry `SP_NETWORK` with no `=` has no piece 1: a panic. -/
def psAdapterPostHook.network (env : List String) (network : String) : Option String :=
  env.foldlM (fun network e => do
      let val := Split '=' e 3
      if val[0]? = some "SP_NETWORK" then
        let v ← val[1]?
        pure (Trim v " ")
      else pure network)
    network

/-- The response the hook starts from: Docker's answer, passed on as JSON. -/
def psAdapterPostHook.postResp (reqParams : AdapterRequest) : AdapterPostResponse :=
  { PowerstripProtocolVersion := reqParams.PowerstripProtocolVersion
    ModifiedServerResponse :=
      { Body := reqParams.ServerResponse.Body
        Code := reqParams.ServerResponse.Code
        ContentType := "application/json" } }

def psAdapterPostHook (host : Host) (d : Daemon) (reqParams : AdapterRequest) :
    Option (AdapterPostResponse × Daemon × List HostEffect) := do
  let postResp := psAdapterPostHook.postResp reqParams
  let method := reqParams.ClientRequest.Method
  if method ≠ "POST" ∧ method ≠ "DELETE" then
    return (postResp.withCode 500, d, [])
  if reqParams.ClientRequest.Request = "" then
    return (postResp, d, [])
  let cid ← psAdapterPostHook.cid reqParams.ClientRequest.Request
  let context : ConnectionContext ←
    if method = "POST" then
      match host.InspectContainer cid with
      | .error _ => return (postResp.withCode 404, d, [])
      | .ok info =>
          let network ← psAdapterPostHook.network info.Env DefaultNetworkName
          pure ⟨ConnectionAdd,
            { ContainerID := cid, ContainerName := info.Name, ContainerPID := Itoa info.Pid,
              Network := network, OvsPortID := "", ConnectionDetails := default }⟩
    else
      match d.Connections cid with
      | none => return (postResp.withCode 500, d, [])
      | some cfg => pure ⟨ConnectionDelete, cfg⟩
  -- the hook sends the context to the handler and waits for its answer
  let (d, effects, _) := ConnectionRPCHandler.step host d context
  return (postResp, d, effects)

/-! ## Request paths -/

/-- The API version prefix of a Docker request path: none, or `/v<ver>`. -/
def versionPrefix : Option String → String
  | none => ""
  | some ver => "/v" ++ ver

/-- The path of Docker's start call for container `c`. -/
def startPath (ver : Option String) (c : String) : String :=
  versionPrefix ver ++ "/containers/" ++ (c ++ "/start")

/-- The path of Docker's delete call for container `c`, with its query string if any. -/
def deletePath (ver : Option String) (c : String) (query : Option String) : String :=
  versionPrefix ver ++ "/containers/" ++ (c ++ query.elim "" ("?" ++ ·))

/-- A version prefix without `/` in the version. -/
def versionPrefix.Plain (ver : Option String) : Prop := ∀ v, ver = some v → '/' ∉ v.toList

private theorem pieces_containers (n : Nat) (tail : List Char) :
    (Split.pieces '/' (n + 1 + 2) ("containers".toList ++ '/' :: tail))[1]? =
      some (tail.takeWhile (· ≠ '/')) := by
  rw [pieces_append_sep (by simp) (n + 1), List.getElem?_cons_succ, getElem?_zero_pieces]

theorem cid_containers {ver : Option String} (hv : versionPrefix.Plain ver) (tail : String) :
    psAdapterPostHook.cid (versionPrefix ver ++ "/containers/" ++ tail) =
      some (String.ofList (tail.toList.takeWhile (· ≠ '/'))) := by
  cases ver with
  | none =>
      have hpath : (versionPrefix none ++ "/containers/" ++ tail).toList =
          [] ++ '/' :: ("containers".toList ++ '/' :: tail.toList) := by
        simp [versionPrefix]
      have hpre : HasPrefix (versionPrefix none ++ "/containers/" ++ tail) "/v" = false := by
        simp [HasPrefix, versionPrefix, List.isPrefixOf]
      simp only [psAdapterPostHook.cid, hpre, Bool.false_eq_true, if_false, Split, hpath]
      rw [pieces_append_sep List.not_mem_nil 3, List.getElem?_map, List.getElem?_cons_succ,
        pieces_containers 1, Option.map_some]
  | some v =>
      have hpath : (versionPrefix (some v) ++ "/containers/" ++ tail).toList =
          [] ++ '/' :: (('v' :: v.toList) ++ '/' :: ("containers".toList ++ '/' :: tail.toList)) := by
        simp [versionPrefix]
      have hpre : HasPrefix (versionPrefix (some v) ++ "/containers/" ++ tail) "/v" = true := by
        simp [HasPrefix, versionPrefix]
      have hv' : '/' ∉ 'v' :: v.toList := by simpa using hv v rfl
      simp only [psAdapterPostHook.cid, hpre, if_true, Split, hpath]
      rw [pieces_append_sep List.not_mem_nil 3, pieces_append_sep hv' 2, List.getElem?_map,
        List.getElem?_cons_succ, List.getElem?_cons_succ, pieces_containers 0, Option.map_some]

theorem cid_startPath {ver : Option String} (hv : versionPrefix.Plain ver) {c : String}
    (hc : '/' ∉ c.toList) : psAdapterPostHook.cid (startPath ver c) = some c := by
  rw [startPath, cid_containers hv, String.toList_append,
    show "/start".toList = '/' :: "start".toList by simp, takeWhile_append_sep hc,
    String.ofList_toList]

theorem cid_deletePath {ver : Option String} (hv : versionPrefix.Plain ver) {c : String}
    (hc : '/' ∉ c.toList) : psAdapterPostHook.cid (deletePath ver c none) = some c := by
  rw [deletePath, cid_containers hv, Option.elim_none, String.append_empty, takeWhile_of_not_mem hc,
    String.ofList_toList]

theorem cid_deletePath_query {ver : Option String} (hv : versionPrefix.Plain ver) {c : String}
    (hc : '/' ∉ c.toList) (q : String) :
    psAdapterPostHook.cid (deletePath ver c (some q)) =
      some (c ++ "?" ++ String.ofList (q.toList.takeWhile (· ≠ '/'))) := by
  have hq : (c ++ "?" ++ q).toList.takeWhile (· ≠ '/') =
      c.toList ++ '?' :: q.toList.takeWhile (· ≠ '/') := by
    have hq : "?".toList = ['?'] := by simp
    rw [String.toList_append, String.toList_append, List.append_assoc, hq, List.singleton_append,
      List.takeWhile_append_of_pos (p := (· ≠ '/'))
        (fun a ha => decide_eq_true (fun h : a = '/' => hc (h ▸ ha))),
      List.takeWhile_cons, if_pos (by decide)]
  rw [deletePath, cid_containers hv, Option.elim_some, ← String.append_assoc, hq]
  apply congrArg some
  apply String.toList_injective
  simp

theorem append_query_ne (c x : String) : c ++ "?" ++ x ≠ c := by
  intro h
  have hlen := congrArg String.length h
  have h1 : "?".length = 1 := rfl
  simp only [String.length_append, h1] at hlen
  omega

/-! ## One call of the hook -/

section Hook

variable (host : Host) (d : Daemon) {reqParams : AdapterRequest} {c : String}

/-- The connection the handler records for a started container. -/
def startConnection (host : Host) (c : String) (info : ContainerInfo) (net : String) :
    Connection :=
  let connDetails := host.AddConnection (Atoi (Itoa info.Pid)) net
  { ContainerID := c, ContainerName := info.Name, ContainerPID := Itoa info.Pid, Network := net,
    OvsPortID := connDetails.Name, ConnectionDetails := connDetails }

theorem psAdapterPostHook_start (hm : reqParams.ClientRequest.Method = "POST")
    (hr : reqParams.ClientRequest.Request ≠ "")
    (hc : psAdapterPostHook.cid reqParams.ClientRequest.Request = some c)
    {info : ContainerInfo} (hi : host.InspectContainer c = .ok info) {net : String}
    (hn : psAdapterPostHook.network info.Env DefaultNetworkName = some net) :
    psAdapterPostHook host d reqParams =
      some (psAdapterPostHook.postResp reqParams, d.setConnection c (some (startConnection host c info net)),
        [.AddConnection (Atoi (Itoa info.Pid)) net]) := by
  simp [psAdapterPostHook, hm, hr, hc, hi, hn, ConnectionRPCHandler.step, ConnectionAdd,
    startConnection]

theorem psAdapterPostHook_delete (hm : reqParams.ClientRequest.Method = "DELETE")
    (hr : reqParams.ClientRequest.Request ≠ "")
    (hc : psAdapterPostHook.cid reqParams.ClientRequest.Request = some c) {cfg : Connection}
    (hd : d.Connections c = some cfg) :
    psAdapterPostHook host d reqParams =
      some (psAdapterPostHook.postResp reqParams, d.setConnection cfg.ContainerID none,
        [.DeleteConnection cfg.ConnectionDetails]) := by
  simp [psAdapterPostHook, hm, hr, hc, hd, ConnectionRPCHandler.step, ConnectionAdd,
    ConnectionUpdate, ConnectionDelete]

theorem psAdapterPostHook_delete_missing (hm : reqParams.ClientRequest.Method = "DELETE")
    (hr : reqParams.ClientRequest.Request ≠ "")
    (hc : psAdapterPostHook.cid reqParams.ClientRequest.Request = some c)
    (hd : d.Connections c = none) :
    psAdapterPostHook host d reqParams =
      some ((psAdapterPostHook.postResp reqParams).withCode 500, d, []) := by
  simp [psAdapterPostHook, hm, hr, hc, hd]

theorem startPath_ne_empty (ver : Option String) (c : String) : startPath ver c ≠ "" := by
  intro h
  have := congrArg String.toList h
  simp [startPath] at this

theorem deletePath_ne_empty (ver : Option String) (c : String) (query : Option String) :
    deletePath ver c query ≠ "" := by
  intro h
  have := congrArg String.toList h
  simp [deletePath] at this

/-! ## A start followed by a delete -/

variable {ver₁ ver₂ : Option String} {info : ContainerInfo} {net : String}
  {start delete : AdapterRequest}

theorem start_adds (hv₁ : versionPrefix.Plain ver₁) (hc : '/' ∉ c.toList)
    (hi : host.InspectContainer c = .ok info)
    (hn : psAdapterPostHook.network info.Env DefaultNetworkName = some net)
    (hs : start.ClientRequest = ⟨"POST", startPath ver₁ c⟩) :
    psAdapterPostHook host d start =
      some (psAdapterPostHook.postResp start, d.setConnection c (some (startConnection host c info net)),
        [.AddConnection (Atoi (Itoa info.Pid)) net]) :=
  psAdapterPostHook_start host d (by rw [hs]) (by rw [hs]; exact startPath_ne_empty ver₁ c)
    (by rw [hs]; exact cid_startPath hv₁ hc) hi hn

/-- Without a query string, the delete after a start finds the connection the start
added and deletes it, whatever version prefixes the two paths carry. -/
theorem start_then_delete_releases (hv₁ : versionPrefix.Plain ver₁)
    (hv₂ : versionPrefix.Plain ver₂) (hc : '/' ∉ c.toList) (hi : host.InspectContainer c = .ok info)
    (hn : psAdapterPostHook.network info.Env DefaultNetworkName = some net)
    (hs : start.ClientRequest = ⟨"POST", startPath ver₁ c⟩)
    (hd : delete.ClientRequest = ⟨"DELETE", deletePath ver₂ c none⟩) :
    psAdapterPostHook host d start =
        some (psAdapterPostHook.postResp start,
          d.setConnection c (some (startConnection host c info net)),
          [.AddConnection (Atoi (Itoa info.Pid)) net]) ∧
      psAdapterPostHook host (d.setConnection c (some (startConnection host c info net))) delete =
        some (psAdapterPostHook.postResp delete,
          (d.setConnection c (some (startConnection host c info net))).setConnection c none,
          [.DeleteConnection (startConnection host c info net).ConnectionDetails]) :=
  ⟨start_adds host d hv₁ hc hi hn hs,
    psAdapterPostHook_delete host _ (by rw [hd]) (by rw [hd]; exact deletePath_ne_empty ver₂ c none)
      (by rw [hd]; exact cid_deletePath hv₂ hc) (Daemon.setConnection_self _ _ _)⟩

/-- With a query string, the delete after a start looks up a key that keeps the
query: unless some connection was recorded under that key, it answers 500 and leaves
the connection the start added, and its port, in place. -/
theorem start_then_delete_query_misses (hv₁ : versionPrefix.Plain ver₁)
    (hv₂ : versionPrefix.Plain ver₂) (hc : '/' ∉ c.toList) (hi : host.InspectContainer c = .ok info)
    (hn : psAdapterPostHook.network info.Env DefaultNetworkName = some net) (q : String)
    (hfresh : d.Connections (c ++ "?" ++ String.ofList (q.toList.takeWhile (· ≠ '/'))) = none)
    (hs : start.ClientRequest = ⟨"POST", startPath ver₁ c⟩)
    (hd : delete.ClientRequest = ⟨"DELETE", deletePath ver₂ c (some q)⟩) :
    psAdapterPostHook host d start =
        some (psAdapterPostHook.postResp start,
          d.setConnection c (some (startConnection host c info net)),
          [.AddConnection (Atoi (Itoa info.Pid)) net]) ∧
      psAdapterPostHook host (d.setConnection c (some (startConnection host c info net))) delete =
        some ((psAdapterPostHook.postResp delete).withCode 500,
          d.setConnection c (some (startConnection host c info net)), []) :=
  ⟨start_adds host d hv₁ hc hi hn hs,
    psAdapterPostHook_delete_missing host _ (by rw [hd])
      (by rw [hd]; exact deletePath_ne_empty ver₂ c (some q))
      (by rw [hd]; exact cid_deletePath_query hv₂ hc q)
      (by rw [Daemon.setConnection_ne _ _ (append_query_ne _ _), hfresh])⟩

end Hook

/-- A host on which container `web` runs with pid 4242 and no environment. -/
def webHost : Host :=
  ⟨fun _ => .ok ⟨"/web", 4242, []⟩,
    fun _ _ => ⟨"ovs1a2b3c4", "10.1.42.2", "/16", "02:42:0a:01:2a:02", "10.1.42.1"⟩⟩

/-- The post hook of Docker 1.5 starting `web`. -/
def webStart : AdapterRequest := ⟨1, ⟨"POST", "/v1.17/containers/web/start"⟩, ⟨"", 204, ""⟩⟩

/-- The post hook of Docker 1.5 deleting `web` with its volumes, forced. -/
def webDelete : AdapterRequest :=
  ⟨1, ⟨"DELETE", "/v1.17/containers/web?v=1&force=1"⟩, ⟨"", 204, ""⟩⟩

/-- The post hook of Docker 1.5 deleting `web`, with no query string. -/
def webPlainDelete : AdapterRequest := ⟨1, ⟨"DELETE", "/v1.17/containers/web"⟩, ⟨"", 204, ""⟩⟩

/-- After the start of `web`, its plain delete deletes the connection the start added. -/
theorem start_then_plain_delete_releases :
    psAdapterPostHook webHost ⟨fun _ => none⟩ webStart =
        some (psAdapterPostHook.postResp webStart,
          Daemon.setConnection ⟨fun _ => none⟩ "web"
            (some (startConnection webHost "web" ⟨"/web", 4242, []⟩ DefaultNetworkName)),
          [.AddConnection (Atoi (Itoa 4242)) DefaultNetworkName]) ∧
      psAdapterPostHook webHost (Daemon.setConnection ⟨fun _ => none⟩ "web"
          (some (startConnection webHost "web" ⟨"/web", 4242, []⟩ DefaultNetworkName)))
          webPlainDelete =
        some (psAdapterPostHook.postResp webPlainDelete,
          (Daemon.setConnection ⟨fun _ => none⟩ "web"
            (some (startConnection webHost "web" ⟨"/web", 4242, []⟩ DefaultNetworkName))).setConnection
              "web" none,
          [.DeleteConnection
            (startConnection webHost "web" ⟨"/web", 4242, []⟩ DefaultNetworkName).ConnectionDetails]) := by
  have hv : versionPrefix.Plain (some "1.17") := by
    rintro v ⟨⟩
    simp
  have hweb : '/' ∉ "web".toList := by simp
  have hs : webStart.ClientRequest = ⟨"POST", startPath (some "1.17") "web"⟩ := by
    rw [startPath, versionPrefix]
    rfl
  have hd : webPlainDelete.ClientRequest = ⟨"DELETE", deletePath (some "1.17") "web" none⟩ := by
    rw [deletePath, versionPrefix]
    rfl
  exact start_then_delete_releases webHost ⟨fun _ => none⟩ hv hv hweb rfl rfl hs hd

/-- After the start of `web`, its delete with `?v=1&force=1` answers 500 and the
connection the start added is still there. -/
theorem delete_query_keeps_connection :
    ∃ d₁ : Daemon,
      psAdapterPostHook webHost ⟨fun _ => none⟩ webStart =
        some (⟨1, ⟨"", 204, "application/json"⟩⟩, d₁,
          [.AddConnection (Atoi (Itoa 4242)) DefaultNetworkName]) ∧
      d₁.Connections "web" ≠ none ∧
      psAdapterPostHook webHost d₁ webDelete = some (⟨1, ⟨"", 500, "application/json"⟩⟩, d₁, []) := by
  have hv : versionPrefix.Plain (some "1.17") := by
    rintro v ⟨⟩
    simp
  have hweb : '/' ∉ "web".toList := by simp
  have hs : webStart.ClientRequest = ⟨"POST", startPath (some "1.17") "web"⟩ := by
    rw [startPath, versionPrefix]
    rfl
  have hd : webDelete.ClientRequest = ⟨"DELETE", deletePath (some "1.17") "web" (some "v=1&force=1")⟩ := by
    rw [deletePath, versionPrefix]
    rfl
  obtain ⟨hstart, hdelete⟩ := start_then_delete_query_misses webHost ⟨fun _ => none⟩ hv hv hweb rfl rfl
    "v=1&force=1" rfl hs hd
  exact ⟨_, hstart, by simp, hdelete⟩

end Daemon
