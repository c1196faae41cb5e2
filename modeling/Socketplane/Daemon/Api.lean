import Socketplane.Daemon.Addresses

/-! # The REST handlers (`api.go`)

The handlers of the daemon's HTTP API for networks and connections. A request's body
is what `json.Decoder.Decode` made of it: nil, the error's text, or the decoded value.
An error answer is an `apiError`, the status code and the message `ServeHTTP` writes;
otherwise the answer is the value the handler marshals into the response.
`createNetwork` parses the subnet and calls `CreateNetwork`, `deleteNetwork` calls
`DeleteNetwork`; `createConnection` and `deleteConnection` hand a context to the
connection handler and wait for its round, `deleteConnection` only for a container
the daemon has a connection for.

A network `createNetwork` answers with is stored under the requested id, and
`deleteNetwork` answers without an error only once no network is left under it.
Every sequence of requests is a session of `AddressSession` under its guards
(`ApiSession.addressSession`): the handlers reach the store through the calls of the
handler rounds and of `network.go` alone.
-/

namespace Daemon

open Net Kv Ecc ByteNum Bitmap Prog

/-- `apiError`. -/
structure ApiError where
  Code : Nat
  Message : String
deriving DecidableEq, Repr

def StatusBadRequest : Nat := 400

def StatusNotFound : Nat := 404

def StatusInternalServerError : Nat := 500

/-- A request body as a handler reads it: `nil`, or what `json.Decoder.Decode` made of
it, the error's text or the decoded value. -/
abbrev Body (α : Type) := Option (Except String α)

/-- `createNetwork`: the network `CreateNetwork` returns, which the response carries. -/
def createNetwork (body : Body Network) : NetProg (Except ApiError (Option Network)) :=
  match body with
  | none => .done (.error ⟨StatusBadRequest, "Request body is empty"⟩)
  | some (.error err) => .done (.error ⟨StatusInternalServerError, err⟩)
  | some (.ok networkRequest) =>
      -- the text of the `net.ParseError` of a CIDR address
      match ParseCIDR networkRequest.Subnet with
      | none => .done (.error ⟨StatusInternalServerError,
          "invalid CIDR address: " ++ networkRequest.Subnet⟩)
      | some (_, cidr) =>
          CreateNetwork networkRequest.ID cidr >>= fun (newNetwork, err) =>
            match err with
            | some err => .done (.error ⟨StatusInternalServerError, err⟩)
            | none => .done (.ok newNetwork)

def deleteNetwork (networkID : String) : NetProg (Except ApiError Unit) :=
  DeleteNetwork networkID >>= fun err =>
    match err with
    | some err => .done (.error ⟨StatusInternalServerError, err⟩)
    | none => .done (.ok ())

/-- `getNetwork`: the network `GetNetwork` reads, which the response carries. -/
def getNetwork (networkID : String) : NetProg (Except ApiError (Option Network)) :=
  GetNetwork networkID >>= fun (networks, err) =>
    match err with
    | some err => .done (.error ⟨StatusInternalServerError, err⟩)
    | none => .done (.ok networks)

def getConnection (d : Daemon) (containerID : String) : Except ApiError Connection :=
  match d.Connections containerID with
  | none => .error ⟨StatusNotFound, "Connection for container " ++ containerID ++ " not found"⟩
  | some connection => .ok connection

/-- `createConnection`: the round the request makes the connection handler run, the
connection sent back on `Result` and the response's `Content-Location`, the request's
URL followed by the container's id. -/
def createConnection (d : Daemon) (url : String) (body : Body Connection) :
    BridgeProg (Daemon × Except ApiError (Option Connection × String)) :=
  match body with
  | none => .done (d, .error ⟨StatusBadRequest, "Request body is empty"⟩)
  | some (.error err) => .done (d, .error ⟨StatusInternalServerError, err⟩)
  | some (.ok cfg) =>
      let cfg := if cfg.Network = "" then { cfg with Network := DefaultNetworkName } else cfg
      ConnectionRPCHandler.handle d ⟨ConnectionAdd, cfg⟩ >>= fun (d, result) =>
        .done (d, .ok (result, url ++ "/" ++ cfg.ContainerID))

/-- `deleteConnection`: the round for the connection the daemon has for the container. -/
def deleteConnection (d : Daemon) (containerID : String) :
    BridgeProg (Daemon × Except ApiError Unit) :=
  match d.Connections containerID with
  | none => .done (d, .error ⟨StatusNotFound, "Container Not Found"⟩)
  | some connection =>
      ConnectionRPCHandler.handle d ⟨ConnectionDelete, connection⟩ >>= fun (d, _) =>
        .done (d, .ok ())

/-! ## What the network calls answer -/

section Answers

variable {σ : Type} {env : Env σ HostReq HostReq.Answer}

/-- What `CreateNetwork` answers without an error: a network, stored under its id. -/
def StoredUnder (id : String) (o : Outcome (Option Network × Option String))
    (st : Store Key Value) : Prop :=
  ∀ network, o = .returned (network, none) →
    ∃ n, network = some n ∧ st.value ⟨networkStore, id⟩ = some (.record n)

theorem storedUnder_error {id : String} {network : Option Network} {err : String}
    {st : Store Key Value} : StoredUnder id (.returned (network, some err)) st :=
  fun _ h => by cases h

theorem storedUnder_panicked {id : String} {st : Store Key Value} :
    StoredUnder id .panicked st :=
  fun _ h => by cases h

theorem triple_true {α : Type} {p : NetProg α} : Triple env (fun _ => True) p fun _ _ => True :=
  fun _ _ _ _ _ _ _ => trivial

theorem triple_CreateNetwork_store_stored (id : String) (subnet : IPNet) (gateway : Net.IP)
    (network : Network) :
    Triple env (fun _ => True) (CreateNetwork.store id subnet gateway network)
      (IterPost (fun _ _ => True) (fun b => StoredUnder id (.returned b)) (StoredUnder id)) := by
  unfold CreateNetwork.store
  refine Triple.bind (M := fun eccerr st => eccerr ≠ .OUTDATED →
      st.value ⟨networkStore, id⟩ = some (.record network))
    ((triple_Put _ _ _ _).mono (fun _ h => h) fun o st h => ?_) fun eccerr => ?_
  · rcases h with rfl | ⟨rfl, hv⟩
    · exact fun h => absurd rfl h
    · exact fun _ => hv
  split
  · refine Triple.bind (M := fun _ _ => True) (triple_true.mono (fun _ _ => trivial)
      fun o st _ => ?_) fun _ => ?_
    · rcases o with _ | _
      · trivial
      · exact storedUnder_panicked
    refine Triple.bind (M := fun _ _ => True) (triple_true.mono (fun _ _ => trivial)
      fun o st _ => ?_) fun _ => Triple.done fun _ _ => trivial
    rcases o with _ | _
    · trivial
    · exact storedUnder_panicked
  · rename_i hout
    refine triple_request fun err => ?_
    rcases err with _ | err
    · exact Triple.done fun st h _ hn => by cases hn; exact ⟨network, rfl, h hout⟩
    · exact Triple.done fun _ _ => storedUnder_error

theorem triple_CreateNetwork_newIface_stored (id : String) (subnet : IPNet) (vlan : Nat) :
    Triple env (fun _ => True) (CreateNetwork.newIface id subnet vlan)
      (IterPost (fun _ _ => True) (fun b => StoredUnder id (.returned b)) (StoredUnder id)) := by
  unfold CreateNetwork.newIface
  refine triple_request fun connected => ?_
  split
  · exact Triple.done fun _ _ => storedUnder_error
  refine Triple.bind (M := fun _ _ => True) (triple_true.mono (fun _ _ => trivial)
    fun o st _ => ?_) fun gateway => ?_
  · rcases o with _ | _
    · trivial
    · exact storedUnder_panicked
  iterate 4
    refine triple_request fun err => ?_
    rcases err with _ | err
    swap
    · exact Triple.done fun _ _ => storedUnder_error
    dsimp only
  exact triple_CreateNetwork_store_stored id subnet gateway _

/-- **What `CreateNetwork` answers without an error is stored.** On any host, a run of
`CreateNetwork` that answers without an error answers with a network, the record then
stored under the id. -/
theorem triple_CreateNetwork_stored (id : String) (subnet : IPNet) :
    Triple env (fun _ => True) (CreateNetwork id subnet) (StoredUnder id) := by
  refine Triple.iter (I := fun _ _ => True) (fun x => ?_) subnet
  unfold CreateNetwork.pass
  refine Triple.bind (M := fun r st => r.2 = none → ∃ n, r.1 = some n ∧
      st.value ⟨networkStore, id⟩ = some (.record n))
    ((triple_GetNetwork id _).mono (fun _ h => h) fun o st h => ?_) fun r => ?_
  · obtain ⟨-, network, err, rfl, hfound, -⟩ := h
    exact hfound
  obtain ⟨network, err⟩ := r
  dsimp only
  split
  · rename_i herr
    exact Triple.done fun st h network' hn => by
      cases hn
      exact h (Option.isNone_iff_eq_none.mp herr)
  refine Triple.bind (M := fun _ _ => True) (triple_true.mono (fun _ _ => trivial)
    fun o st _ => ?_) fun r => ?_
  · rcases o with _ | _
    · trivial
    · exact storedUnder_panicked
  obtain ⟨vlan, err'⟩ := r
  rcases err' with _ | err'
  swap
  · exact Triple.done fun _ _ => storedUnder_error
  dsimp only
  refine triple_request fun addr => ?_
  rcases addr with _ | addr
  · exact triple_CreateNetwork_newIface_stored id x vlan
  dsimp only
  split
  · exact Triple.done fun _ _ => storedUnder_error
  · exact triple_CreateNetwork_store_stored id _ _ _

theorem triple_DeleteNetwork_erased (id : String) :
    Triple env (fun _ => True) (DeleteNetwork id) fun o st =>
      o = .returned none → st.value ⟨networkStore, id⟩ = none := by
  unfold DeleteNetwork
  refine Triple.bind (M := fun _ _ => True) (triple_true.mono (fun _ _ => trivial)
    fun o st _ => ?_) fun r => ?_
  · rcases o with _ | _
    · trivial
    · intro h
      cases h
  obtain ⟨network, err⟩ := r
  dsimp only
  split
  · exact Triple.done fun _ _ h => by cases h
  · exact Triple.crash fun _ _ h => by cases h
  refine triple_request fun connected => ?_
  split
  · exact Triple.done fun _ _ h => by cases h
  refine Triple.bind (M := fun eccerror st => eccerror = .OK ∧
      st.value ⟨networkStore, id⟩ = none) (triple_Delete _ _ |>.mono (fun _ h => h)
    fun o st h => ?_) fun eccerror => ?_
  · obtain ⟨rfl, hv⟩ := h
    exact ⟨rfl, hv⟩
  split
  · exact Triple.done fun _ _ h => by cases h
  refine Triple.bind (((writesWithin_releaseVlan _).triple fun st st'
      (h : eccerror = .OK ∧ st.value ⟨networkStore, id⟩ = none) hsame =>
        ((hsame _ fun hk => vlanKey_ne_network id hk.symm).trans h.2 :
          st'.value ⟨networkStore, id⟩ = none)).mono (fun _ h => h) fun o st h => ?_) fun _ =>
    triple_request fun _ => Triple.done fun _ h _ => h
  rcases o with _ | _
  · exact h
  · intro ho
    cases ho

end Answers

section Handlers

variable {σ : Type} {env : Env σ HostReq HostReq.Answer} {st st' : Store Key Value} {e e' : σ}

/-- **A created network is stored.** A `createNetwork` request answered with a network,
on any host, stores that network under the requested id. An error answer is `400`
with `Request body is empty` for a missing body, the store as it was, and `500`
otherwise. -/
theorem createNetwork_answer {body : Body Network} {r : Except ApiError (Option Network)}
    (hrun : Runs false env (createNetwork body) st e (.returned r) st' e') :
    (∀ x, r = .ok x → ∃ networkRequest n, body = some (.ok networkRequest) ∧ x = some n ∧
      st'.value ⟨networkStore, networkRequest.ID⟩ = some (.record n)) ∧
    (∀ err, r = .error err → (body = none ∧ err = ⟨StatusBadRequest, "Request body is empty"⟩ ∧
      st' = st) ∨ err.Code = StatusInternalServerError) := by
  have hfail : ∀ err', r = .error ⟨StatusInternalServerError, err'⟩ →
      (∀ x, r = .ok x → ∃ networkRequest n, body = some (.ok networkRequest) ∧ x = some n ∧
        st'.value ⟨networkStore, networkRequest.ID⟩ = some (.record n)) ∧
      (∀ err, r = .error err → (body = none ∧ err = ⟨StatusBadRequest, "Request body is empty"⟩ ∧
        st' = st) ∨ err.Code = StatusInternalServerError) := by
    rintro err' rfl
    refine ⟨fun x hx => ?_, fun err herr => ?_⟩
    · cases hx
    · cases herr
      exact .inr rfl
  unfold createNetwork at hrun
  rcases body with _ | body
  · obtain ⟨hr, rfl, -⟩ := Runs.done_iff.mp hrun
    cases hr
    refine ⟨fun x hx => ?_, fun err herr => ?_⟩
    · cases hx
    · cases herr
      exact .inl ⟨rfl, rfl, rfl⟩
  rcases body with err | networkRequest
  · obtain ⟨hr, rfl, -⟩ := Runs.done_iff.mp hrun
    exact hfail err (Outcome.returned.inj hr)
  dsimp only at hrun
  rcases hparse : ParseCIDR networkRequest.Subnet with _ | ⟨ip, cidr⟩ <;>
    rw [hparse] at hrun <;> dsimp only at hrun
  · obtain ⟨hr, rfl, -⟩ := Runs.done_iff.mp hrun
    exact hfail _ (Outcome.returned.inj hr)
  rcases Runs.of_bind hrun with ⟨⟨newNetwork, err⟩, st₁, e₁, h₁, h₂⟩ | ⟨ho, -⟩
  · rcases err with _ | err <;> obtain ⟨hr, rfl, -⟩ := Runs.done_iff.mp h₂
    · cases hr
      refine ⟨fun x hx => ?_, fun err herr => ?_⟩
      · cases hx
        obtain ⟨n, rfl, hv⟩ := triple_CreateNetwork_stored networkRequest.ID cidr trivial h₁
          newNetwork rfl
        exact ⟨networkRequest, n, rfl, rfl, hv⟩
      · cases herr
    · exact hfail err (Outcome.returned.inj hr)
  · cases ho

set_option maxRecDepth 100000 in
/-- The API's creation of `n1` on `10.1.0.0/24` on a fresh host answers with the network
it stores under `n1`. -/
theorem createNetwork_n1_stored :
    ∃ st', Runs false freshEnv (createNetwork (some (.ok ⟨"n1", "10.1.0.0/24", "", 0⟩)))
        Store.empty () (.returned (.ok (some ⟨"n1", "10.1.0.0/24", "10.1.0.1", 1⟩))) st' () ∧
      st'.value ⟨networkStore, "n1"⟩ = some (.record ⟨"n1", "10.1.0.0/24", "10.1.0.1", 1⟩) := by
  have hrun : Runs false freshEnv (createNetwork (some (.ok ⟨"n1", "10.1.0.0/24", "", 0⟩)))
      Store.empty () (.returned (.ok (some ⟨"n1", "10.1.0.0/24", "10.1.0.1", 1⟩))) _ () :=
    Runs.of_run_fst 200 (by decide)
  obtain ⟨networkRequest, n, hbody, hn, hv⟩ := (createNetwork_answer hrun).1 _ rfl
  cases hbody
  cases hn
  exact ⟨_, hrun, hv⟩

/-- A `deleteNetwork` request answered without an error leaves no network under the id;
an error answer is `500`. -/
theorem deleteNetwork_answer {networkID : String} {r : Except ApiError Unit}
    (hrun : Runs false env (deleteNetwork networkID) st e (.returned r) st' e') :
    (r = .ok () → st'.value ⟨networkStore, networkID⟩ = none) ∧
      ∀ err, r = .error err → err.Code = StatusInternalServerError := by
  unfold deleteNetwork at hrun
  rcases Runs.of_bind hrun with ⟨err, st₁, e₁, h₁, h₂⟩ | ⟨ho, -⟩
  · rcases err with _ | err <;> obtain ⟨hr, rfl, -⟩ := Runs.done_iff.mp h₂ <;> cases hr
    · refine ⟨fun _ => triple_DeleteNetwork_erased networkID trivial h₁ rfl, fun err herr => ?_⟩
      cases herr
    · refine ⟨fun hok => ?_, fun err herr => ?_⟩
      · cases hok
      · cases herr
        rfl
  · cases ho

set_option maxRecDepth 100000 in
/-- Deleting `n1` through the API once it is created answers without an error and leaves
no network under `n1`. -/
theorem deleteNetwork_n1_erased :
    ∃ st st' e', st.value ⟨networkStore, "n1"⟩ ≠ none ∧
      Runs false freshEnv (deleteNetwork "n1") st () (.returned (.ok ())) st' e' ∧
      st'.value ⟨networkStore, "n1"⟩ = none := by
  let st₁ := (run freshEnv 200 (CreateNetwork "n1" net24) Store.empty ()).2.1
  have hrun : Runs false freshEnv (deleteNetwork "n1") st₁ () (.returned (.ok ())) _ _ :=
    Runs.of_run_fst 200 (by decide)
  exact ⟨st₁, _, _, by decide +kernel, hrun, (deleteNetwork_answer hrun).1 rfl⟩

end Handlers

theorem runs_createConnection {σ : Type} {lossy : Bool} {env : Env σ BridgeReq BridgeReq.Answer}
    {st st' : Store Key Value} {e e' : σ} {d d₁ : Daemon} {url : String} {cfg : Connection}
    {r : Option Connection} (hn : cfg.Network ≠ "")
    (h : Runs lossy env (ConnectionRPCHandler.handle d ⟨ConnectionAdd, cfg⟩) st e
      (.returned (d₁, r)) st' e') :
    Runs lossy env (createConnection d url (some (.ok cfg))) st e
      (.returned (d₁, .ok (r, url ++ "/" ++ cfg.ContainerID))) st' e' := by
  unfold createConnection
  dsimp only
  rw [if_neg hn]
  exact Runs.bind_returned h (.done rfl)

/-! ## Sessions of requests -/

/-- The guard of an add round holds for the connection `createConnection` sends: a
connection that names no network is sent with the default network's name, which is the
network the round looks up for it anyway. -/
theorem AddGuard.of_default {st : Store Key Value} {cfg : Connection}
    (h : AddGuard st cfg.Network) :
    AddGuard st
      (if cfg.Network = "" then { cfg with Network := DefaultNetworkName } else cfg).Network := by
  by_cases hn : cfg.Network = ""
  · rw [if_pos hn]
    intro n hv
    have hdef : ¬ DefaultNetworkName = "" := by decide
    refine h n ?_
    rw [if_pos hn]
    rwa [if_neg hdef] at hv
  · rw [if_neg hn]
    exact h

/-- A sequence of requests to the API on networks and connections, each run to its end
alone on a host of its own: `createNetwork` of a subnet that parses to an IPv4 subnet
whose prefix length has two digits, while the subnet has an address free;
`deleteNetwork` and `getNetwork`; `createConnection` of a connection whose network meets
`AddGuard`; and `deleteConnection`. The connection requests return. -/
inductive ApiSession : Daemon → Store Key Value → Daemon → Store Key Value → Prop
  | nil {d : Daemon} {st : Store Key Value} : ApiSession d st d st
  | createNetwork {d d' : Daemon} {st st₁ st' : Store Key Value} {σ : Type}
      (env : Env σ HostReq HostReq.Answer) {e e₁ : σ} (body : Body Network)
      {o : Outcome (Except ApiError (Option Network))} :
      (∀ networkRequest ip cidr, body = some (.ok networkRequest) →
        ParseCIDR networkRequest.Subnet = some (ip, cidr) →
          ∃ p, V4Prefix cidr p ∧ 10 ≤ p ∧ FreeIn st cidr) →
      Runs false env (createNetwork body) st e o st₁ e₁ → ApiSession d st₁ d' st' →
        ApiSession d st d' st'
  | deleteNetwork {d d' : Daemon} {st st₁ st' : Store Key Value} {σ : Type}
      (env : Env σ HostReq HostReq.Answer) {e e₁ : σ} (networkID : String)
      {o : Outcome (Except ApiError Unit)} :
      Runs false env (deleteNetwork networkID) st e o st₁ e₁ → ApiSession d st₁ d' st' →
        ApiSession d st d' st'
  | getNetwork {d d' : Daemon} {st st₁ st' : Store Key Value} {σ : Type}
      (env : Env σ HostReq HostReq.Answer) {e e₁ : σ} (networkID : String)
      {o : Outcome (Except ApiError (Option Network))} :
      Runs false env (getNetwork networkID) st e o st₁ e₁ → ApiSession d st₁ d' st' →
        ApiSession d st d' st'
  | createConnection {d d₁ d' : Daemon} {st st₁ st' : Store Key Value} {σ : Type}
      (env : Env σ BridgeReq BridgeReq.Answer) {e e₁ : σ} (url : String) (body : Body Connection)
      {r : Except ApiError (Option Connection × String)} :
      (∀ cfg, body = some (.ok cfg) → AddGuard st cfg.Network) →
      Runs false env (createConnection d url body) st e (.returned (d₁, r)) st₁ e₁ →
        ApiSession d₁ st₁ d' st' → ApiSession d st d' st'
  | deleteConnection {d d₁ d' : Daemon} {st st₁ st' : Store Key Value} {σ : Type}
      (env : Env σ BridgeReq BridgeReq.Answer) {e e₁ : σ} (containerID : String)
      {r : Except ApiError Unit} :
      Runs false env (deleteConnection d containerID) st e (.returned (d₁, r)) st₁ e₁ →
        ApiSession d₁ st₁ d' st' → ApiSession d st d' st'

section Steps

variable {d d₁ d' : Daemon} {st st₁ st' : Store Key Value} {σ : Type}

theorem AddressSession.of_createNetwork {env : Env σ HostReq HostReq.Answer} {e e₁ : σ}
    {body : Body Network} {o : Outcome (Except ApiError (Option Network))}
    (hguard : ∀ networkRequest ip cidr, body = some (.ok networkRequest) →
      ParseCIDR networkRequest.Subnet = some (ip, cidr) →
        ∃ p, V4Prefix cidr p ∧ 10 ≤ p ∧ FreeIn st cidr)
    (hrun : Runs false env (createNetwork body) st e o st₁ e₁)
    (h : AddressSession d st₁ d' st') : AddressSession d st d' st' := by
  unfold createNetwork at hrun
  rcases body with _ | err | networkRequest
  · obtain ⟨-, rfl, -⟩ := Runs.done_iff.mp hrun
    exact h
  · obtain ⟨-, rfl, -⟩ := Runs.done_iff.mp hrun
    exact h
  dsimp only at hrun
  rcases hparse : ParseCIDR networkRequest.Subnet with _ | ⟨ip, cidr⟩ <;>
    rw [hparse] at hrun <;> dsimp only at hrun
  · obtain ⟨-, rfl, -⟩ := Runs.done_iff.mp hrun
    exact h
  obtain ⟨p, hs, hp, hfree⟩ := hguard networkRequest ip cidr rfl hparse
  rcases Runs.of_bind hrun with ⟨⟨newNetwork, err⟩, st₂, e₂, h₁, h₂⟩ | ⟨-, h₁⟩
  · have hst : st₁ = st₂ := by
      rcases err with _ | err <;> exact (Runs.done_iff.mp h₂).2.1
    subst hst
    exact .create env networkRequest.ID hs hp hfree h₁ h
  · exact .create env networkRequest.ID hs hp hfree h₁ h

theorem AddressSession.of_deleteNetwork {env : Env σ HostReq HostReq.Answer} {e e₁ : σ}
    {networkID : String} {o : Outcome (Except ApiError Unit)}
    (hrun : Runs false env (deleteNetwork networkID) st e o st₁ e₁)
    (h : AddressSession d st₁ d' st') : AddressSession d st d' st' := by
  unfold deleteNetwork at hrun
  rcases Runs.of_bind hrun with ⟨err, st₂, e₂, h₁, h₂⟩ | ⟨-, h₁⟩
  · have hst : st₁ = st₂ := by
      rcases err with _ | err <;> exact (Runs.done_iff.mp h₂).2.1
    subst hst
    exact .delete env networkID h₁ h
  · exact .delete env networkID h₁ h

theorem AddressSession.of_getNetwork {env : Env σ HostReq HostReq.Answer} {e e₁ : σ}
    {networkID : String} {o : Outcome (Except ApiError (Option Network))}
    (hrun : Runs false env (getNetwork networkID) st e o st₁ e₁)
    (h : AddressSession d st₁ d' st') : AddressSession d st d' st' := by
  unfold getNetwork at hrun
  have hget : Triple env (· = st) (GetNetwork networkID) _ := triple_GetNetwork networkID (· = st)
  rcases Runs.of_bind hrun with ⟨⟨networks, err⟩, st₂, e₂, h₁, h₂⟩ | ⟨-, h₁⟩
  · have hst : st₁ = st₂ := by
      rcases err with _ | err <;> exact (Runs.done_iff.mp h₂).2.1
    rw [hst, (hget rfl h₁).1] at h
    exact h
  · rw [(hget rfl h₁).1] at h
    exact h

theorem AddressSession.of_createConnection {env : Env σ BridgeReq BridgeReq.Answer} {e e₁ : σ}
    {url : String} {body : Body Connection} {r : Except ApiError (Option Connection × String)}
    (hguard : ∀ cfg, body = some (.ok cfg) → AddGuard st cfg.Network)
    (hrun : Runs false env (createConnection d url body) st e (.returned (d₁, r)) st₁ e₁)
    (h : AddressSession d₁ st₁ d' st') : AddressSession d st d' st' := by
  unfold createConnection at hrun
  rcases body with _ | err | cfg
  · obtain ⟨hr, rfl, -⟩ := Runs.done_iff.mp hrun
    cases hr
    exact h
  · obtain ⟨hr, rfl, -⟩ := Runs.done_iff.mp hrun
    cases hr
    exact h
  dsimp only at hrun
  rcases Runs.of_bind hrun with ⟨⟨d₂, result⟩, st₂, e₂, h₁, h₂⟩ | ⟨ho, -⟩
  · obtain ⟨hr, rfl, -⟩ := Runs.done_iff.mp h₂
    cases hr
    exact .add env _ (AddGuard.of_default (hguard cfg rfl)) h₁ h
  · cases ho

theorem AddressSession.of_deleteConnection {env : Env σ BridgeReq BridgeReq.Answer} {e e₁ : σ}
    {containerID : String} {r : Except ApiError Unit}
    (hrun : Runs false env (deleteConnection d containerID) st e (.returned (d₁, r)) st₁ e₁)
    (h : AddressSession d₁ st₁ d' st') : AddressSession d st d' st' := by
  unfold deleteConnection at hrun
  rcases hc : d.Connections containerID with _ | connection <;>
    simp only [hc] at hrun
  · obtain ⟨hr, rfl, -⟩ := Runs.done_iff.mp hrun
    cases hr
    exact h
  rcases Runs.of_bind hrun with ⟨⟨d₂, result⟩, st₂, e₂, h₁, h₂⟩ | ⟨ho, -⟩
  · obtain ⟨hr, rfl, -⟩ := Runs.done_iff.mp h₂
    cases hr
    exact .remove env hc h₁ h
  · cases ho

end Steps

/-- **The API adds nothing to the handler's sessions.** Every session of requests to the
API is a session of `AddressSession`: each request makes at most one call of
`network.go` or one round of the connection handler, under the guard that call needs,
and the answers a handler makes itself change neither the daemon nor the store. -/
theorem ApiSession.addressSession {d d' : Daemon} {st st' : Store Key Value}
    (h : ApiSession d st d' st') : AddressSession d st d' st' := by
  induction h with
  | nil => exact .nil
  | createNetwork env body hguard hrun _ ih => exact ih.of_createNetwork hguard hrun
  | deleteNetwork env networkID hrun _ ih => exact ih.of_deleteNetwork hrun
  | getNetwork env networkID hrun _ ih => exact ih.of_getNetwork hrun
  | createConnection env url body hguard hrun _ ih => exact ih.of_createConnection hguard hrun
  | deleteConnection env containerID hrun _ ih => exact ih.of_deleteConnection hrun

/-- **Connections made through the API hold distinct addresses.** After any sequence of
requests to the API from no connections and the empty store, each recorded connection
has empty details, or details whose text parses to an address of a subnet that the
subnet's bitmap marks as taken; and no other recorded connection has details with the
same address and subnet texts unless both are empty. -/
theorem api_connections_hold_distinct_addresses {d : Daemon} {st : Store Key Value}
    (h : ApiSession noConnections Store.empty d st) {k k' : String} {c c' : Connection}
    (hc : d.Connections k = some c) (hc' : d.Connections k' = some c') :
    (c.ConnectionDetails = default ∨ ∃ s ip o b,
      ParseCIDR (c.ConnectionDetails.Ip ++ c.ConnectionDetails.Subnet) =
        some (v4InV6Prefix ++ ip, s) ∧ s.Contains ip = true ∧ 0 < o ∧
      value ip = value s.IP + o ∧ st.value (ipamKey s) = some (.raw b) ∧ bit b (o - 1) = true) ∧
    (c.ConnectionDetails ≠ default → c.ConnectionDetails.Ip = c'.ConnectionDetails.Ip →
      c.ConnectionDetails.Subnet = c'.ConnectionDetails.Subnet → k = k') :=
  (h.addressSession.inv AddressInv.empty).addresses hc hc'

set_option maxRecDepth 100000 in
/-- Creating `n1` on `10.1.0.0/24` through the API and then the connection of container
`web` on it records `web` with the address `10.1.0.2`, which the subnet's bitmap marks
as taken. -/
theorem api_network_then_connection :
    ∃ d st c, ApiSession noConnections Store.empty d st ∧ d.Connections "web" = some c ∧
      c.ConnectionDetails.Ip = "10.1.0.2" ∧
      ((c.ConnectionDetails = default ∨ ∃ s ip o b,
        ParseCIDR (c.ConnectionDetails.Ip ++ c.ConnectionDetails.Subnet) =
          some (v4InV6Prefix ++ ip, s) ∧ s.Contains ip = true ∧ 0 < o ∧
        value ip = value s.IP + o ∧ st.value (ipamKey s) = some (.raw b) ∧
        bit b (o - 1) = true) ∧
      (c.ConnectionDetails ≠ default → c.ConnectionDetails.Ip = c.ConnectionDetails.Ip →
        c.ConnectionDetails.Subnet = c.ConnectionDetails.Subnet → "web" = "web")) := by
  have hparse : ParseCIDR "10.1.0.0/24" = some (IPv4 10 1 0 0, net24) := by decide
  have hsize : (bitCount net24).toNat = 8 := by
    rw [bitCount_v4 net24_v4]
    rfl
  let st₁ := (run freshEnv 200 (createNetwork (some (.ok ⟨"n1", "10.1.0.0/24", "", 0⟩)))
    Store.empty ()).2.1
  have hcreate : Runs false freshEnv (createNetwork (some (.ok ⟨"n1", "10.1.0.0/24", "", 0⟩)))
      Store.empty () (.returned (.ok (some ⟨"n1", "10.1.0.0/24", "10.1.0.1", 1⟩))) st₁ () :=
    Runs.of_run_fst 200 (by decide)
  have hadd : Runs false freshBridgeEnv (AddConnection (Strconv.Atoi "4242") "n1") st₁ 0
      (.returned (⟨"ovs0000000", "10.1.0.2", "/24", "02:42:0a:01:00:02", "10.1.0.1"⟩, none))
      _ _ :=
    Runs.of_run_fst 200 (by decide)
  have hconn : Runs false freshBridgeEnv
      (createConnection noConnections "/v0.1/connections" (some (.ok (webConnection "n1")))) st₁ 0
      (.returned (_, .ok (_, _))) _ _ :=
    runs_createConnection (by decide) (handle_add hadd)
  have hnet : ∀ (networkRequest : Network) (ip : Net.IP) (cidr : IPNet),
      (some (.ok ⟨"n1", "10.1.0.0/24", "", 0⟩) : Body Network) = some (.ok networkRequest) →
        ParseCIDR networkRequest.Subnet = some (ip, cidr) →
          ∃ p, V4Prefix cidr p ∧ 10 ≤ p ∧ FreeIn Store.empty cidr := by
    intro networkRequest ip cidr hbody hp
    cases hbody
    have hp' : ParseCIDR "10.1.0.0/24" = some (ip, cidr) := hp
    rw [hparse] at hp'
    cases hp'
    exact ⟨24, net24_v4, by decide, FreeIn.of_none (Store.value_empty _) (by rw [hsize]; decide)⟩
  have hguard : AddGuard st₁ "n1" :=
    AddGuard.of_record (n := ⟨"n1", "10.1.0.0/24", "10.1.0.1", 1⟩) (by decide +kernel) hparse
      net24_v4 (by decide) (FreeIn.of_bitmap (b := 1 :: List.replicate 31 0) (o := 2)
        (by decide +kernel) (by decide) (by rw [hsize]; decide) (by decide))
  have hsess : ApiSession noConnections Store.empty _ _ :=
    .createNetwork freshEnv _ hnet hcreate
      (.createConnection freshBridgeEnv _ _ (fun cfg hbody => by cases hbody; exact hguard) hconn
        .nil)
  let cWeb : Connection :=
    { webConnection "n1" with
      OvsPortID := "ovs0000000"
      ConnectionDetails := ⟨"ovs0000000", "10.1.0.2", "/24", "02:42:0a:01:00:02", "10.1.0.1"⟩ }
  have hweb := Daemon.setConnection_self noConnections "web" (some cWeb)
  exact ⟨_, _, _, hsess, hweb, rfl, api_connections_hold_distinct_addresses hsess hweb hweb⟩

end Daemon
