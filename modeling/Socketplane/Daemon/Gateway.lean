import Socketplane.Daemon.Utils
import Socketplane.Daemon.Network
import Socketplane.Daemon.Powerstrip

/-! # The subnet of the default network (`bridge.go`, `network.go`)

`GetAvailableSubnet` walks `gatewayAddrs` and returns the network of the first
address that `CheckRouteOverlaps` passes; `GetAvailableGwAddress` makes the same walk
for the address itself unless it is given one. `CreateDefaultNetwork` creates the
network `default` on the subnet `GetAvailableSubnet` returns.

`CheckRouteOverlaps` lists the routes again for every candidate; the walk here
takes one answer of `netlink.RouteList` for all of them, the routes of a host whose
table does not change during the walk. A listing that fails fails every check, so
the walk then ends with no subnet.
-/

namespace Daemon

open Net Kv

/-- The candidate gateways, each with its network, in the order they are tried. -/
def gatewayAddrs : List String :=
  ["10.1.42.1/16", "10.42.42.1/16", "172.16.42.1/24", "172.16.43.1/24", "172.16.44.1/24",
    "10.0.42.1/24", "10.0.43.1/24", "172.17.42.1/16", "10.0.42.1/16", "192.168.42.1/24",
    "192.168.43.1/24", "192.168.44.1/24"]

/-- The loop both functions run over the candidates: the first address whose network
overlaps no route, with that network; `.ok none` when there is none; the text of the
`ParseError` of an address that does not parse; `none` for a panic. -/
def gatewaySearch (routes : Except String (List (Option IPNet))) :
    List String → Option (Except String (Option (String × IPNet)))
  | [] => some (.ok none)
  | addr :: addrs =>
      match ParseCIDR addr with
      | none => some (.error ("invalid CIDR address: " ++ addr))
      | some (_, dockerNetwork) =>
          (CheckRouteOverlaps routes dockerNetwork).bind fun
            | none => some (.ok (some (addr, dockerNetwork)))
            | some _ => gatewaySearch routes addrs

/-- `GetAvailableSubnet`: the subnet, or the error. -/
def GetAvailableSubnet (routes : Except String (List (Option IPNet))) :
    Option (Except String IPNet) :=
  (gatewaySearch routes gatewayAddrs).map fun
    | .error err => .error err
    | .ok (some (_, dockerNetwork)) => .ok dockerNetwork
    | .ok none => .error "No available GW address"

/-- `GetAvailableGwAddress`: `bridgeIP` when it is given and parses, the first free
candidate otherwise. -/
def GetAvailableGwAddress (bridgeIP : String) (routes : Except String (List (Option IPNet))) :
    Option (Except String String) :=
  let noAddress : Except String String := .error "No available gateway addresses"
  if bridgeIP.length ≠ 0 then
    match ParseCIDR bridgeIP with
    | none => some (.error ("invalid CIDR address: " ++ bridgeIP))
    | some _ => some (.ok bridgeIP)
  else
    (gatewaySearch routes gatewayAddrs).map fun
      | .error err => .error err
      | .ok (some (addr, _)) => if addr = "" then noAddress else .ok addr
      | .ok none => noAddress

/-- `CreateDefaultNetwork`: the error of `GetAvailableSubnet` comes with the zero
network, as Go's `&Network{}`. -/
def CreateDefaultNetwork (routes : Except String (List (Option IPNet))) :
    NetProg (Option Network × Option String) :=
  match GetAvailableSubnet routes with
  | none => .crash
  | some (.error err) => .done (some ⟨"", "", "", 0⟩, some err)
  | some (.ok subnet) => CreateNetwork DefaultNetworkName subnet

/-! ## The walk finds the first free candidate -/

/-- The network of a candidate address. -/
def gatewayNet (addr : String) : Option IPNet := (ParseCIDR addr).map Prod.snd

/-- The candidate parses to a network that shares no address with any route. -/
def GatewayFree (networks : List (Option IPNet)) (addr : String) : Prop :=
  ∃ n, gatewayNet addr = some n ∧ NoRouteOverlaps n networks

theorem gatewayAddrs_nets :
    gatewayAddrs.map gatewayNet =
      [some ⟨[10, 1, 0, 0], CIDRMask 16 32⟩, some ⟨[10, 42, 0, 0], CIDRMask 16 32⟩,
        some ⟨[172, 16, 42, 0], CIDRMask 24 32⟩, some ⟨[172, 16, 43, 0], CIDRMask 24 32⟩,
        some ⟨[172, 16, 44, 0], CIDRMask 24 32⟩, some ⟨[10, 0, 42, 0], CIDRMask 24 32⟩,
        some ⟨[10, 0, 43, 0], CIDRMask 24 32⟩, some ⟨[172, 17, 0, 0], CIDRMask 16 32⟩,
        some ⟨[10, 0, 0, 0], CIDRMask 16 32⟩, some ⟨[192, 168, 42, 0], CIDRMask 24 32⟩,
        some ⟨[192, 168, 43, 0], CIDRMask 24 32⟩, some ⟨[192, 168, 44, 0], CIDRMask 24 32⟩] := by
  decide

theorem gatewayAddrs_v4 : ∀ addr ∈ gatewayAddrs, ∃ n p, gatewayNet addr = some n ∧ V4Net n p := by
  intro addr h
  have hmem := List.mem_map_of_mem (f := gatewayNet) h
  rw [gatewayAddrs_nets] at hmem
  simp only [List.mem_cons, List.not_mem_nil, or_false] at hmem
  rcases hmem with h | h | h | h | h | h | h | h | h | h | h | h
  all_goals first
    | exact ⟨_, 16, h, by decide, rfl, by decide⟩
    | exact ⟨_, 24, h, by decide, rfl, by decide⟩

section Search

variable {networks : List (Option IPNet)}

theorem gatewaySearch_spec (hv : ∀ dst, some dst ∈ networks → ∃ q, V4Net dst q) :
    ∀ addrs : List String, (∀ addr ∈ addrs, ∃ n p, gatewayNet addr = some n ∧ V4Net n p) →
      (∃ pre addr post n, addrs = pre ++ addr :: post ∧ gatewayNet addr = some n ∧
          NoRouteOverlaps n networks ∧ (∀ a ∈ pre, ¬ GatewayFree networks a) ∧
          gatewaySearch (.ok networks) addrs = some (.ok (some (addr, n)))) ∨
        ((∀ a ∈ addrs, ¬ GatewayFree networks a) ∧
          gatewaySearch (.ok networks) addrs = some (.ok none))
  | [], _ => .inr ⟨by simp, rfl⟩
  | addr :: addrs, hp => by
      obtain ⟨n, p, hn, hv4⟩ := hp addr (by simp)
      obtain ⟨ip, hparse⟩ : ∃ ip, ParseCIDR addr = some (ip, n) := by
        simpa [gatewayNet] using hn
      obtain ⟨r, hr, hiff, -⟩ := CheckRouteOverlaps.loop_spec hv4 networks hv
      have hstep : gatewaySearch (.ok networks) (addr :: addrs) =
          (CheckRouteOverlaps.loop n networks).bind fun
            | none => some (.ok (some (addr, n)))
            | some _ => gatewaySearch (.ok networks) addrs := by
        simp only [gatewaySearch, hparse, CheckRouteOverlaps]
      rcases r with _ | err
      · exact .inl ⟨[], addr, addrs, n, rfl, hn, hiff.mp rfl, by simp, by rw [hstep, hr]; rfl⟩
      · have htaken : ¬ GatewayFree networks addr := fun ⟨m, hm, hfree⟩ => by
          rw [hn] at hm
          cases hm
          exact absurd (hiff.mpr hfree) (by simp)
        have hrest : gatewaySearch (.ok networks) (addr :: addrs) =
            gatewaySearch (.ok networks) addrs := by
          rw [hstep, hr]
          rfl
        rcases gatewaySearch_spec hv addrs fun a ha => hp a (by simp [ha]) with
          ⟨pre, a, post, m, hsplit, hm, hfree, hpre, hs⟩ | ⟨hnone, hs⟩
        · refine .inl ⟨addr :: pre, a, post, m, by rw [hsplit]; rfl, hm, hfree, ?_, hrest ▸ hs⟩
          simpa [htaken] using hpre
        · exact .inr ⟨by simpa [htaken] using hnone, hrest ▸ hs⟩

theorem gatewaySearch_error (err : String) :
    ∀ addrs : List String, (∀ addr ∈ addrs, ∃ n, gatewayNet addr = some n) →
      gatewaySearch (.error err) addrs = some (.ok none)
  | [], _ => rfl
  | addr :: addrs, hp => by
      obtain ⟨n, hn⟩ := hp addr (by simp)
      obtain ⟨ip, hparse⟩ : ∃ ip, ParseCIDR addr = some (ip, n) := by
        simpa [gatewayNet] using hn
      simp only [gatewaySearch, hparse, CheckRouteOverlaps, Option.bind_some]
      exact gatewaySearch_error err addrs fun a ha => hp a (by simp [ha])

/-- What `GetAvailableSubnet` is for: the network of the first candidate that shares
no address with a route, every earlier one sharing one, or `No available GW address`
when every candidate shares one. -/
def FirstFreeSubnet (networks : List (Option IPNet)) (r : Except String IPNet) : Prop :=
  (∃ pre addr post n, gatewayAddrs = pre ++ addr :: post ∧ gatewayNet addr = some n ∧
      r = .ok n ∧ NoRouteOverlaps n networks ∧ ∀ a ∈ pre, ¬ GatewayFree networks a) ∨
    (r = .error "No available GW address" ∧ ∀ a ∈ gatewayAddrs, ¬ GatewayFree networks a)

/-- **The default subnet is the first free candidate.** Over IPv4 routes,
`GetAvailableSubnet` answers, and what it answers is `FirstFreeSubnet`. -/
theorem GetAvailableSubnet_spec (hv : ∀ dst, some dst ∈ networks → ∃ q, V4Net dst q) :
    ∃ r, GetAvailableSubnet (.ok networks) = some r ∧ FirstFreeSubnet networks r := by
  rcases gatewaySearch_spec hv gatewayAddrs gatewayAddrs_v4 with
    ⟨pre, addr, post, n, hsplit, hn, hfree, hpre, hs⟩ | ⟨hnone, hs⟩
  · exact ⟨_, by rw [GetAvailableSubnet, hs]; rfl, .inl ⟨pre, addr, post, n, hsplit, hn, rfl, hfree, hpre⟩⟩
  · exact ⟨_, by rw [GetAvailableSubnet, hs]; rfl, .inr ⟨rfl, hnone⟩⟩

/-- A host with a route to `10.1.0.0/16`, as the bridge of an earlier run. -/
def bridgeRoutes : List (Option IPNet) := [none, some ⟨[10, 1, 0, 0], CIDRMask 16 32⟩]

/-- With a route to `10.1.0.0/16`, the first candidate `10.1.42.1/16` is taken and the
default subnet is `10.42.0.0/16`. -/
theorem GetAvailableSubnet_bridgeRoutes :
    (∀ dst, some dst ∈ bridgeRoutes → ∃ q, V4Net dst q) ∧
      (∃ r, GetAvailableSubnet (.ok bridgeRoutes) = some r ∧ FirstFreeSubnet bridgeRoutes r) ∧
      GetAvailableSubnet (.ok bridgeRoutes) = some (.ok ⟨[10, 42, 0, 0], CIDRMask 16 32⟩) := by
  have hv : ∀ dst, some dst ∈ bridgeRoutes → ∃ q, V4Net dst q := by
    intro dst h
    simp only [bridgeRoutes, List.mem_cons, reduceCtorEq, Option.some.injEq, List.not_mem_nil,
      or_false, false_or] at h
    exact ⟨16, h ▸ ⟨by decide, rfl, by decide⟩⟩
  exact ⟨hv, GetAvailableSubnet_spec hv, by decide⟩

end Search

theorem GetAvailableSubnet_error (err : String) :
    GetAvailableSubnet (.error err) = some (.error "No available GW address") := by
  rw [GetAvailableSubnet, gatewaySearch_error err gatewayAddrs fun addr h =>
    (gatewayAddrs_v4 addr h).imp fun _ ⟨_, hn, _⟩ => hn]
  rfl

theorem gatewaySearch_mem (routes : Except String (List (Option IPNet))) :
    ∀ {addrs : List String} {addr : String} {n : IPNet},
      gatewaySearch routes addrs = some (.ok (some (addr, n))) →
        addr ∈ addrs ∧ gatewayNet addr = some n
  | [], _, _, h => by simp [gatewaySearch] at h
  | a :: addrs, addr, n, h => by
      rcases hp : ParseCIDR a with _ | ⟨ip, net⟩
      · simp [gatewaySearch, hp] at h
      simp only [gatewaySearch, hp] at h
      rcases hc : CheckRouteOverlaps routes net with _ | _ | r
      · simp [hc] at h
      · simp only [hc, Option.bind_some, Option.some.injEq, Except.ok.injEq, Prod.mk.injEq] at h
        obtain ⟨rfl, rfl⟩ := h
        exact ⟨List.mem_cons_self, by simp [gatewayNet, hp]⟩
      · simp only [hc, Option.bind_some] at h
        obtain ⟨hmem, hn⟩ := gatewaySearch_mem routes h
        exact ⟨List.mem_cons_of_mem a hmem, hn⟩

theorem GetAvailableSubnet_v4 {routes : Except String (List (Option IPNet))} {s : IPNet}
    (h : GetAvailableSubnet routes = some (.ok s)) : ∃ p, V4Prefix s p ∧ 10 ≤ p := by
  obtain ⟨r, hr, hs⟩ := Option.map_eq_some_iff.mp h
  rcases r with err | _ | ⟨addr, n⟩
  · cases hs
  · cases hs
  cases hs
  obtain ⟨haddr, hn⟩ := gatewaySearch_mem routes hr
  have hmem := List.mem_map_of_mem (f := gatewayNet) haddr
  rw [gatewayAddrs_nets, hn] at hmem
  simp only [List.mem_cons, Option.some.injEq, List.not_mem_nil, or_false] at hmem
  rcases hmem with rfl | rfl | rfl | rfl | rfl | rfl | rfl | rfl | rfl | rfl | rfl | rfl
  all_goals first
    | exact ⟨16, ⟨by decide, rfl, rfl, by decide⟩, by decide⟩
    | exact ⟨24, ⟨by decide, rfl, rfl, by decide⟩, by decide⟩

end Daemon
