import Socketplane.Go.Net

/-! # Network ranges and overlaps (`utils.go`)

`NetworkRange` masks the 4-byte form of a network's address for the first
address and sets the host bits for the last one, byte by byte; `NetworkOverlaps`
asks only whether either network holds the other's first address, and
`CheckRouteOverlaps` runs it against the destination of every IPv4 route. A
Go panic (a byte index out of range) is `none`.

On IPv4 networks with prefix masks, the addresses of a network are an aligned
block of values, so the first and last addresses are the block's base and top,
and two networks overlap exactly when one holds the other's base
(`AlignedBlock.meet_iff_base_mem`).
-/

namespace Daemon

open Net ByteNum AlignedBlock

def ErrNetworkOverlaps : String := "requested network overlaps with existing network"

/-- The first and last address of a network; the loop sets byte `i` of the last
address to byte `i` of the address or the complement of byte `i` of the mask. -/
def NetworkRange (network : IPNet) : Option (Net.IP × Net.IP) :=
  let netIP := network.IP.To4
  let firstIP := netIP.Mask network.Mask
  let lastIP := (IPv4 0 0 0 0).To4
  let lastIP? := (List.range lastIP.length).foldlM
    (fun (lastIP : Net.IP) i => do
      let b ← netIP[i]?
      let m ← network.Mask[i]?
      pure (lastIP.set i (b ||| ~~~m)))
    lastIP
  lastIP?.map fun lastIP => (firstIP, lastIP)

/-- Whether either network holds the first address of the other. -/
def NetworkOverlaps (netX netY : IPNet) : Option Bool := do
  let (firstIP, _) ← NetworkRange netX
  if netY.Contains firstIP then return true
  let (firstIP, _) ← NetworkRange netY
  if netX.Contains firstIP then return true
  return false

/-- The loop of `CheckRouteOverlaps` over route destinations, `none` for a route
without one. -/
def CheckRouteOverlaps.loop (toCheck : IPNet) : List (Option IPNet) → Option (Option String)
  | [] => some none
  | none :: networks => loop toCheck networks
  | some dst :: networks => do
      if ← NetworkOverlaps toCheck dst then return some ErrNetworkOverlaps
      loop toCheck networks

/-- `CheckRouteOverlaps` against what `netlink.RouteList` answers: an error, or the
destinations of the IPv4 routes. -/
def CheckRouteOverlaps (networks : Except String (List (Option IPNet))) (toCheck : IPNet) :
    Option (Option String) :=
  match networks with
  | .error err => some (some err)
  | .ok networks => CheckRouteOverlaps.loop toCheck networks

section V4

variable {n x y : IPNet} {p q : Nat}

theorem NetworkRange_eq (hn : V4Net n p) :
    NetworkRange n = some (n.IP.To4.Mask n.Mask,
      List.zipWith (fun b m => b ||| ~~~m) n.IP.To4 n.Mask) := by
  have h4 := To4_length hn.ip_v4
  have hm := hn.mask_length
  simp only [NetworkRange, To4_IPv4]
  generalize n.IP.To4 = a at h4 ⊢
  generalize n.Mask = m at hm ⊢
  match a, m, h4, hm with
  | [_, _, _, _], [_, _, _, _], _, _ => rfl

theorem value_first (hn : V4Net n p) :
    value (n.IP.To4.Mask n.Mask) = base (32 - p) (value n.IP.To4) := by
  have h4 := To4_length hn.ip_v4
  have hx : value n.IP.To4 < 2 ^ 32 := by simpa [h4] using value_lt n.IP.To4
  rw [hn.mask_eq, Mask_v4 (by rw [To4_To4 hn.ip_v4]; exact hn.ip_v4) hn.le, To4_To4 hn.ip_v4,
    value_zipWith_and (by rw [h4, length_CIDRMask hn.le]), and_value_CIDRMask hx hn.le]
  rfl

theorem value_last (hn : V4Net n p) :
    value (List.zipWith (fun b m => b ||| ~~~m) n.IP.To4 n.Mask) =
      top (32 - p) (value n.IP.To4) := by
  have h4 := To4_length hn.ip_v4
  have hx : value n.IP.To4 < 2 ^ 32 := by simpa [h4] using value_lt n.IP.To4
  have hmask : value n.Mask = 2 ^ (32 - p) * (2 ^ p - 1) := by
    rw [hn.mask_eq, value_CIDRMask hn.le, Nat.mul_sub, Nat.mul_one, ← Nat.pow_add,
      Nat.sub_add_cancel hn.le]
  rw [← or_two_pow_sub_one]
  apply Nat.eq_of_testBit_eq
  intro j
  rw [testBit_value_zipWith (g := fun a b => a || !b) (fun x y _ hi => testBit_or_not x y hi)
      (by rw [h4, hn.mask_length]), hn.mask_length, hmask, Nat.testBit_or,
    Nat.testBit_two_pow_mul, Nat.testBit_two_pow_sub_one, Nat.testBit_two_pow_sub_one]
  by_cases hj : j < 32
  · have hj8 : j / 8 < 4 := by omega
    by_cases hh : 32 - p ≤ j
    · simp [hj8, hh, show j - (32 - p) < p by omega, show ¬ j < 32 - p by omega]
    · simp [hj8, hh, show j < 32 - p by omega]
  · have hx0 : (value n.IP.To4).testBit j = false :=
      Nat.testBit_lt_two_pow (Nat.lt_of_lt_of_le hx (Nat.pow_le_pow_right (by omega) (by omega)))
    simp [show ¬ j / 8 < 4 by omega, hx0, show ¬ j < 32 - p by omega]

theorem Contains_of_value (hn : V4Net n p) {a : Net.IP} (ha : a.length = 4)
    (hv : value a ∈ block (32 - p) (value n.IP.To4)) : n.Contains a = true := by
  have h4 : a.To4 = a := To4_of_length ha
  rw [hn.Contains_iff, h4]
  exact ⟨List.ne_nil_of_length_pos (by omega), hv⟩

theorem NetworkOverlaps_eq (hx : V4Net x p) (hy : V4Net y q) :
    NetworkOverlaps x y =
      some (y.Contains (x.IP.To4.Mask x.Mask) || x.Contains (y.IP.To4.Mask y.Mask)) := by
  simp only [NetworkOverlaps, NetworkRange_eq hx, NetworkRange_eq hy, Option.bind_eq_bind,
    Option.bind_some]
  cases y.Contains (x.IP.To4.Mask x.Mask) <;> cases x.Contains (y.IP.To4.Mask y.Mask) <;> rfl

theorem length_first (hn : V4Net n p) : (n.IP.To4.Mask n.Mask).length = 4 := by
  rw [hn.mask_eq, Mask_v4 (by rw [To4_To4 hn.ip_v4]; exact hn.ip_v4) hn.le, To4_To4 hn.ip_v4,
    List.length_zipWith, To4_length hn.ip_v4, length_CIDRMask hn.le, Nat.min_self]

theorem Contains_first (hn : V4Net n p) : n.Contains (n.IP.To4.Mask n.Mask) = true :=
  Contains_of_value hn (length_first hn) (by rw [value_first hn]; exact base_mem_block)

theorem Contains_first_iff (hx : V4Net x p) (hy : V4Net y q) :
    y.Contains (x.IP.To4.Mask x.Mask) = true ↔
      base (32 - p) (value x.IP.To4) ∈ block (32 - q) (value y.IP.To4) := by
  have hlen := length_first hx
  rw [hy.Contains_iff, To4_of_length hlen, value_first hx]
  exact ⟨fun h => h.2, fun h => ⟨List.ne_nil_of_length_pos (by omega), h⟩⟩

theorem length_last (hn : V4Net n p) :
    (List.zipWith (fun b m => b ||| ~~~m) n.IP.To4 n.Mask).length = 4 := by
  rw [List.length_zipWith, To4_length hn.ip_v4, hn.mask_length, Nat.min_self]

theorem NetworkOverlaps_spec (hx : V4Net x p) (hy : V4Net y q) :
    ∃ b, NetworkOverlaps x y = some b ∧
      (b = true ↔ ∃ a, x.Contains a = true ∧ y.Contains a = true) := by
  refine ⟨_, NetworkOverlaps_eq hx hy, ?_⟩
  rw [Bool.or_eq_true, Contains_first_iff hx hy, Contains_first_iff hy hx]
  constructor
  · rintro (hb | hb)
    · exact ⟨_, Contains_first hx, (Contains_first_iff hx hy).mpr hb⟩
    · exact ⟨_, (Contains_first_iff hy hx).mpr hb, Contains_first hy⟩
  · rintro ⟨a, hax, hay⟩
    exact meet_iff_base_mem.mp ⟨value a.To4, (hx.Contains_iff.mp hax).2, (hy.Contains_iff.mp hay).2⟩

/-- On IPv4 networks with prefix masks, `NetworkRange` returns the least and the
greatest address of the network, and `NetworkOverlaps` tells whether the two
networks share an address. -/
theorem NetworkRange_NetworkOverlaps_spec (hx : V4Net x p) (hy : V4Net y q) :
    (∃ first last, NetworkRange x = some (first, last) ∧ first.length = 4 ∧ last.length = 4 ∧
      x.Contains first = true ∧ x.Contains last = true ∧
      ∀ a, x.Contains a = true → value first ≤ value a.To4 ∧ value a.To4 ≤ value last) ∧
    ∃ b, NetworkOverlaps x y = some b ∧
      (b = true ↔ ∃ a, x.Contains a = true ∧ y.Contains a = true) := by
  refine ⟨⟨_, _, NetworkRange_eq hx, length_first hx, length_last hx, Contains_first hx, ?last,
    ?bounds⟩, NetworkOverlaps_spec hx hy⟩
  case last =>
    refine Contains_of_value hx (length_last hx) ?_
    rw [value_last hx]
    exact top_mem_block
  case bounds =>
    intro a ha
    rw [value_first hx, value_last hx]
    exact base_le_of_mem (hx.Contains_iff.mp ha).2

theorem NetworkRange_NetworkOverlaps_spec_slash22 :
    V4Net ⟨[10, 1, 0, 0], CIDRMask 22 32⟩ 22 ∧ V4Net ⟨[10, 1, 1, 0], CIDRMask 24 32⟩ 24 ∧
      ∃ b, NetworkOverlaps ⟨[10, 1, 0, 0], CIDRMask 22 32⟩ ⟨[10, 1, 1, 0], CIDRMask 24 32⟩ = some b ∧
        (b = true ↔ ∃ a, IPNet.Contains ⟨[10, 1, 0, 0], CIDRMask 22 32⟩ a = true ∧
          IPNet.Contains ⟨[10, 1, 1, 0], CIDRMask 24 32⟩ a = true) :=
  have hx : V4Net ⟨[10, 1, 0, 0], CIDRMask 22 32⟩ 22 := ⟨by decide, rfl, by decide⟩
  have hy : V4Net ⟨[10, 1, 1, 0], CIDRMask 24 32⟩ 24 := ⟨by decide, rfl, by decide⟩
  ⟨hx, hy, (NetworkRange_NetworkOverlaps_spec hx hy).2⟩

/-- The network shares no address with the destination of any route. -/
def NoRouteOverlaps (toCheck : IPNet) (networks : List (Option IPNet)) : Prop :=
  ∀ dst, some dst ∈ networks → ¬ ∃ a, toCheck.Contains a = true ∧ dst.Contains a = true

theorem CheckRouteOverlaps.loop_spec (hc : V4Net n p) :
    ∀ networks : List (Option IPNet), (∀ dst, some dst ∈ networks → ∃ q, V4Net dst q) →
      ∃ r, CheckRouteOverlaps.loop n networks = some r ∧ (r = none ↔ NoRouteOverlaps n networks) ∧
        (r = none ∨ r = some ErrNetworkOverlaps)
  | [], _ => ⟨none, rfl, by simp [NoRouteOverlaps], .inl rfl⟩
  | none :: networks, hv => by
      obtain ⟨r, hr, hiff, hone⟩ := loop_spec hc networks fun dst h => hv dst (by simp [h])
      refine ⟨r, hr, ?_, hone⟩
      rw [hiff]
      simp [NoRouteOverlaps]
  | some dst :: networks, hv => by
      obtain ⟨q, hq⟩ := hv dst (by simp)
      obtain ⟨b, hb, hbiff⟩ := NetworkOverlaps_spec hc hq
      obtain ⟨r, hr, hiff, hone⟩ := loop_spec hc networks fun d h => hv d (by simp [h])
      have hcons : NoRouteOverlaps n (some dst :: networks) ↔
          (¬ ∃ a, n.Contains a = true ∧ dst.Contains a = true) ∧ NoRouteOverlaps n networks := by
        simp [NoRouteOverlaps]
      cases b with
      | true =>
          refine ⟨some ErrNetworkOverlaps, by simp [loop, hb], ?_, .inr rfl⟩
          rw [hcons]
          simp [hbiff.mp rfl]
      | false =>
          refine ⟨r, by simp [loop, hb, hr], ?_, hone⟩
          rw [hcons, hiff]
          simp only [Bool.false_eq_true, false_iff] at hbiff
          simp [hbiff]

end V4

end Daemon
