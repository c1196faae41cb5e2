import Socketplane.Lib.ByteNum
import Socketplane.Lib.AlignedBlock

/-! # Addresses, masks and networks of Go's `net` package

The byte-level part of `net` (Go 1.4.1, the release the daemon is built with): an
`IP` and an `IPMask` are byte slices, an `IPNet` pairs them. A nil slice is the
empty list. Go's `int` arguments that are never negative at the calls the daemon
makes are natural numbers here.

An IPv4 network as `net.ParseCIDR` builds it is a 4-byte network number with a
4-byte mask of `p` leading ones; `V4Prefix` names that shape, and the lemmas
below read masking, mask sizes and `Contains` on it as arithmetic on the 32-bit
value of an address.
-/

namespace Net

open ByteNum

abbrev IP := List UInt8

abbrev IPMask := List UInt8

/-- An IP network: a network number and its mask. -/
structure IPNet where
  IP : IP
  Mask : IPMask
deriving DecidableEq, Repr

def IPv4len : Nat := 4

def IPv6len : Nat := 16

def v4InV6Prefix : List UInt8 := [0, 0, 0, 0, 0, 0, 0, 0, 0, 0, 0xff, 0xff]

/-- The 16-byte form of the IPv4 address `a.b.c.d`. -/
def IPv4 (a b c d : UInt8) : IP := v4InV6Prefix ++ [a, b, c, d]

/-- The 4-byte form of an IPv4 address, `[]` (nil) for any other address. -/
def IP.To4 (ip : IP) : IP :=
  if ip.length = IPv4len then ip
  else if ip.length = IPv6len ∧ ip.take 10 = List.replicate 10 0 ∧
      ip[10]? = some 0xff ∧ ip[11]? = some 0xff then ip.drop 12
  else []

/-- The bytes of a mask of `n` leading ones in `l` bytes, as `CIDRMask` fills them. -/
def CIDRMask.fill : Nat → Nat → List UInt8
  | 0, _ => []
  | l + 1, n => if 8 ≤ n then 0xff :: fill l (n - 8) else ~~~((0xff : UInt8) >>> n.toUInt8) :: fill l 0

/-- The mask of `ones` leading ones out of `bits`; nil unless `bits` is 32 or 128
and `ones ≤ bits`. -/
def CIDRMask (ones bits : Nat) : IPMask :=
  if bits ≠ 8 * IPv4len ∧ bits ≠ 8 * IPv6len then []
  else if ones > bits then []
  else CIDRMask.fill (bits / 8) ones

/-- The loop of `simpleMaskLength` over one byte: the leading ones it counts, and
what is left of the byte after shifting them out. -/
def countOnes : Nat → UInt8 → Nat × UInt8
  | 0, v => (0, v)
  | k + 1, v => if v &&& 0x80 ≠ 0 then ((countOnes k (v <<< 1)).1 + 1, (countOnes k (v <<< 1)).2)
      else (0, v)

/-- The number of leading ones of a canonical mask; `none` stands for Go's `-1`. -/
def simpleMaskLength : IPMask → Option Nat
  | [] => some 0
  | v :: rest =>
      if v = 0xff then (simpleMaskLength rest).map (· + 8)
      else if (countOnes 8 v).2 ≠ 0 then none
      else if rest.all (· = 0) then some (countOnes 8 v).1
      else none

/-- The leading ones and the length in bits of a canonical mask, `(0, 0)` otherwise. -/
def IPMask.Size (m : IPMask) : Nat × Nat :=
  match simpleMaskLength m with
  | some ones => (ones, m.length * 8)
  | none => (0, 0)

/-- `ip` masked with `mask`; a 16-byte mask applies to a 4-byte address through its
last four bytes, and a 4-byte mask to an IPv4 address in 16-byte form. -/
def IP.Mask (ip : IP) (mask : IPMask) : IP :=
  let mask := if mask.length = IPv6len ∧ ip.length = IPv4len ∧ (mask.take 12).all (· = 0xff)
    then mask.drop 12 else mask
  let ip := if mask.length = IPv4len ∧ ip.length = IPv6len ∧ ip.take 12 = v4InV6Prefix
    then ip.drop 12 else ip
  if ip.length ≠ mask.length then [] else List.zipWith (· &&& ·) ip mask

/-- The network number and mask of `n` brought to one length; `none` when they
cannot be (Go returns two nils). -/
def networkNumberAndMask (n : IPNet) : Option (IP × IPMask) :=
  let ip? : Option IP :=
    if n.IP.To4 ≠ [] then some n.IP.To4
    else if n.IP.length = IPv6len then some n.IP else none
  ip?.bind fun ip =>
    if n.Mask.length = IPv4len then (if ip.length ≠ IPv4len then none else some (ip, n.Mask))
    else if n.Mask.length = IPv6len then
      (if ip.length = IPv4len then some (ip, n.Mask.drop 12) else some (ip, n.Mask))
    else none

/-- Whether the network includes `ip`. -/
def IPNet.Contains (n : IPNet) (ip : Net.IP) : Bool :=
  let (nn, m) := (networkNumberAndMask n).getD ([], [])
  let ip := if ip.To4 ≠ [] then ip.To4 else ip
  if ip.length ≠ nn.length then false
  else (List.range ip.length).all fun i => (nn.getD i 0 &&& m.getD i 0) == (ip.getD i 0 &&& m.getD i 0)

section V4

variable {s : IPNet} {p : Nat}

theorem To4_of_length {ip : IP} (h : ip.length = 4) : ip.To4 = ip := by
  simp [IP.To4, IPv4len, h]

theorem To4_length {ip : IP} (h : ip.To4 ≠ []) : ip.To4.length = 4 := by
  unfold IP.To4 at h ⊢
  split_ifs at h ⊢ with h4 h16
  · exact h4
  · rw [List.length_drop, h16.1]
    rfl
  · exact absurd rfl h

theorem To4_To4 {ip : IP} (h4 : ip.To4 ≠ []) : ip.To4.To4 = ip.To4 :=
  To4_of_length (To4_length h4)

theorem To4_IPv4 (a b c d : UInt8) : (IPv4 a b c d).To4 = [a, b, c, d] := by
  simp [IP.To4, IPv4, v4InV6Prefix, IPv4len, IPv6len]

theorem To4_v4InV6Prefix {x : IP} (hx : x.length = 4) : IP.To4 (v4InV6Prefix ++ x) = x := by
  match x, hx with
  | [a, b, c, d], _ => exact To4_IPv4 a b c d

theorem length_CIDRMask (hp : p ≤ 32) : (CIDRMask p 32).length = 4 := by
  interval_cases p <;> rfl

theorem Size_CIDRMask (hp : p ≤ 32) : (CIDRMask p 32).Size = (p, 32) := by
  interval_cases p <;> decide

theorem simpleMaskLength_CIDRMask (hp : p ≤ 32) : simpleMaskLength (CIDRMask p 32) = some p := by
  have hsize := Size_CIDRMask hp
  unfold IPMask.Size at hsize
  split at hsize
  · next ones h => rw [h, (Prod.mk.inj hsize).1]
  · cases hsize

theorem value_CIDRMask (hp : p ≤ 32) : value (CIDRMask p 32) = 2 ^ 32 - 2 ^ (32 - p) := by
  interval_cases p <;> decide

theorem and_value_CIDRMask {x : Nat} (hx : x < 2 ^ 32) (hp : p ≤ 32) :
    x &&& value (CIDRMask p 32) = x / 2 ^ (32 - p) * 2 ^ (32 - p) := by
  rw [value_CIDRMask hp, AlignedBlock.and_two_pow_sub_two_pow hx (Nat.sub_le 32 p)]
  rfl

private theorem take_twelve {ip : IP} (hz : ip.take 10 = List.replicate 10 0) (h10 : ip[10]? = some 0xff)
    (h11 : ip[11]? = some 0xff) : ip.take 12 = v4InV6Prefix := by
  apply List.ext_getElem?
  intro n
  rw [List.getElem?_take]
  by_cases hn : n < 10
  · have := congrArg (·[n]?) hz
    simp only [List.getElem?_take, hn, if_true, List.getElem?_replicate] at this
    rw [if_pos (by omega), this]
    interval_cases n <;> rfl
  · by_cases hn' : n < 12
    · rw [if_pos hn']
      interval_cases n
      · exact h10
      · exact h11
    · rw [if_neg hn']
      simp [v4InV6Prefix, show 12 ≤ n by omega]

theorem To4_cases {ip : IP} (h4 : ip.To4 ≠ []) :
    (ip.length = 4 ∧ ip.To4 = ip) ∨
      (ip.length = 16 ∧ ip.take 12 = v4InV6Prefix ∧ ip.To4 = ip.drop 12) := by
  unfold IP.To4 at h4 ⊢
  by_cases h₁ : ip.length = IPv4len
  · exact .inl ⟨h₁, if_pos h₁⟩
  · rw [if_neg h₁] at h4 ⊢
    by_cases h₂ : ip.length = IPv6len ∧ ip.take 10 = List.replicate 10 0 ∧
        ip[10]? = some 0xff ∧ ip[11]? = some 0xff
    · exact .inr ⟨h₂.1, take_twelve h₂.2.1 h₂.2.2.1 h₂.2.2.2, if_pos h₂⟩
    · exact absurd (if_neg h₂) h4

theorem Mask_v4 {ip : IP} (h4 : ip.To4 ≠ []) (hp : p ≤ 32) :
    ip.Mask (CIDRMask p 32) = List.zipWith (· &&& ·) ip.To4 (CIDRMask p 32) := by
  have hm := length_CIDRMask hp
  rcases To4_cases h4 with ⟨hlen, hTo4⟩ | ⟨hlen, hpre, hTo4⟩
  · rw [hTo4]
    simp [IP.Mask, hm, hlen, IPv6len, IPv4len]
  · rw [hTo4]
    simp [IP.Mask, hm, hlen, hpre, IPv6len, IPv4len]

/-- An IPv4 network as a parsed text or a route carries it: an IPv4 address, in either
form and not necessarily the network number, under the 4-byte mask of `p` ones. -/
structure V4Net (n : IPNet) (p : Nat) : Prop where
  le : p ≤ 32
  mask_eq : n.Mask = CIDRMask p 32
  ip_v4 : n.IP.To4 ≠ []

namespace V4Net

variable {n : IPNet}

theorem mask_length (hn : V4Net n p) : n.Mask.length = 4 := by
  rw [hn.mask_eq, length_CIDRMask hn.le]

theorem networkNumberAndMask_eq (hn : V4Net n p) :
    networkNumberAndMask n = some (n.IP.To4, n.Mask) := by
  simp [networkNumberAndMask, hn.ip_v4, To4_length hn.ip_v4, hn.mask_length, IPv4len]

theorem To4_ne_nil_of_Contains (hn : V4Net n p) {ip : IP} (h : n.Contains ip = true) :
    ip.To4 ≠ [] := by
  intro h4
  have hlen : ip.length = 4 := by
    by_contra hne
    simp [IPNet.Contains, hn.networkNumberAndMask_eq, h4, To4_length hn.ip_v4, hne] at h
  rw [To4_of_length hlen] at h4
  simp [h4] at hlen

theorem Contains_eq (hn : V4Net n p) {ip : IP} (h4 : ip.To4 ≠ []) :
    n.Contains ip = decide (value ip.To4 / 2 ^ (32 - p) = value n.IP.To4 / 2 ^ (32 - p)) := by
  have hlen := To4_length h4
  have hnlen := To4_length hn.ip_v4
  have hm := hn.mask_length
  have hall : n.Contains ip = true ↔
      List.zipWith (· &&& ·) n.IP.To4 n.Mask = List.zipWith (· &&& ·) ip.To4 n.Mask := by
    rw [zipWith_and_eq_iff (by rw [hnlen, hm]) (by rw [hlen, hm])]
    simp [IPNet.Contains, hn.networkNumberAndMask_eq, h4, hlen, hnlen, hm]
  have hx : value ip.To4 < 2 ^ 32 := by simpa [hlen] using ByteNum.value_lt ip.To4
  have hnx : value n.IP.To4 < 2 ^ 32 := by simpa [hnlen] using ByteNum.value_lt n.IP.To4
  have hpos : 0 < 2 ^ (32 - p) := Nat.two_pow_pos _
  rw [Bool.eq_iff_iff, hall, decide_eq_true_iff]
  constructor
  · intro h
    have hv := congrArg value h
    rw [value_zipWith_and (by rw [hnlen, hm]), value_zipWith_and (by rw [hlen, hm]),
      hn.mask_eq, and_value_CIDRMask hnx hn.le, and_value_CIDRMask hx hn.le] at hv
    exact (Nat.eq_of_mul_eq_mul_right hpos hv).symm
  · intro h
    apply ByteNum.eq_of_value_eq (by simp [hnlen, hlen, hm])
    rw [value_zipWith_and (by rw [hnlen, hm]), value_zipWith_and (by rw [hlen, hm]),
      hn.mask_eq, and_value_CIDRMask hnx hn.le, and_value_CIDRMask hx hn.le, h]

theorem Contains_iff (hn : V4Net n p) {ip : IP} :
    n.Contains ip = true ↔
      ip.To4 ≠ [] ∧ value ip.To4 ∈ AlignedBlock.block (32 - p) (value n.IP.To4) := by
  constructor
  · intro h
    have h4 := hn.To4_ne_nil_of_Contains h
    rw [hn.Contains_eq h4, decide_eq_true_iff] at h
    exact ⟨h4, h⟩
  · rintro ⟨h4, hb⟩
    rw [hn.Contains_eq h4, decide_eq_true_iff]
    exact hb

end V4Net

/-- The shape `net.ParseCIDR` gives an IPv4 network of prefix length `p`: a 4-byte
network number with its host bits clear, under the 4-byte mask of `p` ones. -/
structure V4Prefix (s : IPNet) (p : Nat) : Prop where
  le : p ≤ 32
  mask_eq : s.Mask = CIDRMask p 32
  ip_length : s.IP.length = 4
  host_zero : value s.IP % 2 ^ (32 - p) = 0

namespace V4Prefix

theorem Size (hs : V4Prefix s p) : s.Mask.Size = (p, 32) := by
  rw [hs.mask_eq, Size_CIDRMask hs.le]

theorem unique {p' : Nat} (hs : V4Prefix s p) (hs' : V4Prefix s p') : p = p' :=
  congrArg Prod.fst (hs.Size.symm.trans hs'.Size)

theorem To4 (hs : V4Prefix s p) : s.IP.To4 = s.IP := To4_of_length hs.ip_length

theorem value_lt (hs : V4Prefix s p) : value s.IP < 2 ^ 32 := by
  simpa [hs.ip_length] using ByteNum.value_lt s.IP

theorem of_Mask {ip : IP} (h4 : ip.To4 ≠ []) (hp : p ≤ 32) :
    V4Prefix ⟨ip.Mask (CIDRMask p 32), CIDRMask p 32⟩ p := by
  have hlen := To4_length h4
  have hm := length_CIDRMask hp
  refine ⟨hp, rfl, ?_, ?_⟩
  · rw [Mask_v4 h4 hp, List.length_zipWith, hlen, hm, Nat.min_self]
  · have hlt : value ip.To4 < 2 ^ 32 := by simpa [hlen] using ByteNum.value_lt ip.To4
    show value (ip.Mask (CIDRMask p 32)) % 2 ^ (32 - p) = 0
    rw [Mask_v4 h4 hp, value_zipWith_and (by rw [hlen, hm]), and_value_CIDRMask hlt hp]
    exact Nat.mul_mod_left _ _

theorem toV4Net (hs : V4Prefix s p) : V4Net s p :=
  ⟨hs.le, hs.mask_eq, by rw [hs.To4]; exact List.ne_nil_of_length_pos (by rw [hs.ip_length]; omega)⟩

theorem To4_ne_nil_of_Contains (hs : V4Prefix s p) {ip : IP} (h : s.Contains ip = true) :
    ip.To4 ≠ [] :=
  hs.toV4Net.To4_ne_nil_of_Contains h

theorem Contains_eq (hs : V4Prefix s p) {ip : IP} (h4 : ip.To4 ≠ []) :
    s.Contains ip = decide (value ip.To4 / 2 ^ (32 - p) = value s.IP / 2 ^ (32 - p)) := by
  rw [hs.toV4Net.Contains_eq h4, hs.To4]

theorem Contains_self (hs : V4Prefix s p) : s.Contains s.IP = true := by
  rw [hs.Contains_eq hs.toV4Net.ip_v4, hs.To4, decide_eq_true_iff]

theorem Mask_of_Contains (hs : V4Prefix s p) {ip : IP} (h : s.Contains ip = true) :
    ip.Mask (CIDRMask p 32) = s.IP := by
  have h4 := hs.To4_ne_nil_of_Contains h
  have hlen := To4_length h4
  have hm := length_CIDRMask hs.le
  have hx : value ip.To4 < 2 ^ 32 := by simpa [hlen] using ByteNum.value_lt ip.To4
  rw [hs.Contains_eq h4, decide_eq_true_iff] at h
  rw [Mask_v4 h4 hs.le]
  apply ByteNum.eq_of_value_eq (by simp [hlen, hm, hs.ip_length])
  rw [value_zipWith_and (by rw [hlen, hm]), and_value_CIDRMask hx hs.le, h]
  exact Nat.div_mul_cancel (Nat.dvd_of_mod_eq_zero hs.host_zero)

private theorem value_quad (a b c d : UInt8) :
    value [a, b, c, d] = 256 * (65536 * a.toNat + 256 * b.toNat + c.toNat) + d.toNat := by
  simp [value_cons]
  omega

theorem last_octet_zero (hs : V4Prefix s p) (hp : p ≤ 24) : ∃ a b c, s.IP = [a, b, c, 0] := by
  have hlen := hs.ip_length
  match hip : s.IP, hlen with
  | [a, b, c, d], _ =>
      have hmod : value s.IP % 256 = 0 := by
        have hdvd : 256 ∣ 2 ^ (32 - p) := by
          have : 2 ^ (32 - p) = 2 ^ 8 * 2 ^ (32 - p - 8) := by rw [← Nat.pow_add]; congr 1; omega
          rw [this]
          exact Dvd.intro _ rfl
        rw [← Nat.mod_mod_of_dvd _ hdvd, hs.host_zero]
      rw [hip, value_quad] at hmod
      have hd : d.toNat = 0 := by have := d.toNat_lt; omega
      have hd0 : d = 0 := UInt8.toNat_inj.mp (by simpa using hd)
      exact ⟨a, b, c, by rw [hd0]⟩

theorem Contains_of_last (hs : V4Prefix s p) (hp : p ≤ 24) {ip : IP} {a b c d : UInt8}
    (h4 : ip.To4 = [a, b, c, d]) (h : s.Contains ip = true) (x : UInt8) :
    s.Contains (IPv4 a b c x) = true := by
  have hx4 : (IPv4 a b c x).To4 ≠ [] := by simp [To4_IPv4]
  rw [hs.Contains_eq (by simp [h4]), h4, decide_eq_true_iff] at h
  rw [hs.Contains_eq hx4, To4_IPv4, decide_eq_true_iff, ← h]
  have hk : 2 ^ (32 - p) = 256 * 2 ^ (32 - p - 8) := by
    have : 32 - p = 8 + (32 - p - 8) := by omega
    rw [this, Nat.pow_add, Nat.add_sub_cancel_left]
  have hdiv : value [a, b, c, x] / 256 = value [a, b, c, d] / 256 := by
    have := x.toNat_lt
    have := d.toNat_lt
    rw [value_quad, value_quad]
    omega
  rw [hk, ← Nat.div_div_eq_div_mul, ← Nat.div_div_eq_div_mul, hdiv]

end V4Prefix

end V4

end Net
