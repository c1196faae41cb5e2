import Socketplane.Go.NetText
import Socketplane.Daemon.Bits
import Socketplane.Daemon.Records
import Mathlib.Data.Set.Function

/-! # IPAM: the addresses of a subnet handed out from a bitmap

`ipam.go` keeps one bitmap per subnet under `ipam/<subnet.String()>`. Bit `i`
stands for the address at offset `i + 1` in the subnet: `IPAMRequest` sets the
first clear bit with `testAndSetBit`, which returns `i + 1`, and `getIP` writes that
position into the host bits of the network number, keeping only as many low bits
of it as the subnet has host bits. `IPAMRelease` reads the position back with
`getBitPosition` and clears bit `pos - 1`, in Go's unsigned arithmetic.

Both loop over the host bytes from the last one, `byteCount` whole bytes and a
partial byte of `bitCount` bits. Their arithmetic uses Go `int`s that go negative
for masks longer than the address family, so it is kept in `Int` here.
-/

namespace Daemon

open Net Kv Ecc ByteNum

def dataStore : String := "ipam"

/-- `int(math.Pow(2, float64(e)))` for the exponents it is used with, all below 8: a
power of two is exact in float64, and one below 1 truncates to 0. -/
def powTwo (e : Int) : Int := if e < 0 then 0 else 2 ^ e.toNat

/-- `0xFF & maskLen` in round `i` of the loops of `getIP` and `getBitPosition`: the
whole byte before round `byteCount`, its low `bitCount` bits in that round. -/
def hostByteMask (byteCount bitCount : Int) (i : Nat) : Nat :=
  if (i : Int) = byteCount then
    if bitCount ≠ 0 then ((powTwo bitCount - 1) % 256).toNat else 0
  else 0xFF

/-- Round `i` of `getIP`: or the `i`-th byte of the position into byte `tb - i - 1`. -/
def getIP.step (tb byteCount bitCount : Int) (pos : Nat) (retAddr : List UInt8) (i : Nat) :
    Option (List UInt8) :=
  let masked := pos &&& (hostByteMask byteCount bitCount i <<< (8 * i)) % 2 ^ 64
  let idx := tb - i - 1
  if h : 0 ≤ idx ∧ idx.toNat < retAddr.length then
    some (retAddr.set idx.toNat (retAddr[idx.toNat] ||| (masked >>> (8 * i)).toUInt8))
  else none

/-- The address at position `pos` of a subnet; `none` is an index-out-of-range panic. -/
def getIP (subnet : IPNet) (pos : Nat) : Option Net.IP :=
  let mask := subnet.Mask.Size.1
  let (tb, hostBits) : Int × Int :=
    if subnet.IP.To4 ≠ [] then (4, 32 - mask) else (16, 128 - mask)
  let byteCount := hostBits.tdiv 8
  let bitCount := hostBits.tmod 8
  (List.range (byteCount + 1).toNat).foldlM (getIP.step tb byteCount bitCount pos) subnet.IP

/-- Round `i` of `getBitPosition`: add the masked byte `tb - i - 1` of the address,
shifted into place, in 64-bit unsigned arithmetic. -/
def getBitPosition.step (tb byteCount bitCount : Int) (address : List UInt8) (pos : Nat)
    (i : Nat) : Option Nat :=
  let idx := tb - i - 1
  if h : 0 ≤ idx ∧ idx.toNat < address.length then
    some ((pos + ((address[idx.toNat].toNat &&& hostByteMask byteCount bitCount i) <<< (8 * i))
      % 2 ^ 64) % 2 ^ 64)
  else none

/-- The position of an address in a subnet: its host bits. -/
def getBitPosition (address : Net.IP) (subnet : IPNet) : Option Nat :=
  let (mask, size) := subnet.Mask.Size
  let address := if address.To4 ≠ [] then address.To4 else address
  let tb : Int := (size / 8 : Nat)
  let byteCount : Int := ((size - mask) / 8 : Nat)
  let bitCount : Int := ((size - mask) % 8 : Nat)
  (List.range (byteCount + 1).toNat).foldlM (getBitPosition.step tb byteCount bitCount address) 0

/-- `bitCount`: the float64 `2 ^ e` it returns, kept as the exponent `e`, the number
of host bits. -/
def bitCount (addr : IPNet) : Int :=
  let mask := addr.Mask.Size.1
  if addr.IP.To4 ≠ [] then 32 - mask else 128 - mask

/-- The bitmap length `bc` of `IPAMRequest` for `bits = 2 ^ e`: `int(bits / 8)`, plus
one when `int(math.Mod(bits, 8)) != 0`. Both are exact powers of two or fractions
that `int` truncates to 0; a quotient past the range of `int` (from `e = 66`)
converts to the least `int`, as on amd64. -/
def bitmapBytes (e : Int) : Int :=
  let quotient : Int := if e < 3 then 0 else if e < 66 then 2 ^ (e - 3).toNat else -2 ^ 63
  let remainder : Int := if 0 ≤ e ∧ e < 3 then 2 ^ e.toNat else 0
  if remainder ≠ 0 then quotient + 1 else quotient

/-- `make([]byte, n)`: a negative length panics. -/
def makeBytes (n : Int) : Option (List UInt8) :=
  if n < 0 then none else some (List.replicate n.toNat 0)

theorem makeBytes_eq_some {n : Int} {a : List UInt8} (h : makeBytes n = some a) :
    a = List.replicate n.toNat 0 := by
  unfold makeBytes at h
  split at h
  · cases h
  · exact (Option.some.inj h).symm

variable {Q : Type} {A : Q → Type}

/-- One pass of `IPAMRequest` up to its recursive call on `OUTDATED`: read the bitmap
(a fresh one of `bc` bytes when the key is absent), set its first clear bit, write
it conditionally on the bytes read, and turn the position into an address. -/
def IPAMRequest.pass (subnet : IPNet) : Prog Key Value Q A (Loop Net.IP) :=
  Ecc.Get dataStore subnet.String >>= fun (read, _, ok) =>
    let addrArray := (read.map Value.bytes).getD []
    let currVal := addrArray
    match (if ok then some addrArray else makeBytes (bitmapBytes (bitCount subnet))) with
    | none => .crash
    | some addrArray =>
        match testAndSetBit addrArray with
        | none => .crash
        | some (pos, addrArray) =>
            Ecc.Put dataStore subnet.String (.raw addrArray) (.raw currVal) >>= fun eccerr =>
              if eccerr = .OUTDATED then .done .again
              else
                match getIP subnet pos with
                | some ip => .done (.finish ip)
                | none => .crash

def IPAMRequest (subnet : IPNet) : Prog Key Value Q A Net.IP :=
  Prog.retry (IPAMRequest.pass subnet)

/-- One pass of `IPAMRelease`: an absent bitmap is `false`; otherwise clear bit
`pos - 1` (unsigned, so position 0 wraps) and write conditionally on the bytes read. -/
def IPAMRelease.pass (address : Net.IP) (subnet : IPNet) : Prog Key Value Q A (Loop Bool) :=
  Ecc.Get dataStore subnet.String >>= fun (read, _, ok) =>
    let addrArray := (read.map Value.bytes).getD []
    let currVal := addrArray
    if !ok then .done (.finish false)
    else
      match getBitPosition address subnet with
      | none => .crash
      | some pos =>
          match clearBit addrArray (uintPred pos) with
          | none => .crash
          | some addrArray =>
              Ecc.Put dataStore subnet.String (.raw addrArray) (.raw currVal) >>= fun eccerr =>
                if eccerr = .OUTDATED then .done .again else .done (.finish true)

def IPAMRelease (address : Net.IP) (subnet : IPNet) : Prog Key Value Q A Bool :=
  Prog.retry (IPAMRelease.pass address subnet)

theorem getBitPosition_To4 {address : Net.IP} (h4 : address.To4 ≠ []) (subnet : IPNet) :
    getBitPosition address.To4 subnet = getBitPosition address subnet := by
  simp [getBitPosition, To4_To4 h4, h4]

theorem IPAMRelease_To4 {address : Net.IP} (h4 : address.To4 ≠ []) (subnet : IPNet) :
    (IPAMRelease address.To4 subnet : Prog Key Value Q A Bool) = IPAMRelease address subnet := by
  simp only [IPAMRelease, IPAMRelease.pass, getBitPosition_To4 h4]

end Daemon

namespace Daemon

open Net ByteNum

section V4

variable {s : IPNet} {p : Nat}

/-- The bits of round `k`: a whole byte before round `byteCount`, `bitCount` in it. -/
def roundBits (byteCount bitCount k : Nat) : Nat := if k = byteCount then bitCount else 8

theorem hostByteMask_nat {byteCount bitCount : Nat} (k : Nat) (hb : bitCount < 8) :
    hostByteMask byteCount bitCount k = 2 ^ roundBits byteCount bitCount k - 1 := by
  unfold hostByteMask powTwo roundBits
  by_cases hk : k = byteCount
  · subst hk
    by_cases h0 : bitCount = 0
    · simp [h0]
    · have hlt : 2 ^ bitCount - 1 < 256 := by
        have := Nat.pow_lt_pow_right (show 1 < 2 by omega) hb
        omega
      have hcast : ((2 : Int) ^ bitCount - 1) = ((2 ^ bitCount - 1 : Nat) : Int) := by
        rw [Nat.cast_sub Nat.one_le_two_pow]
        simp
      have hb0 : ¬ ((bitCount : Int) < 0) := by omega
      have hne : (bitCount : Int) ≠ 0 := by exact_mod_cast h0
      simp only [↓reduceIte, ne_eq, hne, not_false_eq_true, hb0, Int.toNat_natCast]
      rw [hcast, Int.emod_eq_of_lt (by omega) (by omega), Int.toNat_natCast]
  · simp [hk]

private theorem tdiv_tmod_host (hp : p ≤ 32) :
    ((32 : Int) - (p : Int)).tdiv 8 = (((32 - p) / 8 : Nat) : Int) ∧
      ((32 : Int) - (p : Int)).tmod 8 = (((32 - p) % 8 : Nat) : Int) := by
  have h : (32 : Int) - (p : Int) = ((32 - p : Nat) : Int) := by omega
  rw [h]
  exact ⟨(Int.ofNat_tdiv _ _).symm, (Int.ofNat_tmod _ _).symm⟩

theorem getIP_eq_foldlM (hs : V4Prefix s p) (pos : Nat) :
    getIP s pos = (List.range ((32 - p) / 8 + 1)).foldlM
      (getIP.step 4 ((32 - p) / 8 : Nat) ((32 - p) % 8 : Nat) pos) s.IP := by
  have hne : s.IP.To4 ≠ [] := by
    rw [hs.To4]
    exact List.ne_nil_of_length_pos (by rw [hs.ip_length]; omega)
  obtain ⟨hdiv, hmod⟩ := tdiv_tmod_host (p := p) hs.le
  simp only [getIP, hs.Size, hne, ne_eq, not_false_eq_true, if_true, hdiv, hmod]
  congr 2

theorem getIP.step_four {B b : Nat} {r : List UInt8} (hr : r.length = 4) {k : Nat}
    (hk : k ≤ 3) (pos : Nat) :
    getIP.step 4 B b pos r k = some (r.set (3 - k) (r.getD (3 - k) 0 |||
      ((pos &&& (hostByteMask B b k <<< (8 * k)) % 2 ^ 64) >>> (8 * k)).toUInt8)) := by
  have hidx : (4 : Int) - k - 1 = ((3 - k : Nat) : Int) := by omega
  have hlt : 3 - k < r.length := by omega
  simp only [getIP.step, hidx, Int.toNat_natCast, Nat.cast_nonneg, hlt, and_self, dif_pos,
    List.getD_eq_getElem _ _ hlt]

theorem getIP.testBit_byte {B b k : Nat} (hb : b < 8) (hk : k ≤ 3) (pos t : Nat) :
    ((pos &&& (hostByteMask B b k <<< (8 * k)) % 2 ^ 64) >>> (8 * k)).toUInt8.toNat.testBit t =
      (decide (t < roundBits B b k) && pos.testBit (8 * k + t)) := by
  have hm : hostByteMask B b k < 2 ^ 8 := by
    rw [hostByteMask_nat k hb]
    have : roundBits B b k ≤ 8 := by unfold roundBits; split <;> omega
    have := Nat.pow_le_pow_right (show 0 < 2 by omega) this
    omega
  have hshift : hostByteMask B b k <<< (8 * k) < 2 ^ 64 := by
    rw [Nat.shiftLeft_eq]
    calc hostByteMask B b k * 2 ^ (8 * k) < 2 ^ 8 * 2 ^ (8 * k) :=
          Nat.mul_lt_mul_of_pos_right hm (Nat.two_pow_pos _)
      _ = 2 ^ (8 + 8 * k) := (Nat.pow_add _ _ _).symm
      _ ≤ 2 ^ 64 := Nat.pow_le_pow_right (by omega) (by omega)
  have hbyte : (pos &&& (hostByteMask B b k <<< (8 * k)) % 2 ^ 64) >>> (8 * k) < 2 ^ 8 := by
    rw [Nat.mod_eq_of_lt hshift, Nat.shiftRight_eq_div_pow]
    apply Nat.div_lt_of_lt_mul
    calc pos &&& hostByteMask B b k <<< (8 * k) ≤ hostByteMask B b k <<< (8 * k) := Nat.and_le_right
      _ < 2 ^ (8 * k) * 2 ^ 8 := by
          rw [Nat.shiftLeft_eq, Nat.mul_comm]
          exact Nat.mul_lt_mul_of_pos_left hm (Nat.two_pow_pos _)
  rw [UInt8.toNat_ofNat', Nat.mod_eq_of_lt hbyte, Nat.mod_eq_of_lt hshift, Nat.testBit_shiftRight,
    Nat.testBit_and, Nat.testBit_shiftLeft, hostByteMask_nat k hb, Nat.testBit_two_pow_sub_one]
  simp only [ge_iff_le, Nat.le_add_right, decide_true, Bool.true_and, Nat.add_sub_cancel_left]
  rw [Bool.and_comm]

/-- Bit `j` lies in the rounds before `k` of a loop over `byteCount` whole bytes and
`bitCount` more bits. -/
def covered (byteCount bitCount k j : Nat) : Prop := j / 8 < k ∧ (j / 8 = byteCount → j % 8 < bitCount)

instance (byteCount bitCount k j : Nat) : Decidable (covered byteCount bitCount k j) :=
  inferInstanceAs (Decidable (_ ∧ _))

theorem covered_all (h j : Nat) : covered (h / 8) (h % 8) (h / 8 + 1) j ↔ j < h := by
  unfold covered
  omega

theorem getIP.foldlM_range {B b : Nat} (hb : b < 8) (pos : Nat) {r₀ : List UInt8}
    (hr₀ : r₀.length = 4) {k : Nat} (hk : k ≤ B + 1) (hk4 : k ≤ 4) :
    ∃ r, (List.range k).foldlM (getIP.step 4 B b pos) r₀ = some r ∧ r.length = 4 ∧
      ∀ j, (value r).testBit j = ((value r₀).testBit j || (decide (covered B b k j) && pos.testBit j)) := by
  induction k with
  | zero => exact ⟨r₀, rfl, hr₀, fun j => by simp [covered]⟩
  | succ k ih =>
      obtain ⟨r, hr, hlen, hbits⟩ := ih (by omega) (by omega)
      refine ⟨r.set (3 - k) (r.getD (3 - k) 0 |||
        ((pos &&& (hostByteMask B b k <<< (8 * k)) % 2 ^ 64) >>> (8 * k)).toUInt8), ?_,
        by rw [List.length_set, hlen], ?_⟩
      · rw [List.range_succ, List.foldlM_append, hr]
        simp only [Option.bind_eq_bind, Option.bind_some, List.foldlM_cons, List.foldlM_nil]
        rw [getIP.step_four hlen (by omega)]
        rfl
      · intro j
        rw [testBit_value_set (by omega), hlen]
        by_cases hj : j / 8 = 4 - 1 - (3 - k)
        · have hjk : j / 8 = k := by omega
          have hbyte : (r.getD (3 - k) 0).toNat.testBit (j % 8) = (value r).testBit j := by
            rw [testBit_value, hlen]
            simp [show j / 8 < 4 by omega, show 4 - 1 - j / 8 = 3 - k by omega]
          have hj8 : 8 * k + j % 8 = j := by omega
          have hcov : ¬ covered B b k j := by unfold covered; omega
          rw [if_pos hj, UInt8.toNat_or, Nat.testBit_or, getIP.testBit_byte hb (by omega), hbyte,
            hbits, hj8]
          simp only [hcov, decide_false, Bool.false_and, Bool.or_false]
          by_cases hc : covered B b (k + 1) j
          · have : j % 8 < roundBits B b k := by unfold roundBits covered at *; split <;> omega
            simp [hc, this]
          · have : ¬ j % 8 < roundBits B b k := by unfold roundBits covered at *; split <;> omega
            simp [hc, this]
        · rw [if_neg hj, hbits]
          have : covered B b (k + 1) j ↔ covered B b k j := by unfold covered; omega
          simp only [this]

theorem bitCount_v4 (hs : V4Prefix s p) : bitCount s = 32 - p := by
  have hne : s.IP.To4 ≠ [] := by
    rw [hs.To4]
    exact List.ne_nil_of_length_pos (by rw [hs.ip_length]; omega)
  simp only [bitCount, hs.Size, hne, ne_eq, not_false_eq_true, if_true]

theorem bitmapBytes_pos {e : Int} (h0 : 0 ≤ e) (h66 : e < 66) : 0 < bitmapBytes e := by
  unfold bitmapBytes
  by_cases h3 : e < 3
  · have hr : (2 : Int) ^ e.toNat ≠ 0 := by positivity
    simp only [h3, h0, and_self, if_true, ne_eq, hr, not_false_eq_true]
    omega
  · have hq : (0 : Int) < 2 ^ (e - 3).toNat := by positivity
    simp only [h3, h66, if_false, if_true, and_false, ne_eq, not_true_eq_false]
    exact hq

theorem pow_le_bitmapBytes {e : Nat} (h66 : e < 66) : 2 ^ e ≤ (bitmapBytes e).toNat * 8 := by
  by_cases h3 : e < 3
  · interval_cases e <;> decide
  · have hq : bitmapBytes e = ((2 ^ (e - 3) : Nat) : Int) := by
      have h1 : ¬ ((e : Int) < 3) := by omega
      have h2 : (e : Int) < 66 := by omega
      have h3' : ((e : Int) - 3).toNat = e - 3 := by omega
      simp only [bitmapBytes, h1, h2, h3', if_false, if_true, ne_eq]
      push_cast
      rfl
    rw [hq, Int.toNat_natCast, show 8 = 2 ^ 3 by rfl, ← Nat.pow_add, Nat.sub_add_cancel (by omega)]

private theorem value_ip_eq (hs : V4Prefix s p) :
    value s.IP = 2 ^ (32 - p) * (value s.IP / 2 ^ (32 - p)) :=
  (Nat.mul_div_cancel' (Nat.dvd_of_mod_eq_zero hs.host_zero)).symm

/-- `getIP` on a `/p` network with `1 ≤ p` writes the low `32 - p` bits of the position
into the host part of the network number: it returns the address at offset
`pos % 2 ^ (32 - p)`. -/
theorem getIP_v4 (hs : V4Prefix s p) (hp : 1 ≤ p) (pos : Nat) :
    ∃ ip, getIP s pos = some ip ∧ ip.length = 4 ∧ value ip = value s.IP + pos % 2 ^ (32 - p) := by
  obtain ⟨r, hr, hlen, hbits⟩ := getIP.foldlM_range (B := (32 - p) / 8) (b := (32 - p) % 8)
    (Nat.mod_lt _ (by omega)) pos hs.ip_length (k := (32 - p) / 8 + 1) le_rfl (by omega)
  refine ⟨r, by rw [getIP_eq_foldlM hs, hr], hlen, ?_⟩
  have hsplit := value_ip_eq hs
  rw [hsplit, Nat.two_pow_add_eq_or_of_lt (Nat.mod_lt _ (Nat.two_pow_pos _)), ← hsplit]
  apply Nat.eq_of_testBit_eq
  intro j
  rw [hbits, Nat.testBit_or, Nat.testBit_mod_two_pow]
  simp only [covered_all]

theorem getIP_v4_zero (hs : V4Prefix s 0) (pos : Nat) : getIP s pos = none := by
  obtain ⟨r, hr, hlen, -⟩ := getIP.foldlM_range (B := 4) (b := 0) (by omega) pos hs.ip_length
    (k := 4) (by omega) le_rfl
  rw [getIP_eq_foldlM hs, show (32 - 0) / 8 + 1 = 4 + 1 by rfl, List.range_succ, List.foldlM_append,
    hr]
  simp [getIP.step]

theorem getBitPosition_eq_foldlM (hs : V4Prefix s p) {a : Net.IP} (h4 : a.To4 ≠ []) :
    getBitPosition a s = (List.range ((32 - p) / 8 + 1)).foldlM
      (getBitPosition.step 4 ((32 - p) / 8 : Nat) ((32 - p) % 8 : Nat) a.To4) 0 := by
  simp only [getBitPosition, hs.Size, h4, ne_eq, not_false_eq_true, if_true]
  congr 2

theorem getBitPosition.step_four {B b : Nat} {a : List UInt8} (ha : a.length = 4) {k : Nat}
    (hk : k ≤ 3) (pos : Nat) :
    getBitPosition.step 4 B b a pos k =
      some ((pos + (((a.getD (3 - k) 0).toNat &&& hostByteMask B b k) <<< (8 * k)) % 2 ^ 64) % 2 ^ 64) := by
  have hidx : (4 : Int) - k - 1 = ((3 - k : Nat) : Int) := by omega
  have hlt : 3 - k < a.length := by omega
  simp only [getBitPosition.step, hidx, Int.toNat_natCast, Nat.cast_nonneg, hlt, and_self, dif_pos,
    List.getD_eq_getElem _ _ hlt]

theorem getBitPosition.foldlM_range {B b : Nat} (hb : b < 8) {a : List UInt8} (ha : a.length = 4)
    {k : Nat} (hk : k ≤ B + 1) (hk4 : k ≤ 4) :
    ∃ pos, (List.range k).foldlM (getBitPosition.step 4 B b a) 0 = some pos ∧
      pos < 2 ^ (8 * k) ∧ ∀ j, pos.testBit j = (decide (covered B b k j) && (value a).testBit j) := by
  induction k with
  | zero => exact ⟨0, rfl, by simp, fun j => by simp [covered]⟩
  | succ k ih =>
      obtain ⟨pos, hpos, hlt, hbits⟩ := ih (by omega) (by omega)
      set y := (a.getD (3 - k) 0).toNat &&& hostByteMask B b k with hy
      have hy8 : y < 2 ^ 8 := Nat.lt_of_le_of_lt Nat.and_le_left (UInt8.toNat_lt _)
      have hshift : y <<< (8 * k) = 2 ^ (8 * k) * y := by rw [Nat.shiftLeft_eq, Nat.mul_comm]
      have hbound : pos + 2 ^ (8 * k) * y < 2 ^ (8 * (k + 1)) := by
        have : 2 ^ (8 * (k + 1)) = 2 ^ (8 * k) * 2 ^ 8 := by rw [Nat.mul_add, Nat.pow_add, Nat.mul_one]
        rw [this]
        have := Nat.mul_le_mul_left (2 ^ (8 * k)) (show y + 1 ≤ 2 ^ 8 by omega)
        rw [Nat.mul_add, Nat.mul_one] at this
        omega
      have h64 : 2 ^ (8 * (k + 1)) ≤ 2 ^ 64 := Nat.pow_le_pow_right (by omega) (by omega)
      refine ⟨pos + 2 ^ (8 * k) * y, ?_, hbound, ?_⟩
      · rw [List.range_succ, List.foldlM_append, hpos]
        simp only [Option.bind_eq_bind, Option.bind_some, List.foldlM_cons, List.foldlM_nil]
        rw [getBitPosition.step_four ha (by omega), ← hy, hshift,
          Nat.mod_eq_of_lt (show 2 ^ (8 * k) * y < 2 ^ 64 by omega),
          Nat.mod_eq_of_lt (show pos + 2 ^ (8 * k) * y < 2 ^ 64 by omega)]
        rfl
      · intro j
        rw [Nat.add_comm, Nat.two_pow_add_eq_or_of_lt hlt, Nat.testBit_or, Nat.testBit_two_pow_mul,
          hbits]
        by_cases hjk : j / 8 = k
        · have hcov : ¬ covered B b k j := by unfold covered; omega
          have hge : 8 * k ≤ j := by omega
          have hsub : j - 8 * k = j % 8 := by omega
          rw [hy, hsub, Nat.testBit_and, hostByteMask_nat k hb, Nat.testBit_two_pow_sub_one,
            toNat_getD_eq (by omega), ha, show 8 * (4 - 1 - (3 - k)) = 8 * k by omega,
            Nat.testBit_mod_two_pow, Nat.testBit_div_two_pow, show j % 8 + 8 * k = j by omega]
          by_cases hc : covered B b (k + 1) j
          · have : j % 8 < roundBits B b k := by unfold roundBits covered at *; split <;> omega
            simp [hc, hcov, hge, this, Nat.mod_lt j (show 8 > 0 by omega)]
          · have : ¬ j % 8 < roundBits B b k := by unfold roundBits covered at *; split <;> omega
            simp [hc, hcov, this]
        · have hnot : ¬ (8 * k ≤ j ∧ j < 8 * k + 8) := by omega
          have : covered B b (k + 1) j ↔ covered B b k j := by unfold covered; omega
          by_cases hge : 8 * k ≤ j
          · have hy0 : y.testBit (j - 8 * k) = false :=
              Nat.testBit_lt_two_pow (Nat.lt_of_lt_of_le hy8 (Nat.pow_le_pow_right (by omega) (by omega)))
            simp [this, hge, hy0]
          · simp [this, hge]

theorem getBitPosition_v4 (hs : V4Prefix s p) (hp : 1 ≤ p) {a : Net.IP} (h4 : a.To4 ≠ []) :
    getBitPosition a s = some (value a.To4 % 2 ^ (32 - p)) := by
  obtain ⟨pos, hpos, -, hbits⟩ := getBitPosition.foldlM_range (B := (32 - p) / 8)
    (b := (32 - p) % 8) (Nat.mod_lt _ (by omega)) (To4_length h4) (k := (32 - p) / 8 + 1) le_rfl
    (by omega)
  rw [getBitPosition_eq_foldlM hs h4, hpos]
  congr 1
  apply Nat.eq_of_testBit_eq
  intro j
  rw [hbits, Nat.testBit_mod_two_pow]
  simp only [covered_all]

theorem getIP_spec (hs : V4Prefix s p) (hp : 1 ≤ p) {pos : Nat} (hpos : pos < 2 ^ (32 - p)) :
    ∃ a, getIP s pos = some a ∧ a.length = 4 ∧ s.Contains a = true ∧
      getBitPosition a s = some pos := by
  obtain ⟨a, ha, hlen, hval⟩ := getIP_v4 hs hp pos
  rw [Nat.mod_eq_of_lt hpos] at hval
  have h4 : a.To4 = a := To4_of_length hlen
  have hne : a.To4 ≠ [] := by rw [h4]; exact List.ne_nil_of_length_pos (by omega)
  have hm : 0 < 2 ^ (32 - p) := Nat.two_pow_pos _
  refine ⟨a, ha, hlen, ?_, ?_⟩
  · rw [hs.Contains_eq hne, h4, hval, decide_eq_true_iff]
    conv_lhs => rw [value_ip_eq hs]
    rw [Nat.mul_add_div hm, Nat.div_eq_of_lt hpos, Nat.add_zero]
  · rw [getBitPosition_v4 hs hp hne, h4, hval, Nat.add_mod, hs.host_zero, Nat.zero_add,
      Nat.mod_mod, Nat.mod_eq_of_lt hpos]

theorem getBitPosition_spec (hs : V4Prefix s p) (hp : 1 ≤ p) {a : Net.IP}
    (ha : s.Contains a = true) :
    ∃ pos, pos < 2 ^ (32 - p) ∧ getBitPosition a s = some pos ∧ getIP s pos = some a.To4 := by
  have hne := hs.To4_ne_nil_of_Contains ha
  have hnet : value a.To4 / 2 ^ (32 - p) = value s.IP / 2 ^ (32 - p) := by
    simpa [hs.Contains_eq hne] using ha
  obtain ⟨b, hb, hlen, hval⟩ := getIP_v4 hs hp (value a.To4 % 2 ^ (32 - p))
  refine ⟨value a.To4 % 2 ^ (32 - p), Nat.mod_lt _ (Nat.two_pow_pos _),
    getBitPosition_v4 hs hp hne, ?_⟩
  rw [hb]
  congr 1
  apply ByteNum.eq_of_value_eq (by rw [hlen, To4_length hne])
  calc value b = 2 ^ (32 - p) * (value s.IP / 2 ^ (32 - p)) + value a.To4 % 2 ^ (32 - p) := by
        rw [hval, Nat.mod_mod, ← value_ip_eq hs]
    _ = 2 ^ (32 - p) * (value a.To4 / 2 ^ (32 - p)) + value a.To4 % 2 ^ (32 - p) := by
        rw [hnet]
    _ = value a.To4 := Nat.div_add_mod _ _

/-- On an IPv4 network that `ParseCIDR` returns with a prefix length `p` in `1..32`,
`getIP` maps the positions below `2 ^ (32 - p)` one to one onto the network's
addresses in 4-byte form, and `getBitPosition` is its inverse, from an address in
either form. -/
theorem getIP_bijOn_of_ParseCIDR {str : String} {ip : Net.IP} {s : IPNet} {p : Nat}
    (hparse : ParseCIDR str = some (ip, s)) (hsize : s.Mask.Size = (p, 32)) (hp : 1 ≤ p) :
    (∀ pos < 2 ^ (32 - p), ∃ a, getIP s pos = some a ∧ a.length = 4 ∧ s.Contains a = true ∧
        getBitPosition a s = some pos) ∧
    (∀ a : Net.IP, s.Contains a = true → ∃ pos, pos < 2 ^ (32 - p) ∧
        getBitPosition a s = some pos ∧ getIP s pos = some a.To4) ∧
    Set.BijOn (fun pos => (getIP s pos).getD []) (Set.Iio (2 ^ (32 - p)))
      {a | a.length = 4 ∧ s.Contains a = true} := by
  have hs := V4Prefix.of_ParseCIDR hparse hsize
  refine ⟨fun pos hpos => getIP_spec hs hp hpos, fun a ha => getBitPosition_spec hs hp ha,
    ?maps, ?inj, ?surj⟩
  case maps =>
    intro pos hpos
    obtain ⟨a, ha, hlen, hin, -⟩ := getIP_spec hs hp hpos
    simp [ha, hlen, hin]
  case inj =>
    intro pos₁ h₁ pos₂ h₂ heq
    obtain ⟨a₁, ha₁, -, -, hb₁⟩ := getIP_spec hs hp h₁
    obtain ⟨a₂, ha₂, -, -, hb₂⟩ := getIP_spec hs hp h₂
    simp only [ha₁, ha₂, Option.getD_some] at heq
    subst heq
    exact Option.some.inj (hb₁.symm.trans hb₂)
  case surj =>
    rintro a ⟨hlen, ha⟩
    obtain ⟨pos, hpos, -, hip⟩ := getBitPosition_spec hs hp ha
    exact ⟨pos, hpos, by simp [hip, To4_of_length hlen]⟩

theorem getIP_bijOn_of_ParseCIDR_slash16 :
    ParseCIDR "10.1.0.0/16" = some (IPv4 10 1 0 0, ⟨[10, 1, 0, 0], CIDRMask 16 32⟩) ∧
      (CIDRMask 16 32).Size = (16, 32) ∧ 1 ≤ 16 ∧
      Set.BijOn (fun pos => (getIP ⟨[10, 1, 0, 0], CIDRMask 16 32⟩ pos).getD []) (Set.Iio (2 ^ 16))
        {a | a.length = 4 ∧ IPNet.Contains ⟨[10, 1, 0, 0], CIDRMask 16 32⟩ a = true} :=
  ⟨by decide, by decide, by decide,
    (@getIP_bijOn_of_ParseCIDR "10.1.0.0/16" (IPv4 10 1 0 0) ⟨[10, 1, 0, 0], CIDRMask 16 32⟩ 16
      (by decide) (by decide) (by decide)).2.2⟩

end V4

end Daemon
