import Socketplane.Daemon.Allocators

/-! # A subnet's addresses over a sequence of calls

`IPAMRequest` and `IPAMRelease` called one after another on an IPv4 subnet, each
running alone to its end. Over such a session the bitmap records the held addresses
(`Records`): bit `j` is set exactly when the address at offset `j + 1` is held. A
request made while some address other than the network address is free returns the
free address of least offset and sets its bit alone; that address is never the
network address, but it is the broadcast address once every lower one is held. A
release of a held address clears the bit of its offset alone.

The bitmap has a bit past the broadcast address (for a `/30`, five), and positions
are read modulo the size of the subnet: a request that finds only those bits clear,
or none, hands out the network address or an address already held.
-/

namespace Daemon

open Net Kv Ecc ByteNum Bitmap Prog

/-- `10.0.0.0/30` as `ParseCIDR` returns it. -/
def net30 : IPNet := ⟨[10, 0, 0, 0], [255, 255, 255, 252]⟩

theorem net30_v4 : V4Prefix net30 30 := ⟨by decide, by decide, rfl, by decide⟩

section Records

variable {s : IPNet} {p : Nat}

/-- The bitmap `b` of `s` records the addresses in `held`: bit `j` is set exactly when
the address at offset `j + 1` is held, and every held address is an address of `s`
other than its network address, held once. -/
structure Records (s : IPNet) (p : Nat) (b : List UInt8) (held : List Net.IP) : Prop where
  length_eq : b.length = (bitmapBytes (32 - p)).toNat
  bit_iff : ∀ j, bit b j = true ↔ j + 1 < 2 ^ (32 - p) ∧ ∃ a ∈ held, value a = value s.IP + (j + 1)
  held_addr : ∀ a ∈ held, a.length = 4 ∧ ∃ o, 0 < o ∧ o < 2 ^ (32 - p) ∧ value a = value s.IP + o
  nodup : held.Nodup

/-- Some address of `s` other than its network address is not held. -/
def HasFree (s : IPNet) (p : Nat) (held : List Net.IP) : Prop :=
  ∃ o, 0 < o ∧ o < 2 ^ (32 - p) ∧ ∀ a ∈ held, value a ≠ value s.IP + o

theorem Records.fresh : Records s p (List.replicate (bitmapBytes (32 - p)).toNat 0) [] where
  length_eq := List.length_replicate
  bit_iff j := by simp
  held_addr := by simp
  nodup := List.nodup_nil

theorem Records.unique {b b' : List UInt8} {held : List Net.IP} (hr : Records s p b held)
    (hr' : Records s p b' held) : b = b' :=
  ext_bit (hr.length_eq.trans hr'.length_eq.symm) fun k =>
    Bool.eq_iff_iff.mpr ((hr.bit_iff k).trans (hr'.bit_iff k).symm)

theorem Records.bits_cover {b : List UInt8} {held : List Net.IP} (hr : Records s p b held)
    (hp : p ≤ 32) : 2 ^ (32 - p) ≤ b.length * 8 := by
  have hcast : (32 : Int) - p = ((32 - p : Nat) : Int) := by omega
  rw [hr.length_eq, hcast]
  exact pow_le_bitmapBytes (by omega)

variable {b : List UInt8} {held : List Net.IP}

/-- A request on a recording bitmap with a free address sets the first clear bit `j`,
below which every bit is set, and returns the address at offset `j + 1`; the new
bitmap records that address beside the others. -/
theorem Records.request (hs : V4Prefix s p) (hp : 1 ≤ p) (hr : Records s p b held)
    (hfree : HasFree s p held) :
    ∃ j ip b', testAndSetBit b = some (j + 1, b') ∧ getIP s (j + 1) = some ip ∧
      ip.length = 4 ∧ value ip = value s.IP + (j + 1) ∧ j + 1 < 2 ^ (32 - p) ∧
      (∀ i < j, bit b i = true) ∧ bit b j = false ∧
      (∀ k, bit b' k = (decide (k = j) || bit b k)) ∧ Records s p b' (ip :: held) := by
  obtain ⟨o, ho0, ho, hnot⟩ := hfree
  have hclear : bit b (o - 1) = false := by
    rw [Bool.eq_false_iff]
    intro hb
    obtain ⟨-, x, hx, hval⟩ := (hr.bit_iff (o - 1)).mp hb
    exact hnot x hx (by rw [hval, Nat.sub_add_cancel ho0])
  have hcover := hr.bits_cover hs.le
  obtain ⟨j, hj, hjo, hbj, hbelow⟩ := firstClear_of_clear (by omega) hclear
  obtain ⟨⟨pos, b'⟩, hset, hspec⟩ := testAndSetBit_spec b
  rw [hj] at hspec
  obtain ⟨rfl, hlen, hbits⟩ := hspec
  have hjh : j + 1 < 2 ^ (32 - p) := by omega
  obtain ⟨ip, hip, hiplen, hipval⟩ := getIP_v4 hs hp (j + 1)
  rw [Nat.mod_eq_of_lt hjh] at hipval
  refine ⟨j, ip, b', hset, hip, hiplen, hipval, hjh, hbelow, hbj, hbits, ?_⟩
  have hipnot : ip ∉ held := by
    intro hmem
    have : bit b j = true := (hr.bit_iff j).mpr ⟨hjh, ip, hmem, hipval⟩
    rw [hbj] at this
    cases this
  refine ⟨hlen.trans hr.length_eq, ?_, ?_, List.nodup_cons.mpr ⟨hipnot, hr.nodup⟩⟩
  · intro k
    rw [hbits k]
    by_cases hk : k = j
    · subst hk
      simp [hjh, hipval]
    · have hne : value ip ≠ value s.IP + (k + 1) := by omega
      simp only [hk, decide_false, Bool.false_or, List.mem_cons, or_and_right, exists_or,
        exists_eq_left, hne, false_or]
      exact hr.bit_iff k
  · intro x hx
    rcases List.mem_cons.mp hx with rfl | hx
    · exact ⟨hiplen, j + 1, by omega, hjh, hipval⟩
    · exact hr.held_addr x hx

theorem Records.release (hs : V4Prefix s p) (hp : 1 ≤ p) (hr : Records s p b held) {a : Net.IP}
    (ha : a ∈ held) :
    ∃ o b', getBitPosition a s = some o ∧ 0 < o ∧ value a = value s.IP + o ∧
      clearBit b (uintPred o) = some b' ∧ (∀ k, bit b' k = (!decide (k = o - 1) && bit b k)) ∧
      Records s p b' (held.erase a) := by
  obtain ⟨halen, o, ho0, ho, hval⟩ := hr.held_addr a ha
  have h4 : a.To4 = a := To4_of_length halen
  have hpos : getBitPosition a s = some o := by
    rw [getBitPosition_v4 hs hp (by rw [h4]; exact List.ne_nil_of_length_pos (by omega)), h4, hval,
      Nat.add_mod, hs.host_zero, Nat.zero_add, Nat.mod_mod, Nat.mod_eq_of_lt ho]
  have hsmall : o < 2 ^ 64 :=
    lt_of_lt_of_le ho (Nat.pow_le_pow_right (by omega) (by omega))
  have hcover := hr.bits_cover hs.le
  obtain ⟨b', hb'⟩ : ∃ b', clearBit b (o - 1) = some b' := by
    cases hc : clearBit b (o - 1) with
    | none => rw [clearBit_eq_none_iff] at hc; omega
    | some b' => exact ⟨b', rfl⟩
  obtain ⟨-, hlen, hbits⟩ := clearBit_eq_some_iff.mp hb'
  refine ⟨o, b', hpos, ho0, hval, by rw [uintPred_of_pos ho0 hsmall, hb'], hbits,
    hlen.trans hr.length_eq, ?_, ?_, hr.nodup.erase a⟩
  · intro k
    rw [hbits k]
    by_cases hk : k = o - 1
    · subst hk
      simp only [decide_true, Bool.not_true, Bool.false_and, Bool.false_eq_true, false_iff,
        not_and, not_exists]
      intro _ x hx hxv
      have hxa : x = a := eq_of_value_eq
        (by rw [(hr.held_addr x (List.mem_of_mem_erase hx)).1, halen])
        (by rw [hxv, hval, Nat.sub_add_cancel ho0])
      exact hr.nodup.not_mem_erase (hxa ▸ hx)
    · simp only [hk, decide_false, Bool.not_false, Bool.true_and]
      rw [hr.bit_iff k]
      constructor
      · rintro ⟨hkh, x, hx, hxv⟩
        refine ⟨hkh, x, (hr.nodup.mem_erase_iff).mpr ⟨?_, hx⟩, hxv⟩
        rintro rfl
        omega
      · rintro ⟨hkh, x, hx, hxv⟩
        exact ⟨hkh, x, List.mem_of_mem_erase hx, hxv⟩
  · intro x hx
    exact hr.held_addr x (List.mem_of_mem_erase hx)

end Records

section Session

variable {s : IPNet} {p : Nat}

/-- What a session keeps under the subnet's key: nothing before the first request,
then a bitmap that records the held addresses. -/
def SessionInv (s : IPNet) (p : Nat) : Option Value → List Net.IP → Prop
  | none, held => held = []
  | some (.raw b), held => Records s p b held
  | some (.record _), _ => False

theorem SessionInv.bitmap (hs : V4Prefix s p) {v : Option Value} {held : List Net.IP}
    (hinv : SessionInv s p v held) :
    ∃ b, (if v.isSome then some ((v.map Value.bytes).getD []) else
      makeBytes (bitmapBytes (bitCount s))) = some b ∧ Records s p b held := by
  match v, hinv with
  | none, hinv =>
      subst hinv
      have hpos := bitmapBytes_pos (e := 32 - p) (by have := hs.le; omega) (by omega)
      refine ⟨_, ?_, Records.fresh⟩
      rw [bitCount_v4 hs]
      simp only [Option.isSome_none, Bool.false_eq_true, if_false, makeBytes]
      rw [if_neg (by omega)]
  | some (.raw b), hinv => exact ⟨b, by simp [Value.bytes], hinv⟩

theorem SessionInv.raw {v : Value} {held : List Net.IP} (hinv : SessionInv s p (some v) held) :
    ∃ b, v = .raw b := by
  cases v with
  | raw b => exact ⟨b, rfl⟩
  | record n => exact absurd hinv id

variable {σ Q : Type} {A : Q → Type} {env : Env σ Q A}

theorem runs_IPAMRequest_iff {st st' : Store Key Value} {e e' : σ} {o : Outcome Net.IP}
    {held : List Net.IP} (hinv : SessionInv s p (st.value (ipamKey s)) held) :
    Runs false env (IPAMRequest s) st e o st' e' ↔
      (o, st') = Plan.apply (ipamKey s) (requestPlan s) st ∧ e' = e := by
  unfold IPAMRequest
  rw [IPAMRequest.pass_eq]
  refine runs_retry_casPass_iff fun v new expected after hv hplan => ?_
  obtain ⟨b, rfl⟩ := SessionInv.raw (hv ▸ hinv)
  simpa [Value.bytes] using (requestPlan_eq_write hplan).1

theorem runs_IPAMRelease_iff {st st' : Store Key Value} {e e' : σ} {o : Outcome Bool}
    {held : List Net.IP} {address : Net.IP} (hinv : SessionInv s p (st.value (ipamKey s)) held) :
    Runs false env (IPAMRelease address s) st e o st' e' ↔
      (o, st') = Plan.apply (ipamKey s) (releasePlan address s) st ∧ e' = e := by
  unfold IPAMRelease
  rw [IPAMRelease.pass_eq]
  refine runs_retry_casPass_iff fun v new expected after hv hplan => ?_
  obtain ⟨b, rfl⟩ := SessionInv.raw (hv ▸ hinv)
  obtain ⟨v', pos, a, hv', rfl, -⟩ := releasePlan_eq_write hplan
  cases hv'
  rfl

/-- A request on a session state with a free address returns the address after the
first clear bit `j` of the bitmap it works on, every lower address being held; it
sets bit `j` alone, and the bitmap it writes records the address. -/
theorem request_step (hs : V4Prefix s p) (hp : 1 ≤ p) {st st' : Store Key Value} {e e' : σ}
    {o : Outcome Net.IP} {held : List Net.IP}
    (hinv : SessionInv s p (st.value (ipamKey s)) held) (hfree : HasFree s p held)
    (hrun : Runs false env (IPAMRequest s) st e o st' e') :
    ∃ j ip b b', o = .returned ip ∧ st' = st.write (ipamKey s) (.raw b') ∧ e' = e ∧
      (∀ v, st.value (ipamKey s) = some v → v = .raw b) ∧
      ip.length = 4 ∧ value ip = value s.IP + (j + 1) ∧ j + 1 < 2 ^ (32 - p) ∧
      (∀ o', 0 < o' → o' ≤ j → ∃ x ∈ held, value x = value s.IP + o') ∧
      (∀ k, bit b' k = (decide (k = j) || bit b k)) ∧ Records s p b' (ip :: held) := by
  obtain ⟨b, hsrc, hr⟩ := SessionInv.bitmap hs hinv
  obtain ⟨j, ip, b', hset, hip, hiplen, hipval, hjh, hbelow, -, hbits, hr'⟩ := hr.request hs hp hfree
  have hplan : requestPlan s (st.value (ipamKey s)) =
      .write (.raw b') (.raw (((st.value (ipamKey s)).map Value.bytes).getD [])) (.returned ip) := by
    rw [requestPlan_of_bitmap hsrc, hset]
    simp only [ipOutcome, hip]
  obtain ⟨happ, rfl⟩ := (runs_IPAMRequest_iff hinv).mp hrun
  simp only [Plan.apply, hplan, Prod.mk.injEq] at happ
  obtain ⟨rfl, rfl⟩ := happ
  refine ⟨j, ip, b, b', rfl, rfl, rfl, ?_, hiplen, hipval, hjh, ?_, hbits, hr'⟩
  · intro v hv
    obtain ⟨c, rfl⟩ := SessionInv.raw (hv ▸ hinv)
    simp only [hv, Option.isSome_some, if_true, Option.map_some, Option.getD_some, Value.bytes,
      Option.some.injEq] at hsrc
    rw [hsrc]
  · intro o' ho' hoj
    obtain ⟨-, x, hx, hxv⟩ := (hr.bit_iff (o' - 1)).mp (hbelow (o' - 1) (by omega))
    exact ⟨x, hx, by rw [hxv, Nat.sub_add_cancel ho']⟩

theorem release_step (hs : V4Prefix s p) (hp : 1 ≤ p) {st st' : Store Key Value} {e e' : σ}
    {o : Outcome Bool} {held : List Net.IP} {a : Net.IP}
    (hinv : SessionInv s p (st.value (ipamKey s)) held) (ha : a ∈ held)
    (hrun : Runs false env (IPAMRelease a s) st e o st' e') :
    ∃ off b b', o = .returned true ∧ st.value (ipamKey s) = some (.raw b) ∧
      st' = st.write (ipamKey s) (.raw b') ∧ e' = e ∧ 0 < off ∧ value a = value s.IP + off ∧
      (∀ k, bit b' k = (!decide (k = off - 1) && bit b k)) ∧ Records s p b' (held.erase a) := by
  obtain ⟨v, hv⟩ : ∃ v, st.value (ipamKey s) = some v := by
    cases hst : st.value (ipamKey s) with
    | none =>
        rw [hst] at hinv
        cases (hinv : held = [])
        cases ha
    | some v => exact ⟨v, rfl⟩
  obtain ⟨b, rfl⟩ := SessionInv.raw (hv ▸ hinv)
  have hr : Records s p b held := by
    rw [hv] at hinv
    exact hinv
  obtain ⟨off, b', hpos, hoff, hval, hclr, hbits, hr'⟩ := hr.release hs hp ha
  have hplan : releasePlan a s (st.value (ipamKey s)) = .write (.raw b') (.raw b) (.returned true) := by
    simp only [hv, releasePlan, hpos, Value.bytes, hclr]
  obtain ⟨happ, rfl⟩ := (runs_IPAMRelease_iff hinv).mp hrun
  simp only [Plan.apply, hplan, Prod.mk.injEq] at happ
  obtain ⟨rfl, rfl⟩ := happ
  exact ⟨off, b, b', rfl, hv, rfl, rfl, hoff, hval, hbits, hr'⟩

variable (env)

/-- Calls on subnet `s` made one after another, each run alone to its end against the
store: `held` lists the addresses requests returned and releases have not given back.
Only held addresses are released, and a request is made only while `guard` holds of
the held addresses. -/
inductive Session (guard : List Net.IP → Prop) (s : IPNet) :
    Store Key Value → σ → List Net.IP → Store Key Value → σ → List Net.IP → Prop
  | nil {st e held} : Session guard s st e held st e held
  | request {st e held ip st₁ e₁ st' e' held'} : guard held →
      Runs false env (IPAMRequest s) st e (.returned ip) st₁ e₁ →
      Session guard s st₁ e₁ (ip :: held) st' e' held' → Session guard s st e held st' e' held'
  | release {st e held a ok st₁ e₁ st' e' held'} : a ∈ held →
      Runs false env (IPAMRelease a s) st e (.returned ok) st₁ e₁ →
      Session guard s st₁ e₁ (held.erase a) st' e' held' → Session guard s st e held st' e' held'

variable {env}

theorem Session.inv (hs : V4Prefix s p) (hp : 1 ≤ p) {st st' : Store Key Value} {e e' : σ}
    {held held' : List Net.IP} (h : Session env (HasFree s p) s st e held st' e' held')
    (hinv : SessionInv s p (st.value (ipamKey s)) held) :
    SessionInv s p (st'.value (ipamKey s)) held' := by
  induction h with
  | nil => exact hinv
  | request hfree hrun _ ih =>
      obtain ⟨j, ip, b, b', ho, rfl, -, -, -, -, -, -, -, hr'⟩ := request_step hs hp hinv hfree hrun
      cases ho
      apply ih
      rw [Store.value_write_self]
      exact hr'
  | release ha hrun _ ih =>
      obtain ⟨off, b, b', -, -, rfl, -, -, -, -, hr'⟩ := release_step hs hp hinv ha hrun
      apply ih
      rw [Store.value_write_self]
      exact hr'

theorem contains_of_offset (hs : V4Prefix s p) {ip : Net.IP} {o : Nat} (hlen : ip.length = 4)
    (hval : value ip = value s.IP + o) (ho : o < 2 ^ (32 - p)) : s.Contains ip = true := by
  have h4 : ip.To4 = ip := To4_of_length hlen
  rw [hs.Contains_eq (by rw [h4]; exact List.ne_nil_of_length_pos (by omega)), h4, hval,
    decide_eq_true_iff]
  obtain ⟨q, hq⟩ := Nat.dvd_of_mod_eq_zero hs.host_zero
  rw [hq, Nat.mul_add_div (Nat.two_pow_pos _), Nat.div_eq_of_lt ho, Nat.add_zero,
    Nat.mul_div_cancel_left _ (Nat.two_pow_pos _)]

theorem runs_IPAMRequest_plan {st : Store Key Value} {held : List Net.IP}
    (hinv : SessionInv s p (st.value (ipamKey s)) held) (e : σ) :
    Runs false env (IPAMRequest s) st e (Plan.apply (ipamKey s) (requestPlan s) st).1
      (Plan.apply (ipamKey s) (requestPlan s) st).2 e :=
  (runs_IPAMRequest_iff hinv).mpr ⟨rfl, rfl⟩

/-- **Requests hand out free host addresses.** In a session on an IPv4 subnet of
prefix at least 1, started with no bitmap, in which every request is made while an
address other than the network address is free, a request made in such a state runs
to its end, and every run of it returns an address of the subnet that is not its
network address and is not held. -/
theorem request_returns_free_address (hs : V4Prefix s p) (hp : 1 ≤ p)
    {st₀ st : Store Key Value} {e₀ e : σ} {held : List Net.IP}
    (hsess : Session env (HasFree s p) s st₀ e₀ [] st e held)
    (h₀ : st₀.value (ipamKey s) = none) (hfree : HasFree s p held) :
    (∃ ip st', Runs false env (IPAMRequest s) st e (.returned ip) st' e) ∧
      ∀ o st' e', Runs false env (IPAMRequest s) st e o st' e' →
        ∃ ip, o = .returned ip ∧ s.Contains ip = true ∧ ip ≠ s.IP ∧ ip ∉ held := by
  have hinv := hsess.inv hs hp (by rw [h₀]; rfl)
  have hall : ∀ o st' e', Runs false env (IPAMRequest s) st e o st' e' →
      ∃ ip, o = .returned ip ∧ s.Contains ip = true ∧ ip ≠ s.IP ∧ ip ∉ held := by
    intro o st' e' hrun
    obtain ⟨j, ip, b, b', rfl, -, -, -, hlen, hval, hjh, -, -, hr'⟩ :=
      request_step hs hp hinv hfree hrun
    refine ⟨ip, rfl, contains_of_offset hs hlen hval hjh, ?_, (List.nodup_cons.mp hr'.nodup).1⟩
    intro heq
    rw [heq] at hval
    omega
  have hrun : Runs false env (IPAMRequest s) st e _ _ e := runs_IPAMRequest_plan hinv e
  obtain ⟨ip, ho, -⟩ := hall _ _ _ hrun
  exact ⟨⟨ip, _, ho ▸ hrun⟩, hall⟩

theorem request_fresh (hs : V4Prefix s p) (hp : 1 ≤ p) (hp32 : p < 32) {st : Store Key Value}
    (h₀ : st.value (ipamKey s) = none) (e : σ) :
    ∃ ip st', Runs false env (IPAMRequest s) st e (.returned ip) st' e ∧ ip.length = 4 ∧
      value ip = value s.IP + 1 := by
  have hinv : SessionInv s p (st.value (ipamKey s)) [] := by rw [h₀]; rfl
  have hrun : Runs false env (IPAMRequest s) st e _ _ e := runs_IPAMRequest_plan hinv e
  have hfree : HasFree s p [] := ⟨1, Nat.one_pos, Nat.one_lt_two_pow (by omega), by simp⟩
  obtain ⟨j, ip, -, -, ho, -, -, -, hlen, hval, -, hbelow, -, -⟩ := request_step hs hp hinv hfree hrun
  have hj : j = 0 := by
    by_contra hj
    obtain ⟨x, hx, -⟩ := hbelow 1 Nat.one_pos (by omega)
    cases hx
  rw [hj] at hval
  exact ⟨ip, _, ho ▸ hrun, hlen, hval⟩

end Session

/-- The environment of a program that makes no call. -/
def noEnv : Env Unit Empty (fun _ => Empty) := fun _ q => q.elim

set_option maxRecDepth 100000 in
/-- On `10.0.0.0/30`, after requests for `10.0.0.1` and `10.0.0.2` and the release of
`10.0.0.1`, the next request runs to its end and hands out an address other than
`10.0.0.2`. -/
theorem request_returns_free_address_net30 :
    ∃ st e, Session noEnv (HasFree net30 30) net30 Store.empty () [] st e [[10, 0, 0, 2]] ∧
      (∃ ip st', Runs false noEnv (IPAMRequest net30) st e (.returned ip) st' e) ∧
      ∀ o st' e', Runs false noEnv (IPAMRequest net30) st e o st' e' →
        ∃ ip, o = .returned ip ∧ net30.Contains ip = true ∧ ip ≠ net30.IP ∧
          ip ∉ [[10, 0, 0, 2]] := by
  have hsess : Session noEnv (HasFree net30 30) net30 Store.empty () [] _ _ [[10, 0, 0, 2]] :=
    .request ⟨1, by decide, by decide, by simp⟩ (Runs.of_run_fst (o := .returned [10, 0, 0, 1]) 50
      (by decide))
      (.request ⟨2, by decide, by decide, by decide⟩ (Runs.of_run_fst (o := .returned [10, 0, 0, 2])
        50 (by decide))
        (.release (a := [10, 0, 0, 1]) (by decide) (Runs.of_run_fst (o := .returned true) 50
          (by decide)) .nil))
  exact ⟨_, _, hsess, request_returns_free_address net30_v4 (by decide) hsess rfl
    ⟨1, by decide, by decide, by decide⟩⟩

set_option maxRecDepth 100000 in
/-- On `10.0.0.0/30`, with an address free before each request, the third request
from an empty store returns `10.0.0.3`, the top of the subnet's block: its broadcast
address. -/
theorem third_request_returns_broadcast :
    ∃ st₁ st₂ st₃ : Store Key Value,
      Runs false noEnv (IPAMRequest net30) Store.empty () (.returned [10, 0, 0, 1]) st₁ () ∧
      Runs false noEnv (IPAMRequest net30) st₁ () (.returned [10, 0, 0, 2]) st₂ () ∧
      HasFree net30 30 [[10, 0, 0, 2], [10, 0, 0, 1]] ∧
      Runs false noEnv (IPAMRequest net30) st₂ () (.returned [10, 0, 0, 3]) st₃ () ∧
      value [10, 0, 0, 3] = AlignedBlock.top (32 - 30) (value net30.IP) :=
  ⟨_, _, _, Runs.of_run_fst 50 (by decide), Runs.of_run_fst 50 (by decide),
    ⟨3, by decide, by decide, by decide⟩, Runs.of_run_fst 50 (by decide), by decide⟩

set_option maxRecDepth 100000 in
/-- On `10.0.0.0/30`, whose bitmap has more bits than the subnet has addresses, the
fourth request from an empty store sets bit 3 and returns the network address; its
release then computes position `0 - 1` and panics, leaving bit 3 set. -/
theorem release_network_address_panics :
    ∃ st₁ st₂ st₃ st₄ st₅ : Store Key Value,
      Runs false noEnv (IPAMRequest net30) Store.empty () (.returned [10, 0, 0, 1]) st₁ () ∧
      Runs false noEnv (IPAMRequest net30) st₁ () (.returned [10, 0, 0, 2]) st₂ () ∧
      Runs false noEnv (IPAMRequest net30) st₂ () (.returned [10, 0, 0, 3]) st₃ () ∧
      Runs false noEnv (IPAMRequest net30) st₃ () (.returned [10, 0, 0, 0]) st₄ () ∧
      st₄.value (ipamKey net30) = some (.raw [15]) ∧
      Runs false noEnv (IPAMRelease [10, 0, 0, 0] net30) st₄ () .panicked st₅ () ∧
      st₅.value (ipamKey net30) = some (.raw [15]) :=
  ⟨_, _, _, _, _, Runs.of_run_fst 50 (by decide), Runs.of_run_fst 50 (by decide),
    Runs.of_run_fst 50 (by decide), Runs.of_run_fst 50 (by decide), by decide,
    Runs.of_run_fst 50 (by decide), by decide⟩


set_option maxRecDepth 100000 in
/-- From an empty store, with the conditional `PUT` lost on the way (`ecc.Put` answers
`ERROR`), `IPAMRequest` on `10.0.0.0/30` hands out `10.0.0.1` and `allocateVlan` VLAN 1
with no error, while the store is left without either bitmap. -/
theorem lost_write_reports_success :
    Runs true noEnv (IPAMRequest net30) Store.empty () (.returned [10, 0, 0, 1]) Store.empty () ∧
      Runs true noEnv (allocateVlan : Prog Key Value Empty (fun _ => Empty) (Nat × Option String))
        Store.empty () (.returned (1, none)) Store.empty () := by
  constructor
  · unfold IPAMRequest
    rw [IPAMRequest.pass_eq]
    exact runs_retry_casPass_lost Store.empty () rfl (by simp)
  · unfold allocateVlan
    rw [allocateVlan.pass_eq]
    exact runs_retry_casPass_lost Store.empty () rfl (by simp)

end Daemon
