import Socketplane.Go.Net
import Socketplane.Go.Strings

/-! # Text forms of addresses and networks (Go 1.4.1 `net`)

Parsing (`ParseIP`, `ParseCIDR` and the `parseIPv4`, `parseIPv6`, `dtoi`, `xtoi`
helpers under them) and printing (`IP.String`, `IPNet.String`). Go walks a string
by byte offset; here a parser takes the characters still to read and returns what
it leaves, which is the same walk for the ASCII text these functions accept (every
byte of a multi-byte character is rejected where the character is). A nil result
is `[]`, a parse error `none`.
-/

namespace Net

/-- Go's `big`: `dtoi` and `xtoi` give up once the value reaches it. -/
def big : Nat := 0xFFFFFF

def isDigit (c : Char) : Bool := '0' ≤ c && c ≤ '9'

/-- The value of a hexadecimal digit, `none` for any other character. -/
def hexVal (c : Char) : Option Nat :=
  if '0' ≤ c ∧ c ≤ '9' then some (c.toNat - '0'.toNat)
  else if 'a' ≤ c ∧ c ≤ 'f' then some (c.toNat - 'a'.toNat + 10)
  else if 'A' ≤ c ∧ c ≤ 'F' then some (c.toNat - 'A'.toNat + 10)
  else none

/-- The digit loop of `dtoi` from the value `n` read so far. -/
def dtoi.loop (n : Nat) : List Char → Option (Nat × List Char)
  | [] => some (n, [])
  | c :: cs =>
      if isDigit c then
        if big ≤ n * 10 + (c.toNat - '0'.toNat) then none
        else dtoi.loop (n * 10 + (c.toNat - '0'.toNat)) cs
      else some (n, c :: cs)

/-- Decimal to integer: the value of the leading digits and the text after them;
`none` when there is no digit or the value reaches `big`. -/
def dtoi (s : List Char) : Option (Nat × List Char) :=
  match s with
  | c :: _ => if isDigit c then dtoi.loop 0 s else none
  | [] => none

/-- The digit loop of `xtoi` from the value `n` read so far. -/
def xtoi.loop (n : Nat) : List Char → Option (Nat × List Char)
  | [] => some (n, [])
  | c :: cs =>
      match hexVal c with
      | some d => if big ≤ n * 16 + d then none else xtoi.loop (n * 16 + d) cs
      | none => some (n, c :: cs)

/-- Hexadecimal to integer, as `dtoi` for base 16. -/
def xtoi (s : List Char) : Option (Nat × List Char) :=
  match s with
  | c :: _ => if (hexVal c).isSome then xtoi.loop 0 s else none
  | [] => none

/-- Octet `j` of a dotted address: a dot before every octet but the first, then at
most `0xFF` in decimal. -/
def parseIPv4.octet (j : Nat) (s : List Char) : Option (UInt8 × List Char) := do
  if s = [] then none
  let s ← if j > 0 then (match s with | '.' :: r => some r | _ => none) else some s
  let (n, r) ← dtoi s
  if n > 0xFF then none else some (n.toUInt8, r)

/-- A dotted IPv4 address, in 16-byte form. -/
def parseIPv4 (s : List Char) : IP :=
  let parsed := (List.range IPv4len).foldlM
    (fun (acc : List UInt8 × List Char) j => do
      let (b, r) ← parseIPv4.octet j acc.2
      pure (acc.1 ++ [b], r))
    ([], s)
  match parsed with
  | some (p, []) => v4InV6Prefix ++ p
  | _ => []

/-- The loop of `parseIPv6` over 16-bit groups: the bytes read so far, the byte
position of the ellipsis if one was read, and the text left. It ends at the end of
the text, after a trailing IPv4 part, or once 16 bytes are read. -/
def parseIPv6.groups : Nat → List UInt8 → Option Nat → List Char →
    Option (List UInt8 × Option Nat × List Char)
  | 0, ip, ellipsis, s => some (ip, ellipsis, s)
  | fuel + 1, ip, ellipsis, s =>
      if IPv6len ≤ ip.length then some (ip, ellipsis, s) else do
      let (n, r) ← xtoi s
      if n > 0xFFFF then none
      match r with
      | '.' :: _ =>
          -- a trailing IPv4 part, read again from the start of this group
          if ellipsis.isNone ∧ ip.length ≠ IPv6len - IPv4len then none
          else if ip.length + IPv4len > IPv6len then none
          else
            let ip4 := parseIPv4 s
            if ip4 = [] then none else some (ip ++ ip4.drop 12, ellipsis, [])
      | _ =>
          let ip := ip ++ [(n / 256).toUInt8, (n % 256).toUInt8]
          match r with
          | [] => some (ip, ellipsis, [])
          | ':' :: r =>
              match r with
              | [] => none
              | ':' :: r =>
                  if ellipsis.isSome then none
                  else if r = [] then some (ip, some ip.length, [])
                  else groups fuel ip (some ip.length) r
              | r => groups fuel ip ellipsis r
          | _ => none

/-- A textual IPv6 address (zones not allowed), in 16-byte form. -/
def parseIPv6 (s : List Char) : IP :=
  match s with
  | [':', ':'] => List.replicate IPv6len 0
  | ':' :: ':' :: r => finish (parseIPv6.groups IPv6len [] (some 0) r)
  | _ => finish (parseIPv6.groups IPv6len [] none s)
where
  /-- The whole text must be read; a short address needs an ellipsis, which stands
  for the zero bytes that make it 16, and a full one must not have one. -/
  finish : Option (List UInt8 × Option Nat × List Char) → IP
    | some (ip, ellipsis, []) =>
        if ip.length < IPv6len then
          match ellipsis with
          | some e => ip.take e ++ List.replicate (IPv6len - ip.length) 0 ++ ip.drop e
          | none => []
        else if ellipsis.isSome then [] else ip
    | _ => []

/-- An address in dotted IPv4 or IPv6 text; nil when it is neither. -/
def ParseIP (s : String) : IP :=
  let ip := parseIPv4 s.toList
  if ip ≠ [] then ip else parseIPv6 s.toList

/-- A CIDR text `addr/n`: the address, and the network of its first `n` bits.
`none` is the `ParseError` Go returns with two nils. -/
def ParseCIDR (s : String) : Option (IP × IPNet) :=
  match s.toList.span (· ≠ '/') with
  | (addr, '/' :: mask) =>
      let ip4 := parseIPv4 addr
      let (iplen, ip) := if ip4 ≠ [] then (IPv4len, ip4) else (IPv6len, parseIPv6 addr)
      match dtoi mask with
      | some (n, []) =>
          if ip = [] ∨ n > 8 * iplen then none
          else
            let m := CIDRMask n (8 * iplen)
            some (ip, ⟨ip.Mask m, m⟩)
      | _ => none
  | _ => none

section ParseCIDR

private theorem foldlM_length_fst {γ δ : Type} {f : List γ × δ → Nat → Option (List γ × δ)}
    (hf : ∀ acc j acc', f acc j = some acc' → acc'.1.length = acc.1.length + 1) :
    ∀ (l : List Nat) (acc acc' : List γ × δ), l.foldlM f acc = some acc' →
      acc'.1.length = acc.1.length + l.length
  | [], acc, acc', h => by
      simp only [List.foldlM_nil, Option.pure_def, Option.some.injEq] at h
      simp [h]
  | j :: l, acc, acc', h => by
      simp only [List.foldlM_cons, Option.bind_eq_bind, Option.bind_eq_some_iff] at h
      obtain ⟨mid, hmid, hrest⟩ := h
      rw [foldlM_length_fst hf l mid acc' hrest, hf acc j mid hmid, List.length_cons]
      omega

theorem parseIPv4_eq {str : List Char} (h : parseIPv4 str ≠ []) :
    ∃ a b c d, parseIPv4 str = IPv4 a b c d := by
  unfold parseIPv4 at h ⊢
  dsimp only at h ⊢
  split at h
  · next q hq =>
      have hlen : q.length = 4 := by
        have := foldlM_length_fst (by
          intro acc j acc' hj
          simp only [bind, Option.bind_eq_some_iff] at hj
          obtain ⟨⟨b, r⟩, -, hj⟩ := hj
          simp only [pure, Option.some.injEq] at hj
          simp [← hj]) _ _ _ hq
        simpa [IPv4len] using this
      rcases q with _ | ⟨a, _ | ⟨b, _ | ⟨c, _ | ⟨d, _ | ⟨_, _⟩⟩⟩⟩⟩ <;> simp at hlen
      exact ⟨a, b, c, d, rfl⟩
  · exact absurd rfl h

theorem length_CIDRMask_fill (l n : Nat) : (CIDRMask.fill l n).length = l := by
  induction l generalizing n with
  | zero => rfl
  | succ l ih => unfold CIDRMask.fill; split <;> simp [ih]

theorem Size_snd (m : IPMask) : m.Size.2 = m.length * 8 ∨ m.Size.2 = 0 := by
  unfold IPMask.Size
  split <;> simp

theorem V4Prefix.of_ParseCIDR {str : String} {ip : IP} {s : IPNet} {p : Nat}
    (h : ParseCIDR str = some (ip, s)) (hsize : s.Mask.Size = (p, 32)) : V4Prefix s p := by
  unfold ParseCIDR at h
  split at h
  · next addr mask _ =>
      dsimp only at h
      split at h
      · next n _ =>
          by_cases h4 : parseIPv4 addr ≠ []
          · simp only [h4, ne_eq, not_false_eq_true, if_true] at h
            split at h
            · exact absurd h (by simp)
            · next hn =>
                simp only [Option.some.injEq, Prod.mk.injEq] at h
                obtain ⟨-, rfl⟩ := h
                have hn32 : n ≤ 32 := by simp [IPv4len] at hn; omega
                obtain ⟨a, b, c, d, habcd⟩ := parseIPv4_eq h4
                have hTo4 : (parseIPv4 addr).To4 ≠ [] := by simp [habcd, To4_IPv4]
                have hp : p = n := by
                  have h32 : (CIDRMask n 32).Size = (p, 32) := hsize
                  rw [Size_CIDRMask hn32, Prod.mk.injEq] at h32
                  exact h32.1.symm
                subst hp
                exact V4Prefix.of_Mask hTo4 hn32
          · simp only [h4, if_false] at h
            split at h
            · exact absurd h (by simp)
            · next hn =>
                simp only [Option.some.injEq, Prod.mk.injEq] at h
                obtain ⟨-, rfl⟩ := h
                have hlen : (CIDRMask n (8 * IPv6len)).length = 16 := by
                  have hn128 : ¬ 128 < n := fun h' => hn (.inr h')
                  simp [CIDRMask, IPv6len, IPv4len, hn128, length_CIDRMask_fill]
                rcases Size_snd (CIDRMask n (8 * IPv6len)) with h' | h' <;>
                  simp [hsize, hlen] at h'
      · exact absurd h (by simp)
  · exact absurd h (by simp)

end ParseCIDR

/-- Go's `itod`: `i` in decimal. -/
def itod (i : Nat) : String := toString i

/-- Go's `itox(i, 1)`: `i` in lower-case hexadecimal, without leading zeros. -/
def itox (i : Nat) : String := String.ofList (Nat.toDigits 16 i)

/-- The 16-bit group `k` of a 16-byte address. -/
def group (p : IP) (k : Nat) : Nat := (p.getD (2 * k) 0).toNat * 256 + (p.getD (2 * k + 1) 0).toNat

/-- The longest run of zero groups from group `k` on, as `(start, end)` group numbers;
the first of equally long runs is kept. -/
def zeroRun (p : IP) : Nat → Nat × Nat → Nat × Nat
  | 0, best => best
  | fuel + 1, best =>
      let k := 8 - (fuel + 1)
      let e := k + (((List.range (8 - k)).map fun d => group p (k + d)).takeWhile (· == 0)).length
      let best := if e > k ∧ e - k > best.2 - best.1 then (k, e) else best
      zeroRun p fuel best

/-- The printing loop of an IPv6 address from group `k`, `::` standing for the run
`[e0, e1)` of zero groups. -/
def printGroups (p : IP) (run : Option (Nat × Nat)) : Nat → Nat → String
  | 0, _ => ""
  | fuel + 1, k =>
      if 8 ≤ k then ""
      else match run with
        | some (e0, e1) =>
            if k = e0 then
              if 8 ≤ e1 then "::"
              else "::" ++ itox (group p e1) ++ printGroups p run fuel (e1 + 1)
            else (if k > 0 then ":" else "") ++ itox (group p k) ++ printGroups p run fuel (k + 1)
        | none => (if k > 0 then ":" else "") ++ itox (group p k) ++ printGroups p run fuel (k + 1)

/-- The text of an address: dotted for IPv4, RFC 5952 style for IPv6. -/
def IP.String (ip : Net.IP) : String :=
  if ip.length = 0 then "<nil>"
  else if ip.To4.length = IPv4len then
    itod (ip.To4.getD 0 0).toNat ++ "." ++ itod (ip.To4.getD 1 0).toNat ++ "." ++
      itod (ip.To4.getD 2 0).toNat ++ "." ++ itod (ip.To4.getD 3 0).toNat
  else if ip.length ≠ IPv6len then "?"
  else
    -- a run of a single zero group is printed as `0`, not as `::`
    let run := zeroRun ip 8 (0, 0)
    printGroups ip (if run.2 - run.1 ≤ 1 then none else some run) 8 0

/-- A mask that is not a prefix, in hexadecimal. -/
def IPMask.String (m : IPMask) : String :=
  if m.length = 0 then "<nil>"
  else String.join (m.map fun b =>
    String.ofList [Nat.digitChar (b.toNat / 16), Nat.digitChar (b.toNat % 16)])

/-- The text `network/length` of a network, `network/mask` when the mask is not a prefix. -/
def IPNet.String (n : IPNet) : String :=
  match networkNumberAndMask n with
  | none => "<nil>"
  | some (nn, m) =>
      match simpleMaskLength m with
      | none => nn.String ++ "/" ++ m.String
      | some l => nn.String ++ "/" ++ itod l

/-- The text of a hardware address: its bytes in lowercase hexadecimal, separated by `:`. -/
def HardwareAddr.String (a : List UInt8) : String :=
  ":".intercalate (a.map fun b =>
    String.ofList [Nat.digitChar (b.toNat / 16), Nat.digitChar (b.toNat % 16)])

section RoundTrip

/-! ## Printing and parsing back

`dtoi` reads back what `itod` prints, so the dotted text of an IPv4 address parses to
its 16-byte form, and the text `IPNet.String` gives an IPv4 network parses back to the
network. -/

theorem isDigit_eq (c : Char) : isDigit c = c.isDigit := by
  simp [isDigit, Char.isDigit, Char.le_def]

theorem toList_itod (n : Nat) : (itod n).toList = Nat.toDigits 10 n := by
  simp [itod]

private theorem le_ofDigitChars (l : List Char) (init : Nat) : init ≤ Nat.ofDigitChars 10 l init := by
  rw [Nat.ofDigitChars_eq_ofDigitChars_zero]
  have hpow : 0 < 10 ^ l.length := Nat.pow_pos (by decide)
  exact Nat.le_add_right_of_le (Nat.le_mul_of_pos_left init hpow)

theorem dtoi.loop_digits {r : List Char} (hr : ∀ c ∈ r.head?, c.isDigit = false) :
    ∀ (ds : List Char) (n : Nat), (∀ c ∈ ds, c.isDigit = true) →
      Nat.ofDigitChars 10 ds n < big → dtoi.loop n (ds ++ r) = some (Nat.ofDigitChars 10 ds n, r)
  | [], n, _, _ => by
      cases r with
      | nil => rfl
      | cons c cs =>
          have hc : isDigit c = false := by rw [isDigit_eq]; exact hr c rfl
          simp [dtoi.loop, hc]
  | c :: ds, n, hd, hbig => by
      have hc : isDigit c = true := by rw [isDigit_eq]; exact hd c (by simp)
      rw [Nat.ofDigitChars_cons] at hbig ⊢
      have hlt : n * 10 + (c.toNat - '0'.toNat) < big := by
        have := le_ofDigitChars ds (10 * n + (c.toNat - '0'.toNat))
        rw [Nat.mul_comm]
        omega
      rw [List.cons_append, dtoi.loop, if_pos hc, if_neg (Nat.not_le.mpr hlt), Nat.mul_comm]
      exact dtoi.loop_digits hr ds _ (fun x hx => hd x (by simp [hx])) hbig

theorem dtoi_digits {ds r : List Char} (hne : ds ≠ []) (hd : ∀ c ∈ ds, c.isDigit = true)
    (hbig : Nat.ofDigitChars 10 ds 0 < big) (hr : ∀ c ∈ r.head?, c.isDigit = false) :
    dtoi (ds ++ r) = some (Nat.ofDigitChars 10 ds 0, r) := by
  obtain ⟨c, cs, rfl⟩ := List.exists_cons_of_ne_nil hne
  have hc : isDigit c = true := by rw [isDigit_eq]; exact hd c (by simp)
  rw [List.cons_append, dtoi, if_pos hc, ← List.cons_append]
  exact dtoi.loop_digits hr _ 0 hd hbig

private theorem isDigit_toDigits (n : Nat) : ∀ c ∈ Nat.toDigits 10 n, c.isDigit = true :=
  fun _ hc => Nat.isDigit_of_mem_toDigits (by decide) (by decide) hc

theorem dtoi_toDigits {n : Nat} (hn : n < big) {r : List Char}
    (hr : ∀ c ∈ r.head?, c.isDigit = false) : dtoi (Nat.toDigits 10 n ++ r) = some (n, r) := by
  have h := dtoi_digits Nat.toDigits_ne_nil (isDigit_toDigits n)
    (by rwa [Nat.ofDigitChars_ten_toDigits]) hr
  rwa [Nat.ofDigitChars_ten_toDigits] at h

theorem dtoi_toDigits_append_zero {n : Nat} (hn : 10 * n < big) :
    dtoi (Nat.toDigits 10 n ++ ['0']) = some (10 * n, []) := by
  have hd : ∀ c ∈ Nat.toDigits 10 n ++ ['0'], c.isDigit = true := by
    intro c hc
    rcases List.mem_append.mp hc with hc | hc
    · exact isDigit_toDigits n c hc
    · rw [List.mem_singleton.mp hc]
      rfl
  have hval : Nat.ofDigitChars 10 (Nat.toDigits 10 n ++ ['0']) 0 = 10 * n := by
    rw [Nat.ofDigitChars_append, Nat.ofDigitChars_ten_toDigits, Nat.ofDigitChars_cons]
    rfl
  have h := dtoi_digits (by simp) hd (by rwa [hval]) (r := []) (by simp)
  rwa [hval, List.append_nil] at h

private theorem dtoi_byte (b : UInt8) {r : List Char} (hr : ∀ c ∈ r.head?, c.isDigit = false) :
    dtoi (Nat.toDigits 10 b.toNat ++ r) = some (b.toNat, r) :=
  dtoi_toDigits (Nat.lt_of_lt_of_le b.toNat_lt (by decide)) hr

theorem parseIPv4.octet_zero (b : UInt8) {r : List Char} (hr : ∀ c ∈ r.head?, c.isDigit = false) :
    parseIPv4.octet 0 (Nat.toDigits 10 b.toNat ++ r) = some (b, r) := by
  have hb : ¬ b.toNat > 0xFF := Nat.not_lt.mpr (Nat.le_of_lt_succ b.toNat_lt)
  simp [parseIPv4.octet, dtoi_byte b hr, hb]

theorem parseIPv4.octet_dot {j : Nat} (hj : 0 < j) (b : UInt8) {r : List Char}
    (hr : ∀ c ∈ r.head?, c.isDigit = false) :
    parseIPv4.octet j ('.' :: (Nat.toDigits 10 b.toNat ++ r)) = some (b, r) := by
  have hb : ¬ b.toNat > 0xFF := Nat.not_lt.mpr (Nat.le_of_lt_succ b.toNat_lt)
  simp [parseIPv4.octet, dtoi_byte b hr, hb, hj]

theorem parseIPv4.octet_last {j : Nat} (hj : 0 < j) {ds : List Char} {n : Nat}
    (hds : dtoi ds = some (n, [])) :
    parseIPv4.octet j ('.' :: ds) = if n > 0xFF then none else some (n.toUInt8, []) := by
  simp [parseIPv4.octet, hds, hj]

theorem parseIPv4_dotted (a b c : UInt8) {ds : List Char} {n : Nat} (hds : dtoi ds = some (n, [])) :
    parseIPv4 (Nat.toDigits 10 a.toNat ++ '.' :: (Nat.toDigits 10 b.toNat ++ '.' ::
      (Nat.toDigits 10 c.toNat ++ '.' :: ds))) = if n > 0xFF then [] else IPv4 a b c n.toUInt8 := by
  have hdot : ∀ r : List Char, ∀ x ∈ ('.' :: r).head?, x.isDigit = false := by
    intro r x hx
    cases hx
    rfl
  have hrange : List.range IPv4len = [0, 1, 2, 3] := rfl
  simp only [parseIPv4, hrange, List.foldlM_cons, List.foldlM_nil, Option.bind_eq_bind,
    Option.pure_def]
  rw [parseIPv4.octet_zero a (hdot _)]
  simp only [Option.bind_some]
  rw [parseIPv4.octet_dot (by decide) b (hdot _)]
  simp only [Option.bind_some]
  rw [parseIPv4.octet_dot (by decide) c (hdot _)]
  simp only [Option.bind_some]
  rw [parseIPv4.octet_last (by decide) hds]
  by_cases hn : n > 0xFF
  · simp only [hn, if_true, Option.bind_none]
  · simp only [hn, if_false, Option.bind_some]
    rfl

theorem To4_eq_quad {ip : IP} (h4 : ip.To4 ≠ []) : ∃ a b c d, ip.To4 = [a, b, c, d] := by
  have hlen := To4_length h4
  match ip.To4, hlen with
  | [a, b, c, d], _ => exact ⟨a, b, c, d, rfl⟩

theorem String_of_To4 {ip : IP} {a b c d : UInt8} (h : ip.To4 = [a, b, c, d]) :
    ip.String = itod a.toNat ++ "." ++ itod b.toNat ++ "." ++ itod c.toNat ++ "." ++ itod d.toNat := by
  have hne : ip.length ≠ 0 := by
    intro h0
    rw [List.length_eq_zero_iff] at h0
    subst h0
    cases h
  simp [IP.String, hne, h, IPv4len]

theorem toList_String_of_To4 {ip : IP} {a b c d : UInt8} (h : ip.To4 = [a, b, c, d]) :
    ip.String.toList = Nat.toDigits 10 a.toNat ++ '.' :: (Nat.toDigits 10 b.toNat ++ '.' ::
      (Nat.toDigits 10 c.toNat ++ '.' :: Nat.toDigits 10 d.toNat)) := by
  simp [String_of_To4 h, toList_itod]

theorem parseIPv4_String {ip : IP} (h4 : ip.To4 ≠ []) :
    parseIPv4 ip.String.toList = v4InV6Prefix ++ ip.To4 := by
  obtain ⟨a, b, c, d, h⟩ := To4_eq_quad h4
  have hd : dtoi (Nat.toDigits 10 d.toNat) = some (d.toNat, []) := by
    simpa using dtoi_byte d (r := []) (by simp)
  have hb : ¬ d.toNat > 0xFF := Nat.not_lt.mpr (Nat.le_of_lt_succ d.toNat_lt)
  rw [toList_String_of_To4 h, parseIPv4_dotted a b c hd, if_neg hb, h]
  simp [IPv4]

theorem ParseIP_String {ip : IP} (h4 : ip.To4 ≠ []) : ParseIP ip.String = v4InV6Prefix ++ ip.To4 := by
  have hne : v4InV6Prefix ++ ip.To4 ≠ [] := by simp [v4InV6Prefix]
  simp [ParseIP, parseIPv4_String h4, hne]

theorem slash_not_mem_String {ip : IP} (h4 : ip.To4 ≠ []) : '/' ∉ ip.String.toList := by
  obtain ⟨a, b, c, d, h⟩ := To4_eq_quad h4
  have hdig : ∀ n, '/' ∉ Nat.toDigits 10 n := fun n hmem =>
    absurd (Nat.isDigit_of_mem_toDigits (by decide) (by decide) hmem) (by decide)
  rw [toList_String_of_To4 h]
  simp [hdig]

theorem hexVal_of_isDigit {c : Char} (hc : c.isDigit = true) :
    hexVal c = some (c.toNat - '0'.toNat) := by
  have h : '0' ≤ c ∧ c ≤ '9' := by simpa [Char.isDigit, Char.le_def] using hc
  simp [hexVal, h]

theorem xtoi.loop_stops {r : List Char} (hr : ∀ c ∈ r.head?, hexVal c = none) :
    ∀ (ds : List Char) (n : Nat), (∀ c ∈ ds, (hexVal c).isSome) →
      xtoi.loop n (ds ++ r) = none ∨ ∃ m, xtoi.loop n (ds ++ r) = some (m, r)
  | [], n, _ => by
      cases r with
      | nil => exact .inr ⟨n, rfl⟩
      | cons c cs => exact .inr ⟨n, by simp [xtoi.loop, hr c rfl]⟩
  | c :: ds, n, hd => by
      obtain ⟨v, hv⟩ := Option.isSome_iff_exists.mp (hd c (by simp))
      rw [List.cons_append, xtoi.loop, hv]
      dsimp only
      split
      · exact .inl rfl
      · exact xtoi.loop_stops hr ds _ fun x hx => hd x (by simp [hx])

theorem parseIPv6_digits_dot {ds rest : List Char} (hds : ∀ c ∈ ds, c.isDigit = true)
    (hne : ds ≠ []) : parseIPv6 (ds ++ '.' :: rest) = [] := by
  have hhex : ∀ c ∈ ds, (hexVal c).isSome := fun c hc => by simp [hexVal_of_isDigit (hds c hc)]
  have hdot : ∀ c ∈ ('.' :: rest).head?, hexVal c = none := by
    intro c hc
    cases hc
    rfl
  obtain ⟨c, cs, rfl⟩ := List.exists_cons_of_ne_nil hne
  have hc : c ≠ ':' := fun h => absurd (hds c (by simp)) (by rw [h]; decide)
  have hx : xtoi (c :: (cs ++ '.' :: rest)) = xtoi.loop 0 (c :: (cs ++ '.' :: rest)) := by
    simp [xtoi, hhex c (by simp)]
  have hgroups : parseIPv6.groups IPv6len [] none (c :: (cs ++ '.' :: rest)) = none := by
    unfold parseIPv6.groups
    rcases xtoi.loop_stops hdot (c :: cs) 0 hhex with h | ⟨m, h⟩
    · rw [List.cons_append] at h
      simp [IPv6len, hx, h]
    · rw [List.cons_append] at h
      simp [IPv6len, hx, h, IPv4len]
  have hmatch : parseIPv6 (c :: (cs ++ '.' :: rest)) =
      parseIPv6.finish (parseIPv6.groups IPv6len [] none (c :: (cs ++ '.' :: rest))) := by
    unfold parseIPv6
    split
    · next h => simp at h; exact absurd h.1 hc
    · next h => exact absurd (List.cons.inj h).1 hc
    · rfl
  rw [List.cons_append, hmatch, hgroups]
  rfl

/-- A text without `/` that is no IPv6 address when it is no IPv4 one, then `/` and a
prefix length of at most 32: the IPv4 reading of the text with the network of its
first `p` bits, or nothing. -/
theorem ParseCIDR_slash {addr : String} (hslash : '/' ∉ addr.toList) {p : Nat} (hp : p ≤ 32)
    (h6 : parseIPv4 addr.toList = [] → parseIPv6 addr.toList = []) :
    ParseCIDR (addr ++ "/" ++ itod p) =
      if parseIPv4 addr.toList = [] then none
      else some (parseIPv4 addr.toList,
        ⟨IP.Mask (parseIPv4 addr.toList) (CIDRMask p 32), CIDRMask p 32⟩) := by
  have hspan : (addr ++ "/" ++ itod p).toList.span (· ≠ '/') =
      (addr.toList, '/' :: Nat.toDigits 10 p) := by
    rw [String.toList_append, String.toList_append, toList_itod, List.append_assoc]
    exact Regexp.span_append_sep hslash
  have hdtoi : dtoi (Nat.toDigits 10 p) = some (p, []) := by
    have h := dtoi_toDigits (r := []) (Nat.lt_of_le_of_lt hp (by decide)) (by simp)
    rwa [List.append_nil] at h
  have hle : ¬ p > 8 * IPv4len := by simp [IPv4len]; omega
  unfold ParseCIDR
  simp only [hspan, hdtoi]
  by_cases h4 : parseIPv4 addr.toList = []
  · simp [h4, h6 h4]
  · simp only [ne_eq, h4, not_false_eq_true, if_true, hle, or_false, if_false]
    rfl

theorem ParseCIDR_String_slash {ip : IP} (h4 : ip.To4 ≠ []) {p : Nat} (hp : p ≤ 32) :
    ParseCIDR (ip.String ++ "/" ++ itod p) =
      some (v4InV6Prefix ++ ip.To4,
        ⟨IP.Mask (v4InV6Prefix ++ ip.To4) (CIDRMask p 32), CIDRMask p 32⟩) := by
  have hne : v4InV6Prefix ++ ip.To4 ≠ [] := by simp [v4InV6Prefix]
  rw [ParseCIDR_slash (slash_not_mem_String h4) hp (fun h => absurd (parseIPv4_String h4 ▸ h) hne),
    parseIPv4_String h4, if_neg hne]

/-- The text of an IPv4 address `a.b.c.d` with a `0` after it, then `/p`, reads as the
address `a.b.c.(10 d)` with the network of its first `p` bits, and as nothing when
`10 d` is past `0xFF`. -/
theorem ParseCIDR_String_zero_slash {ip : IP} {a b c d : UInt8} (h : ip.To4 = [a, b, c, d])
    {p : Nat} (hp : p ≤ 32) :
    ParseCIDR (ip.String ++ "0" ++ "/" ++ itod p) =
      if 10 * d.toNat > 0xFF then none
      else some (IPv4 a b c (10 * d.toNat).toUInt8,
        ⟨IP.Mask (IPv4 a b c (10 * d.toNat).toUInt8) (CIDRMask p 32), CIDRMask p 32⟩) := by
  have htext : (ip.String ++ "0").toList = Nat.toDigits 10 a.toNat ++ '.' ::
      (Nat.toDigits 10 b.toNat ++ '.' :: (Nat.toDigits 10 c.toNat ++ '.' ::
        (Nat.toDigits 10 d.toNat ++ ['0']))) := by
    simp [toList_String_of_To4 h]
  have hd : dtoi (Nat.toDigits 10 d.toNat ++ ['0']) = some (10 * d.toNat, []) :=
    dtoi_toDigits_append_zero (by have := d.toNat_lt; simp [big]; omega)
  have hv4 := parseIPv4_dotted a b c hd
  rw [← htext] at hv4
  have hslash : '/' ∉ (ip.String ++ "0").toList := by
    rw [String.toList_append]
    simpa using slash_not_mem_String (by rw [h]; simp)
  have h6 : parseIPv6 (ip.String ++ "0").toList = [] := by
    rw [htext]
    exact parseIPv6_digits_dot (isDigit_toDigits _) Nat.toDigits_ne_nil
  rw [ParseCIDR_slash hslash hp (fun _ => h6), hv4]
  by_cases hbig : 10 * d.toNat > 0xFF
  · simp [hbig]
  · simp [hbig, IPv4]

namespace V4Prefix

variable {s : IPNet} {p : Nat}

theorem String_eq (hs : V4Prefix s p) : s.String = s.IP.String ++ "/" ++ itod p := by
  simp [IPNet.String, hs.toV4Net.networkNumberAndMask_eq, hs.To4, hs.mask_eq,
    simpleMaskLength_CIDRMask hs.le]

theorem ParseCIDR_of_Contains (hs : V4Prefix s p) {ip : IP} (h : s.Contains ip = true) :
    ParseCIDR (ip.String ++ "/" ++ itod p) = some (v4InV6Prefix ++ ip.To4, s) := by
  have h4 := hs.To4_ne_nil_of_Contains h
  have h16 : IP.To4 (v4InV6Prefix ++ ip.To4) = ip.To4 := To4_v4InV6Prefix (To4_length h4)
  have hin : s.Contains (v4InV6Prefix ++ ip.To4) = true := by
    rw [hs.Contains_eq (by rw [h16]; exact h4), h16, ← hs.Contains_eq h4]
    exact h
  rw [ParseCIDR_String_slash h4 hs.le, hs.Mask_of_Contains hin, ← hs.mask_eq]

theorem ParseCIDR_String (hs : V4Prefix s p) :
    ParseCIDR s.String = some (v4InV6Prefix ++ s.IP, s) := by
  rw [hs.String_eq, hs.ParseCIDR_of_Contains hs.Contains_self, hs.To4]

end V4Prefix

end RoundTrip

end Net
