import Socketplane.Daemon.Bits
import Socketplane.Daemon.Records

/-! # VLAN allocation (`network.go`)

One bitmap of `vlanCount` bits under `vlan/vlan`: VLAN `v` is bit `v - 1`.
Unlike `IPAMRequest`, `allocateVlan` always compares against a 512-byte copy of
what it read, and gives up with an error instead of writing when
`testAndSetBit` finds no clear bit below the last one.
-/

namespace Daemon

open Kv Ecc

def vlanStore : String := "vlan"

def vlanCount : Nat := 4096

/-- Go's `copy(dst, src)`: the first `min (len dst) (len src)` elements of `dst`
replaced by those of `src`. -/
def copyInto (dst src : List UInt8) : List UInt8 := src.take dst.length ++ dst.drop src.length

variable {Q : Type} {A : Q → Type}

/-- One pass of `allocateVlan`; the result is the VLAN and the error, `none` for nil. -/
def allocateVlan.pass : Prog Key Value Q A (Loop (Nat × Option String)) :=
  Ecc.Get vlanStore "vlan" >>= fun (read, _, ok) =>
    let vlanArray := (read.map Value.bytes).getD []
    let currVal := copyInto (List.replicate (vlanCount / 8) 0) vlanArray
    let vlanArray := if !ok then List.replicate (vlanCount / 8) 0 else vlanArray
    match testAndSetBit vlanArray with
    | none => .crash
    | some (vlan, vlanArray) =>
        if vlan ≥ vlanCount then .done (.finish (vlanCount, some "Vlan unavailable"))
        else
          Ecc.Put vlanStore "vlan" (.raw vlanArray) (.raw currVal) >>= fun eccerr =>
            if eccerr = .OUTDATED then .done .again else .done (.finish (vlan, none))

def allocateVlan : Prog Key Value Q A (Nat × Option String) := Prog.retry allocateVlan.pass

/-- One pass of `releaseVlan`: clear bit `vlan - 1`, in unsigned arithmetic. -/
def releaseVlan.pass (vlan : Nat) : Prog Key Value Q A (Loop Unit) :=
  Ecc.Get vlanStore "vlan" >>= fun (read, _, ok) =>
    let vlanArray := (read.map Value.bytes).getD []
    let currVal := copyInto (List.replicate (vlanCount / 8) 0) vlanArray
    let vlanArray := if !ok then List.replicate (vlanCount / 8) 0 else vlanArray
    match clearBit vlanArray (uintPred vlan) with
    | none => .crash
    | some vlanArray =>
        Ecc.Put vlanStore "vlan" (.raw vlanArray) (.raw currVal) >>= fun eccerr =>
          if eccerr = .OUTDATED then .done .again else .done (.finish ())

def releaseVlan (vlan : Nat) : Prog Key Value Q A Unit := Prog.retry (releaseVlan.pass vlan)

theorem copyInto_of_length_eq {dst src : List UInt8} (h : src.length = dst.length) :
    copyInto dst src = src := by
  simp [copyInto, ← h]

@[simp] theorem length_copyInto (dst src : List UInt8) : (copyInto dst src).length = dst.length := by
  simp only [copyInto, List.length_append, List.length_take, List.length_drop]
  omega

end Daemon
