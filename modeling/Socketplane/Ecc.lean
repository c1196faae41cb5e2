import Socketplane.Lib.Kv.Hoare

/-! # The `ecc` client of the Consul key-value store

`ecc.Get`, `ecc.Put` and `ecc.Delete` as programs over the versioned store of
`Kv`: a key is a store name and a key inside it, and a cell's index is Consul's
`ModifyIndex`. A `Get` that fails on the way reports the key absent with index 0,
as `ecc.Get` does on a transport error or an error status. `Put` is the
compare-then-swap of `ecc.Put`: it reads the key, answers `OUTDATED` at once when
the key is present with a value other than `oldValue`, and otherwise sends a `PUT`
with `?cas=` the index it read; a refused `PUT` is `OUTDATED`, a failed exchange
`ERROR`. The offline cache of `ecc` is not modelled.
-/

namespace Ecc

/-- A Consul key: `store/key`. -/
structure Key where
  store : String
  key : String
deriving DecidableEq, Repr

/-- The answers of `ecc.Put` and `ecc.Delete`. -/
inductive Eccerror where
  | OK
  | OUTDATED
  | ERROR
deriving DecidableEq, Repr

open Kv

variable {V Q : Type} {A : Q → Type}

/-- The value, `ModifyIndex` and presence of a key; `none` stands for the nil slice. -/
def Get (store key : String) : Prog Key V Q A (Option V × Nat × Bool) :=
  .get ⟨store, key⟩ fun
    | some c => .done (some c.value, c.index, true)
    | none => .done (none, 0, false)

/-- Write `value` unless the key already holds something other than `oldValue`. -/
def Put [DecidableEq V] (store key : String) (value oldValue : V) : Prog Key V Q A Eccerror :=
  .get ⟨store, key⟩ fun
    | some c =>
        if oldValue ≠ c.value then .done .OUTDATED
        else .put ⟨store, key⟩ c.index value reply
    | none => .put ⟨store, key⟩ 0 value reply
where
  /-- The body `false` is a refused swap; a failed exchange is an error. -/
  reply : Option Bool → Prog Key V Q A Eccerror
    | some true => .done .OK
    | some false => .done .OUTDATED
    | none => .done .ERROR

/-- Delete a key; only a failed exchange is an error. -/
def Delete (store key : String) : Prog Key V Q A Eccerror :=
  .del ⟨store, key⟩ fun
    | true => .done .OK
    | false => .done .ERROR

section Specs

open Prog

variable {σ : Type} {env : Env σ Q A}

theorem triple_Put [DecidableEq V] (store key : String) (value oldValue : V) :
    Triple env (fun _ => True) (Put store key value oldValue : Prog Key V Q A Eccerror)
      fun o s => o = .returned .OUTDATED ∨ (o = .returned .OK ∧ s.value ⟨store, key⟩ = some value) := by
  have hput : ∀ i, Triple env (fun _ => True)
      (.put ⟨store, key⟩ i value Put.reply : Prog Key V Q A Eccerror) fun o s =>
        o = .returned .OUTDATED ∨ (o = .returned .OK ∧ s.value ⟨store, key⟩ = some value) := by
    intro i
    apply Triple.put
    · refine Triple.done fun s₁ h => .inr ⟨rfl, ?_⟩
      obtain ⟨s, -, hcas⟩ := h
      rw [(Store.cas_eq_some_iff.mp hcas).2, Store.value_write_self]
    · exact Triple.done fun _ _ => .inl rfl
  unfold Put
  apply Triple.get
  rintro (_ | c)
  · exact (hput 0).mono (fun _ _ => trivial) fun _ _ h => h
  · dsimp only
    split
    · exact Triple.done fun _ _ => .inl rfl
    · exact (hput c.index).mono (fun _ _ => trivial) fun _ _ h => h

theorem triple_Delete (store key : String) :
    Triple env (fun _ => True) (Delete store key : Prog Key V Q A Eccerror)
      fun o s => o = .returned .OK ∧ s.value ⟨store, key⟩ = none := by
  apply Triple.del
  refine Triple.done fun s₁ h => ⟨rfl, ?_⟩
  obtain ⟨s, -, rfl⟩ := h
  exact Store.value_erase_self _ _

end Specs

end Ecc
