import Socketplane.Lib.Kv.Store

/-! # Client programs of a versioned store

A client program is a tree of exchanges. It reads a key (`get`, answered with the
key's cell or nothing), writes a key conditionally on the index it quotes
(`put`, answered with whether the write took effect, or nothing when the
exchange itself failed), deletes a key (`del`), or calls its environment
(`call`), and continues with the answer. A program ends by returning a value
(`done`) or by a runtime fault (`crash`).

Retry loops are part of the syntax: `loop body cur next` runs `cur`, a position
inside `body`; when `cur` ends in `Loop.again` the loop starts `body` over, and
when it ends in `Loop.finish b` the program continues with `next b`. Keeping the
body makes a loop that retries forever a finite term. A loop whose passes hand a
value to the next (`iterate body cur next`, a pass of `body s` ending in `.inl s'`
starts `body s'`) models a recursive call with new arguments. `Prog.head` resolves
the loop bookkeeping and exposes the exchange a program makes next; every semantics
below steps a program through its head.
-/

namespace Kv

/-- How one pass of a retry loop ends: start over, or leave the loop with a value. -/
inductive Loop (β : Type) where
  | again
  | finish (b : β)
deriving DecidableEq, Repr

/-- Rename the value a pass leaves its loop with. -/
def Loop.map {β γ : Type} (f : β → γ) : Loop β → Loop γ
  | .again => .again
  | .finish b => .finish (f b)

/-- Client programs over keys `K` and values `V`, with environment requests `Q`
answered in `A q`. -/
inductive Prog (K V Q : Type) (A : Q → Type) : Type → Type 1 where
  | done {α : Type} (a : α) : Prog K V Q A α
  | crash {α : Type} : Prog K V Q A α
  | get {α : Type} (k : K) (next : Option (Cell V) → Prog K V Q A α) : Prog K V Q A α
  | put {α : Type} (k : K) (i : Nat) (v : V) (next : Option Bool → Prog K V Q A α) :
      Prog K V Q A α
  | del {α : Type} (k : K) (next : Bool → Prog K V Q A α) : Prog K V Q A α
  | call {α : Type} (q : Q) (next : A q → Prog K V Q A α) : Prog K V Q A α
  | loop {α β : Type} (body cur : Prog K V Q A (Loop β)) (next : β → Prog K V Q A α) :
      Prog K V Q A α
  | iterate {α β σ : Type} (body : σ → Prog K V Q A (σ ⊕ β)) (cur : Prog K V Q A (σ ⊕ β))
      (next : β → Prog K V Q A α) : Prog K V Q A α

/-- The next move of a program: an exchange with its continuation, an end, or a
silent `tau` step of loop bookkeeping. -/
inductive Head (K V Q : Type) (A : Q → Type) (α : Type) : Type 1 where
  | done (a : α)
  | crash
  | get (k : K) (next : Option (Cell V) → Prog K V Q A α)
  | put (k : K) (i : Nat) (v : V) (next : Option Bool → Prog K V Q A α)
  | del (k : K) (next : Bool → Prog K V Q A α)
  | call (q : Q) (next : A q → Prog K V Q A α)
  | tau (p : Prog K V Q A α)

namespace Prog

variable {K V Q : Type} {A : Q → Type} {α β γ : Type}

/-- Sequential composition. -/
def bind : Prog K V Q A α → (α → Prog K V Q A β) → Prog K V Q A β
  | .done a, f => f a
  | .crash, _ => .crash
  | .get k next, f => .get k fun r => (next r).bind f
  | .put k i v next, f => .put k i v fun r => (next r).bind f
  | .del k next, f => .del k fun r => (next r).bind f
  | .call q next, f => .call q fun r => (next r).bind f
  | .loop body cur next, f => .loop body cur fun b => (next b).bind f
  | .iterate body cur next, f => .iterate body cur fun b => (next b).bind f

instance : Monad (Prog K V Q A) where
  pure := .done
  bind := bind

/-- Run `body` until a pass ends in `Loop.finish`. -/
def retry (body : Prog K V Q A (Loop β)) : Prog K V Q A β :=
  .loop body body .done

/-- Run `body s`, and `body s'` again while a pass ends in `.inl s'`. -/
def iter {σ : Type} (body : σ → Prog K V Q A (σ ⊕ β)) (s : σ) : Prog K V Q A β :=
  .iterate body (body s) .done

/-- The program with its requests renamed into a larger request type `Q'`, each
answer read back through `g`. -/
def liftCalls {Q' : Type} {A' : Q' → Type} (f : Q → Q') (g : ∀ q, A' (f q) → A q) :
    {δ : Type} → Prog K V Q A δ → Prog K V Q' A' δ
  | _, .done a => .done a
  | _, .crash => .crash
  | _, .get k next => .get k fun r => liftCalls f g (next r)
  | _, .put k i v next => .put k i v fun r => liftCalls f g (next r)
  | _, .del k next => .del k fun r => liftCalls f g (next r)
  | _, .call q next => .call (f q) fun r => liftCalls f g (next (g q r))
  | _, .loop body cur next =>
      .loop (liftCalls f g body) (liftCalls f g cur) fun b => liftCalls f g (next b)
  | _, .iterate body cur next =>
      .iterate (fun s => liftCalls f g (body s)) (liftCalls f g cur) fun b => liftCalls f g (next b)

/-- Resolve loop bookkeeping: the exchange a program makes next, or a silent step. -/
def head : {δ : Type} → Prog K V Q A δ → Head K V Q A δ
  | _, .done a => .done a
  | _, .crash => .crash
  | _, .get k next => .get k next
  | _, .put k i v next => .put k i v next
  | _, .del k next => .del k next
  | _, .call q next => .call q next
  | _, .loop body cur next =>
      match cur.head with
      | .done .again => .tau (.loop body body next)
      | .done (.finish b) => .tau (next b)
      | .crash => .crash
      | .get k f => .get k fun r => .loop body (f r) next
      | .put k i v f => .put k i v fun r => .loop body (f r) next
      | .del k f => .del k fun r => .loop body (f r) next
      | .call q f => .call q fun r => .loop body (f r) next
      | .tau c => .tau (.loop body c next)
  | _, .iterate body cur next =>
      match cur.head with
      | .done (.inl s) => .tau (.iterate body (body s) next)
      | .done (.inr b) => .tau (next b)
      | .crash => .crash
      | .get k f => .get k fun r => .iterate body (f r) next
      | .put k i v f => .put k i v fun r => .iterate body (f r) next
      | .del k f => .del k fun r => .iterate body (f r) next
      | .call q f => .call q fun r => .iterate body (f r) next
      | .tau c => .tau (.iterate body c next)

@[simp] theorem pure_eq (a : α) : (pure a : Prog K V Q A α) = .done a := rfl

@[simp] theorem bind_eq (p : Prog K V Q A α) (f : α → Prog K V Q A β) : p >>= f = p.bind f :=
  rfl

@[simp] theorem done_bind (a : α) (f : α → Prog K V Q A β) : (done a).bind f = f a := rfl

@[simp] theorem crash_bind (f : α → Prog K V Q A β) : (crash : Prog K V Q A α).bind f = crash :=
  rfl

@[simp] theorem get_bind (k : K) (next : Option (Cell V) → Prog K V Q A α)
    (f : α → Prog K V Q A β) : (get k next).bind f = get k fun r => (next r).bind f := rfl

@[simp] theorem put_bind (k : K) (i : Nat) (v : V) (next : Option Bool → Prog K V Q A α)
    (f : α → Prog K V Q A β) : (put k i v next).bind f = put k i v fun r => (next r).bind f :=
  rfl

@[simp] theorem del_bind (k : K) (next : Bool → Prog K V Q A α) (f : α → Prog K V Q A β) :
    (del k next).bind f = del k fun r => (next r).bind f := rfl

@[simp] theorem call_bind (q : Q) (next : A q → Prog K V Q A α) (f : α → Prog K V Q A β) :
    (call q next).bind f = call q fun r => (next r).bind f := rfl

@[simp] theorem loop_bind {δ : Type} (body cur : Prog K V Q A (Loop δ))
    (next : δ → Prog K V Q A α) (f : α → Prog K V Q A β) :
    (loop body cur next).bind f = loop body cur fun b => (next b).bind f := rfl

@[simp] theorem iterate_bind {δ σ : Type} (body : σ → Prog K V Q A (σ ⊕ δ))
    (cur : Prog K V Q A (σ ⊕ δ)) (next : δ → Prog K V Q A α) (f : α → Prog K V Q A β) :
    (iterate body cur next).bind f = iterate body cur fun b => (next b).bind f := rfl

theorem bind_done (p : Prog K V Q A α) : p.bind done = p := by
  induction p with
  | done a => rfl
  | crash => rfl
  | get k next ih => simp [ih]
  | put k i v next ih => simp [ih]
  | del k next ih => simp [ih]
  | call q next ih => simp [ih]
  | loop body cur next _ _ ih => simp [ih]
  | iterate body cur next _ _ ih => simp [ih]

theorem bind_assoc (p : Prog K V Q A α) (f : α → Prog K V Q A β) (g : β → Prog K V Q A γ) :
    (p.bind f).bind g = p.bind fun a => (f a).bind g := by
  induction p with
  | done a => rfl
  | crash => rfl
  | get k next ih => simp [ih]
  | put k i v next ih => simp [ih]
  | del k next ih => simp [ih]
  | call q next ih => simp [ih]
  | loop body cur next _ _ ih => simp [ih]
  | iterate body cur next _ _ ih => simp [ih]

end Prog

section LiftCalls

variable {K V Q Q' : Type} {A : Q → Type} {A' : Q' → Type} {δ : Type}
  {f : Q → Q'} {g : ∀ q, A' (f q) → A q}

/-- A move with its requests renamed as in `liftCalls`. -/
def Head.liftCalls (f : Q → Q') (g : ∀ q, A' (f q) → A q) : Head K V Q A δ → Head K V Q' A' δ
  | .done a => .done a
  | .crash => .crash
  | .get k next => .get k fun r => (next r).liftCalls f g
  | .put k i v next => .put k i v fun r => (next r).liftCalls f g
  | .del k next => .del k fun r => (next r).liftCalls f g
  | .call q next => .call (f q) fun r => (next (g q r)).liftCalls f g
  | .tau p => .tau (p.liftCalls f g)

theorem Prog.head_liftCalls (p : Prog K V Q A δ) :
    (p.liftCalls f g).head = p.head.liftCalls f g := by
  induction p with
  | loop body cur next _ ihcur _ =>
      simp only [Prog.liftCalls, Prog.head, ihcur]
      cases cur.head with
      | done b => cases b <;> rfl
      | _ => rfl
  | iterate body cur next _ ihcur _ =>
      simp only [Prog.liftCalls, Prog.head, ihcur]
      cases cur.head with
      | done b => cases b <;> rfl
      | _ => rfl
  | _ => rfl

end LiftCalls

end Kv
