import Mathlib.Logic.Relation

/-! # Starting the daemon (`daemon.go`)

`Daemon.Run` starts three goroutines that share `d.clusterListener`,
`d.bootstrapNode` and the unbuffered channel `d.serialChan`, beside the API server
and the connection handler. The startup goroutine picks the interface to bind (the
`--iface` value, or what `identifyInterfaceToBind` finds, which is the listener when
one was set in the meantime), sets the listener, starts the datastore and, on a node
that is not the bootstrap node, sends on `serialChan`. The bridge goroutine takes one
value from `serialChan` before it creates the bridge. `ClusterRPCHandler` serves the
contexts of `/cluster/bind` and `/cluster/join`; `clusterBindRPC` also sends on
`serialChan` when it is the first to set the listener.

Each statement on the shared fields is one step; a send on `serialChan` is one step
of the sender and the receiver together. The host's answers (the interface found, the
route of a join address, whether a datastore call succeeded) are chosen by the step.
-/

namespace Daemon

/-- Where the startup goroutine of `Daemon.Run` is. -/
inductive Startup where
  | start
  | identify
  | bind (bindInterface : String)
  | init (bindInterface : String)
  | announce
  | send
  | done
deriving DecidableEq, Repr

/-- Where the goroutine that creates the bridge is. -/
inductive Setup where
  | start
  | recv
  | done
deriving DecidableEq, Repr

/-- Where `ClusterRPCHandler` is: waiting for a context, or inside `clusterBindRPC` or
`clusterJoinRPC`. -/
inductive Handler where
  | idle
  | bind (bindInterface : String)
  | bindCheck (bindInterface : String)
  | bindSet (bindInterface : String) (once : Bool)
  | bindInit (once : Bool)
  | send
  | join (joinAddress bindInterface : String)
  | joinSet (joinAddress bindInterface : String)
  | joinInit (joinAddress : String)
  | joined (joinAddress : String)
deriving DecidableEq, Repr

structure RunState where
  clusterListener : String
  bootstrapNode : Bool
  /-- A datastore started by `InitDatastore` and not left since. -/
  running : Bool
  startup : Startup
  setup : Setup
  handler : Handler

/-- The state in which `Daemon.Run` starts the goroutines. -/
def RunState.initial (bootstrap : Bool) : RunState := ⟨"", bootstrap, false, .start, .start, .idle⟩

/-- What a step does that the datastore and the channel see. -/
inductive RunEvent where
  | InitDatastore
  | LeaveDatastore
  | serial
  | other
deriving DecidableEq, Repr

/-- One step of the goroutines of `Daemon.Run` started with `--iface` value `iface`.
`ok` is whether a datastore call succeeded. -/
inductive RunStep (iface : String) : RunState → RunEvent → RunState → Prop
  | startFixed {s : RunState} (h : s.startup = .start) (hi : iface ≠ "auto") :
      RunStep iface s .other { s with startup := .bind iface }
  | startAuto {s : RunState} (h : s.startup = .start) (hi : iface = "auto") :
      RunStep iface s .other { s with startup := .identify }
  | identifyFound {s : RunState} {name : String} (h : s.startup = .identify)
      (hname : s.clusterListener ≠ "" → name = s.clusterListener) :
      RunStep iface s .other { s with startup := .bind name }
  | identifyRetry {s : RunState} (h : s.startup = .identify) : RunStep iface s .other s
  | setListener {s : RunState} {b : String} (h : s.startup = .bind b) :
      RunStep iface s .other
        { s with clusterListener := if b ≠ "" then b else s.clusterListener, startup := .init b }
  | startupInit {s : RunState} {b : String} (ok : Bool) (h : s.startup = .init b) :
      RunStep iface s .InitDatastore { s with running := s.running || ok, startup := .announce }
  | announce {s : RunState} (h : s.startup = .announce) :
      RunStep iface s .other { s with startup := if s.bootstrapNode then .done else .send }
  | serialStartup {s : RunState} (h : s.startup = .send) (hr : s.setup = .recv) :
      RunStep iface s .serial { s with startup := .done, setup := .done }
  | setupStart {s : RunState} (h : s.setup = .start) :
      RunStep iface s .other { s with setup := if s.bootstrapNode then .done else .recv }
  | receiveBind {s : RunState} (param : String) (h : s.handler = .idle) :
      RunStep iface s .other { s with handler := .bind param }
  | receiveJoin {s : RunState} (param : String) (route : Option String) (h : s.handler = .idle) :
      RunStep iface s .other
        { s with handler := match route with | some i => .join param i | none => .idle }
  | receiveLeave {s : RunState} (ok : Bool) (h : s.handler = .idle) :
      RunStep iface s .LeaveDatastore { s with running := s.running && !ok }
  | bindSame {s : RunState} {b : String} (h : s.handler = .bind b) (heq : b = s.clusterListener) :
      RunStep iface s .other { s with handler := .idle }
  | bindNew {s : RunState} {b : String} (h : s.handler = .bind b) (hne : b ≠ s.clusterListener) :
      RunStep iface s .other { s with handler := .bindCheck b }
  | bindFirst {s : RunState} {b : String} (h : s.handler = .bindCheck b)
      (hl : s.clusterListener = "") :
      RunStep iface s .other { s with handler := .bindSet b true }
  | bindLeave {s : RunState} {b : String} (ok : Bool) (h : s.handler = .bindCheck b)
      (hl : s.clusterListener ≠ "") :
      RunStep iface s .LeaveDatastore { s with running := s.running && !ok, handler := .bindSet b false }
  | bindSet {s : RunState} {b : String} {once : Bool} (h : s.handler = .bindSet b once) :
      RunStep iface s .other { s with clusterListener := b, handler := .bindInit once }
  | bindInit {s : RunState} {once : Bool} (ok : Bool) (h : s.handler = .bindInit once) :
      RunStep iface s .InitDatastore
        { s with running := s.running || ok,
                 handler := if !s.bootstrapNode && once then .send else .idle }
  | serialHandler {s : RunState} (h : s.handler = .send) (hr : s.setup = .recv) :
      RunStep iface s .serial { s with handler := .idle, setup := .done }
  | joinSame {s : RunState} {a i : String} (h : s.handler = .join a i) (heq : s.clusterListener = i) :
      RunStep iface s .other { s with handler := .joined a }
  | joinLeave {s : RunState} {a i : String} (ok : Bool) (h : s.handler = .join a i)
      (hne : s.clusterListener ≠ i) :
      RunStep iface s .LeaveDatastore { s with running := s.running && !ok, handler := .joinSet a i }
  | joinSet {s : RunState} {a i : String} (h : s.handler = .joinSet a i) :
      RunStep iface s .other
        { s with bootstrapNode := false, clusterListener := i, handler := .joinInit a }
  | joinInit {s : RunState} {a : String} (ok : Bool) (h : s.handler = .joinInit a) :
      RunStep iface s .InitDatastore { s with running := s.running || ok, handler := .joined a }
  | joinDatastore {s : RunState} {a : String} (h : s.handler = .joined a) :
      RunStep iface s .other { s with handler := .idle }

def RunStep.Any (iface : String) (s s' : RunState) : Prop := ∃ ev, RunStep iface s ev s'

abbrev RunReachable (iface : String) := Relation.ReflTransGen (RunStep.Any iface)

section Blocked

variable {iface : String} {s s' : RunState} {ev : RunEvent}

theorem RunStep.keeps_blocked_send (hstep : RunStep iface s ev s') (hsend : s.startup = .send)
    (hdone : s.setup = .done) : s'.startup = .send ∧ s'.setup = .done := by
  cases hstep <;> simp_all

theorem blocked_send_forever (hsend : s.startup = .send) (hdone : s.setup = .done)
    (hreach : RunReachable iface s s') : s'.startup = .send ∧ s'.setup = .done := by
  induction hreach with
  | refl => exact ⟨hsend, hdone⟩
  | tail _ hstep ih =>
      obtain ⟨ev, hstep⟩ := hstep
      exact hstep.keeps_blocked_send ih.1 ih.2

end Blocked

/-- On a node that is not the bootstrap node, started with `--iface auto`, a bind
request for `eth1` served before the startup goroutine finds an interface sets the
listener, starts the datastore and hands the bridge goroutine its value. The startup
goroutine then adopts that listener and calls `InitDatastore` while the datastore
runs, and waits to send a second value on `serialChan`, which nothing ever receives. -/
theorem early_bind_inits_twice_and_blocks :
    ∃ s s' s'', RunReachable "auto" (RunState.initial false) s ∧ s.running = true ∧
      RunStep "auto" s .InitDatastore s' ∧ RunReachable "auto" s' s'' ∧
      s''.startup = .send ∧ s''.setup = .done ∧
      ∀ t, RunReachable "auto" s'' t → t.startup = .send := by
  have hreach : RunReachable "auto" (RunState.initial false) _ :=
    .head ⟨_, .setupStart rfl⟩ <| .head ⟨_, .startAuto rfl rfl⟩ <|
    .head ⟨_, .receiveBind "eth1" rfl⟩ <| .head ⟨_, .bindNew rfl (by decide)⟩ <|
    .head ⟨_, .bindFirst rfl rfl⟩ <| .head ⟨_, .bindSet rfl⟩ <|
    .head ⟨_, .bindInit true rfl⟩ <| .head ⟨_, .serialHandler rfl rfl⟩ <|
    .head ⟨_, .identifyFound rfl (fun _ => rfl)⟩ <| .single ⟨_, .setListener rfl⟩
  exact ⟨_, _, _, hreach, rfl, .startupInit true rfl, .single ⟨_, .announce rfl⟩, rfl, rfl,
    fun t ht => (blocked_send_forever rfl rfl ht).1⟩

end Daemon
