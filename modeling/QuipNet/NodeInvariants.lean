import QuipNet.ListenerView
import QuipNet.NodeRuns
import QuipNet.RevocationLaws

/-!
# What holds along the daemon's runs

A run is any sequence of requests and cycles, each of them whole. A relation on worlds that
operations keep is kept along it; so the registries of the adapter keep their shape.
-/

open Std
namespace QuipNet.Quic
open QuipNet.Library QuipNet.Library.Effect QuipNet.Transport
open QuicTransportAdapter

variable {ρ : Type}

def QuicTransportAdapter.withReadings (readings : ℕ) (adapter : QuicTransportAdapter ρ) :
    QuicTransportAdapter ρ := { adapter with host := { adapter.host with readings } }

/-- The shape of the registries. -/
structure WellKept (adapter : QuicTransportAdapter ρ) : Prop where
  keyed : Keyed adapter
  listeners : ListenersKeyed adapter
  ledger_length : adapter.terminalSessions.length ≤ 32
  ledger_nodup : (adapter.terminalSessions.map closedId).Nodup
  ledger_closed : ∀ record ∈ adapter.terminalSessions, record.snapshot.state = .closed
  events_length : adapter.runtimeEvents.length ≤ 256

theorem wellKept_unused (adapter : QuicTransportAdapter ρ) : WellKept adapter.unused where
  keyed := ⟨List.nodup_nil, List.nodup_nil⟩
  listeners id listener hfound := by
    change (∅ : TreeMap String RuntimeListenerSnapshot)[id]? = some listener at hfound
    simp at hfound
  ledger_length := Nat.zero_le _
  ledger_nodup := List.nodup_nil
  ledger_closed record hrecord := by cases hrecord
  events_length := Nat.zero_le _

section Steps
variable [Primitives] {adapter after : QuicTransportAdapter ρ}

theorem AdapterCall.run_ledger {P : List RuntimeSessionRecord → Prop} (call : AdapterCall)
    (hpush : ∀ ledger record, record.snapshot.state = .closed → P ledger →
      P (pushKeyed maxTerminalSessions closedId ledger record))
    (h : P adapter.terminalSessions) : P (call.run adapter).terminalSessions := by
  obtain ⟨-, hledger, hclosed⟩ := call.run_buffers adapter
  rw [hledger]
  exact foldl_keeps (fun ledger record hrecord => hpush ledger record (hclosed record hrecord)) h

theorem WellKept.run (h : WellKept adapter) (call : AdapterCall) : WellKept (call.run adapter) where
  keyed := call.run_keyed h.keyed
  listeners := Fabric.run_listenersKeyed call h.listeners
  ledger_length := call.run_ledger (P := fun ledger => ledger.length ≤ 32)
    (fun ledger record _ _ => length_pushKeyed_le _ _ ledger record) h.ledger_length
  ledger_nodup := call.run_ledger (P := fun ledger => (ledger.map closedId).Nodup)
    (fun ledger record _ hledger => nodup_pushKeyed hledger record) h.ledger_nodup
  ledger_closed := by
    refine call.run_ledger (P := fun ledger => ∀ record ∈ ledger, record.snapshot.state = .closed)
      ?_ h.ledger_closed
    intro ledger record hclosed hledger other hother
    rcases mem_pushKeyed hother with hold | rfl
    · exact hledger other hold
    · exact hclosed
  events_length := by
    rw [(call.run_buffers adapter).1]
    exact foldl_keeps (P := fun events => events.length ≤ 256)
      (fun events event _ _ => length_push_le _ events event) h.events_length

omit [Primitives] in
theorem WellKept.ticked (h : WellKept adapter) : WellKept adapter.ticked :=
  ⟨⟨h.keyed.suppressions, h.keyed.attempts⟩, h.listeners, h.ledger_length, h.ledger_nodup,
    h.ledger_closed, h.events_length⟩

theorem AdapterCall.run_ledger_ne_nil (h : adapter.terminalSessions ≠ []) (call : AdapterCall) :
    (call.run adapter).terminalSessions ≠ [] :=
  call.run_ledger (P := fun ledger => ledger ≠ [])
    (fun ledger record _ _ => pushKeyed_ne_nil (by decide) _ ledger record) h

end Steps

end QuipNet.Quic

namespace QuipNet.Daemon
open QuipNet.Control QuipNet.DaemonApi QuipNet.Fabric QuipNet.Library QuipNet.Library.Effect
open QuipNet.Quic QuipNet.SessionIds QuipNet.Transport

variable {ρ : Type}

section Relations
variable [Primitives]

theorem Reaches.wellKept {adapter after : QuicTransportAdapter ρ} (hreaches : Reaches adapter after)
    (h : WellKept adapter) : WellKept after := by
  induction hreaches with
  | refl => exact h
  | ticked _ ih => exact ih.ticked
  | called _ call ih => exact ih.run call

theorem Reaches.ledger_ne_nil {adapter after : QuicTransportAdapter ρ}
    (hreaches : Reaches adapter after) (h : adapter.terminalSessions ≠ []) :
    after.terminalSessions ≠ [] := by
  induction hreaches with
  | refl => exact h
  | ticked _ ih => exact ih
  | called _ call ih => exact call.run_ledger_ne_nil ih

/-! ## Relations that requests and cycles keep -/

def ReachesTransport (before after : World ρ) : Prop := Reaches before.transport after.transport

instance (config : DaemonConfig) : Operated config (fun _ => True) (ReachesTransport (ρ := ρ)) where
  nothing := trivial
  refl world := .refl world.transport
  trans _ _ _ h₁ h₂ := IsTrans.trans (r := Reaches) _ _ _ h₁ h₂
  ticked world := (Reaches.refl world.transport).ticked
  created world _ := .refl world.transport
  saved world _ _ := .refl world.transport
  called world call := (Reaches.refl world.transport).called call

def FileHas (P : List RevocationRecord → Prop) (file : Option StateFile) : Prop :=
  ∀ state, file = some (.durable state) → P state.revocations

omit [Primitives] in
theorem fileHas_saved {P : List RevocationRecord → Prop} {state : DaemonState}
    (h : P state.revocations) : FileHas P (some state.saved) := by
  rintro _ ⟨⟩
  exact h

omit [Primitives] in
theorem property_of_follows {P : List RevocationRecord → Prop} {state : DaemonState}
    {file : Option StateFile} (h : Follows P state file) (hfile : FileHas P file) :
    P state.revocations := by
  cases file with
  | none => exact h
  | some file =>
    cases file with
    | durable held => exact DaemonState.Continues.property h (hfile held rfl)
    | damaged error => exact h.elim

def fileLoads (check : DaemonState → Bool) : Option StateFile → Bool
  | some (.durable held) => check held
  | _ => false

omit [Primitives] in
theorem exists_of_fileLoads {check : DaemonState → Bool} {file : Option StateFile}
    (h : fileLoads check file = true) :
    ∃ held, file = some (.durable held) ∧ check held = true := by
  cases file with
  | none => cases h
  | some file =>
    cases file with
    | durable held => exact ⟨held, rfl, h⟩
    | damaged error => cases h

/-- Nothing has changed but the readings of the clock, and a state file was created if
there was none. -/
structure OnlyRead (config : DaemonConfig) (before after : World ρ) : Prop where
  transport : ∃ readings, after.transport = before.transport.withReadings readings
  stateFile : after.stateFile = before.stateFile ∨
    before.stateFile = none ∧
      after.stateFile = some (LocalControlPlane.createdState config).saved

instance (config : DaemonConfig) : Observed config (OnlyRead (ρ := ρ) config) where
  refl world := ⟨⟨world.transport.host.readings, rfl⟩, .inl rfl⟩
  trans first second third h₁ h₂ := by
    obtain ⟨earlier, hearlier⟩ := h₁.transport
    obtain ⟨readings, htransport⟩ := h₂.transport
    refine ⟨⟨readings, ?_⟩, ?_⟩
    · rw [htransport, hearlier]
      rfl
    · rcases h₁.stateFile with hsame | ⟨hnone, hcreated⟩
      · rw [← hsame]
        exact h₂.stateFile
      · rcases h₂.stateFile with hsame | ⟨hlater, -⟩
        · exact .inr ⟨hnone, hsame.trans hcreated⟩
        · rw [hcreated] at hlater
          cases hlater
  ticked world := ⟨⟨world.transport.host.readings + 1, rfl⟩, .inl rfl⟩
  created world h := ⟨⟨world.transport.host.readings, rfl⟩, .inr ⟨h, rfl⟩⟩

end Relations

/-! ## Steps of the daemon -/

section Steps
variable [Primitives] [PayloadDecoder] (args : ServerArgs) {config : DaemonConfig}
  (localIdentity : IdentityKeypair)

/-- The request is for a reset of the state file and carries the guard. -/
def resets (request : HttpRequest) : Bool :=
  match readEnvelope request with
  | .error _ => false
  | .ok envelope =>
    operations.lookup envelope.operation = some .stateReset &&
      match PayloadDecoder.stateReset envelope.payload with
      | .error _ => false
      | .ok payload => payload.scope = "network_state_only" &&
          payload.confirmation = "preserve-identity-reset-network-state"

/-- The request is for an export whose output path leads to the state file. -/
def exportsOver (surroundings : ServerSurroundings) (request : HttpRequest) : Bool :=
  match readEnvelope request with
  | .error _ => false
  | .ok envelope =>
    operations.lookup envelope.operation = some .stateExport &&
      match PayloadDecoder.stateExport envelope.payload with
      | .error _ => false
      | .ok payload =>
        surroundings.exports.leadsToState (exportRequest args payload) payload.outputPath

def NodeStep.resets : NodeStep → Bool
  | .request _ incoming => Daemon.resets incoming
  | .cycle _ _ => false

def NodeStep.exportsOver : NodeStep → Bool
  | .request surroundings incoming => Daemon.exportsOver args surroundings incoming
  | .cycle _ _ => false

def NodeStep.surroundings : NodeStep → Surroundings
  | .request surroundings _ => surroundings.toSurroundings
  | .cycle surroundings _ => surroundings

variable {P : List RevocationRecord → Prop} {R : World ρ → World ρ → Prop}

omit [PayloadDecoder] in
theorem runCycle_moves [Operated config P R] {surroundings : Surroundings}
    (hfeed : SurroundingsFeed P surroundings) (trigger : CycleTrigger) (world : World ρ) :
    R world (final (runCycle surroundings config localIdentity args.toArgs trigger) world) :=
  runCycle_operated hfeed localIdentity args.toArgs trigger world

theorem routeControlRequest_moves [IsPreorder (World ρ) R]
    (surroundings : ServerSurroundings) (request : HttpRequest)
    (h : ∀ envelope operation, readEnvelope request = .ok envelope →
      operations.lookup envelope.operation = some operation →
        Moves R (operation.run surroundings args config localIdentity envelope.payload))
    (world : World ρ) :
    R world (routeControlRequest surroundings args config localIdentity request world).2 := by
  unfold routeControlRequest
  cases hread : readEnvelope request with
  | error response => exact refl world
  | ok envelope =>
    dsimp only
    unfold dispatch
    cases hoperation : operations.lookup envelope.operation with
    | none => exact refl world
    | some operation => exact h envelope operation hread hoperation world

theorem routeControlRequest_fed [Operated config P R] {surroundings : ServerSurroundings}
    (hfeed : SurroundingsFeed P surroundings.toSurroundings) {request : HttpRequest}
    (hreset : resets request = true → ∀ world : World ρ, R world { world with stateFile := none })
    (hexport : exportsOver args surroundings request = true →
      ∀ (world : World ρ) error, R world { world with stateFile := some (.damaged error) })
    (world : World ρ) :
    R world (routeControlRequest surroundings args config localIdentity request world).2 := by
  refine routeControlRequest_moves args localIdentity surroundings request ?_ world
  intro envelope operation hread hoperation
  by_cases hresets : operation = .stateReset
  · rw [hresets] at hoperation ⊢
    rw [resets, hread] at hreset
    change Moves R (decoded _ (PayloadDecoder.stateReset envelope.payload) >>= _)
    cases hpayload : PayloadDecoder.stateReset envelope.payload with
    | error detail => exact Moves.throw _
    | ok payload =>
      simp only [hoperation, hpayload, decide_true, Bool.true_and, Bool.and_eq_true,
        decide_eq_true_eq] at hreset
      exact (stateReset_moves payload fun hscope hconfirmed => hreset ⟨hscope, hconfirmed⟩).map _
  · by_cases hexports : operation = .stateExport
    · rw [hexports] at hoperation ⊢
      rw [exportsOver, hread] at hexport
      change Moves R (decoded _ (PayloadDecoder.stateExport envelope.payload) >>= _)
      cases hpayload : PayloadDecoder.stateExport envelope.payload with
      | error detail => exact Moves.throw _
      | ok payload =>
        simp only [hoperation, hpayload, decide_true, Bool.true_and] at hexport
        exact (stateExport_moves surroundings args payload hexport).map _
    · exact Operation.run_operated surroundings args localIdentity hfeed hresets hexports
        envelope.payload

structure KeptReplaced (R : World ρ → World ρ → Prop) (step : NodeStep) : Prop where
  reset : step.resets = true → ∀ world : World ρ, R world { world with stateFile := none }
  exported : step.exportsOver args = true →
    ∀ (world : World ρ) error, R world { world with stateFile := some (.damaged error) }

theorem Node.step_fed [Operated config P R] {step : NodeStep}
    (hfeed : SurroundingsFeed P step.surroundings) (h : KeptReplaced args R step)
    (node : Node ρ) : R node.world (node.step args config localIdentity step).2.world := by
  cases step with
  | cycle surroundings trigger =>
    have hcycle : R node.world
        (final (runCycle surroundings config localIdentity args.toArgs trigger) node.world) :=
      runCycle_moves args localIdentity hfeed trigger node.world
    unfold Node.step
    dsimp only
    split_ifs
    · cases hrun : runCycle surroundings config localIdentity args.toArgs trigger node.world with
      | ok report after => rwa [final_of_ok hrun] at hcycle
      | error error after => rwa [final_of_error hrun] at hcycle
    · exact refl node.world
  | request surroundings request =>
    unfold Node.step
    dsimp only
    split_ifs
    · exact routeControlRequest_fed args localIdentity hfeed h.reset h.exported _
    · exact refl node.world

theorem Node.run_fed [Operated config P R] {steps : List NodeStep}
    (hfeed : ∀ step ∈ steps, SurroundingsFeed P step.surroundings)
    (h : ∀ step ∈ steps, KeptReplaced args R step)
    (node : Node ρ) : R node.world (node.run args config localIdentity steps).world := by
  induction steps generalizing node with
  | nil => exact refl node.world
  | cons step rest ih =>
    have hfirst : R node.world (node.step args config localIdentity step).2.world :=
      Node.step_fed args localIdentity (hfeed step List.mem_cons_self) (h step List.mem_cons_self)
        node
    refine IsTrans.trans _ _ _ hfirst ?_
    exact ih (fun step hstep => hfeed step (List.mem_cons_of_mem _ hstep))
      (fun step hstep => h step (List.mem_cons_of_mem _ hstep)) _

theorem Node.run_moves [Operated config (fun _ => True) R] {steps : List NodeStep}
    (h : ∀ step ∈ steps, KeptReplaced args R step)
    (node : Node ρ) : R node.world (node.run args config localIdentity steps).world :=
  Node.run_fed args localIdentity (fun step _ => surroundingsFeed_any step.surroundings) h node

theorem Node.run_reaches (steps : List NodeStep) (node : Node ρ) :
    Reaches node.world.transport (node.run args config localIdentity steps).world.transport :=
  Node.run_moves (R := ReachesTransport) args localIdentity
    (fun _ _ => ⟨fun _ world => .refl world.transport, fun _ world _ => .refl world.transport⟩) node

/-! ## Results -/

theorem registries_well_kept (file : Option StateFile) (adapter : QuicTransportAdapter ρ)
    (steps : List NodeStep) :
    let started : Node ρ := { world := ⟨file, adapter.unused⟩ }
    let reached := (started.run args config localIdentity steps).world.transport
    (reached.reconnectSuppressions.map ReconnectSuppression.key).Nodup ∧
      (reached.reconnectAttempts.map RuntimeReconnectAttempt.key).Nodup ∧
      (∀ id record, reached.runtimeSessions.find id = some record →
        record.snapshot.sessionId = id) ∧
      (∀ (id : String) (listener : RuntimeListenerSnapshot),
        reached.runtimeListeners[id]? = some listener → listener.listenerId = id) ∧
      reached.terminalSessions.length ≤ 32 ∧
      (reached.terminalSessions.map fun record => record.snapshot.sessionId).Nodup ∧
      (∀ record ∈ reached.terminalSessions, record.snapshot.state = .closed) ∧
      reached.runtimeEvents.length ≤ 256 := by
  intro started reached
  have hreached : WellKept reached :=
    (Node.run_reaches args localIdentity steps started).wellKept (wellKept_unused adapter)
  exact ⟨hreached.keyed.suppressions, hreached.keyed.attempts,
    fun id record => reached.runtimeSessions.keyed id record, hreached.listeners,
    hreached.ledger_length, hreached.ledger_nodup, hreached.ledger_closed, hreached.events_length⟩

theorem reading_request_only_reads (surroundings : ServerSurroundings) {request : HttpRequest}
    (h : ∀ envelope operation, readEnvelope request = .ok envelope →
      operations.lookup envelope.operation = some operation → operation.reads = true)
    (world : World ρ) : OnlyRead config world
      (routeControlRequest surroundings args config localIdentity request world).2 := by
  refine routeControlRequest_moves args localIdentity surroundings request ?_ world
  intro envelope operation hread hoperation
  exact Operation.run_observed surroundings args localIdentity (h envelope operation hread hoperation)
    envelope.payload

end Steps

section Closed
attribute [local instance] Primitives.transparent diagnoseDecoder

theorem diagnosis_only_reads : OnlyRead meshConfig (closedWorld [])
    (routeControlRequest fixtureSurroundings fixtureServerArgs meshConfig fixtureIdentity
      diagnoseRequest (closedWorld [])).2 := by
  apply reading_request_only_reads
  intro envelope operation hread hoperation
  have henvelope : readEnvelope diagnoseRequest = .ok diagnoseEnvelope :=
    readEnvelope_posted (by decide) (if_pos rfl)
  rw [henvelope] at hread
  cases hread
  cases hoperation
  rfl

end Closed

end QuipNet.Daemon
