import QuipNet.Daemon

/-!
# One cycle of the daemon

`run_cycle` prepares the state for its trigger, reevaluates and reconciles the
registered sessions, and then makes sure that there is a session to the target of
`--connect-protocol`. The state that the target lookup sees is the one that
reconciliation left in the file.
-/

open Std
namespace QuipNet.Fabric.LocalControlPlane
open QuipNet.Library.Effect

variable {ρ : Type} [Primitives]

def syncRuntimeSessions (config : DaemonConfig) : ControlM ρ DaemonState := do
  let state ← ensureState config
  pure { state with activeSessions := (← get).transport.activeSessions }

end QuipNet.Fabric.LocalControlPlane

namespace QuipNet.Daemon
open QuipNet.Fabric QuipNet.Library.Effect QuipNet.Quic QuipNet.Transport

variable {ρ : Type}

inductive CyclePreparation
  | reloadState
  | refreshState
  | syncAuthoritySnapshot
  | reprobeNetwork
deriving DecidableEq, Repr

inductive CycleTrigger
  | startup
  | intervalElapsed
  | stateChanged
  | authoritySnapshotChanged
  | networkChangeRequested
deriving DecidableEq, Repr

inductive TargetSessionOutcome
  | active (session : SessionSnapshot)
  | reused (session : SessionSnapshot)
  | backingOff (status : String)
  | suppressed (status : String)
  | failed (status : String)
deriving DecidableEq, Repr

structure DaemonCycleReport where
  trigger : CycleTrigger
  preparation : CyclePreparation
  reprobeReport : Option LocalControlPlane.NetcheckReprobeReport
  state : DaemonState
  authorityReevaluationReport : Option AuthorityReevaluationReport
  reconcileReport : Option SessionReconcileReport
  activeSession : Option SessionSnapshot
  connectStatus : String

def reconnectMaxAttempts : UInt32 := 5

def reconnectBaseBackoffSecs : ℕ := 5

def reconnectMaxBackoffSecs : ℕ := 300

def parseClass (value : String) : TrafficClass :=
  if value = "control" then .control
  else if value = "bulk" then .bulk
  else if value = "background" then .background
  else .interactive

def targetPeer (args : Args) (state : DaemonState) : Option PeerId :=
  (args.connectPeer.bind PeerId.parse).or (state.peers.head?.map fun peer => peer.snapshot.peer)

def existingTargetSession (args : Args) (state : DaemonState)
    (transport : QuicTransportAdapter ρ) (protocol : String) : Option SessionSnapshot :=
  match targetPeer args state with
  | none => none
  | some target =>
    state.activeSessions.find? fun session =>
      session.peer = target && session.trafficClass = parseClass args.connectClass &&
        (transport.runtimeSessions.find session.sessionId).isSome &&
        session.protocol.any fun value => value.text = protocol

def onAdapter (f : QuicTransportAdapter ρ → QuicTransportAdapter ρ) : ControlM ρ Unit :=
  modify fun world => { world with transport := f world.transport }

def failedStatus (attempt : RuntimeReconnectAttempt) : String :=
  "failed:attempts=" ++ Nat.repr attempt.attemptCount.toNat ++ " reason=" ++ attempt.reason

def backoffStatus (attempt : RuntimeReconnectAttempt) (now : ℕ) : String :=
  "backoff:attempts=" ++ Nat.repr attempt.attemptCount.toNat ++ " next_retry_in=" ++
    Nat.repr (attempt.nextAttemptUnixSecs - now) ++ "s reason=" ++ attempt.reason

def scheduledOutcome (attempt : RuntimeReconnectAttempt) (now : ℕ) : TargetSessionOutcome :=
  match attempt.state with
  | .backingOff => .backingOff (backoffStatus attempt now)
  | .failed => .failed (failedStatus attempt)

def findReconnectAttempt (transport : QuicTransportAdapter ρ) (key : SessionKey) :
    Option RuntimeReconnectAttempt :=
  transport.reconnectAttempts.find? fun attempt => attempt.key = key

section Hashing
variable [Primitives] (surroundings : Surroundings) (config : DaemonConfig)
  (localIdentity : IdentityKeypair) (args : Args)

/-- `prepare_state_for_trigger` when the authority snapshot file changed. -/
def syncChangedSnapshot : ControlM ρ DaemonState :=
  match args.authoritySnapshot with
  | some path => Prod.fst <$> LocalControlPlane.syncAuthoritySnapshot config
      (surroundings.loadAuthoritySnapshot path)
  | none => LocalControlPlane.ensureState config

def prepareStateForTrigger (trigger : CycleTrigger) :
    ControlM ρ (CyclePreparation × Option LocalControlPlane.NetcheckReprobeReport × DaemonState) :=
  match trigger with
  | .stateChanged => do
    pure (.reloadState, none, ← LocalControlPlane.ensureState config)
  | .authoritySnapshotChanged => do
    pure (.syncAuthoritySnapshot, none, ← syncChangedSnapshot surroundings config args)
  | .networkChangeRequested => do
    let report ← LocalControlPlane.reprobeNetworkChange config "network change trigger observed"
    pure (.reprobeNetwork, some report, ← LocalControlPlane.ensureState config)
  | .startup | .intervalElapsed => do
    pure (.refreshState, none, ← refreshState surroundings config localIdentity args)

/-- `ensure_target_session` from the point where it calls `realize_best_path`; `now` is
the reading that the backoff was compared with. -/
def attemptTarget (key : SessionKey) (protocol : ProtocolId) (now : ℕ) :
    ControlM ρ TargetSessionOutcome := do
  onAdapter (QuicTransportAdapter.emitRuntimeEvent "reconnect.started" (peerSubject key.peer)
    (.object [("protocol", .string protocol.text), ("class", .string key.trafficClass.label)]))
  match ← attempt (LocalControlPlane.realizeBestPath config key.peer protocol key.trafficClass) with
  | .ok session => do
    onAdapter (QuicTransportAdapter.clearReconnectAttempt key (some "reconnect succeeded"))
    pure (.active session)
  | .error (error : DaemonStateError) => do
    let scheduled ← modifyGet fun world =>
      let (scheduled, transport) := world.transport.scheduleReconnect key error.text
        reconnectMaxAttempts reconnectBaseBackoffSecs reconnectMaxBackoffSecs
      (scheduled, { world with transport })
    pure (scheduledOutcome scheduled now)

/-- `ensure_target_session` once it knows the key of its target: a suppressed key, a
record that gave up and one that is still backing off stand before the attempt. -/
def reconnectTarget (key : SessionKey) (protocol : ProtocolId) :
    ControlM ρ TargetSessionOutcome := do
  match (← get).transport.findReconnectSuppression key with
  | some suppression => do
    onAdapter (QuicTransportAdapter.clearReconnectAttempt key
      (some "reconnect suppressed by policy"))
    pure (.suppressed ("suppressed:" ++ suppression.reason))
  | none => do
    let now ← modifyGet fun world =>
      (world.transport.currentUnixSecs, { world with transport := world.transport.ticked })
    match findReconnectAttempt (← get).transport key with
    | none => attemptTarget config key protocol now
    | some attempt =>
      match attempt.state with
      | .failed => pure (.failed (failedStatus attempt))
      | .backingOff =>
        if now < attempt.nextAttemptUnixSecs then
          pure (.backingOff (backoffStatus attempt now))
        else attemptTarget config key protocol now

def ensureTargetSession (state : DaemonState) (protocol : String) :
    ControlM ρ TargetSessionOutcome := do
  match existingTargetSession args state (← get).transport protocol with
  | some session => do
    onAdapter (QuicTransportAdapter.clearReconnectAttempt session.key
      (some "session already active"))
    pure (.reused session)
  | none =>
    match targetPeer args state with
    | none => throw (.invalidSession
        "a peer is required or daemon state must contain at least one peer")
    | some target =>
      match ProtocolId.new protocol with
      | .error error => throw (.invalidSession error.text)
      | .ok protocol =>
        reconnectTarget config ⟨target, some protocol, parseClass args.connectClass⟩ protocol

def reevaluates : CycleTrigger → Bool
  | .networkChangeRequested => false
  | _ => true

def reevaluateForTrigger (trigger : CycleTrigger) :
    ControlM ρ (Option AuthorityReevaluationReport) :=
  if reevaluates trigger then
    some <$> LocalControlPlane.reevaluateRuntimeAuthority config localIdentity
  else pure none

def reconcileForCycle (state : DaemonState) :
    ControlM ρ (DaemonState × Option SessionReconcileReport) :=
  if args.disableReconcile then pure (state, none)
  else if state.activeSessions.isEmpty then pure (state, some ⟨0, 0, 0, 0, []⟩)
  else do
    let report ← LocalControlPlane.reconcileSessions config
    pure (← LocalControlPlane.ensureState config, some report)

/-- The end of `run_cycle`: the state it reports, the session and the status. -/
def connectForCycle (state : DaemonState) :
    ControlM ρ (DaemonState × Option SessionSnapshot × String) :=
  match args.connectProtocol with
  | none => pure (state, none, "disabled")
  | some protocol => do
    match ← attempt (ensureTargetSession config args state protocol) with
    | .ok (.active session) => pure (← LocalControlPlane.ensureState config, some session, "active")
    | .ok (.reused session) => pure (state, some session, "reused")
    | .ok (.backingOff status) => pure (state, none, status)
    | .ok (.suppressed status) => pure (state, none, status)
    | .ok (.failed status) => pure (state, none, status)
    | .error (error : DaemonStateError) => pure (state, none, "connect-failed:" ++ error.text)

def runCycle (trigger : CycleTrigger) : ControlM ρ DaemonCycleReport := do
  let (preparation, reprobeReport, _) ←
    prepareStateForTrigger surroundings config localIdentity args trigger
  let _ ← LocalControlPlane.syncRuntimeSessions config
  let authorityReevaluationReport ← reevaluateForTrigger config localIdentity trigger
  let state ← LocalControlPlane.syncRuntimeSessions config
  let (state, reconcileReport) ← reconcileForCycle config args state
  let (state, activeSession, connectStatus) ← connectForCycle config args state
  pure { trigger, preparation, reprobeReport, state, authorityReevaluationReport,
         reconcileReport, activeSession, connectStatus }

end Hashing

end QuipNet.Daemon
