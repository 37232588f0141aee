import QuipNet.Reevaluation

/-!
# Reconciling, upgrading and opening sessions

The transport side of `reconcile_sessions`, `upgrade_session`, `realize_best_path`
and `close_session`: what each does with the daemon state it loaded, up to the
point where it writes that state back. `reconcile_sessions` closes a session
that has no protocol, is not allowed by policy or has no route, keeps one whose
path still fits, and migrates or else closes the others.
-/

open Std
namespace QuipNet.Fabric
open QuipNet.Library.Effect QuipNet.Quic QuipNet.Transport

variable {ρ : Type}

inductive SessionReconcileDisposition
  | unchanged
  | upgraded
  | closed
deriving DecidableEq, Repr

structure SessionReconcileEntry where
  sessionId : SessionId
  peer : PeerId
  disposition : SessionReconcileDisposition
  reason : String
  pathKind : Option PathKind
deriving DecidableEq, Repr

structure SessionReconcileReport where
  examined : ℕ
  unchanged : ℕ
  upgraded : ℕ
  closed : ℕ
  entries : List SessionReconcileEntry
deriving DecidableEq, Repr

/-- The variables of the reconcile loop. -/
structure ReconcileProgress where
  state : DaemonState
  entries : List SessionReconcileEntry := []
  unchanged : ℕ := 0
  upgraded : ℕ := 0
  closed : ℕ := 0

namespace ReconcileProgress

def recordClosed (progress : ReconcileProgress) (session : SessionSnapshot) (reason : String) :
    ReconcileProgress :=
  { progress with
    state := progress.state.withoutSession session.sessionId
    closed := progress.closed + 1
    entries := progress.entries ++ [⟨session.sessionId, session.peer, .closed, reason, none⟩] }

def recordUnchanged (progress : ReconcileProgress) (session : SessionSnapshot) (reason : String) :
    ReconcileProgress :=
  { progress with
    unchanged := progress.unchanged + 1
    entries := progress.entries ++
      [⟨session.sessionId, session.peer, .unchanged, reason, some session.pathKind⟩] }

def recordUpgraded (progress : ReconcileProgress) (session migrated : SessionSnapshot)
    (nextPathKind : PathKind) : ReconcileProgress :=
  { progress with
    state := progress.state.withActiveSession migrated
    upgraded := progress.upgraded + 1
    entries := progress.entries ++ [⟨session.sessionId, session.peer, .upgraded,
      "selected path changed; session migrated", some nextPathKind⟩] }

def report (progress : ReconcileProgress) : SessionReconcileReport :=
  ⟨progress.entries.length, progress.unchanged, progress.upgraded, progress.closed,
    progress.entries⟩

end ReconcileProgress

def policyDeniedText (reason : String) : String := "policy denied session: " ++ reason

def closeFailed (progress : ReconcileProgress) (session : SessionSnapshot)
    (closureReason : SessionClosureReason) (reason : String) : FabricM ρ ReconcileProgress := do
  failAndCloseSession session closureReason reason
  pure (progress.recordClosed session reason)

def closeDenied (progress : ReconcileProgress) (session : SessionSnapshot) (reason : String) :
    FabricM ρ ReconcileProgress := do
  onTransport (moveSession session.sessionId .closing (some .policyRejected) (some reason))
  onTransport (closeSession session)
  pure (progress.recordClosed session (policyDeniedText reason))

def planRoute (state : DaemonState) (peer : PeerId) (protocol : Option ProtocolId)
    (trafficClass : TrafficClass) : FabricM ρ RoutePlan :=
  match state.routePlan peer protocol trafficClass with
  | .ok route => pure route
  | .error error => throw error

theorem planRoute_error {state : DaemonState} {peer : PeerId} {protocol : Option ProtocolId}
    {trafficClass : TrafficClass} {adapter after : QuicTransportAdapter ρ} {error : DaemonStateError}
    (h : planRoute state peer protocol trafficClass adapter = .error error after) :
    error = .noRoute peer ∨ error = .peerNotFound peer.toText := by
  unfold planRoute at h
  cases hplan : state.routePlan peer protocol trafficClass with
  | ok route => simp [hplan] at h
  | error cause =>
    simp only [hplan, throw_run, EStateM.Result.error.injEq] at h
    rw [← h.1]
    exact DaemonState.routePlan_error hplan

section Sessions
variable [Primitives]

def finishUpgrade (progress : ReconcileProgress) (session : SessionSnapshot)
    (nextPathKind : PathKind) :
    Except TransportError SessionSnapshot → FabricM ρ ReconcileProgress
  | .ok migrated => pure (progress.recordUpgraded session migrated nextPathKind)
  | .error error =>
    closeFailed progress session .localRuntimeFailure ("session migration failed: " ++ error.text)

def reconcileRoute (progress : ReconcileProgress) (session : SessionSnapshot) :
    Except DaemonStateError RoutePlan → FabricM ρ ReconcileProgress
  | .ok route =>
    if sessionMatchesRoute session route then do
      onTransport (moveSession session.sessionId .active none
        (some "selected path still matches active session"))
      pure (progress.recordUnchanged session "selected path still matches active session")
    else do
      onTransport (moveSession session.sessionId .migrating none
        (some "selected path changed; session migrating"))
      finishUpgrade progress session route.pathKind (← attempt (migrate session route))
  | .error (.noRoute _) =>
    closeFailed progress session .pathExhaustion "no route is available for session"
  | .error error => throw error

def reconcileRegistered (progress : ReconcileProgress) (session : SessionSnapshot) :
    FabricM ρ ReconcileProgress :=
  match session.protocol with
  | none =>
    closeFailed progress session .localRuntimeFailure "session is missing negotiated protocol"
  | some protocol =>
    let policy := progress.state.explainPolicy session.peer protocol
    if policy.allowed then
      reconcileRoute progress session
        (progress.state.routePlan session.peer (some protocol) session.trafficClass)
    else closeDenied progress session policy.reason

def reconcileSession (progress : ReconcileProgress) (session : SessionSnapshot) :
    FabricM ρ ReconcileProgress := do
  onTransport (moveSession session.sessionId .reconciling none (some "daemon reconcile cycle"))
  match (← get).sessionSnapshot session.sessionId with
  | none =>
    pure (progress.recordClosed session "session is not active in runtime transport")
  | some session => reconcileRegistered progress session

/-- `reconcile_sessions` between loading the state and saving it. -/
def reconcileState (state : DaemonState) : FabricM ρ (DaemonState × SessionReconcileReport) := do
  let sessions := (← get).activeSessions
  let progress ← sessions.foldlM reconcileSession { state }
  let activeSessions := (← get).activeSessions
  pure ({ progress.state with activeSessions }, progress.report)

def realizeState (peer : PeerId) (protocol : ProtocolId) (trafficClass : TrafficClass)
    (state : DaemonState) : FabricM ρ (DaemonState × SessionSnapshot) :=
  let policy := state.explainPolicy peer protocol
  if policy.allowed then do
    let route ← planRoute state peer (some protocol) trafficClass
    let connection ← onTransport (connect route)
    let activeSessions := (← get).activeSessions
    pure ({ state.withActiveSession connection.session with activeSessions }, connection.session)
  else throw (.policyDenied policy.reason)

/-- `upgrade_session` for the session it found, up to the saving of the state. -/
def upgradeFound (state : DaemonState) (session : SessionSnapshot) (protocol : ProtocolId) :
    FabricM ρ (DaemonState × SessionSnapshot) :=
  let policy := state.explainPolicy session.peer protocol
  if policy.allowed then do
    onTransport (moveSession session.sessionId .migrating none
      (some "daemon selected a better path"))
    let route ← planRoute state session.peer (some protocol) session.trafficClass
    let upgraded ← onTransport (migrate session route)
    let activeSessions := (← get).activeSessions
    pure ({ state.withActiveSession upgraded with activeSessions }, upgraded)
  else do
    onTransport (moveSession session.sessionId .failed (some .policyRejected)
      (some policy.reason))
    throw (.policyDenied policy.reason)

def upgradeState (sessionId : SessionId) (state : DaemonState) :
    FabricM ρ (DaemonState × SessionSnapshot) := do
  match (← get).sessionSnapshot sessionId with
  | none => throw (.sessionNotFound sessionId.hex)
  | some session =>
    match session.protocol with
    | none => throw (.invalidSession "session has no negotiated protocol")
    | some protocol => upgradeFound state session protocol

end Sessions

def closeState (sessionId : SessionId) (state : DaemonState) : FabricM ρ (DaemonState × Unit) := do
  match (← get).sessionSnapshot sessionId with
  | none => throw (.sessionNotFound sessionId.hex)
  | some session => do
    onTransport (moveSession sessionId .closing (some .operatorRequested)
      (some "operator requested close"))
    onTransport (closeSession session)
    let activeSessions := (← get).activeSessions
    pure ({ state with activeSessions }, ())

end QuipNet.Fabric
