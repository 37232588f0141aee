import QuipNet.ControlPlane
import QuipNet.Library.Interaction
import QuipNet.ReevaluationPass

/-!
# The control plane as a client of the transport

The session operations of the control plane once more, as programs over the calls
of the transport that they make. Carried out on the adapter, each program is the
operation; its trace also shows the calls themselves and the adapter between them.
-/

open Std
namespace QuipNet.Fabric
open QuipNet.Library QuipNet.Library.Effect QuipNet.Quic QuipNet.Transport

variable {ρ : Type}

inductive TransportCall : Type → Type
  | activeSessions : TransportCall (List SessionSnapshot)
  | sessionSnapshot (sessionId : SessionId) : TransportCall (Option SessionSnapshot)
  | activeListeners : TransportCall (List RuntimeListenerSnapshot)
  | reconnectSuppressions : TransportCall (List ReconnectSuppression)
  | updateSessionState (sessionId : SessionId) (state : RuntimeSessionState)
      (closureReason : Option SessionClosureReason) (stateReason : Option String) :
      TransportCall Unit
  | updateListenerState (listenerId : String) (state : RuntimeListenerState)
      (stateReason : Option String) : TransportCall Unit
  | connect (route : RoutePlan) : TransportCall QuicConnectionHandle
  | migrate (session : SessionSnapshot) (route : RoutePlan) : TransportCall SessionSnapshot
  | closeSession (session : SessionSnapshot) : TransportCall Unit
  | suppressReconnect (key : SessionKey) (reason : String) : TransportCall Unit
  | clearReconnectSuppression (key : SessionKey) : TransportCall Unit
  | emitRuntimeEvent (eventType : String) (subject : RuntimeEventSubject) (details : Json) :
      TransportCall Unit

abbrev ControlProgram := Program TransportCall TransportError DaemonStateError

def ask {β : Type} (c : TransportCall β) : ControlProgram β := Program.ask .transport c

/-! ## The programs -/

namespace Calls

def planRoute (state : DaemonState) (peer : PeerId) (protocol : Option ProtocolId)
    (trafficClass : TrafficClass) : ControlProgram RoutePlan :=
  match state.routePlan peer protocol trafficClass with
  | .ok route => pure route
  | .error error => throw error

def failAndCloseSession (session : SessionSnapshot) (closureReason : SessionClosureReason)
    (stateReason : String) : ControlProgram Unit := do
  ask (.updateSessionState session.sessionId .failed (some closureReason) (some stateReason))
  ask (.emitRuntimeEvent "path.failed" (sessionSubject session.sessionId)
    (.object [("peer_id", .string session.peer.toText),
      ("protocol", protocolJson session.protocol), ("class", .string session.trafficClass.debug),
      ("path_class", .string session.pathKind.debug), ("cause", .string closureReason.label),
      ("reason", .string stateReason)]))
  ask (.closeSession session)

def degradeSession (session : SessionSnapshot) (protocol : ProtocolId) (reason : String) :
    ControlProgram Unit := do
  ask (.updateSessionState session.sessionId .degraded none (some reason))
  ask (.emitRuntimeEvent "path.degraded" (sessionSubject session.sessionId)
    (sessionPathDetails session protocol reason))

def restorePosture (session : SessionSnapshot) : ControlProgram Unit :=
  if session.state = .degraded then
    ask (.updateSessionState session.sessionId .active none
      (some "authority reevaluation restored the selected path posture"))
  else pure ()

def enforceSession (enforced : AuthorityPolicyEnforcement) (session : SessionSnapshot)
    (protocol : ProtocolId) (report : AuthorityReevaluationReport) :
    ControlProgram AuthorityReevaluationReport := do
  let key : SessionKey := ⟨session.peer, some protocol, session.trafficClass⟩
  let suppressions ← ask .reconnectSuppressions
  let present := suppressions.any fun entry => entry.key = key
  ask (.suppressReconnect key enforced.reason)
  ask (.updateSessionState session.sessionId .closing (some .policyRejected)
    (some enforced.reason))
  ask (.emitRuntimeEvent "authority.policy_enforced" (sessionSubject session.sessionId)
    (.object [("peer_id", .string session.peer.toText), ("protocol", .string protocol.text),
      ("class", .string session.trafficClass.debug),
      ("action", .string "close_and_suppress_reconnect"), ("cause", .string enforced.cause.label),
      ("reason", .string enforced.reason), ("local_policy_denied", .bool report.localPolicyDenied),
      ("authority_subject_mismatch", .bool report.authoritySubjectMismatch)]))
  ask (.closeSession session)
  pure ((report.countSuppression present).countCause enforced.cause).countClosed

def finishMigration (session : SessionSnapshot) (protocol : ProtocolId)
    (report : AuthorityReevaluationReport) :
    Except TransportError SessionSnapshot → ControlProgram AuthorityReevaluationReport
  | .ok _ => pure { report with migratedSessions := report.migratedSessions + 1 }
  | .error error => do
    let reason := "authority reevaluation migration failed: " ++ error.text
    failAndCloseSession session .localRuntimeFailure reason
    ask (.suppressReconnect ⟨session.peer, some protocol, session.trafficClass⟩ reason)
    pure report.countClosed

def migrateSession (session : SessionSnapshot) (protocol : ProtocolId) (route : RoutePlan)
    (report : AuthorityReevaluationReport) : ControlProgram AuthorityReevaluationReport := do
  ask (.emitRuntimeEvent "path.migration_started" (sessionSubject session.sessionId)
    (sessionPathDetails session protocol migrationReason))
  ask (.updateSessionState session.sessionId .migrating none (some migrationReason))
  finishMigration session protocol report (← Program.attempt (.migrate session route))

def followRoute (session : SessionSnapshot) (protocol : ProtocolId)
    (report : AuthorityReevaluationReport) :
    Except DaemonStateError RoutePlan → ControlProgram AuthorityReevaluationReport
  | .ok route =>
    if sessionMatchesRoute session route then do
      restorePosture session
      pure { report with unchangedSessions := report.unchangedSessions + 1 }
    else if session.migrationCapable then migrateSession session protocol route report
    else do
      degradeSession session protocol ("authority reevaluation selected a different eligible " ++
        "path but the active session cannot migrate")
      pure report.countDegraded
  | .error (.noRoute _) => do
    degradeSession session protocol ("authority reevaluation found no eligible replacement " ++
      "path; keeping the current session alive in degraded posture")
    pure report.countDegraded
  | .error error => throw error

def suppressListener (listener : RuntimeListenerSnapshot) (reason : String)
    (report : AuthorityReevaluationReport) : ControlProgram AuthorityReevaluationReport := do
  ask (.updateListenerState listener.listenerId .suppressed (some reason))
  if listener.state = .suppressed ∧ listener.stateReason = some reason then pure report
  else do
    ask (.emitRuntimeEvent "authority.policy_enforced" ⟨"listener", listener.listenerId⟩
      (.object [("listener_id", .string listener.listenerId),
        ("protocol", .string listener.protocol.text), ("action", .string "suppress_listener"),
        ("reason", .string reason), ("local_policy_denied", .bool report.localPolicyDenied),
        ("authority_subject_mismatch", .bool report.authoritySubjectMismatch)]))
    pure { report with suppressedListeners := report.suppressedListeners + 1 }

def closeFailed (progress : ReconcileProgress) (session : SessionSnapshot)
    (closureReason : SessionClosureReason) (reason : String) :
    ControlProgram ReconcileProgress := do
  failAndCloseSession session closureReason reason
  pure (progress.recordClosed session reason)

def closeDenied (progress : ReconcileProgress) (session : SessionSnapshot) (reason : String) :
    ControlProgram ReconcileProgress := do
  ask (.updateSessionState session.sessionId .closing (some .policyRejected) (some reason))
  ask (.closeSession session)
  pure (progress.recordClosed session (policyDeniedText reason))

def finishUpgrade (progress : ReconcileProgress) (session : SessionSnapshot)
    (nextPathKind : PathKind) :
    Except TransportError SessionSnapshot → ControlProgram ReconcileProgress
  | .ok migrated => pure (progress.recordUpgraded session migrated nextPathKind)
  | .error error =>
    closeFailed progress session .localRuntimeFailure ("session migration failed: " ++ error.text)

def reconcileRoute (progress : ReconcileProgress) (session : SessionSnapshot) :
    Except DaemonStateError RoutePlan → ControlProgram ReconcileProgress
  | .ok route =>
    if sessionMatchesRoute session route then do
      ask (.updateSessionState session.sessionId .active none
        (some "selected path still matches active session"))
      pure (progress.recordUnchanged session "selected path still matches active session")
    else do
      ask (.updateSessionState session.sessionId .migrating none
        (some "selected path changed; session migrating"))
      finishUpgrade progress session route.pathKind (← Program.attempt (.migrate session route))
  | .error (.noRoute _) =>
    closeFailed progress session .pathExhaustion "no route is available for session"
  | .error error => throw error

def closeState (sessionId : SessionId) (state : DaemonState) :
    ControlProgram (DaemonState × Unit) := do
  match ← ask (.sessionSnapshot sessionId) with
  | none => throw (.sessionNotFound sessionId.hex)
  | some session => do
    ask (.updateSessionState sessionId .closing (some .operatorRequested)
      (some "operator requested close"))
    ask (.closeSession session)
    let activeSessions ← ask .activeSessions
    pure ({ state with activeSessions }, ())

section Hashing
variable [Primitives]

def keepSession (state : DaemonState) (session : SessionSnapshot) (protocol : ProtocolId)
    (report : AuthorityReevaluationReport) : ControlProgram AuthorityReevaluationReport := do
  let key : SessionKey := ⟨session.peer, some protocol, session.trafficClass⟩
  let suppressions ← ask .reconnectSuppressions
  let present := suppressions.any fun entry => entry.key = key
  ask (.clearReconnectSuppression key)
  followRoute session protocol (report.countCleared present)
    (state.routePlan session.peer (some protocol) session.trafficClass)

def reevaluateSession (state : DaemonState) (runtimePeerId : PeerId)
    (report : AuthorityReevaluationReport) (session : SessionSnapshot) :
    ControlProgram AuthorityReevaluationReport :=
  match session.protocol with
  | none => pure report
  | some protocol =>
    let report := { report with reevaluatedSessions := report.reevaluatedSessions + 1 }
    match state.authorityEnforcement runtimePeerId session.peer protocol with
    | some enforced => enforceSession enforced session protocol report
    | none => keepSession state session protocol report

def reevaluateListener (state : DaemonState) (runtimePeerId : PeerId)
    (report : AuthorityReevaluationReport) (listener : RuntimeListenerSnapshot) :
    ControlProgram AuthorityReevaluationReport :=
  let report := { report with reevaluatedListeners := report.reevaluatedListeners + 1 }
  if listener.state = .failed then pure report
  else
    match listenerEnforcement state runtimePeerId listener with
    | some reason => suppressListener listener reason report
    | none =>
      if listener.state = .suppressed then do
        ask (.updateListenerState listener.listenerId .active none)
        pure { report with restoredListeners := report.restoredListeners + 1 }
      else pure report

def startReevaluation (state : DaemonState) (runtimePeerId : PeerId) : ControlProgram Unit := do
  let sessions ← ask .activeSessions
  ask (.emitRuntimeEvent "authority.reevaluation_started" (authoritySubject runtimePeerId)
    (.object [("active_sessions", .number sessions.length),
      ("authority_subject_peer_id", .string state.membership.subjectPeerId.toText),
      ("runtime_peer_id", .string runtimePeerId.toText),
      ("authority_subject_mismatch", .bool (state.authoritySubjectMismatch runtimePeerId)),
      ("local_policy_reason", Json.option .string (state.localPolicyReason runtimePeerId))]))

def reevaluateListeners (state : DaemonState) (runtimePeerId : PeerId)
    (report : AuthorityReevaluationReport) : ControlProgram AuthorityReevaluationReport := do
  let listeners ← ask .activeListeners
  let report ← listeners.foldlM (reevaluateListener state runtimePeerId) report
  ask (.emitRuntimeEvent "authority.reevaluation_completed" (authoritySubject runtimePeerId)
    report.details)
  pure report

def reevaluateAuthority (state : DaemonState) (runtimePeerId : PeerId) :
    ControlProgram AuthorityReevaluationReport := do
  startReevaluation state runtimePeerId
  let sessions ← ask .activeSessions
  let report ← sessions.foldlM (reevaluateSession state runtimePeerId) (.start state runtimePeerId)
  reevaluateListeners state runtimePeerId report

def reconcileRegistered (progress : ReconcileProgress) (session : SessionSnapshot) :
    ControlProgram ReconcileProgress :=
  match session.protocol with
  | none =>
    closeFailed progress session .localRuntimeFailure "session is missing negotiated protocol"
  | some protocol =>
    let policy := progress.state.explainPolicy session.peer protocol
    if policy.allowed then
      reconcileRoute progress session
        (progress.state.routePlan session.peer (some protocol) session.trafficClass)
    else closeDenied progress session policy.reason

def reconcileSession (progress : ReconcileProgress) (session : SessionSnapshot) :
    ControlProgram ReconcileProgress := do
  ask (.updateSessionState session.sessionId .reconciling none (some "daemon reconcile cycle"))
  match ← ask (.sessionSnapshot session.sessionId) with
  | none =>
    pure (progress.recordClosed session "session is not active in runtime transport")
  | some session => reconcileRegistered progress session

def reconcileState (state : DaemonState) :
    ControlProgram (DaemonState × SessionReconcileReport) := do
  let sessions ← ask .activeSessions
  let progress ← sessions.foldlM reconcileSession { state }
  let activeSessions ← ask .activeSessions
  pure ({ progress.state with activeSessions }, progress.report)

def realizeState (peer : PeerId) (protocol : ProtocolId) (trafficClass : TrafficClass)
    (state : DaemonState) : ControlProgram (DaemonState × SessionSnapshot) :=
  let policy := state.explainPolicy peer protocol
  if policy.allowed then do
    let route ← planRoute state peer (some protocol) trafficClass
    let connection ← ask (.connect route)
    let activeSessions ← ask .activeSessions
    pure ({ state.withActiveSession connection.session with activeSessions }, connection.session)
  else throw (.policyDenied policy.reason)

def upgradeFound (state : DaemonState) (session : SessionSnapshot) (protocol : ProtocolId) :
    ControlProgram (DaemonState × SessionSnapshot) :=
  let policy := state.explainPolicy session.peer protocol
  if policy.allowed then do
    ask (.updateSessionState session.sessionId .migrating none
      (some "daemon selected a better path"))
    let route ← planRoute state session.peer (some protocol) session.trafficClass
    let upgraded ← ask (.migrate session route)
    let activeSessions ← ask .activeSessions
    pure ({ state.withActiveSession upgraded with activeSessions }, upgraded)
  else do
    ask (.updateSessionState session.sessionId .failed (some .policyRejected)
      (some policy.reason))
    throw (.policyDenied policy.reason)

def upgradeState (sessionId : SessionId) (state : DaemonState) :
    ControlProgram (DaemonState × SessionSnapshot) := do
  match ← ask (.sessionSnapshot sessionId) with
  | none => throw (.sessionNotFound sessionId.hex)
  | some session =>
    match session.protocol with
    | none => throw (.invalidSession "session has no negotiated protocol")
    | some protocol => upgradeFound state session protocol

end Hashing

end Calls

/-! ## Programs that only end sessions -/

def isFinal : RuntimeSessionState → Bool
  | .failed | .closing => true
  | _ => false

/-- A call that opens and revives no session. -/
def TransportCall.Settling : {β : Type} → TransportCall β → Prop
  | _, .updateSessionState _ state _ _ => isFinal state = true
  | _, .connect _ => False
  | _, .migrate _ _ => False
  | _, _ => True

def Settles {α : Type} (p : ControlProgram α) : Prop := p.Only TransportCall.Settling

theorem Settles.bind {α β : Type} {p : ControlProgram α} {f : α → ControlProgram β}
    (hp : Settles p) (hf : ∀ a, Settles (f a)) : Settles (p >>= f) := Program.only_bind hp hf

theorem settles_ask {β : Type} {c : TransportCall β} (h : c.Settling) : Settles (ask c) :=
  Program.only_ask h

theorem settles_pure {α : Type} (a : α) : Settles (pure a) := trivial

theorem settles_planRoute (state : DaemonState) (peer : PeerId) (protocol : Option ProtocolId)
    (trafficClass : TrafficClass) : Settles (Calls.planRoute state peer protocol trafficClass) := by
  unfold Calls.planRoute
  cases state.routePlan peer protocol trafficClass <;> trivial

theorem settles_failAndCloseSession (session : SessionSnapshot)
    (closureReason : SessionClosureReason) (stateReason : String) :
    Settles (Calls.failAndCloseSession session closureReason stateReason) := by
  refine (settles_ask (by trivial)).bind fun _ => ?_
  refine (settles_ask (by trivial)).bind fun _ => ?_
  exact settles_ask (by trivial)

theorem settles_enforceSession (enforced : AuthorityPolicyEnforcement) (session : SessionSnapshot)
    (protocol : ProtocolId) (report : AuthorityReevaluationReport) :
    Settles (Calls.enforceSession enforced session protocol report) := by
  refine (settles_ask (by trivial)).bind fun suppressions => ?_
  refine (settles_ask (by trivial)).bind fun _ => ?_
  refine (settles_ask (by trivial)).bind fun _ => ?_
  refine (settles_ask (by trivial)).bind fun _ => ?_
  refine (settles_ask (by trivial)).bind fun _ => ?_
  exact settles_pure _

theorem settles_finishMigration (session : SessionSnapshot) (protocol : ProtocolId)
    (report : AuthorityReevaluationReport) (answer : Except TransportError SessionSnapshot) :
    Settles (Calls.finishMigration session protocol report answer) := by
  cases answer with
  | ok migrated => exact settles_pure _
  | error error =>
    refine (settles_failAndCloseSession _ _ _).bind fun _ => ?_
    refine (settles_ask (by trivial)).bind fun _ => ?_
    exact settles_pure _

theorem settles_suppressListener (listener : RuntimeListenerSnapshot) (reason : String)
    (report : AuthorityReevaluationReport) :
    Settles (Calls.suppressListener listener reason report) := by
  refine (settles_ask (by trivial)).bind fun _ => ?_
  split_ifs
  · exact settles_pure _
  · refine (settles_ask (by trivial)).bind fun _ => ?_
    exact settles_pure _

theorem settles_closeFailed (progress : ReconcileProgress) (session : SessionSnapshot)
    (closureReason : SessionClosureReason) (reason : String) :
    Settles (Calls.closeFailed progress session closureReason reason) := by
  refine (settles_failAndCloseSession _ _ _).bind fun _ => ?_
  exact settles_pure _

theorem settles_closeDenied (progress : ReconcileProgress) (session : SessionSnapshot)
    (reason : String) : Settles (Calls.closeDenied progress session reason) := by
  refine (settles_ask (by trivial)).bind fun _ => ?_
  refine (settles_ask (by trivial)).bind fun _ => ?_
  exact settles_pure _

theorem settles_finishUpgrade (progress : ReconcileProgress) (session : SessionSnapshot)
    (nextPathKind : PathKind) (answer : Except TransportError SessionSnapshot) :
    Settles (Calls.finishUpgrade progress session nextPathKind answer) := by
  cases answer with
  | ok migrated => exact settles_pure _
  | error error => exact settles_closeFailed progress session _ _

theorem settles_closeState (sessionId : SessionId) (state : DaemonState) :
    Settles (Calls.closeState sessionId state) := by
  refine (settles_ask (by trivial)).bind fun found => ?_
  cases found with
  | none => trivial
  | some session =>
    refine (settles_ask (by trivial)).bind fun _ => ?_
    refine (settles_ask (by trivial)).bind fun _ => ?_
    refine (settles_ask (by trivial)).bind fun _ => ?_
    exact settles_pure _

theorem settles_startReevaluation (state : DaemonState) (runtimePeerId : PeerId) :
    Settles (Calls.startReevaluation state runtimePeerId) := by
  refine (settles_ask (by trivial)).bind fun sessions => ?_
  exact settles_ask (by trivial)

section Hashing
variable [Primitives]

theorem settles_reevaluateListener (state : DaemonState) (runtimePeerId : PeerId)
    (report : AuthorityReevaluationReport) (listener : RuntimeListenerSnapshot) :
    Settles (Calls.reevaluateListener state runtimePeerId report listener) := by
  by_cases hfailed : listener.state = .failed
  · simp only [Calls.reevaluateListener, hfailed, if_true]
    exact settles_pure _
  · simp only [Calls.reevaluateListener, hfailed, if_false]
    cases listenerEnforcement state runtimePeerId listener with
    | some reason => exact settles_suppressListener listener reason _
    | none =>
      dsimp only
      split_ifs
      · refine (settles_ask (by trivial)).bind fun _ => ?_
        exact settles_pure _
      · exact settles_pure _

theorem settles_reevaluateListeners (state : DaemonState) (runtimePeerId : PeerId)
    (report : AuthorityReevaluationReport) :
    Settles (Calls.reevaluateListeners state runtimePeerId report) := by
  refine (settles_ask (by trivial)).bind fun listeners => ?_
  apply Settles.bind
  · exact Program.only_foldlM (settles_reevaluateListener state runtimePeerId) listeners report
  · intro swept
    refine (settles_ask (by trivial)).bind fun _ => ?_
    exact settles_pure _

end Hashing

/-! ## What the programs do on the adapter -/

theorem planRoute_ok {state : DaemonState} {peer : PeerId} {protocol : Option ProtocolId}
    {trafficClass : TrafficClass} {adapter after : QuicTransportAdapter ρ} {route : RoutePlan}
    (h : planRoute state peer protocol trafficClass adapter = .ok route after) :
    state.routePlan peer protocol trafficClass = .ok route ∧ after = adapter := by
  unfold planRoute at h
  cases hplan : state.routePlan peer protocol trafficClass with
  | ok planned =>
    rw [hplan] at h
    cases h
    exact ⟨rfl, rfl⟩
  | error error =>
    rw [hplan] at h
    cases h

theorem final_bind_unit {ε σ α : Type} (m : EStateM ε σ α) (s : σ) :
    final (m >>= fun _ => pure ()) s = final m s := by
  unfold final
  rw [bind_run]
  cases m s <;> rfl

section Handler
variable [Primitives]

def TransportCall.handle : {β : Type} → TransportCall β → QuicM ρ β
  | _, .activeSessions => modifyGet fun adapter => (adapter.activeSessions, adapter)
  | _, .sessionSnapshot sessionId => modifyGet fun adapter => (adapter.sessionSnapshot sessionId, adapter)
  | _, .activeListeners => modifyGet fun adapter => (adapter.activeListeners, adapter)
  | _, .reconnectSuppressions => modifyGet fun adapter => (adapter.reconnectSuppressions, adapter)
  | _, .updateSessionState sessionId state closureReason stateReason =>
    moveSession sessionId state closureReason stateReason
  | _, .updateListenerState listenerId state stateReason =>
    modify (QuicTransportAdapter.updateListenerState listenerId state stateReason)
  | _, .connect route => Quic.connect route
  | _, .migrate session route => Quic.migrate session route
  | _, .closeSession session => Quic.closeSession session
  | _, .suppressReconnect key reason => modify (QuicTransportAdapter.suppressReconnect key reason)
  | _, .clearReconnectSuppression key => modify (QuicTransportAdapter.clearReconnectSuppression key)
  | _, .emitRuntimeEvent eventType subject details =>
    modify (QuicTransportAdapter.emitRuntimeEvent eventType subject details)

def carryOut {α : Type} (p : ControlProgram α) : FabricM ρ α := p.exec TransportCall.handle

@[simp] theorem carryOut_pure {α : Type} (a : α) :
    (carryOut (pure a) : FabricM ρ α) = pure a := rfl

@[simp] theorem carryOut_throw {α : Type} (error : DaemonStateError) :
    (carryOut (throw error : ControlProgram α) : FabricM ρ α) = throw error := rfl

@[simp] theorem carryOut_bind {α β : Type} (p : ControlProgram α) (f : α → ControlProgram β) :
    (carryOut (p >>= f) : FabricM ρ β) = carryOut p >>= fun a => carryOut (f a) :=
  Program.exec_bind TransportCall.handle p f

theorem carryOut_ask {β : Type} (c : TransportCall β) :
    (carryOut (ask c) : FabricM ρ β) = onTransport c.handle :=
  Program.exec_ask TransportCall.handle _ c

theorem carryOut_attempt {β : Type} (c : TransportCall β) :
    (carryOut (Program.attempt c) : FabricM ρ (Except TransportError β)) = attempt c.handle :=
  Program.exec_attempt TransportCall.handle c

theorem carryOut_foldlM {α γ : Type} (f : α → γ → ControlProgram α) (items : List γ) (a : α) :
    (carryOut (items.foldlM f a) : FabricM ρ α) =
      items.foldlM (fun a item => carryOut (f a item)) a :=
  Program.exec_foldlM TransportCall.handle f items a

theorem carryOut_planRoute (state : DaemonState) (peer : PeerId) (protocol : Option ProtocolId)
    (trafficClass : TrafficClass) :
    (carryOut (Calls.planRoute state peer protocol trafficClass) : FabricM ρ RoutePlan) =
      planRoute state peer protocol trafficClass := by
  unfold Calls.planRoute planRoute
  cases state.routePlan peer protocol trafficClass <;> rfl

theorem carryOut_failAndCloseSession (session : SessionSnapshot)
    (closureReason : SessionClosureReason) (stateReason : String) :
    (carryOut (Calls.failAndCloseSession session closureReason stateReason) : FabricM ρ Unit) =
      failAndCloseSession session closureReason stateReason := by
  simp only [Calls.failAndCloseSession, carryOut_bind, carryOut_ask]
  rfl

theorem carryOut_degradeSession (session : SessionSnapshot) (protocol : ProtocolId)
    (reason : String) :
    (carryOut (Calls.degradeSession session protocol reason) : FabricM ρ Unit) =
      degradeSession session protocol reason := by
  simp only [Calls.degradeSession, carryOut_bind, carryOut_ask]
  rfl

theorem carryOut_restorePosture (session : SessionSnapshot) :
    (carryOut (Calls.restorePosture session) : FabricM ρ Unit) = restorePosture session := by
  unfold Calls.restorePosture restorePosture
  split_ifs
  · rw [carryOut_ask]
    rfl
  · rfl

theorem carryOut_enforceSession (enforced : AuthorityPolicyEnforcement)
    (session : SessionSnapshot) (protocol : ProtocolId) (report : AuthorityReevaluationReport) :
    (carryOut (Calls.enforceSession enforced session protocol report) : FabricM ρ _) =
      enforceSession enforced session protocol report := by
  simp only [Calls.enforceSession, carryOut_bind, carryOut_ask]
  rfl

theorem carryOut_finishMigration (session : SessionSnapshot) (protocol : ProtocolId)
    (report : AuthorityReevaluationReport) (answer : Except TransportError SessionSnapshot) :
    (carryOut (Calls.finishMigration session protocol report answer) : FabricM ρ _) =
      finishMigration session protocol report answer := by
  cases answer with
  | ok migrated => rfl
  | error error =>
    simp only [Calls.finishMigration, carryOut_bind, carryOut_ask, carryOut_failAndCloseSession]
    rfl

theorem carryOut_migrateSession (session : SessionSnapshot) (protocol : ProtocolId)
    (route : RoutePlan) (report : AuthorityReevaluationReport) :
    (carryOut (Calls.migrateSession session protocol route report) : FabricM ρ _) =
      migrateSession session protocol route report := by
  simp only [Calls.migrateSession, carryOut_bind, carryOut_ask, carryOut_attempt,
    carryOut_finishMigration]
  rfl

theorem carryOut_followRoute (session : SessionSnapshot) (protocol : ProtocolId)
    (report : AuthorityReevaluationReport) (plan : Except DaemonStateError RoutePlan) :
    (carryOut (Calls.followRoute session protocol report plan) : FabricM ρ _) =
      followRoute session protocol report plan := by
  cases plan with
  | ok route =>
    simp only [Calls.followRoute, followRoute]
    split_ifs
    · simp only [carryOut_bind, carryOut_restorePosture, carryOut_pure]
    · exact carryOut_migrateSession session protocol route report
    · simp only [carryOut_bind, carryOut_degradeSession, carryOut_pure]
  | error error =>
    cases error with
    | noRoute peer =>
      simp only [Calls.followRoute, followRoute, carryOut_bind, carryOut_degradeSession,
        carryOut_pure]
    | _ => rfl

theorem carryOut_keepSession (state : DaemonState) (session : SessionSnapshot)
    (protocol : ProtocolId) (report : AuthorityReevaluationReport) :
    (carryOut (Calls.keepSession state session protocol report) : FabricM ρ _) =
      keepSession state session protocol report := by
  simp only [Calls.keepSession, carryOut_bind, carryOut_ask, carryOut_followRoute]
  rfl

theorem carryOut_reevaluateSession (state : DaemonState) (runtimePeerId : PeerId)
    (report : AuthorityReevaluationReport) (session : SessionSnapshot) :
    (carryOut (Calls.reevaluateSession state runtimePeerId report session) : FabricM ρ _) =
      reevaluateSession state runtimePeerId report session := by
  unfold Calls.reevaluateSession reevaluateSession
  cases session.protocol with
  | none => rfl
  | some protocol =>
    dsimp only
    cases state.authorityEnforcement runtimePeerId session.peer protocol with
    | some enforced => exact carryOut_enforceSession enforced session protocol _
    | none => exact carryOut_keepSession state session protocol _

theorem carryOut_suppressListener (listener : RuntimeListenerSnapshot) (reason : String)
    (report : AuthorityReevaluationReport) :
    (carryOut (Calls.suppressListener listener reason report) : FabricM ρ _) =
      suppressListener listener reason report := by
  simp only [Calls.suppressListener, carryOut_bind, carryOut_ask, suppressListener]
  split_ifs
  · rfl
  · simp only [carryOut_bind, carryOut_ask]
    rfl

theorem carryOut_reevaluateListener (state : DaemonState) (runtimePeerId : PeerId)
    (report : AuthorityReevaluationReport) (listener : RuntimeListenerSnapshot) :
    (carryOut (Calls.reevaluateListener state runtimePeerId report listener) : FabricM ρ _) =
      reevaluateListener state runtimePeerId report listener := by
  by_cases hfailed : listener.state = .failed
  · simp only [Calls.reevaluateListener, reevaluateListener, hfailed, if_true, carryOut_pure]
  · simp only [Calls.reevaluateListener, reevaluateListener, hfailed, if_false]
    cases listenerEnforcement state runtimePeerId listener with
    | some reason => exact carryOut_suppressListener listener reason _
    | none =>
      dsimp only
      split_ifs
      · simp only [carryOut_bind, carryOut_ask]
        rfl
      · rfl

theorem carryOut_reevaluateAuthority (state : DaemonState) (runtimePeerId : PeerId) :
    (carryOut (Calls.reevaluateAuthority state runtimePeerId) : FabricM ρ _) =
      reevaluateAuthority state runtimePeerId := by
  simp only [Calls.reevaluateAuthority, Calls.startReevaluation, Calls.reevaluateListeners,
    carryOut_bind, carryOut_ask, carryOut_foldlM, carryOut_reevaluateSession,
    carryOut_reevaluateListener]
  rfl

theorem carryOut_closeFailed (progress : ReconcileProgress) (session : SessionSnapshot)
    (closureReason : SessionClosureReason) (reason : String) :
    (carryOut (Calls.closeFailed progress session closureReason reason) : FabricM ρ _) =
      closeFailed progress session closureReason reason := by
  simp only [Calls.closeFailed, carryOut_bind, carryOut_failAndCloseSession, carryOut_pure]
  rfl

theorem carryOut_closeDenied (progress : ReconcileProgress) (session : SessionSnapshot)
    (reason : String) :
    (carryOut (Calls.closeDenied progress session reason) : FabricM ρ _) =
      closeDenied progress session reason := by
  simp only [Calls.closeDenied, carryOut_bind, carryOut_ask]
  rfl

theorem carryOut_finishUpgrade (progress : ReconcileProgress) (session : SessionSnapshot)
    (nextPathKind : PathKind) (answer : Except TransportError SessionSnapshot) :
    (carryOut (Calls.finishUpgrade progress session nextPathKind answer) : FabricM ρ _) =
      finishUpgrade progress session nextPathKind answer := by
  cases answer with
  | ok migrated => rfl
  | error error => exact carryOut_closeFailed progress session _ _

theorem carryOut_reconcileRoute (progress : ReconcileProgress) (session : SessionSnapshot)
    (plan : Except DaemonStateError RoutePlan) :
    (carryOut (Calls.reconcileRoute progress session plan) : FabricM ρ _) =
      reconcileRoute progress session plan := by
  cases plan with
  | ok route =>
    simp only [Calls.reconcileRoute, reconcileRoute]
    split_ifs
    · simp only [carryOut_bind, carryOut_ask]
      rfl
    · simp only [carryOut_bind, carryOut_ask, carryOut_attempt, carryOut_finishUpgrade]
      rfl
  | error error =>
    cases error with
    | noRoute peer => exact carryOut_closeFailed progress session _ _
    | _ => rfl

theorem carryOut_reconcileRegistered (progress : ReconcileProgress) (session : SessionSnapshot) :
    (carryOut (Calls.reconcileRegistered progress session) : FabricM ρ _) =
      reconcileRegistered progress session := by
  unfold Calls.reconcileRegistered reconcileRegistered
  cases session.protocol with
  | none => exact carryOut_closeFailed progress session _ _
  | some protocol =>
    dsimp only
    split_ifs
    · exact carryOut_reconcileRoute progress session _
    · exact carryOut_closeDenied progress session _

theorem carryOut_reconcileSession (progress : ReconcileProgress) (session : SessionSnapshot) :
    (carryOut (Calls.reconcileSession progress session) : FabricM ρ _) =
      reconcileSession progress session := by
  funext adapter
  simp only [Calls.reconcileSession, reconcileSession, carryOut_bind, carryOut_ask,
    TransportCall.handle]
  refine (bind_of_ok (moveSession_run _ _ _ _ _)).trans ?_
  refine Eq.trans ?_ (bind_of_ok (moveSession_run _ _ _ _ _)).symm
  rw [bind_of_ok (m := onTransport _) rfl, bind_of_ok (get_run _)]
  cases QuicTransportAdapter.sessionSnapshot _ session.sessionId with
  | none => rfl
  | some current => rw [carryOut_reconcileRegistered]

theorem carryOut_reconcileState (state : DaemonState) :
    (carryOut (Calls.reconcileState state) : FabricM ρ _) = reconcileState state := by
  simp only [Calls.reconcileState, carryOut_bind, carryOut_ask, carryOut_foldlM,
    carryOut_reconcileSession]
  rfl

theorem carryOut_realizeState (peer : PeerId) (protocol : ProtocolId)
    (trafficClass : TrafficClass) (state : DaemonState) :
    (carryOut (Calls.realizeState peer protocol trafficClass state) : FabricM ρ _) =
      realizeState peer protocol trafficClass state := by
  unfold Calls.realizeState realizeState
  dsimp only
  split_ifs
  · simp only [carryOut_bind, carryOut_ask, carryOut_planRoute]
    rfl
  · rfl

theorem carryOut_upgradeFound (state : DaemonState) (session : SessionSnapshot)
    (protocol : ProtocolId) :
    (carryOut (Calls.upgradeFound state session protocol) : FabricM ρ _) =
      upgradeFound state session protocol := by
  unfold Calls.upgradeFound upgradeFound
  dsimp only
  split_ifs
  · simp only [carryOut_bind, carryOut_ask, carryOut_planRoute]
    rfl
  · simp only [carryOut_bind, carryOut_ask]
    rfl

theorem carryOut_upgradeState (sessionId : SessionId) (state : DaemonState) :
    (carryOut (Calls.upgradeState sessionId state) : FabricM ρ _) =
      upgradeState sessionId state := by
  funext adapter
  simp only [Calls.upgradeState, upgradeState, carryOut_bind, carryOut_ask, TransportCall.handle]
  rw [bind_of_ok (m := onTransport _) rfl, bind_of_ok (get_run _)]
  cases adapter.sessionSnapshot sessionId with
  | none => rfl
  | some session =>
    cases hprotocol : session.protocol with
    | none => simp [hprotocol]
    | some protocol => simp only [hprotocol, carryOut_upgradeFound]

theorem carryOut_closeState (sessionId : SessionId) (state : DaemonState) :
    (carryOut (Calls.closeState sessionId state) : FabricM ρ _) = closeState sessionId state := by
  funext adapter
  simp only [Calls.closeState, closeState, carryOut_bind, carryOut_ask, TransportCall.handle]
  rw [bind_of_ok (m := onTransport _) rfl, bind_of_ok (get_run _)]
  cases adapter.sessionSnapshot sessionId with
  | none => rfl
  | some session =>
    simp only [carryOut_bind, carryOut_ask]
    rfl

/-! ## Requests to the control plane -/

inductive ControlOperation
  | upgradeSession (sessionId : SessionId)
  | closeSession (sessionId : SessionId)
  | reconcileSessions
  | reevaluateRuntimeAuthority (runtimeIdentity : IdentityKeypair)
  | realizeBestPath (peer : PeerId) (protocol : ProtocolId) (trafficClass : TrafficClass)

structure ControlRequest where
  operation : ControlOperation
  state : DaemonState

def ControlOperation.program (operation : ControlOperation) (state : DaemonState) :
    ControlProgram Unit :=
  match operation with
  | .upgradeSession sessionId => do let _ ← Calls.upgradeState sessionId state
  | .closeSession sessionId => do let _ ← Calls.closeState sessionId state
  | .reconcileSessions => do let _ ← Calls.reconcileState state
  | .reevaluateRuntimeAuthority runtimeIdentity => do
    let _ ← Calls.reevaluateAuthority state runtimeIdentity.peerId
  | .realizeBestPath peer protocol trafficClass => do
    let _ ← Calls.realizeState peer protocol trafficClass state

def ControlOperation.perform (config : DaemonConfig) : ControlOperation → ControlM ρ Unit
  | .upgradeSession sessionId => do let _ ← LocalControlPlane.upgradeSession config sessionId
  | .closeSession sessionId => LocalControlPlane.closeSession config sessionId
  | .reconcileSessions => do let _ ← LocalControlPlane.reconcileSessions config
  | .reevaluateRuntimeAuthority runtimeIdentity => do
    let _ ← LocalControlPlane.reevaluateRuntimeAuthority config runtimeIdentity
  | .realizeBestPath peer protocol trafficClass => do
    let _ ← LocalControlPlane.realizeBestPath config peer protocol trafficClass

def ControlRequest.program (request : ControlRequest) : ControlProgram Unit :=
  request.operation.program request.state

theorem transaction_final {α : Type} {config : DaemonConfig}
    {work : DaemonState → FabricM ρ (DaemonState × α)} {world opened : World ρ}
    {state : DaemonState} (hstate : LocalControlPlane.ensureState config world = .ok state opened) :
    (final (LocalControlPlane.transaction config work) world).transport =
      final (work state) world.transport := by
  have hopened := (LocalControlPlane.ensureState_ok hstate world.transport).2
  rw [final, LocalControlPlane.transaction_run hstate, final]
  cases hwork : work state world.transport <;>
    simp only [bind_run, withTransport, zoom, hopened, hwork, save, modify_run, pure_run]

theorem perform_transport {config : DaemonConfig} {world opened : World ρ} {state : DaemonState}
    (hstate : LocalControlPlane.ensureState config world = .ok state opened)
    (operation : ControlOperation) :
    (final (operation.perform config) world).transport =
      final (carryOut (operation.program state)) world.transport := by
  have hopened := (LocalControlPlane.ensureState_ok hstate world.transport).2
  cases operation with
  | upgradeSession sessionId =>
    simp only [ControlOperation.perform, ControlOperation.program, carryOut_bind,
      carryOut_upgradeState]
    refine (congrArg World.transport (final_bind_unit _ world)).trans ?_
    exact (transaction_final hstate).trans (final_bind_unit _ _).symm
  | closeSession sessionId =>
    simp only [ControlOperation.perform, ControlOperation.program, carryOut_bind,
      carryOut_closeState]
    exact (transaction_final hstate).trans (final_bind_unit _ _).symm
  | reconcileSessions =>
    simp only [ControlOperation.perform, ControlOperation.program, carryOut_bind,
      carryOut_reconcileState]
    refine (congrArg World.transport (final_bind_unit _ world)).trans ?_
    exact (transaction_final hstate).trans (final_bind_unit _ _).symm
  | reevaluateRuntimeAuthority runtimeIdentity =>
    simp only [ControlOperation.perform, ControlOperation.program, carryOut_bind,
      carryOut_reevaluateAuthority]
    refine (congrArg World.transport (final_bind_unit _ world)).trans ?_
    rw [LocalControlPlane.reevaluateRuntimeAuthority, final_bind_of_ok hstate, withTransport,
      final_zoom, hopened]
    exact (final_bind_unit _ _).symm
  | realizeBestPath peer protocol trafficClass =>
    simp only [ControlOperation.perform, ControlOperation.program, carryOut_bind,
      carryOut_realizeState]
    refine (congrArg World.transport (final_bind_unit _ world)).trans ?_
    exact (transaction_final hstate).trans (final_bind_unit _ _).symm

/-! ## What no call changes -/

/-- A preorder that background work keeps and every change of what is kept for the
sessions. -/
class SessionBookkeeping (R : QuicTransportAdapter ρ → QuicTransportAdapter ρ → Prop) : Prop
    extends Background R where
  registries : ∀ (adapter : QuicTransportAdapter ρ) (runtimeSessions : SessionRegistry)
    (terminalSessions : List RuntimeSessionRecord)
    (reconnectSuppressions : List ReconnectSuppression),
    R adapter { adapter with runtimeSessions, terminalSessions, reconnectSuppressions }

class Bookkeeping (R : QuicTransportAdapter ρ → QuicTransportAdapter ρ → Prop) : Prop
    extends SessionBookkeeping R where
  listeners : ∀ (adapter : QuicTransportAdapter ρ)
    (runtimeListeners : TreeMap String RuntimeListenerSnapshot),
    R adapter { adapter with runtimeListeners }

section Bookkeeping
variable {R : QuicTransportAdapter ρ → QuicTransportAdapter ρ → Prop} [SessionBookkeeping R]

omit [Primitives]

theorem moveSession_bookkeeping (sessionId : SessionId) (state : RuntimeSessionState)
    (closureReason : Option SessionClosureReason) (stateReason : Option String) :
    Moves R (moveSession sessionId state closureReason stateReason : QuicM ρ Unit) := by
  apply Moves.modify
  intro adapter
  unfold QuicTransportAdapter.updateSessionState
  split
  · exact refl adapter
  · refine IsTrans.trans _ _ _ (ticked_background adapter) ?_
    exact IsTrans.trans _ _ _ (SessionBookkeeping.registries _ _ _ _)
      (emitRuntimeEvent_background _ _ _ _)

theorem upsertRuntimeSession_bookkeeping (record : RuntimeSessionRecord) :
    Moves R (upsertRuntimeSession record : QuicM ρ Unit) := by
  refine Moves.bind (Moves.modifyGet fun _ => SessionBookkeeping.registries _ _ _ _) ?_
  intro previous
  exact announceSession_background record.snapshot previous

theorem closeSession_bookkeeping (session : SessionSnapshot) :
    Moves R (Quic.closeSession session : QuicM ρ Unit) := by
  have htake : Moves R (takeForClose session : QuicM ρ _) := by
    apply Moves.get_bind
    intro adapter
    refine Moves.bind (moveSession_bookkeeping _ _ _ _) (fun _ => ?_) adapter
    exact Moves.modifyGet fun _ => SessionBookkeeping.registries _ _ _ _
  refine Moves.bind htake ?_
  intro removed
  cases removed with
  | none => exact Moves.pure _
  | some active =>
    refine Moves.bind (closeOwnRelaySession_background active.snapshot) ?_
    intro _
    refine Moves.bind unixSecs_background ?_
    intro now
    refine Moves.bind (Moves.modify fun _ => SessionBookkeeping.registries _ _ _ _) ?_
    intro _
    exact emit_background _ _ _

theorem suppressReconnect_bookkeeping (key : SessionKey) (reason : String)
    (adapter : QuicTransportAdapter ρ) : R adapter (adapter.suppressReconnect key reason) := by
  refine IsTrans.trans _ _ _ (ticked_background adapter) ?_
  exact IsTrans.trans _ _ _ (SessionBookkeeping.registries _ _ _ _) (emitRuntimeEvent_background _ _ _ _)

theorem clearReconnectSuppression_bookkeeping (key : SessionKey)
    (adapter : QuicTransportAdapter ρ) : R adapter (adapter.clearReconnectSuppression key) := by
  unfold QuicTransportAdapter.clearReconnectSuppression
  split
  · exact SessionBookkeeping.registries _ _ _ _
  · exact IsTrans.trans _ _ _ (SessionBookkeeping.registries _ _ _ _)
      (emitRuntimeEvent_background _ _ _ _)

variable [Primitives]

theorem migrateExisting_bookkeeping (existing : SessionSnapshot) (route : RoutePlan) :
    Moves R (migrateExisting existing route : QuicM ρ SessionSnapshot) := by
  refine Moves.bind (sessionSnapshotForRoute_background route) ?_
  intro opened
  refine Moves.bind unixSecs_background ?_
  intro now
  refine Moves.bind (closeLeftRelaySession_background _ _) ?_
  intro _
  refine Moves.bind (upsertRuntimeSession_bookkeeping _) ?_
  intro _
  exact Moves.bind (emit_background _ _ _) fun _ => Moves.pure _

theorem migrate_bookkeeping (session : SessionSnapshot) (route : RoutePlan) :
    Moves R (Quic.migrate session route : QuicM ρ SessionSnapshot) := by
  refine Moves.bind (moveSession_bookkeeping _ _ _ _) ?_
  intro _
  apply Moves.get_bind
  intro adapter
  split
  · exact refl adapter
  · exact migrateExisting_bookkeeping _ route adapter

end Bookkeeping

section Listeners
variable {R : QuicTransportAdapter ρ → QuicTransportAdapter ρ → Prop} [Bookkeeping R]

theorem handle_bookkeeping {β : Type} (c : TransportCall β) :
    Moves R (c.handle : QuicM ρ β) := by
  cases c with
  | updateSessionState sessionId state closureReason stateReason =>
    exact moveSession_bookkeeping sessionId state closureReason stateReason
  | updateListenerState listenerId state stateReason =>
    exact Moves.modify fun _ => Bookkeeping.listeners _ _
  | connect route => exact connect_background (fun _ _ => SessionBookkeeping.registries _ _ _ _) route
  | migrate session route => exact migrate_bookkeeping session route
  | closeSession session => exact closeSession_bookkeeping session
  | suppressReconnect key reason => exact Moves.modify (suppressReconnect_bookkeeping key reason)
  | clearReconnectSuppression key =>
    exact Moves.modify (clearReconnectSuppression_bookkeeping key)
  | emitRuntimeEvent eventType subject details => exact emit_background eventType subject details
  | _ => exact fun adapter => refl adapter

theorem carryOut_bookkeeping {α : Type} (p : ControlProgram α) :
    Moves R (carryOut p : FabricM ρ α) :=
  Program.moves_exec _ handle_bookkeeping p

end Listeners

end Handler

end QuipNet.Fabric
