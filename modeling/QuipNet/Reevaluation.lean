import QuipNet.AuthorityState
import QuipNet.Quic

/-!
# Authority reevaluation of the running sessions

What `reevaluate_runtime_authority` does once it holds the daemon state: a pass
over the sessions that were registered when it began, then one over the
listeners. A session that policy no longer allows is closed and its key
suppressed; an allowed one has its key cleared and is kept, migrated or marked
degraded, and is closed and suppressed when its migration fails. An error on the
way ends the pass.
-/

open Std
namespace QuipNet.Fabric
open QuipNet.Library.Effect QuipNet.Quic QuipNet.Transport

variable {ρ : Type}

abbrev FabricM (ρ : Type) := EStateM DaemonStateError (QuicTransportAdapter ρ)

def onTransport {α : Type} (m : QuicM ρ α) : FabricM ρ α := mapError .transport m

def authoritySubject (peer : PeerId) : RuntimeEventSubject := ⟨"authority", peer.toText⟩

/-! ## The verdict on a session -/

inductive AuthorityPolicyCause
  | subjectMismatch
  | localMembershipDenied
  | peerMembershipDenied
  | capabilityDenied
deriving DecidableEq, Repr

def AuthorityPolicyCause.label : AuthorityPolicyCause → String
  | .subjectMismatch => "subject_mismatch"
  | .localMembershipDenied => "local_membership_denied"
  | .peerMembershipDenied => "peer_membership_denied"
  | .capabilityDenied => "capability_denied"

structure AuthorityPolicyEnforcement where
  cause : AuthorityPolicyCause
  reason : String
deriving DecidableEq, Repr

def classifyRemotePolicyCause (state : DaemonState) (peer : PeerId) (reason : String) :
    AuthorityPolicyCause :=
  if (state.denyReason peer).isSome || contains reason "revoked" || contains reason "denied" then
    .peerMembershipDenied
  else .capabilityDenied

namespace DaemonState

def authoritySubjectMismatch (state : DaemonState) (runtimePeerId : PeerId) : Bool :=
  state.membership.subjectPeerId ≠ runtimePeerId

def localPolicyReason (state : DaemonState) (runtimePeerId : PeerId) : Option String :=
  if state.authoritySubjectMismatch runtimePeerId then
    some ("authority subject " ++ state.membership.subjectPeerId.toText ++
      " does not match runtime identity " ++ runtimePeerId.toText)
  else state.denyReason state.localPeerId

theorem localPolicyReason_isSome_iff (state : DaemonState) (runtimePeerId : PeerId) :
    (state.localPolicyReason runtimePeerId).isSome = true ↔
      state.membership.subjectPeerId ≠ runtimePeerId ∨
        (state.denyReason state.localPeerId).isSome = true := by
  unfold localPolicyReason authoritySubjectMismatch
  by_cases hsubject : state.membership.subjectPeerId = runtimePeerId <;> simp [hsubject]

/-- The enforcement against sessions with this peer and protocol, if policy denies them. -/
def authorityEnforcement [Primitives] (state : DaemonState) (runtimePeerId peer : PeerId)
    (protocol : ProtocolId) : Option AuthorityPolicyEnforcement :=
  let policy := state.explainPolicy peer protocol
  match state.localPolicyReason runtimePeerId with
  | some reason =>
    some ⟨if state.authoritySubjectMismatch runtimePeerId then .subjectMismatch
      else .localMembershipDenied, reason⟩
  | none =>
    if policy.allowed then none
    else some ⟨classifyRemotePolicyCause state peer policy.reason, policy.reason⟩

end DaemonState

def sessionMatchesRoute (session : SessionSnapshot) (route : RoutePlan) : Bool :=
  if session.pathKind ≠ route.pathKind ∨ session.trafficClass ≠ route.trafficClass then false
  else if session.protocol ≠ route.protocol then false
  else
    match route.remoteEndpoints.head? with
    | none => false
    | some remoteEndpoint =>
      if session.remoteEndpoint ≠ remoteEndpoint then false
      else
        match session.relayPeer, route.relay with
        | none, none => true
        | some peer, some relay =>
          session.relayControlEndpoint = some relay.relayControlEndpoint &&
            peer = relay.relayPeer && session.relayEndpoint = relay.relayEndpoints.head?
        | _, _ => false

/-! ## The report -/

structure AuthorityReevaluationReport where
  reevaluatedSessions : ℕ := 0
  closedSessions : ℕ := 0
  degradedSessions : ℕ := 0
  migratedSessions : ℕ := 0
  unchangedSessions : ℕ := 0
  reevaluatedListeners : ℕ := 0
  suppressedListeners : ℕ := 0
  restoredListeners : ℕ := 0
  reconnectSuppressionsAdded : ℕ := 0
  reconnectSuppressionsCleared : ℕ := 0
  localPolicyDenied : Bool
  authoritySubjectMismatch : Bool
  subjectMismatchSessions : ℕ := 0
  localMembershipDeniedSessions : ℕ := 0
  peerMembershipDeniedSessions : ℕ := 0
  capabilityDeniedSessions : ℕ := 0
  localPolicyReason : Option String
deriving DecidableEq, Repr

namespace AuthorityReevaluationReport

def start (state : DaemonState) (runtimePeerId : PeerId) : AuthorityReevaluationReport where
  localPolicyDenied := (state.localPolicyReason runtimePeerId).isSome
  authoritySubjectMismatch := state.authoritySubjectMismatch runtimePeerId
  localPolicyReason := state.localPolicyReason runtimePeerId

def countCause (report : AuthorityReevaluationReport) :
    AuthorityPolicyCause → AuthorityReevaluationReport
  | .subjectMismatch => { report with subjectMismatchSessions := report.subjectMismatchSessions + 1 }
  | .localMembershipDenied =>
    { report with localMembershipDeniedSessions := report.localMembershipDeniedSessions + 1 }
  | .peerMembershipDenied =>
    { report with peerMembershipDeniedSessions := report.peerMembershipDeniedSessions + 1 }
  | .capabilityDenied =>
    { report with capabilityDeniedSessions := report.capabilityDeniedSessions + 1 }

def countSuppression (report : AuthorityReevaluationReport) (present : Bool) :
    AuthorityReevaluationReport :=
  if present then report
  else { report with reconnectSuppressionsAdded := report.reconnectSuppressionsAdded + 1 }

def countCleared (report : AuthorityReevaluationReport) (present : Bool) :
    AuthorityReevaluationReport :=
  if present then
    { report with reconnectSuppressionsCleared := report.reconnectSuppressionsCleared + 1 }
  else report

def countClosed (report : AuthorityReevaluationReport) : AuthorityReevaluationReport :=
  { report with closedSessions := report.closedSessions + 1 }

def countDegraded (report : AuthorityReevaluationReport) : AuthorityReevaluationReport :=
  { report with degradedSessions := report.degradedSessions + 1 }

def policyClosures (report : AuthorityReevaluationReport) : ℕ :=
  report.subjectMismatchSessions + report.localMembershipDeniedSessions +
    report.peerMembershipDeniedSessions + report.capabilityDeniedSessions

theorem policyClosures_countCause (report : AuthorityReevaluationReport)
    (cause : AuthorityPolicyCause) :
    (report.countCause cause).policyClosures = report.policyClosures + 1 := by
  cases cause <;> simp only [countCause, policyClosures] <;> omega

def details (report : AuthorityReevaluationReport) : Json :=
  .object [("reevaluated_sessions", .number report.reevaluatedSessions),
    ("closed_sessions", .number report.closedSessions),
    ("degraded_sessions", .number report.degradedSessions),
    ("migrated_sessions", .number report.migratedSessions),
    ("unchanged_sessions", .number report.unchangedSessions),
    ("reevaluated_listeners", .number report.reevaluatedListeners),
    ("suppressed_listeners", .number report.suppressedListeners),
    ("restored_listeners", .number report.restoredListeners),
    ("reconnect_suppressions_added", .number report.reconnectSuppressionsAdded),
    ("reconnect_suppressions_cleared", .number report.reconnectSuppressionsCleared),
    ("local_policy_denied", .bool report.localPolicyDenied),
    ("authority_subject_mismatch", .bool report.authoritySubjectMismatch),
    ("subject_mismatch_sessions", .number report.subjectMismatchSessions),
    ("local_membership_denied_sessions", .number report.localMembershipDeniedSessions),
    ("peer_membership_denied_sessions", .number report.peerMembershipDeniedSessions),
    ("capability_denied_sessions", .number report.capabilityDeniedSessions),
    ("local_policy_reason", Json.option .string report.localPolicyReason)]

end AuthorityReevaluationReport

/-! ## One session -/

def suppressionPresent (adapter : QuicTransportAdapter ρ) (key : SessionKey) : Bool :=
  adapter.reconnectSuppressions.any fun entry => entry.key = key

def recordPathFailureEvent (session : SessionSnapshot) (cause reason : String) : FabricM ρ Unit :=
  modify (QuicTransportAdapter.emitRuntimeEvent "path.failed" (sessionSubject session.sessionId)
    (.object [("peer_id", .string session.peer.toText),
      ("protocol", protocolJson session.protocol), ("class", .string session.trafficClass.debug),
      ("path_class", .string session.pathKind.debug), ("cause", .string cause),
      ("reason", .string reason)]))

def failAndCloseSession (session : SessionSnapshot) (closureReason : SessionClosureReason)
    (stateReason : String) : FabricM ρ Unit := do
  onTransport (moveSession session.sessionId .failed (some closureReason) (some stateReason))
  recordPathFailureEvent session closureReason.label stateReason
  onTransport (closeSession session)

def sessionPathDetails (session : SessionSnapshot) (protocol : ProtocolId) (reason : String) : Json :=
  .object [("peer_id", .string session.peer.toText), ("protocol", .string protocol.text),
    ("class", .string session.trafficClass.debug), ("reason", .string reason)]

def degradeSession (session : SessionSnapshot) (protocol : ProtocolId) (reason : String) :
    FabricM ρ Unit := do
  onTransport (moveSession session.sessionId .degraded none (some reason))
  modify (QuicTransportAdapter.emitRuntimeEvent "path.degraded" (sessionSubject session.sessionId)
    (sessionPathDetails session protocol reason))

def restorePosture (session : SessionSnapshot) : FabricM ρ Unit :=
  if session.state = .degraded then
    onTransport (moveSession session.sessionId .active none
      (some "authority reevaluation restored the selected path posture"))
  else pure ()

section Sessions
variable [Primitives]

def enforceSession (enforced : AuthorityPolicyEnforcement) (session : SessionSnapshot)
    (protocol : ProtocolId) (report : AuthorityReevaluationReport) :
    FabricM ρ AuthorityReevaluationReport := do
  let key : SessionKey := ⟨session.peer, some protocol, session.trafficClass⟩
  let present := suppressionPresent (← get) key
  modify (QuicTransportAdapter.suppressReconnect key enforced.reason)
  onTransport (moveSession session.sessionId .closing (some .policyRejected)
    (some enforced.reason))
  modify (QuicTransportAdapter.emitRuntimeEvent "authority.policy_enforced"
    (sessionSubject session.sessionId)
    (.object [("peer_id", .string session.peer.toText), ("protocol", .string protocol.text),
      ("class", .string session.trafficClass.debug),
      ("action", .string "close_and_suppress_reconnect"), ("cause", .string enforced.cause.label),
      ("reason", .string enforced.reason), ("local_policy_denied", .bool report.localPolicyDenied),
      ("authority_subject_mismatch", .bool report.authoritySubjectMismatch)]))
  onTransport (closeSession session)
  pure ((report.countSuppression present).countCause enforced.cause).countClosed

def migrationReason : String := "authority reevaluation selected a different eligible path"

/-- What follows the answer of `migrate`. -/
def finishMigration (session : SessionSnapshot) (protocol : ProtocolId)
    (report : AuthorityReevaluationReport) :
    Except TransportError SessionSnapshot → FabricM ρ AuthorityReevaluationReport
  | .ok _ => pure { report with migratedSessions := report.migratedSessions + 1 }
  | .error error => do
    let reason := "authority reevaluation migration failed: " ++ error.text
    failAndCloseSession session .localRuntimeFailure reason
    modify (QuicTransportAdapter.suppressReconnect
      ⟨session.peer, some protocol, session.trafficClass⟩ reason)
    pure report.countClosed

def migrateSession (session : SessionSnapshot) (protocol : ProtocolId) (route : RoutePlan)
    (report : AuthorityReevaluationReport) : FabricM ρ AuthorityReevaluationReport := do
  modify (QuicTransportAdapter.emitRuntimeEvent "path.migration_started"
    (sessionSubject session.sessionId) (sessionPathDetails session protocol migrationReason))
  onTransport (moveSession session.sessionId .migrating none (some migrationReason))
  finishMigration session protocol report (← attempt (migrate session route))

def followRoute (session : SessionSnapshot) (protocol : ProtocolId)
    (report : AuthorityReevaluationReport) :
    Except DaemonStateError RoutePlan → FabricM ρ AuthorityReevaluationReport
  | .ok route =>
    if sessionMatchesRoute session route then do
      restorePosture session
      pure { report with unchangedSessions := report.unchangedSessions + 1 }
    else if session.migrationCapable then migrateSession session protocol route report
    else do
      degradeSession session protocol ("authority reevaluation selected a different eligible " ++
        "path but the active session cannot migrate")
      pure report.countDegraded
  | .error (.noRoute _) => do
    degradeSession session protocol ("authority reevaluation found no eligible replacement " ++
      "path; keeping the current session alive in degraded posture")
    pure report.countDegraded
  | .error error => throw error

def keepSession (state : DaemonState) (session : SessionSnapshot) (protocol : ProtocolId)
    (report : AuthorityReevaluationReport) : FabricM ρ AuthorityReevaluationReport := do
  let key : SessionKey := ⟨session.peer, some protocol, session.trafficClass⟩
  let present := suppressionPresent (← get) key
  modify (QuicTransportAdapter.clearReconnectSuppression key)
  followRoute session protocol (report.countCleared present)
    (state.routePlan session.peer (some protocol) session.trafficClass)

def reevaluateSession (state : DaemonState) (runtimePeerId : PeerId)
    (report : AuthorityReevaluationReport) (session : SessionSnapshot) :
    FabricM ρ AuthorityReevaluationReport :=
  match session.protocol with
  | none => pure report
  | some protocol =>
    let report := { report with reevaluatedSessions := report.reevaluatedSessions + 1 }
    match state.authorityEnforcement runtimePeerId session.peer protocol with
    | some enforced => enforceSession enforced session protocol report
    | none => keepSession state session protocol report

/-! ## Listeners and the whole pass -/

def listenerEnforcement (state : DaemonState) (runtimePeerId : PeerId)
    (listener : RuntimeListenerSnapshot) : Option String :=
  (state.localPolicyReason runtimePeerId).or
    (let decision := state.explainLocalProtocolPolicy listener.protocol
     if decision.allowed then none else some decision.reason)

def suppressListener (listener : RuntimeListenerSnapshot) (reason : String)
    (report : AuthorityReevaluationReport) : FabricM ρ AuthorityReevaluationReport := do
  modify (QuicTransportAdapter.updateListenerState listener.listenerId .suppressed (some reason))
  if listener.state = .suppressed ∧ listener.stateReason = some reason then pure report
  else do
    modify (QuicTransportAdapter.emitRuntimeEvent "authority.policy_enforced"
      ⟨"listener", listener.listenerId⟩
      (.object [("listener_id", .string listener.listenerId),
        ("protocol", .string listener.protocol.text), ("action", .string "suppress_listener"),
        ("reason", .string reason), ("local_policy_denied", .bool report.localPolicyDenied),
        ("authority_subject_mismatch", .bool report.authoritySubjectMismatch)]))
    pure { report with suppressedListeners := report.suppressedListeners + 1 }

def reevaluateListener (state : DaemonState) (runtimePeerId : PeerId)
    (report : AuthorityReevaluationReport) (listener : RuntimeListenerSnapshot) :
    FabricM ρ AuthorityReevaluationReport :=
  let report := { report with reevaluatedListeners := report.reevaluatedListeners + 1 }
  if listener.state = .failed then pure report
  else
    match listenerEnforcement state runtimePeerId listener with
    | some reason => suppressListener listener reason report
    | none =>
      if listener.state = .suppressed then do
        modify (QuicTransportAdapter.updateListenerState listener.listenerId .active none)
        pure { report with restoredListeners := report.restoredListeners + 1 }
      else pure report

def startReevaluation (state : DaemonState) (runtimePeerId : PeerId)
    (adapter : QuicTransportAdapter ρ) : QuicTransportAdapter ρ :=
  adapter.emitRuntimeEvent "authority.reevaluation_started" (authoritySubject runtimePeerId)
    (.object [("active_sessions", .number adapter.activeSessions.length),
      ("authority_subject_peer_id", .string state.membership.subjectPeerId.toText),
      ("runtime_peer_id", .string runtimePeerId.toText),
      ("authority_subject_mismatch", .bool (state.authoritySubjectMismatch runtimePeerId)),
      ("local_policy_reason", Json.option .string (state.localPolicyReason runtimePeerId))])

def reevaluateListeners (state : DaemonState) (runtimePeerId : PeerId)
    (report : AuthorityReevaluationReport) : FabricM ρ AuthorityReevaluationReport := do
  let listeners := (← get).activeListeners
  let report ← listeners.foldlM (reevaluateListener state runtimePeerId) report
  modify (QuicTransportAdapter.emitRuntimeEvent "authority.reevaluation_completed"
    (authoritySubject runtimePeerId) report.details)
  pure report

def reevaluateAuthority (state : DaemonState) (runtimePeerId : PeerId) :
    FabricM ρ AuthorityReevaluationReport := do
  modify (startReevaluation state runtimePeerId)
  let sessions := (← get).activeSessions
  let report ← sessions.foldlM (reevaluateSession state runtimePeerId)
    (.start state runtimePeerId)
  reevaluateListeners state runtimePeerId report

end Sessions

end QuipNet.Fabric
