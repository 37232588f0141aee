import QuipNet.Json

/-!
# The daemon's control API

Requests and results of the operations that the daemon answers on its control socket.
A result keeps the fields of its type; its encoding is left to the response that carries
it. The decoder of request bodies and payloads is a parameter, an error of it is its text.
-/

namespace QuipNet

def Json.get (value : Json) (key : String) : Option Json :=
  match value with
  | .object fields => fields.lookup key
  | _ => none

def Json.asBool : Json → Option Bool
  | .bool value => some value
  | _ => none

def Json.asU64 : Json → Option ℕ
  | .number value => some value
  | _ => none

def Json.asStr : Json → Option String
  | .string text => some text
  | _ => none

end QuipNet

namespace QuipNet.DaemonApi

structure RequestEnvelope where
  requestId : String
  operation : String
  payload : Json

inductive ErrorCode
  | invalidRequest
  | unauthorized
  | notFound
  | runtimeUnavailable
  | staleRuntimeReference
  | policyRejected
  | authorityMismatch
  | stateValidationFailed
  | unsupportedOperation
  | internalError
deriving DecidableEq, Repr

structure ErrorObject where
  code : ErrorCode
  message : String
  details : Option Json

/-! ## Payloads -/

structure RuntimeDiagnosePayload where
  eventLimit : Option ℕ

structure StateExportPayload where
  outputPath : String
  passphrase : String
  hostname : String
  environment : String
  overwrite : Option Bool

structure StateResetPayload where
  scope : String
  confirmation : String

structure AuthoritySyncSnapshotPayload where
  authoritySnapshot : String

structure AuthoritySyncOriginPayload where
  authorityOrigin : String
  authoritySubject : Option String

structure AuthoritySyncRevocationsOriginPayload where
  authorityOrigin : String

structure SessionConnectPayload where
  peerId : String
  protocol : String
  trafficClass : Option String

structure SessionClosePayload where
  sessionId : String
  reason : Option String

structure SessionUpgradePayload where
  sessionId : String

/-- The session id of a reconcile request is read and not used. -/
structure SessionReconcilePayload where
  sessionId : Option String

/-- `serde_json::from_slice` for the envelope and `from_value` for the payloads. -/
class PayloadDecoder where
  envelope : List UInt8 → Except String RequestEnvelope
  runtimeDiagnose : Json → Except String RuntimeDiagnosePayload
  stateExport : Json → Except String StateExportPayload
  stateReset : Json → Except String StateResetPayload
  authoritySyncSnapshot : Json → Except String AuthoritySyncSnapshotPayload
  authoritySyncOrigin : Json → Except String AuthoritySyncOriginPayload
  authoritySyncRevocationsOrigin : Json → Except String AuthoritySyncRevocationsOriginPayload
  sessionConnect : Json → Except String SessionConnectPayload
  sessionClose : Json → Except String SessionClosePayload
  sessionUpgrade : Json → Except String SessionUpgradePayload
  sessionReconcile : Json → Except String SessionReconcilePayload

/-! ## Results -/

structure IdentityStatus where
  status : String
  path : String
  nodeId : String

structure DurableStateStatus where
  status : String
  path : String
  schemaVersion : ℕ

structure AuthoritySyncStatus where
  syncStatus : String
  lastAcceptedRevision : String
  health : String
  localPolicyDenied : Bool
  authoritySubjectMismatch : Bool
  reevaluatedSessions : ℕ
  closedSessions : ℕ
  degradedSessions : ℕ
  migratedSessions : ℕ
  unchangedSessions : ℕ
  reevaluatedListeners : ℕ
  suppressedListeners : ℕ
  restoredListeners : ℕ
  reconnectSuppressionsAdded : ℕ
  reconnectSuppressionsCleared : ℕ
  localPolicyReason : Option String

structure RuntimeSummary where
  sessionCount : ℕ
  activePathCount : ℕ
  reconnectState : String

structure RuntimeStatusResult where
  truthKind : String
  daemonHealth : String
  identity : IdentityStatus
  durableState : DurableStateStatus
  authority : AuthoritySyncStatus
  runtimeSummary : RuntimeSummary

structure IdentityShowResult where
  truthKind : String
  status : String
  identityPath : String
  nodeId : String
  publicKeyHex : String
  durableStatePeerId : Option String
  authoritySubjectPeerId : Option String
  stateBindingStatus : String

structure IdentityVerifyResult where
  truthKind : String
  identityPath : String
  expectedNodeId : Option String
  loadedNodeId : String
  authoritySubjectPeerId : Option String
  matchResult : String
  mismatchReasons : List String

structure DurableStateViolationEntry where
  path : String
  message : String

structure DurableStateSummaryResult where
  network : String
  localPeerId : String
  roles : List String
  bootstrapHints : ℕ
  relays : ℕ
  peers : ℕ
  capabilityGrants : ℕ
  revocations : ℕ
  deniedPeers : ℕ
  pathCandidates : ℕ

structure StateShowResult where
  truthKind : String
  statePath : String
  present : Bool
  schemaVersion : Option ℕ
  valid : Bool
  violations : List DurableStateViolationEntry
  summary : Option DurableStateSummaryResult

structure StateValidateResult where
  truthKind : String
  statePath : String
  present : Bool
  schemaVersion : Option ℕ
  valid : Bool
  violations : List DurableStateViolationEntry

structure StateResetResult where
  truthKind : String
  identityPreserved : Bool
  networkStateReset : Bool
  nextAction : String

structure StateExportResult where
  truthKind : String
  bundlePath : String
  createdAtUnixSecs : ℕ
  hostname : String
  environment : String
  network : String
  identitySha256Hex : String
  stateSha256Hex : String
  durableStatePresent : Bool
  durableStateValid : Bool

structure RuntimeSessionEntry where
  sessionId : String
  peerId : String
  state : String
  closureReason : Option String
  stateReason : Option String
  activePathClass : String
  ageSeconds : ℕ
  lastActivitySeconds : ℕ

structure RuntimeDiagnosisIssue where
  code : String
  severity : String
  layer : String
  summary : String

structure RuntimeListenerEntry where
  listenerId : String
  transport : String
  bindSummary : String
  protocol : String
  advertise : Bool
  state : String
  stateReason : Option String
  ageSeconds : ℕ

structure RuntimePathAlternativeEntry where
  pathClass : String
  source : String
  relayPeerId : Option String
  score : UInt32
  summary : String

structure RuntimePathEntry where
  sessionId : Option String
  peerId : String
  protocol : Option String
  trafficClass : String
  state : String
  pathClass : String
  source : String
  relayPeerId : Option String
  endpointSummary : String
  score : Option UInt32
  stateReason : Option String
  decisionReason : Option String
  summary : String
  alternatives : List RuntimePathAlternativeEntry

structure RuntimeEventEntry where
  eventId : String
  eventType : String
  emittedAt : String
  truthKind : String
  subjectKind : String
  subjectId : String
  details : Json

structure RuntimeHealthResult where
  truthKind : String
  daemonReadiness : String
  authoritySyncHealth : String
  authoritySubjectStatus : String
  authorityDenyReason : Option String
  runtimeRegistryHealth : String
  pathManagerHealth : String
  reconnectSubsystemHealth : String
  activeSessions : ℕ
  activePaths : ℕ
  activeListeners : ℕ
  reconnectState : String
  reconnectAttemptCount : ℕ
  reconnectNextAttemptUnixSecs : Option ℕ
  reconnectSuppressionCount : ℕ
  runtimeEventBufferDepth : ℕ

structure AuthorityShowResult where
  truthKind : String
  configuredOrigin : Option String
  configuredSubject : Option String
  configuredSnapshot : Option String
  network : String
  localPeerId : String
  membershipSubjectPeerId : String
  membershipIssuerPeerId : String
  membershipRoles : List String
  grants : ℕ
  revocations : ℕ
  deniedPeers : ℕ
  bootstrapHints : ℕ
  relays : ℕ
  schemaVersion : ℕ
  authority : AuthoritySyncStatus

structure RuntimeDiagnoseResult where
  truthKind : String
  primaryClassification : String
  issues : List RuntimeDiagnosisIssue
  status : RuntimeStatusResult
  health : RuntimeHealthResult
  state : StateShowResult
  identity : IdentityVerifyResult
  authorityShow : AuthorityShowResult
  sessions : List RuntimeSessionEntry
  listeners : List RuntimeListenerEntry
  paths : List RuntimePathEntry
  events : List RuntimeEventEntry

structure AuthorityMembershipResult where
  truthKind : String
  network : String
  subjectPeerId : String
  issuerPeerId : String
  issuedAt : ℕ
  expiresAt : ℕ
  roles : List String
  schemaVersion : ℕ

structure AuthorityCapabilityGrantEntry where
  subjectPeerId : String
  issuerPeerId : String
  sequence : ℕ
  notBefore : ℕ
  expiresAt : ℕ
  capabilities : List String
  protocols : List String
  bandwidthBps : Option ℕ
  concurrentStreams : Option ℕ
  maxObjectBytes : Option ℕ
  constraints : List String

structure AuthorityCapabilitiesResult where
  truthKind : String
  network : String
  subjectPeerId : String
  schemaVersion : ℕ
  grants : List AuthorityCapabilityGrantEntry

structure AuthorityRevocationEntry where
  sequence : ℕ
  issuerPeerId : String
  effectiveAt : ℕ
  reason : String
  target : String
  note : Option String

structure AuthorityRevocationsResult where
  truthKind : String
  network : String
  schemaVersion : ℕ
  revocations : List AuthorityRevocationEntry

structure AuthoritySyncResult where
  truthKind : String
  authoritySource : String
  authorityOrigin : Option String
  authoritySubject : Option String
  authoritySnapshot : Option String
  network : String
  localPeerId : String
  grantsAdded : ℕ
  grantsRemoved : ℕ
  revocationsAdded : ℕ
  bootstrapHintsAdded : ℕ
  bootstrapHintsRemoved : ℕ
  relayAnnouncementsAdded : ℕ
  membershipChanged : Bool
  authority : AuthoritySyncStatus

structure SessionConnectSummary where
  sessionId : String
  state : String
  initialPathClass : String
  stateReason : Option String

structure SessionCloseResult where
  truthKind : String
  closedSessionId : String
  finalState : String
  closureReason : Option String

structure SessionUpgradeResult where
  truthKind : String
  sessionId : String
  priorPathClass : String
  resultingPathClass : String
  state : String

structure SessionReconcileEntry where
  sessionId : String
  peerId : String
  disposition : String
  reason : String
  pathClass : String

structure SessionReconcileResult where
  truthKind : String
  examined : ℕ
  unchanged : ℕ
  upgraded : ℕ
  closed : ℕ
  entries : List SessionReconcileEntry

inductive ControlResult
  | runtimeStatus (result : RuntimeStatusResult)
  | runtimeSessions (truthKind : String) (sessions : List RuntimeSessionEntry)
  | runtimeDiagnose (result : RuntimeDiagnoseResult)
  | runtimeListeners (truthKind : String) (listeners : List RuntimeListenerEntry)
  | runtimePaths (truthKind : String) (paths : List RuntimePathEntry)
  | runtimeHealth (result : RuntimeHealthResult)
  | runtimeEvents (truthKind : String) (events : List RuntimeEventEntry)
  | authorityShow (result : AuthorityShowResult)
  | authorityMembership (result : AuthorityMembershipResult)
  | authorityCapabilities (result : AuthorityCapabilitiesResult)
  | authorityRevocations (result : AuthorityRevocationsResult)
  | identityShow (result : IdentityShowResult)
  | identityVerify (result : IdentityVerifyResult)
  | stateShow (result : StateShowResult)
  | stateValidate (result : StateValidateResult)
  | stateExport (result : StateExportResult)
  | stateReset (result : StateResetResult)
  | authoritySync (result : AuthoritySyncResult)
  | sessionConnect (truthKind : String) (session : SessionConnectSummary)
  | sessionClose (result : SessionCloseResult)
  | sessionUpgrade (result : SessionUpgradeResult)
  | sessionReconcile (result : SessionReconcileResult)

/-! ## Responses -/

structure ResponseEnvelope where
  ok : Bool
  requestId : String
  result : Option ControlResult
  error : Option ErrorObject

namespace ResponseEnvelope

def success (requestId : String) (result : ControlResult) : ResponseEnvelope :=
  ⟨true, requestId, some result, none⟩

def failure (requestId : String) (code : ErrorCode) (message : String) (details : Option Json) :
    ResponseEnvelope :=
  ⟨false, requestId, none, some ⟨code, message, details⟩⟩

def mapErrorStatus (response : ResponseEnvelope) : ℕ :=
  match response.error.map ErrorObject.code with
  | some .invalidRequest => 400
  | some .unauthorized => 401
  | some .notFound => 404
  | some .runtimeUnavailable => 503
  | some .staleRuntimeReference => 409
  | some .policyRejected => 403
  | some .authorityMismatch => 409
  | some .stateValidationFailed => 422
  | some .unsupportedOperation => 404
  | some .internalError | none => 500

end ResponseEnvelope

end QuipNet.DaemonApi
