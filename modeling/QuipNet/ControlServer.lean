import QuipNet.Backups
import QuipNet.ControlApi
import QuipNet.Cycle
import QuipNet.SessionIdText
import QuipNet.SessionLedger

/-!
# The daemon's control server

One thread reads requests from the control socket and answers them one after the other,
each by an operation on the state file and the transport. An operation ends with a result
or a refusal; what it wrote before a refusal stays. A refusal by a panic ends the thread.
-/

open Std
namespace QuipNet.Daemon
open QuipNet.Backup QuipNet.Control QuipNet.DaemonApi QuipNet.Fabric QuipNet.Library.Effect
open QuipNet.Quic QuipNet.Routing QuipNet.SessionIds QuipNet.Transport

variable {ρ : Type}

structure ServerArgs extends Args where
  network : String
  statePath : String
  identityPath : String

/-- What an export finds: the crates and the system's answers, the other files and the other
names of the state file, and the state file in bytes. A bundle and any part of one do not load
as a state, with this error. -/
structure ExportSurroundings where
  codec : BackupCodec
  machine : ExportMachine
  files : Files
  aliases : String → Bool
  stateBytes : StateFile → List UInt8
  loadError : List UInt8 → DaemonStateError

structure ServerSurroundings extends Surroundings where
  inspectDamaged : DaemonStateError → Except DaemonStateError DurableStateInspectionReport
  exports : ExportSurroundings

inductive Refusal
  | daemon (error : DaemonStateError)
  | api (code : ErrorCode) (message : String) (details : Option Json)
  | panicked

abbrev ServerM (ρ : Type) := EStateM Refusal (World ρ)

def onPlane {α : Type} (m : ControlM ρ α) : ServerM ρ α := mapError .daemon m

def refuse {α : Type} (code : ErrorCode) (message : String) : ServerM ρ α :=
  throw (.api code message none)

def currentUnixSecs : ServerM ρ ℕ := modifyGet fun world =>
  (world.transport.currentUnixSecs, { world with transport := world.transport.ticked })

def recordRuntimeEvent (eventType : String) (subject : RuntimeEventSubject) (details : Json) :
    ServerM ρ Unit :=
  modify fun world =>
    { world with transport := world.transport.emitRuntimeEvent eventType subject details }

namespace ExportSurroundings
variable (surroundings : ExportSurroundings) (request : DurableBackupExportRequest)

def leadsToState (path : String) : Bool := path = request.statePath || surroundings.aliases path

def filesWith (stateFile : Option StateFile) : Files := fun path =>
  if surroundings.leadsToState request path then stateFile.map surroundings.stateBytes
  else surroundings.files path

def stateFileOf (files : Files) (stateFile : Option StateFile) : Option StateFile :=
  if surroundings.leadsToState request request.outputPath = true ∧
      files request.outputPath ≠ stateFile.map surroundings.stateBytes then
    (files request.outputPath).map fun bytes => .damaged (surroundings.loadError bytes)
  else stateFile

end ExportSurroundings

/-- `daemon_error_response` gives both errors that only bundles have as internal ones. -/
def backupRefusal : BackupError → Refusal
  | .durable error => .daemon error
  | error => .api .internalError error.text none

/-- The export, on the files of which one is the state file. -/
def exportBackup (surroundings : ExportSurroundings) (request : DurableBackupExportRequest) :
    ServerM ρ DurableBackupExportReport :=
  mapError backupRefusal (zoom
    (fun world => surroundings.filesWith request world.stateFile)
    (fun files world =>
      { world with stateFile := surroundings.stateFileOf request files world.stateFile })
    (@exportBackupBundle surroundings.codec surroundings.machine request))

def decoded {α : Type} (payload : String) (answer : Except String α) : ServerM ρ α :=
  match answer with
  | .ok value => pure value
  | .error error => refuse .invalidRequest ("invalid " ++ payload ++ " payload: " ++ error)

/-! ## Labels -/

def pathSourceLabel : PathSource → String
  | .observed => "observed"
  | .bootstrap => "bootstrap"
  | .authorityRelay => "authority_relay"

def runtimePathStateLabel : RuntimePathState → String
  | .candidate => "candidate"
  | .active => "active"
  | .degraded => "degraded"
  | .migrating => "migrating"
  | .failed => "failed"
  | .suppressed => "suppressed"

def runtimeListenerStateLabel : RuntimeListenerState → String
  | .active => "active"
  | .failed => "failed"
  | .suppressed => "suppressed"

def runtimeHealthLevelLabel : RuntimeHealthLevel → String
  | .ready => "ready"
  | .degraded => "degraded"
  | .failed => "failed"
  | .suppressed => "suppressed"

def runtimeReconnectStateLabel : RuntimeReconnectState → String
  | .idle => "idle"
  | .active => "active"
  | .suppressed => "suppressed"
  | .failed => "failed"

def reconcileDispositionLabel : SessionReconcileDisposition → String
  | .unchanged => "unchanged"
  | .upgraded => "upgraded"
  | .closed => "closed"

def renderRevocationReason : RevocationReason → String
  | .administrative => "administrative"
  | .keyCompromise => "key_compromise"
  | .superseded => "superseded"
  | .unspecified => "unspecified"

def hexBytes (bytes : List UInt8) : String := String.ofList (bytes.flatMap hexByte)

def renderRevocationTarget : RevocationTarget → String
  | .enrollmentToken tokenId => "enrollment_token:" ++ hexBytes tokenId.toList
  | .membershipCertificate subjectPeerId issuedAt =>
    "membership_certificate:" ++ subjectPeerId.toText ++ ":" ++ Nat.repr issuedAt
  | .capabilityGrant subjectPeerId sequence =>
    "capability_grant:" ++ subjectPeerId.toText ++ ":" ++ Nat.repr sequence
  | .peer peerId => "peer:" ++ peerId.toText

/-! ## Entries -/

def runtimeSessionEntry (session : SessionSnapshot) : ServerM ρ RuntimeSessionEntry := do
  let now ← currentUnixSecs
  pure
    { sessionId := session.sessionId.hex
      peerId := session.peer.toText
      state := session.state.label
      closureReason := session.closureReason.map SessionClosureReason.label
      stateReason := session.stateReason
      activePathClass := pathClassLabel session.pathKind
      ageSeconds := now - session.createdAtUnixSecs
      lastActivitySeconds := now - session.lastActivityUnixSecs }

def runtimeListenerEntry (listener : RuntimeListenerSnapshot) : ServerM ρ RuntimeListenerEntry := do
  let now ← currentUnixSecs
  pure
    { listenerId := listener.listenerId
      transport := listener.transport
      bindSummary := listener.bindSummary
      protocol := listener.protocol.text
      advertise := listener.advertise
      state := runtimeListenerStateLabel listener.state
      stateReason := listener.stateReason
      ageSeconds := now - listener.startedAtUnixSecs }

def runtimePathAlternativeEntry (alternative : RuntimePathAlternative) :
    RuntimePathAlternativeEntry where
  pathClass := pathClassLabel alternative.pathKind
  source := pathSourceLabel alternative.source
  relayPeerId := alternative.relayPeer.map PeerId.toText
  score := alternative.score
  summary := alternative.summary

def runtimePathEntry (path : RuntimePathSnapshot) : RuntimePathEntry where
  sessionId := path.sessionId.map SessionId.hex
  peerId := path.peer.toText
  protocol := path.protocol.map ProtocolId.text
  trafficClass := path.trafficClass.label
  state := runtimePathStateLabel path.state
  pathClass := (path.pathKind.map pathClassLabel).getD "unknown"
  source := (path.source.map pathSourceLabel).getD "runtime"
  relayPeerId := path.relayPeer.map PeerId.toText
  endpointSummary := path.endpointSummary
  score := path.score
  stateReason := path.stateReason
  decisionReason := path.decisionReason
  summary := path.summary
  alternatives := path.alternatives.map runtimePathAlternativeEntry

def runtimeEventEntry (event : RuntimeEvent) : RuntimeEventEntry where
  eventId := event.eventId
  eventType := event.eventType
  emittedAt := event.emittedAt
  truthKind := event.truthKind
  subjectKind := event.subject.kind
  subjectId := event.subject.id
  details := event.details

def durableStateViolationEntry (violation : DurableStateViolation) : DurableStateViolationEntry :=
  ⟨violation.path, violation.message⟩

/-- `format!("{role:?}").to_lowercase()`. -/
def roleText : DaemonRole → String
  | .bootstrap => "bootstrap"
  | .relay => "relay"
  | .observer => "observer"
  | .edge => "edge"

def durableStateSummaryResult (summary : DurableStateSummary) : DurableStateSummaryResult where
  network := summary.network
  localPeerId := summary.localPeerId.toText
  roles := summary.roles.map roleText
  bootstrapHints := summary.bootstrapHints
  relays := summary.relays
  peers := summary.peers
  capabilityGrants := summary.capabilityGrants
  revocations := summary.revocations
  deniedPeers := summary.deniedPeers
  pathCandidates := summary.pathCandidates

end QuipNet.Daemon

namespace QuipNet.Quic
open QuipNet.Transport

variable {ρ : Type}

/-- `recent_events`, which gives at least one event if there is one. -/
def QuicTransportAdapter.recentEvents (adapter : QuicTransportAdapter ρ) (limit : ℕ) :
    List RuntimeEvent :=
  adapter.runtimeEvents.rtake (min (max limit 1) adapter.runtimeEvents.length)

end QuipNet.Quic

namespace QuipNet.Daemon
open QuipNet.Backup QuipNet.Control QuipNet.DaemonApi QuipNet.Fabric QuipNet.Library.Effect
open QuipNet.Quic QuipNet.Routing QuipNet.SessionIds QuipNet.Transport

variable {ρ : Type}

/-! ## What the results are read from -/

def authorityRevision (state : DaemonState) : String :=
  "membership:" ++ state.membership.subjectPeerId.toText ++
    ":grants:" ++ Nat.repr state.capabilityGrants.length ++
    ":revocations:" ++ Nat.repr state.revocations.length ++
    ":max_seq:" ++ Nat.repr (state.maxRevocationSequence.getD 0)

/-- The status as the health report alone gives it. -/
def healthAuthorityStatus (state : DaemonState) (health : RuntimeHealthReport) :
    AuthoritySyncStatus where
  syncStatus :=
    if health.authoritySubjectStatus = "mismatched" then "subject_mismatch"
    else if health.authorityDenyReason.isSome then "policy_enforced"
    else "in_sync"
  lastAcceptedRevision := authorityRevision state
  health := runtimeHealthLevelLabel health.authoritySyncHealth
  localPolicyDenied := health.authorityDenyReason.isSome
  authoritySubjectMismatch := health.authoritySubjectStatus = "mismatched"
  reevaluatedSessions := 0
  closedSessions := 0
  degradedSessions := 0
  migratedSessions := 0
  unchangedSessions := 0
  reevaluatedListeners := 0
  suppressedListeners := 0
  restoredListeners := 0
  reconnectSuppressionsAdded := 0
  reconnectSuppressionsCleared := 0
  localPolicyReason := health.authorityDenyReason

def withReevaluation (details : Json) (status : AuthoritySyncStatus) : AuthoritySyncStatus :=
  let count (key : String) : ℕ := ((details.get key).bind Json.asU64).getD 0
  { status with
    localPolicyDenied :=
      ((details.get "local_policy_denied").bind Json.asBool).getD status.localPolicyDenied
    authoritySubjectMismatch :=
      ((details.get "authority_subject_mismatch").bind Json.asBool).getD
        status.authoritySubjectMismatch
    reevaluatedSessions := count "reevaluated_sessions"
    closedSessions := count "closed_sessions"
    degradedSessions := count "degraded_sessions"
    migratedSessions := count "migrated_sessions"
    unchangedSessions := count "unchanged_sessions"
    reevaluatedListeners := count "reevaluated_listeners"
    suppressedListeners := count "suppressed_listeners"
    restoredListeners := count "restored_listeners"
    reconnectSuppressionsAdded := count "reconnect_suppressions_added"
    reconnectSuppressionsCleared := count "reconnect_suppressions_cleared"
    localPolicyReason :=
      ((details.get "local_policy_reason").bind Json.asStr).or status.localPolicyReason }

/-- The last reevaluation that is among the last 64 events. -/
def latestReevaluation (transport : QuicTransportAdapter ρ) : Option RuntimeEvent :=
  (transport.recentEvents 64).reverse.find? fun event =>
    event.eventType = "authority.reevaluation_completed"

def latestAuthorityStatus (transport : QuicTransportAdapter ρ) (state : DaemonState)
    (health : RuntimeHealthReport) : AuthoritySyncStatus :=
  match latestReevaluation transport with
  | some event => withReevaluation event.details (healthAuthorityStatus state health)
  | none => healthAuthorityStatus state health

def inspectStateFile (surroundings : ServerSurroundings) (statePath : String) :
    Option StateFile → Except DaemonStateError DurableStateInspectionReport
  | none => .ok ⟨statePath, false, none, false, [⟨"$", "durable state file is missing"⟩], none⟩
  | some (.durable state) =>
    .ok ⟨statePath, true, some state.schemaVersion, true, [], some (durableStateSummary state)⟩
  | some (.damaged error) => surroundings.inspectDamaged error

section Hashing
variable [Primitives] (surroundings : ServerSurroundings) (args : ServerArgs)
  (config : DaemonConfig) (localIdentity : IdentityKeypair)

/-! ## Reading operations -/

def runtimeView : ServerM ρ (DaemonState × RuntimeHealthReport × AuthoritySyncStatus) := do
  let state ← onPlane (LocalControlPlane.syncRuntimeSessions config)
  let health ← onPlane (LocalControlPlane.runtimeHealth config)
  pure (state, health, latestAuthorityStatus (← get).transport state health)

def runtimeStatusResult : ServerM ρ RuntimeStatusResult := do
  let (state, health, authority) ← runtimeView config
  pure
    { truthKind := "runtime"
      daemonHealth := runtimeHealthLevelLabel health.daemonReadiness
      identity := ⟨"loaded", args.identityPath, localIdentity.peerId.toText⟩
      durableState := ⟨"loaded", args.statePath, state.schemaVersion⟩
      authority
      runtimeSummary := ⟨state.activeSessions.length, health.activePaths,
        runtimeReconnectStateLabel health.reconnectState⟩ }

def runtimeHealthResult : ServerM ρ RuntimeHealthResult := do
  let health ← onPlane (LocalControlPlane.runtimeHealth config)
  pure
    { truthKind := "runtime"
      daemonReadiness := runtimeHealthLevelLabel health.daemonReadiness
      authoritySyncHealth := runtimeHealthLevelLabel health.authoritySyncHealth
      authoritySubjectStatus := health.authoritySubjectStatus
      authorityDenyReason := health.authorityDenyReason
      runtimeRegistryHealth := runtimeHealthLevelLabel health.runtimeRegistryHealth
      pathManagerHealth := runtimeHealthLevelLabel health.pathManagerHealth
      reconnectSubsystemHealth := runtimeHealthLevelLabel health.reconnectSubsystemHealth
      activeSessions := health.activeSessions
      activePaths := health.activePaths
      activeListeners := health.activeListeners
      reconnectState := runtimeReconnectStateLabel health.reconnectState
      reconnectAttemptCount := health.reconnectAttemptCount
      reconnectNextAttemptUnixSecs := health.reconnectNextAttemptUnixSecs
      reconnectSuppressionCount := health.reconnectSuppressionCount
      runtimeEventBufferDepth := health.runtimeEventBufferDepth }

def authorityShowResult : ServerM ρ AuthorityShowResult := do
  let (state, _, authority) ← runtimeView config
  pure
    { truthKind := "runtime"
      configuredOrigin := args.authorityOrigin
      configuredSubject := args.authoritySubject
      configuredSnapshot := args.authoritySnapshot
      network := state.network
      localPeerId := state.localPeerId.toText
      membershipSubjectPeerId := state.membership.subjectPeerId.toText
      membershipIssuerPeerId := state.membership.issuerPeerId.toText
      membershipRoles := state.membership.roles
      grants := state.capabilityGrants.length
      revocations := state.revocations.length
      deniedPeers := state.deniedPeers.length
      bootstrapHints := state.bootstrap.length
      relays := state.relayAnnouncements.length
      schemaVersion := state.schemaVersion
      authority }

def mismatchReasons (state : DaemonState) : List String :=
  let loaded := localIdentity.peerId.toText
  (if loaded ≠ state.localPeerId.toText then
    ["durable state expects " ++ state.localPeerId.toText ++ " but daemon loaded " ++ loaded]
  else []) ++
  if loaded ≠ state.membership.subjectPeerId.toText then
    ["authority membership expects " ++ state.membership.subjectPeerId.toText ++
      " but daemon loaded " ++ loaded]
  else []

def identityVerifyResult : ServerM ρ IdentityVerifyResult := do
  let state ← onPlane (LocalControlPlane.ensureState config)
  let reasons := mismatchReasons localIdentity state
  pure
    { truthKind := "runtime_and_durable"
      identityPath := args.identityPath
      expectedNodeId := some state.localPeerId.toText
      loadedNodeId := localIdentity.peerId.toText
      authoritySubjectPeerId := some state.membership.subjectPeerId.toText
      matchResult := if reasons.isEmpty then "match" else "mismatch"
      mismatchReasons := reasons }

def identityShowResult : ServerM ρ IdentityShowResult := do
  let state ← onPlane (LocalControlPlane.ensureState config)
  pure
    { truthKind := "runtime_and_durable"
      status := "loaded"
      identityPath := args.identityPath
      nodeId := localIdentity.peerId.toText
      publicKeyHex := hexBytes localIdentity.publicKey.bytes
      durableStatePeerId := some state.localPeerId.toText
      authoritySubjectPeerId := some state.membership.subjectPeerId.toText
      stateBindingStatus :=
        if state.localPeerId = localIdentity.peerId ∧
            state.membership.subjectPeerId = localIdentity.peerId then "matched"
        else "mismatched" }

def inspectedStateFile : ServerM ρ DurableStateInspectionReport := do
  match inspectStateFile surroundings args.statePath (← get).stateFile with
  | .ok report => pure report
  | .error error => throw (.daemon error)

def stateShowResult : ServerM ρ StateShowResult := do
  let report ← inspectedStateFile surroundings args
  pure
    { truthKind := "durable"
      statePath := args.statePath
      present := report.present
      schemaVersion := report.schemaVersion
      valid := report.valid
      violations := report.violations.map durableStateViolationEntry
      summary := report.summary.map durableStateSummaryResult }

def stateValidateResult : ServerM ρ StateValidateResult := do
  let report ← inspectedStateFile surroundings args
  pure
    { truthKind := "durable"
      statePath := args.statePath
      present := report.present
      schemaVersion := report.schemaVersion
      valid := report.valid
      violations := report.violations.map durableStateViolationEntry }

def runtimeSessions : ServerM ρ (List RuntimeSessionEntry) := do
  let state ← onPlane (LocalControlPlane.syncRuntimeSessions config)
  (runtimeSessionInventory state (← get).transport).mapM runtimeSessionEntry

def runtimeListenerEntries : ServerM ρ (List RuntimeListenerEntry) := do
  let listeners ← onPlane (LocalControlPlane.runtimeListeners config)
  listeners.mapM runtimeListenerEntry

def runtimePathEntries : ServerM ρ (List RuntimePathEntry) := do
  let paths ← onPlane (LocalControlPlane.runtimePaths config)
  pure (paths.map runtimePathEntry)

def runtimeEventEntries (limit : ℕ) : ServerM ρ (List RuntimeEventEntry) := do
  pure (((← get).transport.recentEvents limit).map runtimeEventEntry)

def authorityMembershipResult : ServerM ρ AuthorityMembershipResult := do
  let state ← onPlane (LocalControlPlane.ensureState config)
  pure
    { truthKind := "runtime"
      network := state.network
      subjectPeerId := state.membership.subjectPeerId.toText
      issuerPeerId := state.membership.issuerPeerId.toText
      issuedAt := state.membership.issuedAt
      expiresAt := state.membership.expiresAt
      roles := state.membership.roles
      schemaVersion := state.schemaVersion }

def authorityCapabilityGrantEntry (grant : CapabilityGrant) : AuthorityCapabilityGrantEntry where
  subjectPeerId := grant.subjectPeerId.toText
  issuerPeerId := grant.issuerPeerId.toText
  sequence := grant.sequence
  notBefore := grant.notBefore
  expiresAt := grant.expiresAt
  capabilities := grant.capabilities
  protocols := grant.protocolScopes.map ProtocolId.text
  bandwidthBps := grant.resourceLimits.bandwidthBps
  concurrentStreams := grant.resourceLimits.concurrentStreams
  maxObjectBytes := grant.resourceLimits.maxObjectBytes
  constraints := grant.constraints

def authorityCapabilitiesResult : ServerM ρ AuthorityCapabilitiesResult := do
  let state ← onPlane (LocalControlPlane.ensureState config)
  pure
    { truthKind := "runtime"
      network := state.network
      subjectPeerId := state.localPeerId.toText
      schemaVersion := state.schemaVersion
      grants := (state.grantsForPeer state.localPeerId).map authorityCapabilityGrantEntry }

def authorityRevocationEntry (revocation : RevocationRecord) : AuthorityRevocationEntry where
  sequence := revocation.sequence
  issuerPeerId := revocation.issuerPeerId.toText
  effectiveAt := revocation.effectiveAt
  reason := renderRevocationReason revocation.reason
  target := renderRevocationTarget revocation.target
  note := revocation.note

def authorityRevocationsResult : ServerM ρ AuthorityRevocationsResult := do
  let state ← onPlane (LocalControlPlane.ensureState config)
  pure
    { truthKind := "runtime"
      network := state.network
      schemaVersion := state.schemaVersion
      revocations := state.revocations.map authorityRevocationEntry }

end Hashing

end QuipNet.Daemon
