import QuipNet.BackupRestores
import QuipNet.ControlServer
import QuipNet.Http
import QuipNet.SyncTriggers

/-!
# The requests of the control server

The diagnosis, the operations that change the node, and the way from a request on the
socket to the response. A request body that the session id parser panics on has no
response, and neither has any later one.
-/

open Std
namespace QuipNet.Daemon
open QuipNet.Backup QuipNet.Control QuipNet.DaemonApi QuipNet.Fabric QuipNet.Library.Effect
open QuipNet.Quic QuipNet.Routing QuipNet.SessionIds QuipNet.Transport

variable {ρ : Type}

/-! ## Diagnosis -/

def issueIf (condition : Bool) (code severity layer summary : String) :
    List RuntimeDiagnosisIssue :=
  if condition then [⟨code, severity, layer, summary⟩] else []

def durableIssues (durableState : StateShowResult) (identity : IdentityVerifyResult) :
    List RuntimeDiagnosisIssue :=
  issueIf (!durableState.present) "durable_state_missing" "error" "durable"
    "durable network state file is missing" ++
  issueIf (durableState.present && !durableState.valid) "durable_state_invalid" "error" "durable"
    "durable network state failed validation" ++
  issueIf (identity.matchResult != "match") "identity_mismatch" "error" "durable"
    ("identity verification returned " ++ identity.matchResult)

def authorityIssues (authority : AuthoritySyncStatus) : List RuntimeDiagnosisIssue :=
  issueIf authority.authoritySubjectMismatch "authority_subject_mismatch" "error" "authority"
    "authority subject does not match the local runtime identity" ++
  issueIf authority.localPolicyDenied "authority_policy_denied" "error" "authority"
    (authority.localPolicyReason.getD "authority policy denied local runtime behavior") ++
  issueIf (!authority.localPolicyDenied &&
      (authority.syncStatus != "in_sync" || authority.health != "ready"))
    "authority_not_ready" (if authority.health = "failed" then "error" else "warn") "authority"
    ("authority reports sync_status=" ++ authority.syncStatus ++ " health=" ++ authority.health)

def healthIssues (health : RuntimeHealthResult) : List RuntimeDiagnosisIssue :=
  issueIf (health.daemonReadiness != "ready") "daemon_not_ready"
    (if health.daemonReadiness = "failed" then "error" else "warn") "runtime"
    ("daemon readiness is " ++ health.daemonReadiness) ++
  issueIf (health.reconnectState == "suppressed") "reconnect_suppressed" "warn" "runtime"
    ("reconnect is suppressed with " ++ Nat.repr health.reconnectSuppressionCount ++
      " active suppression entries") ++
  issueIf (health.reconnectState == "failed") "reconnect_failed" "error" "runtime"
    ("reconnect has failed after " ++ Nat.repr health.reconnectAttemptCount ++ " tracked attempts")

def sessionIssues (activePaths : ℕ) (sessions : List RuntimeSessionEntry) :
    List RuntimeDiagnosisIssue :=
  issueIf (sessions.any fun session => session.state == "failed") "failed_sessions_present" "error"
    "runtime" "one or more runtime sessions are in failed state" ++
  issueIf (sessions.any fun session => session.state == "degraded") "degraded_sessions_present"
    "warn" "runtime" "one or more runtime sessions are degraded" ++
  issueIf (sessions.any fun session => session.state == "closed")
    "recently_closed_sessions_present" "warn" "runtime"
    "recently closed runtime sessions are present in terminal history" ++
  issueIf (sessions.any fun session => session.state == "closing") "closing_sessions_present" "warn"
    "runtime" "one or more runtime sessions are closing" ++
  issueIf (!sessions.isEmpty && activePaths == 0) "sessions_without_active_paths" "error" "runtime"
    "runtime has sessions but no active paths"

def pathIssues (paths : List RuntimePathEntry) : List RuntimeDiagnosisIssue :=
  issueIf (paths.any fun path => path.state == "failed") "failed_paths_present" "warn" "runtime"
    "one or more runtime paths are in failed state"

def runtimeDiagnosisIssues (status : RuntimeStatusResult) (health : RuntimeHealthResult)
    (durableState : StateShowResult) (identity : IdentityVerifyResult)
    (sessions : List RuntimeSessionEntry) (paths : List RuntimePathEntry) :
    List RuntimeDiagnosisIssue :=
  durableIssues durableState identity ++ authorityIssues status.authority ++ healthIssues health ++
    sessionIssues health.activePaths sessions ++ pathIssues paths

def runtimePrimaryClassification (issues : List RuntimeDiagnosisIssue) : String :=
  if issues.isEmpty then "healthy"
  else
    let has (layer : String) : Bool := issues.any fun issue => issue.layer == layer
    match has "runtime", has "authority", has "durable" with
    | true, false, false => "runtime_only"
    | false, true, false => "authority_driven"
    | false, false, true => "durable_state_only"
    | _, _, _ => "mixed"

section Hashing
variable [Primitives] (surroundings : ServerSurroundings) (args : ServerArgs)
  (config : DaemonConfig) (localIdentity : IdentityKeypair)

def runtimeDiagnoseResult (eventLimit : ℕ) : ServerM ρ RuntimeDiagnoseResult := do
  let state ← onPlane (LocalControlPlane.syncRuntimeSessions config)
  let status ← runtimeStatusResult args config localIdentity
  let health ← runtimeHealthResult config
  let durableState ← stateShowResult surroundings args
  let identity ← identityVerifyResult args config localIdentity
  let authorityShow ← authorityShowResult args config
  let sessions ← (runtimeSessionInventory state (← get).transport).mapM runtimeSessionEntry
  let listeners ← runtimeListenerEntries config
  let paths ← runtimePathEntries config
  let events ← runtimeEventEntries (max eventLimit 1)
  let issues := runtimeDiagnosisIssues status health durableState identity sessions paths
  pure
    { truthKind := "runtime"
      primaryClassification := runtimePrimaryClassification issues
      issues, status, health, state := durableState, identity, authorityShow, sessions, listeners,
      paths, events }

/-! ## The state file -/

def exportRequest (payload : StateExportPayload) : DurableBackupExportRequest where
  outputPath := payload.outputPath
  passphrase := payload.passphrase
  hostname := payload.hostname
  environment := payload.environment
  identityPath := args.identityPath
  statePath := args.statePath
  network := args.network
  authorityOrigin := args.authorityOrigin
  authoritySubject := args.authoritySubject
  authoritySnapshot := args.authoritySnapshot
  overwrite := payload.overwrite.getD false

def stateExport (payload : StateExportPayload) : ServerM ρ StateExportResult := do
  let report ← exportBackup surroundings.exports (exportRequest args payload)
  pure
    { truthKind := "durable"
      bundlePath := report.bundlePath
      createdAtUnixSecs := report.createdAtUnixSecs.toNat
      hostname := report.hostname
      environment := report.environment
      network := report.network
      identitySha256Hex := report.identitySha256Hex
      stateSha256Hex := report.stateSha256Hex
      durableStatePresent := report.durableStatePresent
      durableStateValid := report.durableStateValid }

def stateReset (payload : StateResetPayload) : ServerM ρ StateResetResult := do
  if payload.scope ≠ "network_state_only" then
    refuse .invalidRequest "state reset scope must be network_state_only"
  else if payload.confirmation ≠ "preserve-identity-reset-network-state" then
    refuse .invalidRequest "state reset confirmation token did not match required guard"
  else
    let networkStateReset ← onPlane LocalControlPlane.resetNetworkState
    pure ⟨"durable", true, networkStateReset, "daemon_restart_required"⟩

/-! ## Synchronization with the authority -/

structure SyncSource where
  authoritySource : String
  authoritySnapshot : Option String
  authorityOrigin : Option String
  authoritySubject : Option String

def SyncSource.details (source : SyncSource) (further : List (String × Json)) : Json :=
  .object ([("authority_source", .string source.authoritySource),
    ("authority_origin", Json.option .string source.authorityOrigin),
    ("authority_subject", Json.option .string source.authoritySubject),
    ("authority_snapshot", Json.option .string source.authoritySnapshot)] ++ further)

def recordSync (eventType : String) (source : SyncSource) (further : List (String × Json)) :
    ServerM ρ Unit :=
  recordRuntimeEvent eventType (authoritySubject localIdentity.peerId) (source.details further)

def completedDetails (report : StateSyncReport) (reevaluated : Bool) : List (String × Json) :=
  [("membership_changed", .bool report.membershipChanged),
    ("grants_added", .number report.grantsAdded),
    ("grants_removed", .number report.grantsRemoved),
    ("revocations_added", .number report.revocationsAdded),
    ("bootstrap_hints_added", .number report.bootstrapHintsAdded),
    ("bootstrap_hints_removed", .number report.bootstrapHintsRemoved),
    ("relay_announcements_added", .number report.relayAnnouncementsAdded),
    ("reevaluation_triggered", .bool reevaluated)]

/-- The reevaluation after a sync that changed the state; whether there was one. -/
def reevaluateAfterSync (source : SyncSource) (report : StateSyncReport) : ServerM ρ Bool := do
  if stateSyncRequiresReevaluation report then
    match ← attempt (LocalControlPlane.reevaluateRuntimeAuthority config localIdentity) with
    | .ok _ => pure true
    | .error (error : DaemonStateError) => do
      recordSync localIdentity "authority.sync_failed" source
        [("error", .string error.text), ("phase", .string "reevaluation")]
      throw (.daemon error)
  else pure false

def authoritySync (source : SyncSource) (sync : ControlM ρ (DaemonState × StateSyncReport)) :
    ServerM ρ AuthoritySyncResult := do
  recordSync localIdentity "authority.sync_started" source []
  match ← attempt sync with
  | .error (error : DaemonStateError) => do
    recordSync localIdentity "authority.sync_failed" source [("error", .string error.text)]
    throw (.daemon error)
  | .ok (state, report) => do
    let reevaluated ← reevaluateAfterSync config localIdentity source report
    let health ← onPlane (LocalControlPlane.runtimeHealth config)
    let authority := latestAuthorityStatus (← get).transport state health
    recordSync localIdentity "authority.sync_completed" source (completedDetails report reevaluated)
    pure
      { truthKind := "runtime"
        authoritySource := source.authoritySource
        authorityOrigin := source.authorityOrigin
        authoritySubject := source.authoritySubject
        authoritySnapshot := source.authoritySnapshot
        network := state.network
        localPeerId := state.localPeerId.toText
        grantsAdded := report.grantsAdded
        grantsRemoved := report.grantsRemoved
        revocationsAdded := report.revocationsAdded
        bootstrapHintsAdded := report.bootstrapHintsAdded
        bootstrapHintsRemoved := report.bootstrapHintsRemoved
        relayAnnouncementsAdded := report.relayAnnouncementsAdded
        membershipChanged := report.membershipChanged
        authority }

def authoritySyncSnapshot (payload : AuthoritySyncSnapshotPayload) :
    ServerM ρ AuthoritySyncResult :=
  authoritySync config localIdentity ⟨"snapshot", some payload.authoritySnapshot, none, none⟩
    (LocalControlPlane.syncAuthoritySnapshot config
      (surroundings.loadAuthoritySnapshot payload.authoritySnapshot))

def authoritySyncOrigin (payload : AuthoritySyncOriginPayload) : ServerM ρ AuthoritySyncResult :=
  authoritySync config localIdentity
    ⟨"origin", none, some payload.authorityOrigin, payload.authoritySubject⟩
    (LocalControlPlane.syncAuthorityOrigin config (surroundings.originAt payload.authorityOrigin)
      payload.authoritySubject)

def revocationsReport (revocationsAdded : ℕ) : StateSyncReport where
  membershipChanged := false
  grantsAdded := 0
  grantsRemoved := 0
  revocationsAdded := revocationsAdded
  bootstrapHintsAdded := 0
  bootstrapHintsRemoved := 0
  relayAnnouncementsAdded := 0

def authoritySyncRevocationsOrigin (payload : AuthoritySyncRevocationsOriginPayload) :
    ServerM ρ AuthoritySyncResult :=
  authoritySync config localIdentity
    ⟨"revocations_origin", none, some payload.authorityOrigin, none⟩
    ((fun (state, revocationsAdded) => (state, revocationsReport revocationsAdded)) <$>
      LocalControlPlane.syncAuthorityRevocationsOrigin config
        (surroundings.originAt payload.authorityOrigin))

/-! ## Sessions -/

def parsedSessionId (value : String) : ServerM ρ SessionId :=
  match parseHexSessionId value with
  | none => throw .panicked
  | some (.error detail) => refuse .invalidRequest detail
  | some (.ok sessionId) => pure sessionId

def sessionConnect (payload : SessionConnectPayload) : ServerM ρ SessionConnectSummary := do
  let _ ← onPlane (LocalControlPlane.ensureIdentityBoundState config localIdentity)
  match PeerId.parse payload.peerId with
  | none => refuse .invalidRequest "session.connect peer_id must parse as a peer identifier"
  | some peer =>
    match ProtocolId.new payload.protocol with
    | .error error => refuse .invalidRequest error.text
    | .ok protocol => do
      let trafficClass := (payload.trafficClass.map parseClass).getD .interactive
      let session ← onPlane (LocalControlPlane.realizeBestPath config peer protocol trafficClass)
      pure
        { sessionId := session.sessionId.hex
          state := session.state.label
          initialPathClass := pathClassLabel session.pathKind
          stateReason := session.stateReason }

def sessionClose (payload : SessionClosePayload) : ServerM ρ SessionCloseResult := do
  let sessionId ← parsedSessionId payload.sessionId
  onPlane (LocalControlPlane.closeSession config sessionId)
  let terminal := (← get).transport.terminalSessionSnapshot sessionId
  pure
    { truthKind := "runtime"
      closedSessionId := payload.sessionId
      finalState := (terminal.map fun session => session.state.label).getD "closed"
      closureReason := ((terminal.bind SessionSnapshot.closureReason).map
        SessionClosureReason.label).or (payload.reason.or (some "operator_requested")) }

def sessionUpgrade (payload : SessionUpgradePayload) : ServerM ρ SessionUpgradeResult := do
  let sessionId ← parsedSessionId payload.sessionId
  let priorState ← onPlane (LocalControlPlane.syncRuntimeSessions config)
  match priorState.activeSessions.find? fun session => session.sessionId = sessionId with
  | none => throw (.api .staleRuntimeReference "session id is no longer owned by this daemon run"
      (some (.object [("session_id", .string payload.sessionId)])))
  | some prior => do
    let session ← onPlane (LocalControlPlane.upgradeSession config sessionId)
    pure
      { truthKind := "runtime"
        sessionId := payload.sessionId
        priorPathClass := pathClassLabel prior.pathKind
        resultingPathClass := pathClassLabel session.pathKind
        state := session.state.label }

def sessionReconcileEntry (entry : Fabric.SessionReconcileEntry) :
    DaemonApi.SessionReconcileEntry where
  sessionId := entry.sessionId.hex
  peerId := entry.peer.toText
  disposition := reconcileDispositionLabel entry.disposition
  reason := entry.reason
  pathClass := (entry.pathKind.map pathClassLabel).getD "unknown"

def sessionReconcile : ServerM ρ SessionReconcileResult := do
  let report ← onPlane (LocalControlPlane.reconcileSessions config)
  pure
    { truthKind := "runtime"
      examined := report.examined
      unchanged := report.unchanged
      upgraded := report.upgraded
      closed := report.closed
      entries := report.entries.map sessionReconcileEntry }

/-! ## Dispatch -/

inductive Operation
  | runtimeStatus
  | runtimeSessionsList
  | runtimeDiagnose
  | runtimeListenersList
  | runtimePathsList
  | runtimeHealth
  | runtimeEventsList
  | authorityShow
  | authorityMembership
  | authorityCapabilities
  | authorityRevocations
  | identityShow
  | identityVerify
  | stateShow
  | stateValidate
  | stateExport
  | stateReset
  | authoritySyncSnapshot
  | authoritySyncOrigin
  | authoritySyncRevocationsOrigin
  | sessionConnect
  | sessionClose
  | sessionUpgrade
  | sessionReconcile
deriving DecidableEq

def operations : List (String × Operation) :=
  [("runtime.status", .runtimeStatus),
    ("runtime.sessions.list", .runtimeSessionsList),
    ("runtime.diagnose", .runtimeDiagnose),
    ("runtime.listeners.list", .runtimeListenersList),
    ("runtime.paths.list", .runtimePathsList),
    ("runtime.health", .runtimeHealth),
    ("runtime.events.list", .runtimeEventsList),
    ("authority.show", .authorityShow),
    ("authority.membership", .authorityMembership),
    ("authority.capabilities", .authorityCapabilities),
    ("authority.revocations", .authorityRevocations),
    ("identity.show", .identityShow),
    ("identity.verify", .identityVerify),
    ("state.show", .stateShow),
    ("state.validate", .stateValidate),
    ("state.export", .stateExport),
    ("state.reset", .stateReset),
    ("authority.sync_snapshot", .authoritySyncSnapshot),
    ("authority.sync_origin", .authoritySyncOrigin),
    ("authority.sync_revocations_origin", .authoritySyncRevocationsOrigin),
    ("session.connect", .sessionConnect),
    ("session.close", .sessionClose),
    ("session.upgrade", .sessionUpgrade),
    ("session.reconcile", .sessionReconcile)]

variable [PayloadDecoder]

def Operation.run (payload : Json) : Operation → ServerM ρ ControlResult
  | .runtimeStatus => .runtimeStatus <$> runtimeStatusResult args config localIdentity
  | .runtimeSessionsList => .runtimeSessions "runtime" <$> runtimeSessions config
  | .runtimeDiagnose => do
    let request ← decoded "runtime.diagnose" (PayloadDecoder.runtimeDiagnose payload)
    .runtimeDiagnose <$> runtimeDiagnoseResult surroundings args config localIdentity
      (request.eventLimit.getD 16)
  | .runtimeListenersList => .runtimeListeners "runtime" <$> runtimeListenerEntries config
  | .runtimePathsList => .runtimePaths "runtime" <$> runtimePathEntries config
  | .runtimeHealth => .runtimeHealth <$> runtimeHealthResult config
  | .runtimeEventsList =>
    .runtimeEvents "runtime" <$> runtimeEventEntries (((payload.get "limit").bind Json.asU64).getD 32)
  | .authorityShow => .authorityShow <$> authorityShowResult args config
  | .authorityMembership => .authorityMembership <$> authorityMembershipResult config
  | .authorityCapabilities => .authorityCapabilities <$> authorityCapabilitiesResult config
  | .authorityRevocations => .authorityRevocations <$> authorityRevocationsResult config
  | .identityShow => .identityShow <$> identityShowResult args config localIdentity
  | .identityVerify => .identityVerify <$> identityVerifyResult args config localIdentity
  | .stateShow => .stateShow <$> stateShowResult surroundings args
  | .stateValidate => .stateValidate <$> stateValidateResult surroundings args
  | .stateExport => do
    let request ← decoded "state export" (PayloadDecoder.stateExport payload)
    .stateExport <$> Daemon.stateExport surroundings args request
  | .stateReset => do
    let request ← decoded "state reset" (PayloadDecoder.stateReset payload)
    .stateReset <$> Daemon.stateReset request
  | .authoritySyncSnapshot => do
    let request ← decoded "authority.sync_snapshot" (PayloadDecoder.authoritySyncSnapshot payload)
    .authoritySync <$> Daemon.authoritySyncSnapshot surroundings config localIdentity request
  | .authoritySyncOrigin => do
    let request ← decoded "authority.sync_origin" (PayloadDecoder.authoritySyncOrigin payload)
    .authoritySync <$> Daemon.authoritySyncOrigin surroundings config localIdentity request
  | .authoritySyncRevocationsOrigin => do
    let request ← decoded "authority.sync_revocations_origin"
      (PayloadDecoder.authoritySyncRevocationsOrigin payload)
    .authoritySync <$>
      Daemon.authoritySyncRevocationsOrigin surroundings config localIdentity request
  | .sessionConnect => do
    let request ← decoded "session.connect" (PayloadDecoder.sessionConnect payload)
    .sessionConnect "runtime" <$> Daemon.sessionConnect config localIdentity request
  | .sessionClose => do
    let request ← decoded "session.close" (PayloadDecoder.sessionClose payload)
    .sessionClose <$> Daemon.sessionClose config request
  | .sessionUpgrade => do
    let request ← decoded "session.upgrade" (PayloadDecoder.sessionUpgrade payload)
    .sessionUpgrade <$> Daemon.sessionUpgrade config request
  | .sessionReconcile => do
    let _ ← decoded "session.reconcile" (PayloadDecoder.sessionReconcile payload)
    .sessionReconcile <$> Daemon.sessionReconcile config

def dispatch (envelope : RequestEnvelope) : ServerM ρ ControlResult :=
  match operations.lookup envelope.operation with
  | some operation =>
    operation.run surroundings args config localIdentity envelope.payload
  | none =>
    refuse .unsupportedOperation ("unsupported daemon operation " ++ envelope.operation)

/-! ## Responses -/

def daemonErrorCode : DaemonStateError → ErrorCode × Option Json
  | .peerNotFound peer => (.notFound, some (.object [("peer_id", .string peer)]))
  | .sessionNotFound sessionId =>
    (.staleRuntimeReference, some (.object [("session_id", .string sessionId)]))
  | .policyDenied _ => (.policyRejected, none)
  | .networkMismatch => (.authorityMismatch, none)
  | .missingSchemaVersion | .unsupportedSchemaVersion _ _ | .unsupportedDurableField _ =>
    (.stateValidationFailed, none)
  | _ => (.internalError, none)

def daemonErrorResponse (requestId : String) (error : DaemonStateError) : ResponseEnvelope :=
  .failure requestId (daemonErrorCode error).1 error.text (daemonErrorCode error).2

/-- The response to an outcome; there is none to a panic. -/
def responseTo (requestId : String) :
    EStateM.Result Refusal (World ρ) ControlResult → Option ResponseEnvelope
  | .ok result _ => some (.success requestId result)
  | .error (.daemon error) _ => some (daemonErrorResponse requestId error)
  | .error (.api code message details) _ => some (.failure requestId code message details)
  | .error .panicked _ => none

def bodyRefusal : BodyError → ℕ × String
  | .lengthMissing => (411, "daemon control requests must include Content-Length")
  | .tooLong => (413, "daemon control request body exceeds 65536 bytes")
  | .unreadable detail => (400, "daemon control request body could not be read: " ++ detail)

structure ControlResponse where
  status : ℕ
  body : ResponseEnvelope

def jsonResponse (response : ResponseEnvelope) : ControlResponse :=
  ⟨if response.ok then 200 else response.mapErrorStatus, response⟩

def readEnvelope (request : HttpRequest) : Except ControlResponse RequestEnvelope :=
  if request.method ≠ "POST" ∨ request.url ≠ "/rpc" then
    .error ⟨404, .failure "unknown" .notFound
      ("no daemon control route for " ++ request.method ++ " " ++ request.url) none⟩
  else
    match request.readBody with
    | .error refusal =>
      .error ⟨(bodyRefusal refusal).1,
        .failure "unknown" .invalidRequest (bodyRefusal refusal).2 none⟩
    | .ok body =>
      match PayloadDecoder.envelope body with
      | .error detail =>
        .error ⟨400, .failure "unknown" .invalidRequest
          ("invalid daemon control request: " ++ detail) none⟩
      | .ok envelope => .ok envelope

omit [Primitives] in
theorem readEnvelope_posted {body : List UInt8} {limit : ℕ} {envelope : RequestEnvelope}
    (hlimit : limit ≤ maxControlBodyBytes) (hbody : PayloadDecoder.envelope body = .ok envelope) :
    readEnvelope ⟨"POST", "/rpc", some limit, .ok body⟩ = .ok envelope := by
  simp [readEnvelope, HttpRequest.readBody, Nat.not_lt.2 hlimit, Except.mapError, hbody]

def routeControlRequest (request : HttpRequest) (world : World ρ) :
    Option ControlResponse × World ρ :=
  match readEnvelope request with
  | .error response => (some response, world)
  | .ok envelope =>
    let outcome := dispatch surroundings args config localIdentity envelope world
    ((responseTo envelope.requestId outcome).map jsonResponse,
      final (dispatch surroundings args config localIdentity envelope) world)

/-! ## The daemon -/

/-- The daemon; whether its process still runs, and whether its control thread does. -/
structure Node (ρ : Type) where
  world : World ρ
  running : Bool := true
  answering : Bool := true

inductive NodeStep
  | request (surroundings : ServerSurroundings) (request : HttpRequest)
  | cycle (surroundings : Surroundings) (trigger : CycleTrigger)

/-- The response to the step, if it has one, and the daemon after it. A request that panics
ends the control thread, a cycle that fails ends the process. -/
def Node.step (node : Node ρ) : NodeStep → Option ControlResponse × Node ρ
  | .request surroundings request =>
    if node.running && node.answering then
      let (response, world) := routeControlRequest surroundings args config localIdentity request
        node.world
      (response, { node with world, answering := response.isSome })
    else (none, node)
  | .cycle surroundings trigger =>
    if node.running then
      match runCycle surroundings config localIdentity args.toArgs trigger node.world with
      | .ok _ world => (none, { node with world })
      | .error _ world => (none, { node with world, running := false })
    else (none, node)

/-- Requests and cycles, each whole before the next one starts. -/
def Node.run (steps : List NodeStep) (node : Node ρ) : Node ρ :=
  steps.foldl (fun node step => (node.step args config localIdentity step).2) node

end Hashing

/-! ## Requests of the fixture node -/

def textField (payload : Json) (key : String) : Except String String :=
  match payload.get key with
  | some (.string text) => .ok text
  | some _ => .error "invalid type: expected a string"
  | none => .error ("missing field `" ++ key ++ "`")

def optionalTextField (payload : Json) (key : String) : Except String (Option String) :=
  match payload.get key with
  | some .null | none => .ok none
  | some _ => some <$> textField payload key

@[reducible] def decoderOf (known : List UInt8) (envelope : RequestEnvelope) : PayloadDecoder where
  envelope body := if body = known then .ok envelope else .error "expected value at line 1 column 1"
  runtimeDiagnose payload := .ok ⟨(payload.get "event_limit").bind Json.asU64⟩
  stateExport payload := do
    pure ⟨← textField payload "output_path", ← textField payload "passphrase",
      ← textField payload "hostname", ← textField payload "environment",
      (payload.get "overwrite").bind Json.asBool⟩
  stateReset payload := do
    pure ⟨← textField payload "scope", ← textField payload "confirmation"⟩
  authoritySyncSnapshot payload := do pure ⟨← textField payload "authority_snapshot"⟩
  authoritySyncOrigin payload := do
    pure ⟨← textField payload "authority_origin", ← optionalTextField payload "authority_subject"⟩
  authoritySyncRevocationsOrigin payload := do pure ⟨← textField payload "authority_origin"⟩
  sessionConnect payload := do
    pure ⟨← textField payload "peer_id", ← textField payload "protocol",
      ← optionalTextField payload "class"⟩
  sessionClose payload := do
    pure ⟨← textField payload "session_id", ← optionalTextField payload "reason"⟩
  sessionUpgrade payload := do pure ⟨← textField payload "session_id"⟩
  sessionReconcile payload := do pure ⟨← optionalTextField payload "session_id"⟩

def fixtureServerArgs : ServerArgs where
  network := "mesh"
  statePath := "state.json"
  identityPath := "identity.json"

def fixtureSurroundings : ServerSurroundings where
  loadAuthoritySnapshot _ := .error (.io "No such file or directory (os error 2)")
  originAt _ := ⟨fun _ => .error (.transport "connection refused"),
    .error (.transport "connection refused"), fun _ => .error (.transport "connection refused")⟩
  inspectDamaged error := .error error
  exports :=
    { codec := unreadCodec
      machine := sampleExporter
      files := fun _ => none
      aliases := fun _ => false
      stateBytes := fun _ => []
      loadError := fun _ => .missingSchemaVersion }

def diagnoseBody : List UInt8 := asBytes
  ("\x7b\"request_id\":\"req-1\",\"operation\":\"runtime.diagnose\"," ++
    "\"auth\":\x7b\"kind\":\"local_process\"\x7d,\"payload\":\x7b\x7d\x7d")

def diagnoseEnvelope : RequestEnvelope := ⟨"req-1", "runtime.diagnose", .object []⟩

@[reducible] def diagnoseDecoder : PayloadDecoder := decoderOf diagnoseBody diagnoseEnvelope

def diagnoseRequest : HttpRequest := ⟨"POST", "/rpc", some 98, .ok diagnoseBody⟩

end QuipNet.Daemon
