import QuipNet.Adapter
import QuipNet.Library.Effect

/-!
# Connecting, migrating and closing sessions

The operations of the QUIC adapter that can fail. What they wrote before an error
stays written: a migration that fails in its second relay close has already
replaced the registry record, and a close removes the record before it asks the
relay.
-/

open Std
namespace QuipNet.Quic
open QuipNet.Library QuipNet.Relay QuipNet.Transport

variable {ρ : Type}

abbrev QuicM (ρ : Type) := EStateM TransportError (QuicTransportAdapter ρ)

def fillBytes (n : ℕ) : QuicM ρ (Vector UInt8 n) := modifyGet fun adapter =>
  (Vector.ofFn fun i => adapter.host.entropy (adapter.host.drawn + i),
    { adapter with host := { adapter.host with drawn := adapter.host.drawn + n } })

def unixSecs : QuicM ρ ℕ := modifyGet fun adapter => (adapter.currentUnixSecs, adapter.ticked)

def openRelaySession (endpoint : String) (request : RelayOpenRequest) :
    QuicM ρ RelaySessionAccepted := fun adapter =>
  match adapter.relayControl.openSession endpoint request adapter.relays with
  | (.ok accepted, relays) => .ok accepted { adapter with relays }
  | (.error error, relays) => .error (.relayRejected error.text) { adapter with relays }

def closeRelayTransportSession (controlEndpoint : Option String) (transportSessionId : SessionId) :
    QuicM ρ Unit := fun adapter =>
  match controlEndpoint with
  | none =>
    .error (.invalidRoute "relay session is missing relay control endpoint") adapter
  | some endpoint =>
    match adapter.relayControl.closeSession endpoint transportSessionId "path migrated"
        adapter.relays with
    | (.ok _, relays) => .ok () { adapter with relays }
    | (.error error, relays) => .error (.relayRejected error.text) { adapter with relays }

section Sessions
variable [Primitives]

def logicalSessionId (runtimeInstanceId : String) (route : RoutePlan) : SessionId :=
  let digest := Primitives.blake3 (asBytes runtimeInstanceId ++ route.localPeer.bytes ++
    route.peer.bytes ++ asBytes route.trafficClass.label ++
    ((route.protocol.map fun protocol => asBytes protocol.text).getD []))
  ⟨digest.take 16⟩

def directSessionSnapshot (route : RoutePlan) : QuicM ρ SessionSnapshot := do
  let adapter ← get
  match adapter.localIdentity with
  | none => throw (.invalidRoute "direct route requires local identity")
  | some localIdentity =>
    if localIdentity.peerId ≠ route.localPeer then
      throw (.invalidRoute "local identity peer does not match route local peer")
    else
      match route.remoteEndpoints.head? with
      | none => throw (.noRoute route.peer)
      | some remoteEndpoint =>
        let now ← unixSecs
        let sessionId := logicalSessionId adapter.runtimeInstanceId route
        pure
          { sessionId
            transportSessionId := sessionId
            relayAttemptId := none
            peer := route.peer
            protocol := route.protocol
            trafficClass := route.trafficClass
            pathKind := route.pathKind
            source := route.source
            remoteEndpoint
            relayPeer := none
            relayEndpoint := none
            relayControlEndpoint := none
            datagramsCapable := adapter.supportsDatagrams
            migrationCapable := adapter.supportsPathMigration
            state := .active
            closureReason := none
            stateReason := none
            createdAtUnixSecs := now
            lastActivityUnixSecs := now }

def issueCredential (networkId : NetworkId) (localIdentity : IdentityKeypair)
    (protocol : Option ProtocolId) : QuicM ρ SessionCredential := do
  let sessionSecret ← fillBytes 32
  let issuedAt ← unixSecs
  let nonce ← fillBytes 16
  pure (SessionCredential.issue networkId localIdentity (Primitives.x25519Public sessionSecret)
    ((protocol.map fun protocol => [protocol.text]).getD ["/quip/relay/1"]) 300 1 issuedAt nonce)

def relaySessionSnapshot (route : RoutePlan) (relay : RelayPlan) : QuicM ρ SessionSnapshot := do
  let adapter ← get
  match adapter.networkId with
  | none => throw (.invalidRoute "relay route requires network identity")
  | some networkId =>
  match adapter.localIdentity with
  | none => throw (.invalidRoute "relay route requires local identity")
  | some localIdentity =>
    if localIdentity.peerId ≠ route.localPeer then
      throw (.invalidRoute "local identity peer does not match route local peer")
    else
      let credential ← issueCredential networkId localIdentity route.protocol
      let attemptId ← fillBytes 16
      match relay.relayEndpoints.head? with
      | none => throw (.invalidRoute "relay route has no relay endpoints")
      | some relayEndpoint =>
        let accepted ← openRelaySession relay.relayControlEndpoint
          { attemptId := ⟨attemptId⟩
            networkId
            source := route.localPeer
            sourcePublicKey := localIdentity.publicKey
            sourceCredential := credential
            destination := route.peer
            protocol := route.protocol
            trafficClass := route.trafficClass }
        let now ← unixSecs
        pure
          { sessionId := logicalSessionId adapter.runtimeInstanceId route
            transportSessionId := accepted.sessionId
            relayAttemptId := some accepted.attemptId
            peer := route.peer
            protocol := route.protocol
            trafficClass := route.trafficClass
            pathKind := route.pathKind
            source := route.source
            remoteEndpoint := (relay.destinationEndpoints.head?.or
              route.remoteEndpoints.head?).getD route.peer.toText
            relayPeer := some relay.relayPeer
            relayEndpoint := some relayEndpoint
            relayControlEndpoint := some relay.relayControlEndpoint
            datagramsCapable := adapter.supportsDatagrams && relay.supportsDatagrams
            migrationCapable := adapter.supportsPathMigration && relay.supportsPathMigration
            state := .active
            closureReason := none
            stateReason := none
            createdAtUnixSecs := now
            lastActivityUnixSecs := now }

def sessionSnapshotForRoute (route : RoutePlan) : QuicM ρ SessionSnapshot :=
  match route.relay with
  | some relay => relaySessionSnapshot route relay
  | none => directSessionSnapshot route

/-- The relay session of `previous` is no longer the one `next` runs over. -/
def leavesRelaySession (previous next : SessionSnapshot) : Bool :=
  previous.pathKind = .relay &&
    (next.pathKind ≠ .relay || next.transportSessionId ≠ previous.transportSessionId ||
      next.relayControlEndpoint ≠ previous.relayControlEndpoint)

def closeLeftRelaySession (previous next : SessionSnapshot) : QuicM ρ Unit :=
  if leavesRelaySession previous next then
    closeRelayTransportSession previous.relayControlEndpoint previous.transportSessionId
  else pure ()

def announceSession (snapshot : SessionSnapshot) : Option RuntimeSessionRecord → QuicM ρ Unit
  | some previous => do
    closeLeftRelaySession previous.snapshot snapshot
    modify (QuicTransportAdapter.emitRuntimeEvent "session.state_changed"
      (sessionSubject snapshot.sessionId)
      (.object [("peer_id", .string snapshot.peer.toText),
        ("prior_state", .string previous.snapshot.state.label),
        ("next_state", .string snapshot.state.label),
        ("path_class", .string (pathClassLabel snapshot.pathKind))]))
  | none => do
    modify (QuicTransportAdapter.emitRuntimeEvent "session.created"
      (sessionSubject snapshot.sessionId)
      (.object [("peer_id", .string snapshot.peer.toText),
        ("next_state", .string snapshot.state.label),
        ("path_class", .string (pathClassLabel snapshot.pathKind))]))
    modify (QuicTransportAdapter.emitRuntimeEvent "path.selected"
      (sessionSubject snapshot.sessionId)
      (.object [("peer_id", .string snapshot.peer.toText),
        ("path_class", .string (pathClassLabel snapshot.pathKind)),
        ("source", .string snapshot.source.debug)]))

def upsertRuntimeSession (record : RuntimeSessionRecord) : QuicM ρ Unit := do
  let previous ← modifyGet fun adapter =>
    (adapter.runtimeSessions.find record.snapshot.sessionId,
      { adapter with runtimeSessions := adapter.runtimeSessions.insert record })
  announceSession record.snapshot previous

def removeRuntimeSession (sessionId : SessionId) : QuicM ρ (Option RuntimeSessionRecord) :=
  modifyGet fun adapter => (adapter.runtimeSessions.find sessionId,
    { adapter with runtimeSessions := adapter.runtimeSessions.remove sessionId })

structure QuicConnectionHandle where
  session : SessionSnapshot
  alpnProtocol : Option String
deriving DecidableEq, Repr

def connect (route : RoutePlan) : QuicM ρ QuicConnectionHandle := do
  match (← get).findReconnectSuppression route.key with
  | some suppression =>
    modify (QuicTransportAdapter.emitRuntimeEvent "reconnect.suppressed" (peerSubject route.peer)
      (.object [("protocol", protocolJson route.protocol),
        ("class", .string route.trafficClass.label), ("reason", .string suppression.reason)]))
    throw (.policyDenied ("reconnect suppressed: " ++ suppression.reason))
  | none =>
    let session ← sessionSnapshotForRoute route
    let alpnProtocol := route.protocol.map ProtocolId.text
    upsertRuntimeSession ⟨session, alpnProtocol⟩
    pure ⟨session, alpnProtocol⟩

/-- `let _ = update_session_state(..)?`, which never fails. -/
def moveSession (sessionId : SessionId) (state : RuntimeSessionState)
    (closureReason : Option SessionClosureReason) (stateReason : Option String) : QuicM ρ Unit :=
  modify fun adapter =>
    (adapter.updateSessionState sessionId state closureReason stateReason).2

/-- The snapshot a migration stores: the new path under the old session id. -/
def migratedSnapshot (existing opened : SessionSnapshot) (now : ℕ) : SessionSnapshot :=
  { opened with
    sessionId := existing.sessionId
    createdAtUnixSecs := existing.createdAtUnixSecs
    lastActivityUnixSecs := now }

/-- `migrate` from the point where it holds the registered session. -/
def migrateExisting (existing : SessionSnapshot) (route : RoutePlan) : QuicM ρ SessionSnapshot := do
  let opened ← sessionSnapshotForRoute route
  let now ← unixSecs
  let migrated := migratedSnapshot existing opened now
  closeLeftRelaySession existing migrated
  upsertRuntimeSession ⟨migrated, route.protocol.map ProtocolId.text⟩
  modify (QuicTransportAdapter.emitRuntimeEvent "path.migration_completed"
    (sessionSubject migrated.sessionId)
    (.object [("peer_id", .string migrated.peer.toText),
      ("prior_path_class", .string (pathClassLabel existing.pathKind)),
      ("next_path_class", .string (pathClassLabel migrated.pathKind))]))
  pure migrated

def migrate (session : SessionSnapshot) (route : RoutePlan) : QuicM ρ SessionSnapshot := do
  moveSession session.sessionId .migrating none (some "daemon requested path migration")
  match (← get).sessionSnapshot session.sessionId with
  | none => throw (.invalidRoute "session is not active in runtime registry")
  | some existing => migrateExisting existing route

/-- `close_session` up to the removal of the record. -/
def takeForClose (session : SessionSnapshot) : QuicM ρ (Option RuntimeSessionRecord) := do
  let existing := (← get).sessionSnapshot session.sessionId
  moveSession session.sessionId .closing
    ((existing.bind SessionSnapshot.closureReason).or session.closureReason)
    ((existing.bind SessionSnapshot.stateReason).or session.stateReason)
  removeRuntimeSession session.sessionId

def closeOwnRelaySession (session : SessionSnapshot) : QuicM ρ Unit :=
  if session.pathKind = .relay then
    closeRelayTransportSession session.relayControlEndpoint session.transportSessionId
  else pure ()

/-- `close_session` after the record is removed. -/
def finishClose : Option RuntimeSessionRecord → QuicM ρ Unit
  | none => pure ()
  | some active => do
    let session := active.snapshot
    closeOwnRelaySession session
    let now ← unixSecs
    let terminal := { session with state := .closed, lastActivityUnixSecs := now }
    modify (QuicTransportAdapter.recordTerminalSession ⟨terminal, active.alpnProtocol⟩)
    modify (QuicTransportAdapter.emitRuntimeEvent "session.closed" (sessionSubject session.sessionId)
      (.object [("peer_id", .string session.peer.toText),
        ("prior_state", .string RuntimeSessionState.closing.label),
        ("next_state", .string RuntimeSessionState.closed.label),
        ("closure_reason", Json.option (fun reason => .string reason.label) terminal.closureReason),
        ("reason", Json.option .string terminal.stateReason)]))

def closeSession (session : SessionSnapshot) : QuicM ρ Unit := do
  finishClose (← takeForClose session)

end Sessions

end QuipNet.Quic
