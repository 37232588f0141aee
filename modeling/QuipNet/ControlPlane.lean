import QuipNet.Reconciliation

/-!
# The local control plane

Operations on the state file and the transport together. The state file is the
durable state it decodes to, or an error that loading it gives. Most operations
are a `transaction`: load the state, or create it when there is no file, work on
the transport, and write the whole state back.
-/

open Std
namespace QuipNet.Fabric
open QuipNet.Control QuipNet.Library.Effect QuipNet.Quic QuipNet.Transport

variable {ρ : Type}

structure DaemonConfig where
  network : String
  roles : List DaemonRole := [.edge, .observer]
deriving DecidableEq, Repr

inductive StateFile
  | durable (state : DaemonState)
  | damaged (error : DaemonStateError)

def StateFile.load : StateFile → Except DaemonStateError DaemonState
  | .durable state => .ok { state with activeSessions := [] }
  | .damaged error => .error error

/-- What `DaemonState::save` writes. -/
def DaemonState.saved (state : DaemonState) : StateFile :=
  .durable { state with schemaVersion := daemonStateSchemaVersion, activeSessions := [] }

structure World (ρ : Type) where
  stateFile : Option StateFile
  transport : QuicTransportAdapter ρ

abbrev ControlM (ρ : Type) := EStateM DaemonStateError (World ρ)

def withTransport {α : Type} (m : FabricM ρ α) : ControlM ρ α :=
  zoom World.transport (fun transport world => { world with transport }) m

def save (state : DaemonState) : ControlM ρ Unit :=
  modify fun world => { world with stateFile := some state.saved }

def orThrow {α : Type} : Except DaemonStateError α → ControlM ρ α
  | .ok value => pure value
  | .error error => throw error

def fetched {α : Type} (answer : Except ControlError α) : ControlM ρ α :=
  orThrow (answer.mapError .control)

@[simp] theorem orThrow_ok {α : Type} (value : α) : (orThrow (.ok value) : ControlM ρ α) = pure value := rfl

@[simp] theorem orThrow_error {α : Type} (error : DaemonStateError) :
    (orThrow (.error error) : ControlM ρ α) = throw error := rfl

@[simp] theorem fetched_ok {α : Type} (value : α) : (fetched (.ok value) : ControlM ρ α) = pure value := rfl

@[simp] theorem fetched_error {α : Type} (error : ControlError) :
    (fetched (.error error) : ControlM ρ α) = throw (.control error) := rfl

namespace LocalControlPlane

variable [Primitives]

/-- The loaded state under the configured roles, with its candidates merged anew. -/
def prepared (config : DaemonConfig) (state : DaemonState) : DaemonState :=
  { state with roles := config.roles }.withMergedCandidates

def createdState (config : DaemonConfig) : DaemonState :=
  prepared config (fixtureDaemonState config.network)

def ensureState (config : DaemonConfig) : ControlM ρ DaemonState := do
  match (← get).stateFile with
  | some file => pure (prepared config (← orThrow file.load))
  | none =>
    let state := createdState config
    save state
    pure state

section Ensure
variable {config : DaemonConfig} {world opened : World ρ} {file : StateFile} {state : DaemonState}

theorem ensureState_of_none (h : world.stateFile = none) :
    ensureState config world =
      .ok (createdState config) { world with stateFile := some (createdState config).saved } := by
  simp only [ensureState, bind_run, get_run, h, save, modify_run, pure_run]

theorem ensureState_of_load (h : world.stateFile = some file) (hload : file.load = .ok state) :
    ensureState config world = .ok (prepared config state) world := by
  simp only [ensureState, bind_run, get_run, h, hload, orThrow, pure_run]

theorem ensureState_of_damaged (h : world.stateFile = some file) {error : DaemonStateError}
    (hload : file.load = .error error) : ensureState config world = .error error world := by
  simp only [ensureState, bind_run, get_run, h, hload, orThrow, throw_run]

theorem ensureState_ok (h : ensureState config world = .ok state opened)
    (transport : QuicTransportAdapter ρ) :
    ensureState config { world with transport } = .ok state { opened with transport } ∧
      opened.transport = world.transport := by
  obtain ⟨contents, original⟩ := world
  cases contents with
  | none =>
    rw [ensureState_of_none rfl] at h
    cases h
    exact ⟨ensureState_of_none rfl, rfl⟩
  | some file =>
    cases hload : file.load with
    | error error =>
      rw [ensureState_of_damaged rfl hload] at h
      cases h
    | ok loaded =>
      rw [ensureState_of_load rfl hload] at h
      cases h
      exact ⟨ensureState_of_load rfl hload, rfl⟩

end Ensure

def ensureStateForLocalIdentity (config : DaemonConfig) (localIdentity : IdentityKeypair) :
    ControlM ρ DaemonState := do
  match (← get).stateFile with
  | some _ => ensureState config
  | none =>
    let state := (selfIdentityDaemonState config.network config.roles localIdentity).withMergedCandidates
    save state
    pure state

def ensureIdentityBoundState (config : DaemonConfig) (localIdentity : IdentityKeypair) :
    ControlM ρ DaemonState := do
  let state ← ensureStateForLocalIdentity config localIdentity
  let expected := localIdentity.peerId
  if state.localPeerId ≠ expected then
    throw (.invalidSession ("state local peer " ++ state.localPeerId.toText ++
      " does not match runtime identity " ++ expected.toText))
  else if state.membership.subjectPeerId ≠ expected then
    throw (.invalidSession ("membership subject peer " ++ state.membership.subjectPeerId.toText ++
      " does not match runtime identity " ++ expected.toText))
  else pure state

def transaction {α : Type} (config : DaemonConfig)
    (work : DaemonState → FabricM ρ (DaemonState × α)) : ControlM ρ α := do
  let state ← ensureState config
  let (state, value) ← withTransport (work state)
  save state
  pure value

section Transaction
variable {α : Type} {config : DaemonConfig} {work : DaemonState → FabricM ρ (DaemonState × α)}
  {world opened : World ρ} {state : DaemonState}

theorem transaction_run (hstate : ensureState config world = .ok state opened) :
    transaction config work world =
      (withTransport (work state) >>= fun result => save result.1 >>= fun _ => pure result.2)
        opened := bind_of_ok hstate

theorem transaction_error_iff (hstate : ensureState config world = .ok state opened)
    {error : DaemonStateError} {after : World ρ} :
    transaction config work world = .error error after ↔
      work state world.transport = .error error after.transport ∧
        after.stateFile = opened.stateFile := by
  have hopened := (ensureState_ok hstate world.transport).2
  obtain ⟨file, transport⟩ := after
  rw [transaction_run hstate]
  cases hwork : work state world.transport with
  | ok result transport' =>
    simp [withTransport, zoom, hopened, hwork, save]
  | error error' transport' =>
    simp only [bind_run, withTransport, zoom, hopened, hwork, EStateM.Result.error.injEq,
      World.mk.injEq]
    tauto

theorem transaction_stateFile (hstate : ensureState config world = .ok state opened) :
    (final (transaction config work) world).stateFile =
      match work state world.transport with
      | .ok result _ => some result.1.saved
      | .error _ _ => opened.stateFile := by
  have hopened := (ensureState_ok hstate world.transport).2
  rw [final, transaction_run hstate]
  cases hwork : work state world.transport <;>
    simp only [bind_run, withTransport, zoom, hopened, hwork, save, modify_run, pure_run]

end Transaction

def refreshAndPersist (config : DaemonConfig) : ControlM ρ DaemonState :=
  transaction config fun state => pure (state, state)

def refreshAndPersistForLocalIdentity (config : DaemonConfig) (localIdentity : IdentityKeypair) :
    ControlM ρ DaemonState := do
  let state ← ensureStateForLocalIdentity config localIdentity
  save state
  pure state

structure NetcheckReprobeReport where
  reason : String
  udpReachable : Bool
  ipv6Reachable : Bool
  relayRequired : Bool
  probeObservations : ℕ
  pathCandidates : ℕ
deriving DecidableEq, Repr

def reprobedState (reason : String) (state : DaemonState) : DaemonState :=
  { state with netcheck := reprobeNetcheck state reason }.withMergedCandidates

def reprobeNetworkChange (config : DaemonConfig) (reason : String) :
    ControlM ρ NetcheckReprobeReport :=
  transaction config fun state =>
    let state := reprobedState reason state
    pure (state,
      { reason
        udpReachable := state.netcheck.udpReachable
        ipv6Reachable := state.netcheck.ipv6Reachable
        relayRequired := state.netcheck.relayRequired
        probeObservations := state.netcheck.probeObservations.length
        pathCandidates := state.pathCandidates.length })

/-! ## The authority's artifacts -/

def authorityClient (config : DaemonConfig) : ControlClient := ⟨NetworkId.derive config.network⟩

def fetchAuthoritySnapshotFor (config : DaemonConfig) (origin : AuthorityOrigin)
    (subject : Option String) : Except ControlError AuthorityArtifactSnapshot := do
  let snapshot ← origin.snapshot subject
  (authorityClient config).syncAuthoritySnapshot snapshot

theorem fetchAuthoritySnapshotFor_eq_ok {config : DaemonConfig} {origin : AuthorityOrigin}
    {subject : Option String} {snapshot : AuthorityArtifactSnapshot}
    (h : fetchAuthoritySnapshotFor config origin subject = .ok snapshot) :
    origin.snapshot subject = .ok snapshot := by
  obtain ⟨answer, hanswer, h⟩ := except_bind_eq_ok h
  unfold ControlClient.syncAuthoritySnapshot at h
  split_ifs at h
  cases h
  exact hanswer

def seedFromAuthoritySnapshot (config : DaemonConfig)
    (loaded : Except DaemonStateError AuthorityArtifactSnapshot) : ControlM ρ DaemonState := do
  let snapshot ← orThrow loaded
  let state ← orThrow (DaemonState.fromAuthoritySnapshot config.network config.roles snapshot)
  let state := state.withMergedCandidates
  save state
  pure state

def seedFromAuthorityOrigin (config : DaemonConfig) (origin : AuthorityOrigin)
    (subject : Option String) : ControlM ρ DaemonState := do
  let snapshot ← fetched (fetchAuthoritySnapshotFor config origin subject)
  let relayMap ← fetched origin.relayMap
  let state ← orThrow (DaemonState.fromAuthoritySnapshot config.network config.roles snapshot)
  let state := (state.withMergedCandidates.applyRelayMap relayMap).1
  save state
  pure state

def seededReport (state : DaemonState) (relayAnnouncementsAdded : ℕ) : StateSyncReport where
  membershipChanged := true
  grantsAdded := state.capabilityGrants.length
  grantsRemoved := 0
  revocationsAdded := state.revocations.length
  bootstrapHintsAdded := state.bootstrap.length
  bootstrapHintsRemoved := 0
  relayAnnouncementsAdded := relayAnnouncementsAdded

def syncedState (config : DaemonConfig) (file : Option StateFile)
    (snapshot : AuthorityArtifactSnapshot) :
    Except DaemonStateError (DaemonState × StateSyncReport) :=
  match file with
  | some file => do
    let state ← file.load
    { state with roles := config.roles }.syncAuthoritySnapshot (authorityClient config) snapshot
  | none => do
    let state ← DaemonState.fromAuthoritySnapshot config.network config.roles snapshot
    let state := state.withMergedCandidates
    pure (state, seededReport state 0)

def syncAuthoritySnapshot (config : DaemonConfig)
    (loaded : Except DaemonStateError AuthorityArtifactSnapshot) :
    ControlM ρ (DaemonState × StateSyncReport) := do
  let snapshot ← orThrow loaded
  let (state, report) ← orThrow (syncedState config (← get).stateFile snapshot)
  save state
  pure (state, report)

/-- The bootstrap counts of a seeding sync are read after the relay map is applied,
which changes none of them. -/
def syncAuthorityOrigin (config : DaemonConfig) (origin : AuthorityOrigin)
    (subject : Option String) : ControlM ρ (DaemonState × StateSyncReport) := do
  let snapshot ← fetched (fetchAuthoritySnapshotFor config origin subject)
  let relayMap ← fetched origin.relayMap
  let (state, report) ← orThrow (syncedState config (← get).stateFile snapshot)
  let (state, relayAnnouncementsAdded) := state.applyRelayMap relayMap
  save state
  pure (state, { report with relayAnnouncementsAdded })

/-- `sync_authority_revocations_origin` between loading the state and saving it. -/
def revokeState (origin : AuthorityOrigin) (state : DaemonState) :
    FabricM ρ (DaemonState × DaemonState × ℕ) :=
  match origin.revocations state.maxRevocationSequence with
  | .error error => throw (.control error)
  | .ok revocations =>
    let (state, added) := state.applyRevocations revocations
    pure (state, state, added)

def syncAuthorityRevocationsOrigin (config : DaemonConfig) (origin : AuthorityOrigin) :
    ControlM ρ (DaemonState × ℕ) :=
  transaction config fun state => revokeState origin { state with roles := config.roles }

def resetNetworkState : ControlM ρ Bool := modifyGet fun world =>
  (world.stateFile.isSome, { world with stateFile := none })

/-! ## Sessions -/

def closeSession (config : DaemonConfig) (sessionId : SessionId) : ControlM ρ Unit :=
  transaction config (closeState sessionId)

def upgradeSession (config : DaemonConfig) (sessionId : SessionId) : ControlM ρ SessionSnapshot :=
  transaction config (upgradeState sessionId)

def reconcileSessions (config : DaemonConfig) : ControlM ρ SessionReconcileReport :=
  transaction config reconcileState

def realizeBestPath (config : DaemonConfig) (peer : PeerId) (protocol : ProtocolId)
    (trafficClass : TrafficClass) : ControlM ρ SessionSnapshot :=
  transaction config (realizeState peer protocol trafficClass)

def reevaluateRuntimeAuthority (config : DaemonConfig) (runtimeIdentity : IdentityKeypair) :
    ControlM ρ AuthorityReevaluationReport := do
  let state ← ensureState config
  withTransport (reevaluateAuthority state runtimeIdentity.peerId)

def explainPolicy (config : DaemonConfig) (peer : PeerId) (protocol : ProtocolId) :
    ControlM ρ Policy.Decision := do
  pure ((← ensureState config).explainPolicy peer protocol)

end LocalControlPlane

/-! ## A node of the fixture network -/

def refusingRelays : RelayControl ρ where
  openSession _ _ relays := (.error .sessionNotFound, relays)
  closeSession _ _ _ relays := (.error .sessionNotFound, relays)

def meshConfig : DaemonConfig := ⟨"mesh", [.edge]⟩

def meshSession (byte : UInt8) (pathKind : PathKind) (peer : PeerId) : SessionSnapshot where
  sessionId := .fill byte
  transportSessionId := .fill byte
  relayAttemptId := none
  peer := peer
  protocol := some ⟨"/quip/control/1"⟩
  trafficClass := .bulk
  pathKind := pathKind
  source := .observed
  remoteEndpoint := "udp://198.51.100.24:8443"
  relayPeer := none
  relayEndpoint := none
  relayControlEndpoint := some "http://203.0.113.10:9081"
  datagramsCapable := true
  migrationCapable := true
  state := .active
  closureReason := none
  stateReason := none
  createdAtUnixSecs := 1720000000
  lastActivityUnixSecs := 1720000000

def meshTransport (sessions : List SessionSnapshot) (suppressions : List ReconnectSuppression) :
    QuicTransportAdapter Unit where
  runtimeInstanceId := "rt-1"
  relayControl := refusingRelays
  relays := ()
  runtimeSessions := sessions.foldl (fun registry session => registry.insert ⟨session, none⟩) {}
  reconnectSuppressions := suppressions
  host := { clock := fun _ => 1720000000000000000, entropy := fun _ => 0 }

def meshWorld (state : DaemonState) (sessions : List SessionSnapshot)
    (suppressions : List ReconnectSuppression) : World Unit :=
  ⟨some (.durable state), meshTransport sessions suppressions⟩

end QuipNet.Fabric
