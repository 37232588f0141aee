import QuipNet.Paths

/-!
# Building and updating the daemon state

The two update paths of the authority facts (`sync_authority_snapshot` and
`apply_revocations`), the relay map, the network reprobe, and the three
constructors: from a snapshot, the fixture, and the fixture rebound to an
identity.
-/

open Std
namespace QuipNet.Fabric
open QuipNet.Control QuipNet.Library QuipNet.Peers QuipNet.Policy QuipNet.Relay QuipNet.Routing
open QuipNet.Transport

/-! ## Peers of the bootstrap list and of the relay map -/

def bootstrapProtocols (metadata : TreeMap String String) : List String :=
  let listed := ((metadata["protocols"]?).map fun value =>
    ((value.toList.splitOn ',').map fun part => trim (String.ofList part)).filter fun part =>
      part ≠ "")
  (listed.filter fun values => !values.isEmpty).getD ["/quip/control/1", "/quip/records/1"]

def bootstrapEndpointFromHint (hint : BootstrapHint) : BootstrapEndpoint :=
  ⟨hint.peerId, hint.addresses, bootstrapProtocols hint.metadata, hint.metadata⟩

def bootstrapHintFromEndpoint (endpoint : BootstrapEndpoint) : BootstrapHint :=
  ⟨endpoint.peer, endpoint.addresses, endpoint.metadata⟩

def storeOf (existing : List PeerInspection) : PeerStore :=
  existing.foldl (fun store peer => store.upsertPeerWithStatus peer.snapshot peer.status) {}

def upsertBootstrap (statusOf : PeerStore → PeerId → PeerStatus) (store : PeerStore)
    (endpoint : BootstrapEndpoint) : PeerStore :=
  match endpoint.peer with
  | none => store
  | some peer =>
    store.upsertPeerWithStatus ⟨peer, endpoint.protocols, endpoint.addresses⟩ (statusOf store peer)

def bootstrapStatus : PeerStatus := ⟨.bootstrap, .unknown, none⟩

def bootstrapPeers (endpoints : List BootstrapEndpoint) : List PeerInspection :=
  (endpoints.foldl (upsertBootstrap fun _ _ => bootstrapStatus) {}).inspections

def mergeBootstrapPeers (existing : List PeerInspection) (bootstrap : List BootstrapEndpoint) :
    List PeerInspection :=
  (bootstrap.foldl (upsertBootstrap fun store peer => (store.peerStatus peer).getD bootstrapStatus)
    (storeOf existing)).inspections

def relayPeers (relayMap : RelayMap) : List PeerInspection :=
  (relayMap.relays.foldl (fun store relay =>
    store.upsertPeerWithStatus ⟨relay.peerId, ["/quip/relay/1"], relay.advertisedEndpoints⟩
      ⟨.relayMap, .unknown, some relayMap.generatedAt⟩) ({} : PeerStore)).inspections

def mergeRelayPeers (existing relays : List PeerInspection) : List PeerInspection :=
  (relays.foldl (fun store relay =>
    store.upsertPeerWithStatus relay.snapshot ((store.peerStatus relay.snapshot.peer).getD
      ⟨.relayMap, .unknown, relay.status.lastSeenUnixSecs⟩)) (storeOf existing)).inspections

structure StateSyncReport where
  membershipChanged : Bool
  grantsAdded : ℕ
  grantsRemoved : ℕ
  revocationsAdded : ℕ
  bootstrapHintsAdded : ℕ
  bootstrapHintsRemoved : ℕ
  relayAnnouncementsAdded : ℕ
deriving DecidableEq, Repr

/-! ## Updates -/

/-- The comparison `apply_revocations` writes out; it is `same_revocation`. -/
def knownRevocation (existing revocation : RevocationRecord) : Bool :=
  existing.sequence = revocation.sequence && existing.issuerPeerId = revocation.issuerPeerId &&
    existing.target = revocation.target

def reprobeNetcheck (state : DaemonState) (reason : String) : NetcheckReport :=
  let netcheck := state.netcheck
  let netcheck :=
    if netcheck.portMapped || netcheck.publicUdpAddr.isSome then
      { netcheck with
        udpReachable := true
        natType := if netcheck.natType = .unknown ∨ netcheck.natType = .udpBlocked
          then .restrictedCone else netcheck.natType }
    else netcheck
  let netcheck :=
    if netcheck.publicUdpAddr.any isIpv6Address then { netcheck with ipv6Reachable := true }
    else netcheck
  let status : ProbeStatus :=
    if netcheck.udpReachable || netcheck.ipv6Reachable then .passed else .failed
  let latencyMs := if status = .passed then (bestProbeLatencyMs netcheck).or (some 20) else none
  let observations := netcheck.probeObservations ++
    [⟨"local-runtime", status, latencyMs, "network change reprobe: " ++ reason⟩]
  { netcheck with probeObservations := observations.drop (observations.length - 8) }

def pendingNetcheck : NetcheckReport where
  natType := .unknown
  udpReachable := false
  ipv6Reachable := false
  hairpinSupported := false
  publicUdpAddr := none
  portMapped := false
  probeObservations := [⟨"local", .pending, none, "netcheck has not run yet"⟩]

namespace DaemonState

def applyRevocations (state : DaemonState) (incoming : List RevocationRecord) : DaemonState × ℕ :=
  let merged := mergeNew knownRevocation state.revocations incoming
  ({ state with
      revocations := merged.1
      deniedPeers := Fabric.deniedPeers state.membership merged.1 }, merged.2)

def applyRelayMap (state : DaemonState) (incoming : RelayMap) : DaemonState × ℕ :=
  if state.relayMap.any fun existing => incoming.version < existing.version then (state, 0)
  else
    let added := (incoming.relays.filter fun relay => !state.relayMap.any fun existing =>
      existing.relays.any fun known => known.peerId = relay.peerId).length
    let state := { state with
      relayMap := some incoming
      peers := mergeRelayPeers state.peers (relayPeers incoming) }
    (state.withMergedCandidates, added)

def authoritySnapshot [Primitives] (state : DaemonState) : AuthorityArtifactSnapshot where
  networkId := NetworkId.derive state.network
  enrollmentToken := none
  membership := some state.membership
  capabilityGrants := state.capabilityGrants
  revocations := state.revocations
  bootstrapHints := state.bootstrap.map bootstrapHintFromEndpoint

def withArtifacts (state : DaemonState) (membership : MembershipCertificate)
    (merged : AuthorityArtifactSnapshot) : DaemonState :=
  let bootstrap := merged.bootstrapHints.map bootstrapEndpointFromHint
  let state := { state with
    localPeerId := membership.subjectPeerId
    membership
    capabilityGrants := merged.capabilityGrants
    revocations := merged.revocations
    deniedPeers := Fabric.deniedPeers membership merged.revocations
    bootstrap
    peers := mergeBootstrapPeers state.peers bootstrap }
  state.withMergedCandidates

def syncAuthoritySnapshot [Primitives] (state : DaemonState) (client : ControlClient)
    (incoming : AuthorityArtifactSnapshot) :
    Except DaemonStateError (DaemonState × StateSyncReport) :=
  match client.mergeSnapshot (some state.authoritySnapshot) incoming with
  | .error error => .error (.control error)
  | .ok (merged, delta) =>
    match merged.membership with
    | none => .error .missingMembership
    | some membership =>
      .ok (state.withArtifacts membership merged,
        { membershipChanged := delta.membershipChanged
          grantsAdded := delta.grantsAdded
          grantsRemoved := delta.grantsRemoved
          revocationsAdded := delta.revocationsAdded
          bootstrapHintsAdded := delta.bootstrapHintsAdded
          bootstrapHintsRemoved := delta.bootstrapHintsRemoved
          relayAnnouncementsAdded := 0 })

/-! ## Constructors -/

def fromAuthoritySnapshot [Primitives] (network : String) (roles : List DaemonRole)
    (snapshot : AuthorityArtifactSnapshot) : Except DaemonStateError DaemonState :=
  if snapshot.networkId ≠ NetworkId.derive network then .error .networkMismatch
  else
    match snapshot.membership with
    | none => .error .missingMembership
    | some membership =>
      let bootstrap := snapshot.bootstrapHints.map bootstrapEndpointFromHint
      let state : DaemonState :=
        { schemaVersion := daemonStateSchemaVersion
          network
          localPeerId := membership.subjectPeerId
          roles
          membership
          capabilityGrants := snapshot.capabilityGrants
          revocations := snapshot.revocations
          deniedPeers := Fabric.deniedPeers membership snapshot.revocations
          bootstrap
          relayMap := none
          peers := bootstrapPeers bootstrap
          netcheck := pendingNetcheck
          queuePolicies := defaultQueuePolicies
          activeSessions := []
          pathCandidates := [] }
      .ok state.withMergedCandidates

end DaemonState

section Fixture
variable [Primitives]

def fixtureRelayPeer : PeerId := PeerId.fromPublicKey .ed25519 (asBytes "fra-relay-1")

def fixtureWorkerPeer : PeerId := PeerId.fromPublicKey .ed25519 (asBytes "worker-17")

def fixtureBootstrap : List Discovery.BootstrapHint :=
  [⟨fixtureRelayPeer, ["udp://203.0.113.10:443"], ["/quip/relay/1"]⟩,
   ⟨fixtureWorkerPeer, ["udp://198.51.100.24:8443"], ["/quip/control/1", "/quip/records/1"]⟩]

def fixturePeers : List PeerInspection :=
  ((Discovery.ingestBootstrap fixtureBootstrap 1720000000 {}).upsertPeerWithStatus
    ⟨fixtureWorkerPeer, ["/quip/control/1", "/quip/records/1"], ["udp://198.51.100.24:8443"]⟩
    ⟨.discovery, .direct, some 1720000120⟩).inspections

def fixtureNetcheck : NetcheckReport where
  natType := .restrictedCone
  udpReachable := true
  ipv6Reachable := true
  hairpinSupported := true
  publicUdpAddr := some "198.51.100.24:8443"
  portMapped := false
  probeObservations :=
    [⟨"nyc-observer-1", .passed, some 12, "reflexive candidate validated"⟩,
     ⟨"fra-observer-1", .passed, some 24, "ipv6 direct candidate validated"⟩]

def fixtureCandidates : List PathCandidate :=
  [{ peer := fixtureWorkerPeer, pathKind := .directIpv6, relayPeer := none, source := .observed
     trafficClasses := [.interactive, .control], rttMs := 13, jitterMs := 1, lossPct := 0.1
     throughputMbps := 780, relayPenalty := 0 },
   { peer := fixtureWorkerPeer, pathKind := .relay, relayPeer := some fixtureRelayPeer
     source := .observed, trafficClasses := [.interactive, .bulk], rttMs := 24, jitterMs := 4
     lossPct := 0.3, throughputMbps := 1200, relayPenalty := 25 }]

def fixtureRelay : RelayAnnouncement where
  peerId := fixtureRelayPeer
  region := "eu-central-1"
  advertisedEndpoints := ["udp://203.0.113.10:443"]
  controlEndpoint := "http://203.0.113.10:9081"
  maxBandwidthBps := 1500000000
  supportsQuicDatagrams := true
  supportsPathMigration := true
  trafficClasses := ["NetworkControl", "InteractiveRpc", "Background"]

def fixtureIdentity : IdentityKeypair := .fromSecretBytes (Vector.replicate 32 12)

def fixtureAuthority : IdentityKeypair := .fromSecretBytes (Vector.replicate 32 11)

def fixtureDaemonState (network : String) : DaemonState where
  schemaVersion := daemonStateSchemaVersion
  network := network
  localPeerId := fixtureIdentity.peerId
  roles := [.edge, .observer]
  membership := .issue fixtureAuthority (NetworkId.derive network) fixtureIdentity.peerId
    1720000000 1820000000 ["member"]
  capabilityGrants := []
  revocations := []
  deniedPeers := []
  bootstrap := fixtureBootstrap.map fun hint =>
    ⟨some hint.peer, hint.addresses, hint.protocols, TreeMap.ofList [("source", "fixture")]⟩
  relayMap := some ⟨1, 1720000000, [fixtureRelay]⟩
  peers := fixturePeers
  netcheck := fixtureNetcheck
  queuePolicies := defaultQueuePolicies
  activeSessions := []
  pathCandidates := fixtureCandidates

def selfIdentityDaemonState (network : String) (roles : List DaemonRole)
    (localIdentity : IdentityKeypair) : DaemonState :=
  let state := fixtureDaemonState network
  let membership := MembershipCertificate.issue localIdentity (NetworkId.derive network)
    localIdentity.peerId 1720000000 1820000000 ["member"]
  let state := { state with
    roles
    localPeerId := localIdentity.peerId
    membership
    deniedPeers := deniedPeers membership state.revocations }
  state.withMergedCandidates

end Fixture

end QuipNet.Fabric
