import QuipNet.DaemonState

/-!
# Path candidates and route plans of a daemon state

Observed candidates are kept, direct ones are synthesized from the bootstrap
endpoints and relay ones from the relay map, each at most once for a peer, kind,
relay and source. A route plan takes the best candidate and the endpoints that
fit its kind.
-/

open Std
namespace QuipNet.Fabric
open QuipNet.Control QuipNet.Peers QuipNet.Policy QuipNet.Relay QuipNet.Routing QuipNet.Transport

def saturatingAdd (a b : UInt32) : UInt32 :=
  if a.toNat + b.toNat < UInt32.size then a + b else UInt32.ofNat (UInt32.size - 1)

def saturatingMul (a b : UInt32) : UInt32 :=
  if a.toNat * b.toNat < UInt32.size then a * b else UInt32.ofNat (UInt32.size - 1)

def isDirectQuicAddress (address : String) : Bool :=
  startsWith address "quic://" || startsWith address "udp://"

def isIpv6Address (address : String) : Bool :=
  contains address "://[" || 2 < address.toList.count ':'

def endpointMatchesPathKind (address : String) : PathKind → Bool
  | .directIpv6 => isDirectQuicAddress address && isIpv6Address address
  | .directUdp => isDirectQuicAddress address && !isIpv6Address address
  | .relay => isDirectQuicAddress address
  | .loopback => contains address "127.0.0.1" || contains address "://[::1]"
  | .lan => contains address "192.168." || contains address "10." || contains address "172.16."

def routeEndpoints (addresses : List String) (pathKind : PathKind) : List String :=
  let filtered := addresses.filter fun address => endpointMatchesPathKind address pathKind
  if filtered.isEmpty then addresses else filtered

/-- `endpoint_path_kind` and `relay_path_kind`, on the addresses they read. -/
def addressesPathKind (addresses : List String) : PathKind :=
  if addresses.any isIpv6Address then .directIpv6 else .directUdp

def endpointPathKind (endpoint : BootstrapEndpoint) : PathKind := addressesPathKind endpoint.addresses

def relayPathKind (relay : RelayAnnouncement) : PathKind :=
  addressesPathKind relay.advertisedEndpoints

def routeSource : PathSource → RouteSource
  | .observed => .observed
  | .bootstrap => .bootstrap
  | .authorityRelay => .authorityRelay

/-! ## Synthesized costs -/

def bestProbeLatencyMs (netcheck : NetcheckReport) : Option UInt32 :=
  ((netcheck.probeObservations.filter fun observation => observation.status = .passed).filterMap
    ProbeObservation.latencyMs).min?

def directBootstrapRttMs (netcheck : NetcheckReport) : UInt32 :=
  (bestProbeLatencyMs netcheck).getD 40

def directBootstrapJitterMs (netcheck : NetcheckReport) : UInt32 :=
  if netcheck.udpReachable then 3 else 12

def directBootstrapLossPct (netcheck : NetcheckReport) : Float32 :=
  if netcheck.udpReachable then 0.2 else 1.5

def directBootstrapThroughputMbps (netcheck : NetcheckReport) : UInt32 :=
  if netcheck.udpReachable then 600 else 120

def directRelayRttMs (relay : RelayAnnouncement) (netcheck : NetcheckReport) : UInt32 :=
  let base := (bestProbeLatencyMs netcheck).getD (if netcheck.udpReachable then 30 else 70)
  if relayPathKind relay = .directIpv6 ∧ netcheck.ipv6Reachable then saturatingAdd base 5
  else saturatingAdd base 15

def directRelayJitterMs (netcheck : NetcheckReport) : UInt32 :=
  if netcheck.udpReachable then 4 else 14

def directRelayLossPct (netcheck : NetcheckReport) : Float32 :=
  if netcheck.udpReachable then 0.3 else 1.8

def relayDirectThroughputMbps (relay : RelayAnnouncement) : UInt32 :=
  UInt32.ofNat (max 100 (min (relay.maxBandwidthBps / 1000000) 5000))

def relayFallbackRttMs (relay : RelayAnnouncement) (netcheck : NetcheckReport) : UInt32 :=
  saturatingAdd (saturatingMul (directRelayRttMs relay netcheck) 2) 20

def relayFallbackJitterMs (netcheck : NetcheckReport) : UInt32 :=
  saturatingAdd (directRelayJitterMs netcheck) 5

def relayFallbackLossPct (netcheck : NetcheckReport) : Float32 :=
  directRelayLossPct netcheck + 0.4

def relayFallbackThroughputMbps (relay : RelayAnnouncement) : UInt32 :=
  max (relayDirectThroughputMbps relay / 2) 80

def relayTrafficClass : String → Option TrafficClass
  | "NetworkControl" => some .control
  | "InteractiveRpc" => some .interactive
  | "Background" => some .background
  | "Bulk" => some .bulk
  | _ => none

def relayTrafficClasses (values : List String) : List TrafficClass :=
  let classes := values.filterMap relayTrafficClass
  if classes.isEmpty then [.control, .interactive] else classes

/-! ## Candidates -/

def synthesizedDirectBootstrapCandidates (state : DaemonState) : List PathCandidate :=
  if !state.netcheck.udpReachable && !state.netcheck.ipv6Reachable then []
  else
    (state.bootstrap.filter fun endpoint => endpoint.addresses.any isDirectQuicAddress).filterMap
      fun endpoint => endpoint.peer.map fun peer =>
        { peer
          pathKind := endpointPathKind endpoint
          relayPeer := none
          source := .bootstrap
          trafficClasses := [.control, .interactive, .bulk, .background]
          rttMs := directBootstrapRttMs state.netcheck
          jitterMs := directBootstrapJitterMs state.netcheck
          lossPct := directBootstrapLossPct state.netcheck
          throughputMbps := directBootstrapThroughputMbps state.netcheck
          relayPenalty := 0 }

def directRelayCandidate (netcheck : NetcheckReport) (relay : RelayAnnouncement) : PathCandidate where
  peer := relay.peerId
  pathKind := relayPathKind relay
  relayPeer := none
  source := .authorityRelay
  trafficClasses := relayTrafficClasses relay.trafficClasses
  rttMs := directRelayRttMs relay netcheck
  jitterMs := directRelayJitterMs netcheck
  lossPct := directRelayLossPct netcheck
  throughputMbps := relayDirectThroughputMbps relay
  relayPenalty := 0

def relayFallbackCandidate (netcheck : NetcheckReport) (peer : PeerId)
    (relay : RelayAnnouncement) : PathCandidate where
  peer := peer
  pathKind := .relay
  relayPeer := some relay.peerId
  source := .authorityRelay
  trafficClasses := relayTrafficClasses relay.trafficClasses
  rttMs := relayFallbackRttMs relay netcheck
  jitterMs := relayFallbackJitterMs netcheck
  lossPct := relayFallbackLossPct netcheck
  throughputMbps := relayFallbackThroughputMbps relay
  relayPenalty := 25

def synthesizedRelayCandidates (state : DaemonState) : List PathCandidate :=
  match state.relayMap with
  | none => []
  | some relayMap =>
    let relayPeerIds := relayMap.relays.map RelayAnnouncement.peerId
    relayMap.relays.map (directRelayCandidate state.netcheck) ++
      (state.peers.filter fun peer => !relayPeerIds.contains peer.snapshot.peer).flatMap fun peer =>
        relayMap.relays.map (relayFallbackCandidate state.netcheck peer.snapshot.peer)

def pushUniqueCandidate (candidates : List PathCandidate) (candidate : PathCandidate) :
    List PathCandidate :=
  if candidates.any fun existing =>
      existing.peer = candidate.peer && existing.pathKind = candidate.pathKind &&
        existing.relayPeer = candidate.relayPeer && existing.source = candidate.source
  then candidates
  else candidates ++ [candidate]

def mergedPathCandidates (state : DaemonState) : List PathCandidate :=
  let observed := state.pathCandidates.filter fun candidate => candidate.source = .observed
  let direct := (synthesizedDirectBootstrapCandidates state).foldl pushUniqueCandidate observed
  (synthesizedRelayCandidates state).foldl pushUniqueCandidate direct

/-! ## Route plans -/

namespace DaemonState

def withMergedCandidates (state : DaemonState) : DaemonState :=
  { state with pathCandidates := mergedPathCandidates state }

def pathCandidatesFor (state : DaemonState) (peer : PeerId) : List PathCandidate :=
  state.pathCandidates.filter fun candidate => candidate.peer = peer

def bestPath (state : DaemonState) (peer : PeerId) (trafficClass : TrafficClass) :
    Option PathDecision :=
  selectBestPath (state.pathCandidatesFor peer) trafficClass

def relayPlan (state : DaemonState) (peer : PeerId) (selected : PathCandidate)
    (remoteEndpoints : List String) : Except DaemonStateError (Option RelayPlan) :=
  if selected.pathKind = .relay then
    match selected.relayPeer with
    | none => .error (.noRoute peer)
    | some relayPeer =>
      match state.relayAnnouncements.find? fun candidate => candidate.peerId = relayPeer with
      | none => .error (.noRoute peer)
      | some relay =>
        .ok (some
          { relayPeer
            relayEndpoints := routeEndpoints relay.advertisedEndpoints (relayPathKind relay)
            relayControlEndpoint := relay.controlEndpoint
            destinationEndpoints := remoteEndpoints
            supportsDatagrams := relay.supportsQuicDatagrams
            supportsPathMigration := relay.supportsPathMigration })
  else .ok none

def routePlan (state : DaemonState) (peer : PeerId) (protocol : Option ProtocolId)
    (trafficClass : TrafficClass) : Except DaemonStateError RoutePlan :=
  match state.bestPath peer trafficClass with
  | none => .error (.noRoute peer)
  | some decision =>
    match state.peer peer with
    | none => .error (.peerNotFound peer.toText)
    | some inspection =>
      let remoteEndpoints := routeEndpoints inspection.snapshot.addresses decision.selected.pathKind
      match state.relayPlan peer decision.selected remoteEndpoints with
      | .error error => .error error
      | .ok relay =>
        .ok { localPeer := state.localPeerId
              peer
              protocol
              trafficClass
              pathKind := decision.selected.pathKind
              source := routeSource decision.selected.source
              remoteEndpoints
              relay }

theorem relayPlan_isSome {state : DaemonState} {peer : PeerId} {selected : PathCandidate}
    {remoteEndpoints : List String} {relay : Option RelayPlan}
    (h : state.relayPlan peer selected remoteEndpoints = .ok relay) :
    relay.isSome ↔ selected.pathKind = .relay := by
  unfold relayPlan at h
  split_ifs at h with hkind
  · split at h
    · cases h
    · split at h <;> cases h
      simp [hkind]
  · cases h
    simp [hkind]

/-- A plan is made for the key it was asked for, from the local peer, and has a
relay exactly when its kind says so. -/
theorem routePlan_ok {state : DaemonState} {peer : PeerId} {protocol : Option ProtocolId}
    {trafficClass : TrafficClass} {route : RoutePlan}
    (h : state.routePlan peer protocol trafficClass = .ok route) :
    route.localPeer = state.localPeerId ∧ route.peer = peer ∧ route.protocol = protocol ∧
      route.trafficClass = trafficClass ∧ (route.relay.isSome ↔ route.pathKind = .relay) := by
  unfold routePlan at h
  split at h
  · cases h
  · split at h
    · cases h
    · dsimp only at h
      split at h
      · cases h
      · rename_i hrelay
        cases h
        exact ⟨rfl, rfl, rfl, rfl, relayPlan_isSome hrelay⟩

theorem routePlan_error {state : DaemonState} {peer : PeerId} {protocol : Option ProtocolId}
    {trafficClass : TrafficClass} {error : DaemonStateError}
    (h : state.routePlan peer protocol trafficClass = .error error) :
    error = .noRoute peer ∨ error = .peerNotFound peer.toText := by
  unfold routePlan at h
  split at h
  · cases h
    exact .inl rfl
  · split at h
    · cases h
      exact .inr rfl
    · dsimp only at h
      split at h
      · rename_i hrelay
        unfold relayPlan at hrelay
        split_ifs at hrelay
        split at hrelay
        · cases hrelay
          cases h
          exact .inl rfl
        · split at hrelay <;> cases hrelay
          cases h
          exact .inl rfl
      · cases h

theorem routePlan_key {state : DaemonState} {key : SessionKey} {route : RoutePlan}
    (h : state.routePlan key.peer key.protocol key.trafficClass = .ok route) : route.key = key := by
  obtain ⟨-, hpeer, hprotocol, hclass, -⟩ := routePlan_ok h
  rw [RoutePlan.key, hpeer, hprotocol, hclass]

end DaemonState

end QuipNet.Fabric
