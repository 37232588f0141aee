import QuipNet.AuthorityFacts
import QuipNet.ControlPlane

/-!
# The derived fields of the daemon state

The deny list, the local peer, the peer list and the path candidates are derived
from the authority's artifacts, and each update recomputes only some of them. A
state is coherent when every derived field fits the others. The path candidates
feed back into their own recomputation through the observed ones, which merging
keeps as they are.
-/

open Std
namespace QuipNet.Fabric
open QuipNet.Control QuipNet.Library QuipNet.Library.Effect QuipNet.Peers QuipNet.Relay
open QuipNet.Routing

/-! ## Path candidates -/

/-- What `push_unique_candidate` compares. -/
def candidateKey (candidate : PathCandidate) : PeerId × PathKind × Option PeerId × PathSource :=
  (candidate.peer, candidate.pathKind, candidate.relayPeer, candidate.source)

def sameCandidate (existing candidate : PathCandidate) : Bool :=
  candidateKey existing = candidateKey candidate

def observedCandidates (state : DaemonState) : List PathCandidate :=
  state.pathCandidates.filter fun candidate => candidate.source = .observed

def synthesizedCandidates (state : DaemonState) : List PathCandidate :=
  synthesizedDirectBootstrapCandidates state ++ synthesizedRelayCandidates state

theorem foldl_pushUniqueCandidate (items : List PathCandidate) (merged : List PathCandidate × ℕ) :
    items.foldl pushUniqueCandidate merged.1 =
      (items.foldl (pushNew sameCandidate) merged).1 := by
  induction items generalizing merged with
  | nil => rfl
  | cons item rest ih =>
    have hpush : pushUniqueCandidate merged.1 item = (pushNew sameCandidate merged item).1 := by
      have hsame : (fun existing : PathCandidate => existing.peer = item.peer &&
          existing.pathKind = item.pathKind && existing.relayPeer = item.relayPeer &&
          existing.source = item.source) = fun existing => sameCandidate existing item := by
        funext existing
        simp [sameCandidate, candidateKey, Bool.and_assoc]
      unfold pushUniqueCandidate pushNew
      rw [hsame]
      split_ifs <;> rfl
    rw [List.foldl_cons, hpush]
    exact ih _

theorem mergedPathCandidates_eq (state : DaemonState) :
    mergedPathCandidates state =
      (mergeNew sameCandidate (observedCandidates state) (synthesizedCandidates state)).1 := by
  have hdirect := foldl_pushUniqueCandidate (synthesizedDirectBootstrapCandidates state)
    (observedCandidates state, 0)
  unfold mergedPathCandidates mergeNew synthesizedCandidates
  rw [List.foldl_append, ← foldl_pushUniqueCandidate, ← hdirect]
  rfl

def directBootstrapCandidate (netcheck : NetcheckReport) (peer : PeerId) (pathKind : PathKind) :
    PathCandidate where
  peer := peer
  pathKind := pathKind
  relayPeer := none
  source := .bootstrap
  trafficClasses := [.control, .interactive, .bulk, .background]
  rttMs := directBootstrapRttMs netcheck
  jitterMs := directBootstrapJitterMs netcheck
  lossPct := directBootstrapLossPct netcheck
  throughputMbps := directBootstrapThroughputMbps netcheck
  relayPenalty := 0

theorem mem_synthesizedDirectBootstrapCandidates {state : DaemonState} {candidate : PathCandidate} :
    candidate ∈ synthesizedDirectBootstrapCandidates state ↔
      (state.netcheck.udpReachable ∨ state.netcheck.ipv6Reachable) ∧
        ∃ endpoint ∈ state.bootstrap, endpoint.addresses.any isDirectQuicAddress ∧
          ∃ peer, endpoint.peer = some peer ∧
            directBootstrapCandidate state.netcheck peer (endpointPathKind endpoint) = candidate := by
  unfold synthesizedDirectBootstrapCandidates
  split_ifs with hunreachable
  · simp only [Bool.and_eq_true, Bool.not_eq_true'] at hunreachable
    simp [hunreachable]
  · have hreachable : state.netcheck.udpReachable = true ∨ state.netcheck.ipv6Reachable = true := by
      cases hudp : state.netcheck.udpReachable <;> simp_all
    simp only [hreachable, true_and, List.mem_filterMap, List.mem_filter, and_assoc,
      Option.map_eq_some_iff]
    rfl

theorem mem_synthesizedRelayCandidates {state : DaemonState} {candidate : PathCandidate} :
    candidate ∈ synthesizedRelayCandidates state ↔
      ∃ relay ∈ state.relayAnnouncements, directRelayCandidate state.netcheck relay = candidate ∨
        ∃ entry ∈ state.peers,
          entry.snapshot.peer ∉ state.relayAnnouncements.map RelayAnnouncement.peerId ∧
            relayFallbackCandidate state.netcheck entry.snapshot.peer relay = candidate := by
  unfold synthesizedRelayCandidates
  cases hmap : state.relayMap with
  | none => simp [DaemonState.relayAnnouncements, hmap]
  | some relayMap =>
    have hrelays : state.relayAnnouncements = relayMap.relays := by
      simp [DaemonState.relayAnnouncements, hmap]
    simp only [hrelays, List.mem_append, List.mem_map, List.mem_flatMap, List.mem_filter,
      Bool.not_eq_true', List.contains_eq_mem, decide_eq_false_iff_not]
    constructor
    · rintro (⟨relay, hrelay, hdirect⟩ | ⟨entry, ⟨hentry, hother⟩, relay, hrelay, hfallback⟩)
      · exact ⟨relay, hrelay, .inl hdirect⟩
      · exact ⟨relay, hrelay, .inr ⟨entry, hentry, hother, hfallback⟩⟩
    · rintro ⟨relay, hrelay, hdirect | ⟨entry, hentry, hother, hfallback⟩⟩
      · exact .inl ⟨relay, hrelay, hdirect⟩
      · exact .inr ⟨entry, ⟨hentry, hother⟩, relay, hrelay, hfallback⟩

theorem source_of_mem_synthesized {state : DaemonState} {candidate : PathCandidate}
    (h : candidate ∈ synthesizedCandidates state) : candidate.source ≠ .observed := by
  rcases List.mem_append.mp h with hdirect | hrelay
  · obtain ⟨-, endpoint, -, -, peer, -, rfl⟩ := mem_synthesizedDirectBootstrapCandidates.1 hdirect
    simp [directBootstrapCandidate]
  · obtain ⟨relay, -, rfl | ⟨entry, -, -, rfl⟩⟩ := mem_synthesizedRelayCandidates.1 hrelay
    · simp [directRelayCandidate]
    · simp [relayFallbackCandidate]

theorem relay_of_mem_synthesized {state : DaemonState} {candidate : PathCandidate}
    (h : candidate ∈ synthesizedCandidates state) {relayPeer : PeerId}
    (hrelayPeer : candidate.relayPeer = some relayPeer) :
    ∃ relay ∈ state.relayAnnouncements, relay.peerId = relayPeer := by
  rcases List.mem_append.mp h with hdirect | hrelay
  · obtain ⟨-, endpoint, -, -, peer, -, rfl⟩ := mem_synthesizedDirectBootstrapCandidates.1 hdirect
    simp [directBootstrapCandidate] at hrelayPeer
  · obtain ⟨relay, hannounced, rfl | ⟨entry, -, -, rfl⟩⟩ := mem_synthesizedRelayCandidates.1 hrelay
    · simp [directRelayCandidate] at hrelayPeer
    · exact ⟨relay, hannounced, Option.some.inj hrelayPeer⟩

theorem exists_mergedPathCandidates (state : DaemonState) : ∃ added,
    mergedPathCandidates state = observedCandidates state ++ added ∧
      added ⊆ synthesizedCandidates state ∧
      added.Pairwise fun a b => candidateKey a ≠ candidateKey b := by
  rw [mergedPathCandidates_eq]
  obtain ⟨added, heq, hsubset, hpairwise⟩ :=
    exists_mergeNew sameCandidate (observedCandidates state) (synthesizedCandidates state)
  refine ⟨added, heq, hsubset, hpairwise.imp fun h => ?_⟩
  simpa [sameCandidate] using h

theorem filter_observed_merged (state : DaemonState) :
    (mergedPathCandidates state).filter (fun candidate => candidate.source = .observed) =
      observedCandidates state := by
  obtain ⟨added, heq, hsubset, -⟩ := exists_mergedPathCandidates state
  have hnone : added.filter (fun candidate => candidate.source = .observed) = [] := by
    refine List.filter_eq_nil_iff.mpr fun candidate hcandidate => ?_
    simpa using source_of_mem_synthesized (hsubset hcandidate)
  rw [heq, List.filter_append, hnone, List.append_nil, observedCandidates, List.filter_filter]
  simp

theorem mergedPathCandidates_congr {a b : DaemonState}
    (hobserved : observedCandidates b = observedCandidates a) (hnetcheck : b.netcheck = a.netcheck)
    (hbootstrap : b.bootstrap = a.bootstrap) (hrelayMap : b.relayMap = a.relayMap)
    (hpeers : b.peers = a.peers) : mergedPathCandidates b = mergedPathCandidates a := by
  rw [mergedPathCandidates_eq, mergedPathCandidates_eq, hobserved]
  simp only [synthesizedCandidates, synthesizedDirectBootstrapCandidates,
    synthesizedRelayCandidates, hnetcheck, hbootstrap, hrelayMap, hpeers]

theorem mergedPathCandidates_withMerged (state : DaemonState) :
    mergedPathCandidates state.withMergedCandidates = mergedPathCandidates state :=
  mergedPathCandidates_congr (filter_observed_merged state) rfl rfl rfl rfl

/-! ## The peer list -/

theorem upserts_storeOf : PeerStore.Upserts
    (fun store (peer : PeerInspection) => store.upsertPeerWithStatus peer.snapshot peer.status)
    fun peer => some peer.snapshot.peer :=
  fun _ peer => .inr ⟨peer.snapshot, peer.status, rfl, rfl⟩

theorem keyed_storeOf (existing : List PeerInspection) : (storeOf existing).Keyed :=
  (upserts_storeOf.foldl existing PeerStore.keyed_empty).1

theorem knows_storeOf {existing : List PeerInspection} {peer : PeerId} (h : Lists existing peer) :
    (storeOf existing).Knows peer := by
  obtain ⟨entry, hentry, rfl⟩ := h
  refine ((upserts_storeOf.foldl existing PeerStore.keyed_empty).2 _).mpr (.inr ?_)
  exact ⟨entry, hentry, rfl⟩

theorem upserts_bootstrap (statusOf : PeerStore → PeerId → PeerStatus) :
    PeerStore.Upserts (upsertBootstrap statusOf) BootstrapEndpoint.peer := by
  intro store endpoint
  unfold upsertBootstrap
  cases hpeer : endpoint.peer with
  | none => exact .inl ⟨rfl, rfl⟩
  | some peer => exact .inr ⟨_, _, rfl, rfl⟩

theorem bootstrapPeers_spec (endpoints : List BootstrapEndpoint) :
    Sorted (bootstrapPeers endpoints) ∧
      ∀ endpoint ∈ endpoints, ∀ peer, endpoint.peer = some peer →
        Lists (bootstrapPeers endpoints) peer := by
  have hfilled := (upserts_bootstrap fun _ _ => bootstrapStatus).inspections endpoints
    PeerStore.keyed_empty
  exact ⟨hfilled.1, hfilled.2.2⟩

theorem mergeBootstrapPeers_spec (existing : List PeerInspection)
    (endpoints : List BootstrapEndpoint) :
    Sorted (mergeBootstrapPeers existing endpoints) ∧
      (∀ peer, Lists existing peer → Lists (mergeBootstrapPeers existing endpoints) peer) ∧
      ∀ endpoint ∈ endpoints, ∀ peer, endpoint.peer = some peer →
        Lists (mergeBootstrapPeers existing endpoints) peer := by
  have hfilled := (upserts_bootstrap fun store peer =>
    (store.peerStatus peer).getD bootstrapStatus).inspections endpoints (keyed_storeOf existing)
  exact ⟨hfilled.1, fun peer hpeer => hfilled.2.1 peer (knows_storeOf hpeer), hfilled.2.2⟩

theorem upserts_relays (generatedAt : ℕ) : PeerStore.Upserts
    (fun store (relay : RelayAnnouncement) =>
      store.upsertPeerWithStatus ⟨relay.peerId, ["/quip/relay/1"], relay.advertisedEndpoints⟩
        ⟨.relayMap, .unknown, some generatedAt⟩) fun relay => some relay.peerId :=
  fun _ _ => .inr ⟨_, _, rfl, rfl⟩

theorem lists_relayPeers {relayMap : RelayMap} {relay : RelayAnnouncement}
    (h : relay ∈ relayMap.relays) : Lists (relayPeers relayMap) relay.peerId :=
  ((upserts_relays relayMap.generatedAt).inspections relayMap.relays PeerStore.keyed_empty).2.2
    relay h _ rfl

theorem upserts_relayEntries : PeerStore.Upserts
    (fun store (relay : PeerInspection) =>
      store.upsertPeerWithStatus relay.snapshot ((store.peerStatus relay.snapshot.peer).getD
        ⟨.relayMap, .unknown, relay.status.lastSeenUnixSecs⟩)) fun relay => some relay.snapshot.peer :=
  fun _ _ => .inr ⟨_, _, rfl, rfl⟩

theorem mergeRelayPeers_spec (existing relays : List PeerInspection) :
    Sorted (mergeRelayPeers existing relays) ∧
      (∀ peer, Lists existing peer → Lists (mergeRelayPeers existing relays) peer) ∧
      ∀ peer, Lists relays peer → Lists (mergeRelayPeers existing relays) peer := by
  have hfilled := upserts_relayEntries.inspections relays (keyed_storeOf existing)
  refine ⟨hfilled.1, fun peer hpeer => hfilled.2.1 peer (knows_storeOf hpeer), ?_⟩
  rintro peer ⟨relay, hrelay, rfl⟩
  exact hfilled.2.2 relay hrelay _ rfl

theorem upserts_ingest (seenAt : ℕ) : PeerStore.Upserts
    (fun store (hint : Discovery.BootstrapHint) =>
      store.upsertPeerWithStatus ⟨hint.peer, hint.protocols, hint.addresses⟩
        ⟨.bootstrap, .unknown, some seenAt⟩) fun hint => some hint.peer :=
  fun _ _ => .inr ⟨_, _, rfl, rfl⟩

theorem fixturePeers_spec [Primitives] :
    Sorted fixturePeers ∧ Lists fixturePeers fixtureRelayPeer ∧
      Lists fixturePeers fixtureWorkerPeer := by
  obtain ⟨hkeyed, hknows⟩ :=
    (upserts_ingest 1720000000).foldl fixtureBootstrap PeerStore.keyed_empty
  have hfilled := PeerStore.keyed_upsert hkeyed
    ⟨fixtureWorkerPeer, ["/quip/control/1", "/quip/records/1"], ["udp://198.51.100.24:8443"]⟩
    ⟨.discovery, .direct, some 1720000120⟩
  refine ⟨PeerStore.sorted_inspections hfilled, ?_, ?_⟩
  · refine PeerStore.lists_inspections hfilled ((PeerStore.knows_upsert _ _ _ _).mpr (.inr ?_))
    exact (hknows _).mpr (.inr ⟨_, List.mem_cons_self, rfl⟩)
  · exact PeerStore.lists_inspections hfilled ((PeerStore.knows_upsert _ _ _ _).mpr (.inl rfl))

/-! ## Coherent states -/

structure Grounded (state : DaemonState) : Prop where
  denyList : state.DenyListCurrent
  localPeer : state.localPeerId = state.membership.subjectPeerId
  sorted : Sorted state.peers
  relays : ∀ relay ∈ state.relayAnnouncements, Lists state.peers relay.peerId
  bootstrap : ∀ endpoint ∈ state.bootstrap, ∀ peer, endpoint.peer = some peer →
    Lists state.peers peer

structure Coherent (state : DaemonState) : Prop extends Grounded state where
  distinct : (state.pathCandidates.filter fun candidate => candidate.source ≠ .observed).Pairwise
    fun a b => candidateKey a ≠ candidateKey b
  relayed : ∀ candidate ∈ state.pathCandidates, candidate.source = .authorityRelay →
    ∀ relayPeer, candidate.relayPeer = some relayPeer →
      ∃ relay ∈ state.relayAnnouncements, relay.peerId = relayPeer

def CandidatesMerged (state : DaemonState) : Prop :=
  state.pathCandidates = mergedPathCandidates state

theorem withMergedCandidates_merged (state : DaemonState) :
    CandidatesMerged state.withMergedCandidates :=
  (mergedPathCandidates_withMerged state).symm

theorem Grounded.withMergedCandidates {state : DaemonState} (h : Grounded state) :
    Coherent state.withMergedCandidates := by
  obtain ⟨added, heq, hsubset, hpairwise⟩ := exists_mergedPathCandidates state
  have hcandidates : state.withMergedCandidates.pathCandidates =
      observedCandidates state ++ added := heq
  refine ⟨⟨h.denyList, h.localPeer, h.sorted, h.relays, h.bootstrap⟩, ?_, ?_⟩
  · have hnone : (observedCandidates state).filter (fun candidate => candidate.source ≠ .observed) =
        [] := by
      simp [observedCandidates, List.filter_filter]
    rw [hcandidates, List.filter_append, hnone, List.nil_append]
    exact hpairwise.sublist List.filter_sublist
  · intro candidate hmem hsource relayPeer hrelayPeer
    rw [hcandidates] at hmem
    rcases List.mem_append.mp hmem with hobserved | hadded
    · have hfrom := (List.mem_filter.mp hobserved).2
      simp [hsource] at hfrom
    · exact relay_of_mem_synthesized (hsubset hadded) hrelayPeer

section Updates
variable {state : DaemonState}

theorem withArtifacts_coherent (h : Grounded state) (membership : MembershipCertificate)
    (merged : AuthorityArtifactSnapshot) : Coherent (state.withArtifacts membership merged) := by
  obtain ⟨hsorted, hkept, hlists⟩ := mergeBootstrapPeers_spec state.peers
    (merged.bootstrapHints.map bootstrapEndpointFromHint)
  refine Grounded.withMergedCandidates ⟨rfl, rfl, hsorted, ?_, hlists⟩
  intro relay hrelay
  exact hkept relay.peerId (h.relays relay hrelay)

theorem applyRevocations_coherent (h : Coherent state) (incoming : List RevocationRecord) :
    Coherent (state.applyRevocations incoming).1 :=
  ⟨⟨rfl, h.localPeer, h.sorted, h.relays, h.bootstrap⟩, h.distinct, h.relayed⟩

def StaleRelayMap (state : DaemonState) (incoming : RelayMap) : Bool :=
  state.relayMap.any fun existing => incoming.version < existing.version

theorem applyRelayMap_of_stale {incoming : RelayMap} (h : StaleRelayMap state incoming = true) :
    state.applyRelayMap incoming = (state, 0) := by
  unfold DaemonState.applyRelayMap
  rw [StaleRelayMap] at h
  rw [if_pos h]

/-- A map that is not older replaces the stored one and writes its relays into the peers. -/
theorem applyRelayMap_of_current {incoming : RelayMap}
    (h : StaleRelayMap state incoming = false) :
    (state.applyRelayMap incoming).1 =
      ({ state with
          relayMap := some incoming
          peers := mergeRelayPeers state.peers (relayPeers incoming) } :
        DaemonState).withMergedCandidates := by
  unfold DaemonState.applyRelayMap
  rw [StaleRelayMap] at h
  rw [if_neg (by rw [h]; exact Bool.false_ne_true)]

theorem applyRelayMap_of_fresh (h : Grounded state) {incoming : RelayMap}
    (hfresh : StaleRelayMap state incoming = false) :
    Coherent (state.applyRelayMap incoming).1 ∧ CandidatesMerged (state.applyRelayMap incoming).1 := by
  obtain ⟨hsorted, hkept, hlists⟩ := mergeRelayPeers_spec state.peers (relayPeers incoming)
  rw [applyRelayMap_of_current hfresh]
  refine ⟨Grounded.withMergedCandidates ⟨h.denyList, h.localPeer, hsorted, ?_, ?_⟩,
    withMergedCandidates_merged _⟩
  · intro relay hrelay
    exact hlists relay.peerId (lists_relayPeers hrelay)
  · intro endpoint hendpoint peer hpeer
    exact hkept peer (h.bootstrap endpoint hendpoint peer hpeer)

theorem Coherent.load (h : Coherent state) {loaded : DaemonState}
    (hload : state.saved.load = .ok loaded) : Coherent loaded := by
  cases hload
  exact ⟨⟨h.denyList, h.localPeer, h.sorted, h.relays, h.bootstrap⟩, h.distinct, h.relayed⟩

theorem CandidatesMerged.load (h : CandidatesMerged state) {loaded : DaemonState}
    (hload : state.saved.load = .ok loaded) : CandidatesMerged loaded := by
  cases hload
  exact h.trans (mergedPathCandidates_congr rfl rfl rfl rfl rfl).symm

theorem prepared_coherent (h : Grounded state) (config : DaemonConfig) :
    Coherent (LocalControlPlane.prepared config state) :=
  Grounded.withMergedCandidates ⟨h.denyList, h.localPeer, h.sorted, h.relays, h.bootstrap⟩

theorem reprobedState_coherent (h : Grounded state) (reason : String) :
    Coherent (LocalControlPlane.reprobedState reason state) ∧
      CandidatesMerged (LocalControlPlane.reprobedState reason state) := by
  refine ⟨Grounded.withMergedCandidates ?_, withMergedCandidates_merged _⟩
  exact ⟨h.denyList, h.localPeer, h.sorted, h.relays, h.bootstrap⟩

end Updates

section Constructors
variable [Primitives] {state : DaemonState}

theorem fixtureDaemonState_coherent (network : String) : Coherent (fixtureDaemonState network) := by
  obtain ⟨hsorted, hrelay, hworker⟩ := fixturePeers_spec
  refine ⟨⟨rfl, rfl, hsorted, ?_, ?_⟩, ?_, ?_⟩
  · intro relay hmem
    obtain rfl := List.mem_singleton.mp hmem
    exact hrelay
  · intro endpoint hmem peer hpeer
    obtain ⟨hint, hhint, rfl⟩ := List.mem_map.mp hmem
    obtain rfl := Option.some.inj hpeer
    rcases List.mem_pair.mp hhint with rfl | rfl
    · exact hrelay
    · exact hworker
  · simp [fixtureDaemonState, fixtureCandidates]
  · intro candidate hmem hsource
    rcases List.mem_pair.mp hmem with rfl | rfl <;> cases hsource

theorem selfIdentityDaemonState_coherent (network : String) (roles : List DaemonRole)
    (localIdentity : IdentityKeypair) :
    Coherent (selfIdentityDaemonState network roles localIdentity) := by
  have hfixture := fixtureDaemonState_coherent network
  refine Grounded.withMergedCandidates ⟨rfl, rfl, ?_, ?_, ?_⟩
  · exact hfixture.sorted
  · exact hfixture.relays
  · exact hfixture.bootstrap

theorem fromAuthoritySnapshot_coherent {network : String} {roles : List DaemonRole}
    {snapshot : AuthorityArtifactSnapshot}
    (h : DaemonState.fromAuthoritySnapshot network roles snapshot = .ok state) :
    Coherent state ∧ CandidatesMerged state := by
  obtain ⟨membership, -, rfl⟩ := DaemonState.fromAuthoritySnapshot_ok h
  obtain ⟨hsorted, hlists⟩ := bootstrapPeers_spec
    (snapshot.bootstrapHints.map bootstrapEndpointFromHint)
  refine ⟨Grounded.withMergedCandidates ⟨rfl, rfl, hsorted, ?_, hlists⟩,
    withMergedCandidates_merged _⟩
  intro relay hrelay
  cases hrelay

end Constructors

/-! ## Reachable states -/

variable {ρ : Type}

def Stored (world : World ρ) (state : DaemonState) : Prop :=
  ∃ file, world.stateFile = some file ∧ file.load = .ok state

section Reachable
variable [Primitives]

/-- The states that the daemon builds, updates and stores. The flag tells whether
the path candidates were merged since the start: every step but a revocation
update, a stale relay map and a save merges them, and the fixture starts with its own. -/
inductive Reachable : Bool → DaemonState → Prop
  | fromAuthoritySnapshot {network : String} {roles : List DaemonRole}
      {snapshot : AuthorityArtifactSnapshot} {state : DaemonState}
      (h : DaemonState.fromAuthoritySnapshot network roles snapshot = .ok state) :
      Reachable true state
  | selfIdentity (network : String) (roles : List DaemonRole) (localIdentity : IdentityKeypair) :
      Reachable true (selfIdentityDaemonState network roles localIdentity)
  | fixture (network : String) : Reachable false (fixtureDaemonState network)
  | syncAuthoritySnapshot {merged : Bool} {state after : DaemonState} {client : ControlClient}
      {incoming : AuthorityArtifactSnapshot} {report : StateSyncReport}
      (hstate : Reachable merged state)
      (h : state.syncAuthoritySnapshot client incoming = .ok (after, report)) :
      Reachable true after
  | applyRevocations {merged : Bool} {state : DaemonState} (hstate : Reachable merged state)
      (incoming : List RevocationRecord) : Reachable merged (state.applyRevocations incoming).1
  | applyRelayMap {merged : Bool} {state : DaemonState} (hstate : Reachable merged state)
      (incoming : RelayMap) :
      Reachable (merged || !StaleRelayMap state incoming) (state.applyRelayMap incoming).1
  | save {merged : Bool} {ρ : Type} {world : World ρ} {state after : DaemonState}
      (hstate : Reachable merged state) (h : Stored (final (save state) world) after) :
      Reachable merged after
  | ensureState {merged : Bool} {ρ : Type} {world opened : World ρ} {config : DaemonConfig}
      {state after : DaemonState} (hstate : Reachable merged state)
      (hfile : world.stateFile = some state.saved)
      (h : LocalControlPlane.ensureState config world = .ok after opened) : Reachable true after
  | createState {ρ : Type} {world opened : World ρ} {config : DaemonConfig} {state : DaemonState}
      (hfile : world.stateFile = none)
      (h : LocalControlPlane.ensureState config world = .ok state opened) : Reachable true state
  | reprobeNetworkChange {merged : Bool} {ρ : Type} {world next : World ρ} {config : DaemonConfig}
      {reason : String} {report : LocalControlPlane.NetcheckReprobeReport}
      {state after : DaemonState} (hstate : Reachable merged state)
      (hfile : world.stateFile = some state.saved)
      (h : LocalControlPlane.reprobeNetworkChange config reason world = .ok report next)
      (hafter : Stored next after) : Reachable true after

theorem ensureState_coherent {world opened : World ρ} {config : DaemonConfig}
    {state after : DaemonState} (hstate : Coherent state)
    (hfile : world.stateFile = some state.saved)
    (h : LocalControlPlane.ensureState config world = .ok after opened) :
    Coherent after ∧ CandidatesMerged after := by
  have hload : state.saved.load = .ok { state with
    schemaVersion := daemonStateSchemaVersion, activeSessions := [] } := rfl
  rw [LocalControlPlane.ensureState_of_load hfile hload] at h
  cases h
  exact ⟨prepared_coherent (hstate.load hload).toGrounded config, withMergedCandidates_merged _⟩

theorem reprobeNetworkChange_coherent {world next : World ρ} {config : DaemonConfig}
    {reason : String} {report : LocalControlPlane.NetcheckReprobeReport}
    {state after : DaemonState} (hstate : Coherent state)
    (hfile : world.stateFile = some state.saved)
    (h : LocalControlPlane.reprobeNetworkChange config reason world = .ok report next)
    (hafter : Stored next after) : Coherent after ∧ CandidatesMerged after := by
  have hensure : LocalControlPlane.ensureState config world = .ok _ world :=
    LocalControlPlane.ensureState_of_load hfile rfl
  have hprepared := (ensureState_coherent hstate hfile hensure).1
  obtain ⟨file, hstored, hload⟩ := hafter
  rw [← final_of_ok h, LocalControlPlane.reprobeNetworkChange,
    LocalControlPlane.transaction_stateFile hensure] at hstored
  cases hstored
  obtain ⟨hcoherent, hmerged⟩ := reprobedState_coherent hprepared.toGrounded reason
  exact ⟨hcoherent.load hload, hmerged.load hload⟩

theorem Reachable.coherent {merged : Bool} {state : DaemonState} (h : Reachable merged state) :
    Coherent state ∧ (merged = true → CandidatesMerged state) := by
  induction h with
  | fromAuthoritySnapshot h =>
    obtain ⟨hcoherent, hmerged⟩ := fromAuthoritySnapshot_coherent h
    exact ⟨hcoherent, fun _ => hmerged⟩
  | selfIdentity network roles localIdentity =>
    refine ⟨selfIdentityDaemonState_coherent network roles localIdentity, fun _ => ?_⟩
    exact withMergedCandidates_merged _
  | fixture network =>
    refine ⟨fixtureDaemonState_coherent network, fun hmerged => ?_⟩
    cases hmerged
  | syncAuthoritySnapshot hstate h ih =>
    obtain ⟨membership, artifacts, delta, -, -, rfl⟩ := DaemonState.syncAuthoritySnapshot_ok h
    refine ⟨withArtifacts_coherent ih.1.toGrounded membership artifacts, fun _ => ?_⟩
    exact withMergedCandidates_merged _
  | applyRevocations hstate incoming ih =>
    refine ⟨applyRevocations_coherent ih.1 incoming, fun hmerged => ?_⟩
    exact (ih.2 hmerged).trans (mergedPathCandidates_congr rfl rfl rfl rfl rfl).symm
  | @applyRelayMap merged state hstate incoming ih =>
    cases hstale : StaleRelayMap state incoming with
    | true =>
      rw [applyRelayMap_of_stale hstale]
      simpa using ih
    | false =>
      obtain ⟨hcoherent, hmerged⟩ := applyRelayMap_of_fresh ih.1.toGrounded hstale
      exact ⟨hcoherent, fun _ => hmerged⟩
  | save hstate h ih =>
    obtain ⟨file, hstored, hload⟩ := h
    cases hstored
    exact ⟨ih.1.load hload, fun hmerged => (ih.2 hmerged).load hload⟩
  | ensureState hstate hfile h ih =>
    obtain ⟨hcoherent, hmerged⟩ := ensureState_coherent ih.1 hfile h
    exact ⟨hcoherent, fun _ => hmerged⟩
  | @createState ρ world opened config state hfile h =>
    rw [LocalControlPlane.ensureState_of_none hfile] at h
    cases h
    have hfixture := fixtureDaemonState_coherent config.network
    refine ⟨prepared_coherent hfixture.toGrounded config, fun _ => ?_⟩
    exact withMergedCandidates_merged _
  | reprobeNetworkChange hstate hfile h hafter ih =>
    obtain ⟨hcoherent, hmerged⟩ := reprobeNetworkChange_coherent ih.1 hfile h hafter
    exact ⟨hcoherent, fun _ => hmerged⟩

/-- Every state that the daemon reaches is coherent, and its candidates are the merged ones
from the first merge on. -/
theorem reachable_coherent {merged : Bool} {state : DaemonState} (h : Reachable merged state) :
    Coherent state ∧ (merged = true → CandidatesMerged state) := h.coherent

end Reachable

section Closed
attribute [local instance] Primitives.transparent

def emptiedRelayMap : RelayMap := ⟨2, 1720000600, []⟩

theorem emptied_fixture_coherent :
    Coherent ((fixtureDaemonState "mesh").applyRelayMap emptiedRelayMap).1 ∧
      CandidatesMerged ((fixtureDaemonState "mesh").applyRelayMap emptiedRelayMap).1 := by
  have hcoherent := reachable_coherent (.applyRelayMap (.fixture "mesh") emptiedRelayMap)
  exact ⟨hcoherent.1, hcoherent.2 rfl⟩

/-- The fixture itself keeps its two observed candidates, where merging adds those of
its bootstrap peers and of its relay. -/
theorem fixture_candidates_not_merged :
    Reachable false (fixtureDaemonState "mesh") ∧
      ¬ CandidatesMerged (fixtureDaemonState "mesh") := by
  refine ⟨.fixture "mesh", fun hmerged => ?_⟩
  have hlength : (fixtureDaemonState "mesh").pathCandidates.length ≠
      (mergedPathCandidates (fixtureDaemonState "mesh")).length := by
    decide +kernel
  exact hlength (congrArg List.length hmerged)

end Closed

end QuipNet.Fabric
