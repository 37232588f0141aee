import QuipNet.PeerEntries
import QuipNet.RouteSearch
import QuipNet.SyncTriggers

/-!
# Direct routes and the kind of their endpoint

A direct candidate takes its kind from the addresses of a hint or a relay, and its route
takes the endpoints of that kind from the entry of the peer, or every address of the entry
when there is none of the kind. The entry has the addresses that were written last, and the
kind counts addresses that are no endpoints.
-/

open Std
namespace QuipNet.Fabric
open QuipNet.Control QuipNet.Library.Effect QuipNet.Peers QuipNet.Relay QuipNet.Routing
open DaemonState

/-! ## Endpoints of a kind -/

/-- One of the addresses is an endpoint of the kind that the announced ones give. -/
def Serves (addresses announced : List String) : Prop :=
  ∃ address ∈ addresses, endpointMatchesPathKind address (addressesPathKind announced) = true

theorem routeEndpoints_of_matching {addresses : List String} {pathKind : PathKind}
    (h : ∃ address ∈ addresses, endpointMatchesPathKind address pathKind = true) :
    ∃ address rest, routeEndpoints addresses pathKind = address :: rest ∧
      endpointMatchesPathKind address pathKind = true := by
  obtain ⟨matching, hmatching, hkind⟩ := h
  have hmem : matching ∈ addresses.filter fun address => endpointMatchesPathKind address pathKind :=
    List.mem_filter.2 ⟨hmatching, hkind⟩
  unfold routeEndpoints
  cases hfiltered : addresses.filter fun address => endpointMatchesPathKind address pathKind with
  | nil =>
    rw [hfiltered] at hmem
    cases hmem
  | cons address rest =>
    have hfirst : address ∈ addresses.filter fun address =>
        endpointMatchesPathKind address pathKind := by
      rw [hfiltered]
      exact List.mem_cons_self
    exact ⟨address, rest, rfl, (List.mem_filter.1 hfirst).2⟩

theorem endpointMatchesPathKind_direct {address : String} {announced : List String}
    (h : endpointMatchesPathKind address (addressesPathKind announced) = true) :
    isDirectQuicAddress address = true ∧
      (isIpv6Address address = true ↔ addressesPathKind announced = .directIpv6) := by
  unfold addressesPathKind at h ⊢
  split_ifs at h ⊢ with hany
  · rw [endpointMatchesPathKind, Bool.and_eq_true] at h
    exact ⟨h.1, iff_of_true h.2 rfl⟩
  · rw [endpointMatchesPathKind, Bool.and_eq_true, Bool.not_eq_true'] at h
    exact ⟨h.1, iff_of_false (by rw [h.2]; exact Bool.false_ne_true) (by simp)⟩

theorem routePlan_of_direct {state : DaemonState} {peer : PeerId} {trafficClass : TrafficClass}
    {decision : PathDecision} {inspection : PeerInspection}
    (hbest : state.bestPath peer trafficClass = some decision)
    (hpeer : state.peer peer = some inspection) (hkind : decision.selected.pathKind ≠ .relay)
    (protocol : Option ProtocolId) :
    ∃ route, state.routePlan peer protocol trafficClass = .ok route ∧
      route.remoteEndpoints =
        routeEndpoints inspection.snapshot.addresses decision.selected.pathKind := by
  unfold DaemonState.routePlan DaemonState.relayPlan
  simp only [hbest, hpeer, hkind, if_false]
  exact ⟨_, rfl, rfl⟩

/-- The first endpoint of the route over a synthesized direct candidate is of its kind. -/
def DirectRoutesMatch (state : DaemonState) : Prop :=
  ∀ peer protocol trafficClass decision, state.bestPath peer trafficClass = some decision →
    decision.selected.source ≠ .observed →
    (decision.selected.pathKind = .directIpv6 ∨ decision.selected.pathKind = .directUdp) →
      ∃ route address rest, state.routePlan peer protocol trafficClass = .ok route ∧
        route.remoteEndpoints = address :: rest ∧ isDirectQuicAddress address = true ∧
        (isIpv6Address address = true ↔ decision.selected.pathKind = .directIpv6)

structure KindsServed (netcheck : NetcheckReport) (bootstrap : List BootstrapEndpoint)
    (relays : List RelayAnnouncement) (addressesOf : PeerId → Option (List String)) : Prop where
  bootstrap : netcheck.udpReachable ∨ netcheck.ipv6Reachable → ∀ endpoint ∈ bootstrap,
    endpoint.addresses.any isDirectQuicAddress → ∀ peer, endpoint.peer = some peer →
      ∃ addresses ∈ addressesOf peer, Serves addresses endpoint.addresses
  relays : ∀ relay ∈ relays,
    ∃ addresses ∈ addressesOf relay.peerId, Serves addresses relay.advertisedEndpoints

namespace DaemonState

def Served (state : DaemonState) : Prop :=
  KindsServed state.netcheck state.bootstrap state.relayAnnouncements (entryAddresses state.peers)

variable {state : DaemonState}

theorem Served.candidate (h : state.Served) {candidate : PathCandidate}
    (hmem : candidate ∈ synthesizedCandidates state)
    (hkind : candidate.pathKind = .directIpv6 ∨ candidate.pathKind = .directUdp) :
    ∃ addresses ∈ entryAddresses state.peers candidate.peer, ∃ announced,
      candidate.pathKind = addressesPathKind announced ∧ Serves addresses announced := by
  rcases List.mem_append.1 hmem with hdirect | hrelay
  · obtain ⟨hreachable, endpoint, hendpoint, hquic, peer, hpeer, rfl⟩ :=
      mem_synthesizedDirectBootstrapCandidates.1 hdirect
    obtain ⟨addresses, haddresses, hserves⟩ := h.bootstrap hreachable endpoint hendpoint hquic peer hpeer
    exact ⟨addresses, haddresses, endpoint.addresses, rfl, hserves⟩
  · obtain ⟨relay, hannounced, rfl | ⟨entry, -, -, rfl⟩⟩ := mem_synthesizedRelayCandidates.1 hrelay
    · obtain ⟨addresses, haddresses, hserves⟩ := h.relays relay hannounced
      exact ⟨addresses, haddresses, relay.advertisedEndpoints, rfl, hserves⟩
    · simp [relayFallbackCandidate] at hkind

/-- The synthesized candidates are those of the state's own fields. -/
def CandidatesCurrent (state : DaemonState) : Prop :=
  ∀ candidate ∈ state.pathCandidates, candidate.source ≠ .observed →
    candidate ∈ synthesizedCandidates state

theorem withMergedCandidates_current (state : DaemonState) :
    CandidatesCurrent state.withMergedCandidates := by
  intro candidate hmem hsource
  obtain ⟨added, heq, hsubset, -⟩ := exists_mergedPathCandidates state
  have hmerged : candidate ∈ observedCandidates state ++ added := heq ▸ hmem
  rcases List.mem_append.1 hmerged with hobserved | hadded
  · exact absurd (of_decide_eq_true (List.mem_filter.1 hobserved).2) hsource
  · exact hsubset hadded

theorem Served.directRoutesMatch (h : state.Served) (hcurrent : state.CandidatesCurrent) :
    DirectRoutesMatch state := by
  intro peer protocol trafficClass decision hbest hsource hkind
  have hmem := List.argmin_mem (bestPath_eq_some.1 hbest).1
  have hcandidate := List.mem_filter.1 (List.mem_of_mem_filter hmem)
  have hpeer : decision.selected.peer = peer := of_decide_eq_true hcandidate.2
  obtain ⟨addresses, haddresses, announced, hannounced, hserves⟩ :=
    h.candidate (hcurrent decision.selected hcandidate.1 hsource) hkind
  rw [hpeer] at haddresses
  obtain ⟨inspection, hinspection, rfl⟩ := Option.map_eq_some_iff.1 haddresses
  have hdirect : decision.selected.pathKind ≠ .relay := by
    rcases hkind with hkind | hkind <;> simp [hkind]
  obtain ⟨route, hroute, hremote⟩ := routePlan_of_direct hbest hinspection hdirect protocol
  rw [hannounced] at hremote ⊢
  obtain ⟨address, rest, hendpoints, hmatches⟩ := routeEndpoints_of_matching hserves
  obtain ⟨hquic, hipv6⟩ := endpointMatchesPathKind_direct hmatches
  exact ⟨route, address, rest, hroute, hremote.trans hendpoints, hquic, hipv6⟩

end DaemonState

/-! ## Runs -/

section Hashing
variable [Primitives]

inductive Started : DaemonState → Prop
  | seeded {network : String} {roles : List DaemonRole} {snapshot : AuthorityArtifactSnapshot}
      {state : DaemonState}
      (h : DaemonState.fromAuthoritySnapshot network roles snapshot = .ok state) : Started state
  | selfIdentity (network : String) (roles : List DaemonRole) (localIdentity : IdentityKeypair) :
      Started (selfIdentityDaemonState network roles localIdentity)
  | fixture (network : String) : Started (fixtureDaemonState network)

inductive RouteUpdate
  | sync (client : ControlClient) (incoming : AuthorityArtifactSnapshot)
  | relayMap (incoming : RelayMap)
  | revoke (incoming : List RevocationRecord)
  | reload (config : DaemonConfig)
  | reprobe (reason : String)

namespace RouteUpdate

def apply (state : DaemonState) : RouteUpdate → Except DaemonStateError DaemonState
  | .sync client incoming => (state.syncAuthoritySnapshot client incoming).map Prod.fst
  | .relayMap incoming => .ok (state.applyRelayMap incoming).1
  | .revoke incoming => .ok (state.applyRevocations incoming).1
  | .reload config => state.saved.load.map (LocalControlPlane.prepared config)
  | .reprobe reason => .ok (LocalControlPlane.reprobedState reason state)

/-- Where the update leaves hints or relays that make direct candidates, the addresses that
it leaves in the entries serve them: those of the last hint or announcement in the update,
and else those that the entry had. -/
def Serves (state : DaemonState) : RouteUpdate → Prop
  | .sync _ incoming =>
    let bootstrap := incoming.bootstrapHints.map bootstrapEndpointFromHint
    KindsServed state.netcheck bootstrap state.relayAnnouncements fun peer =>
      (hintedAddresses bootstrap peer).or (entryAddresses state.peers peer)
  | .relayMap incoming => StaleRelayMap state incoming = false →
    KindsServed state.netcheck state.bootstrap incoming.relays fun peer =>
      (advertisedAddresses incoming.relays peer).or (entryAddresses state.peers peer)
  | .revoke _ | .reload _ => True
  | .reprobe reason => KindsServed (reprobeNetcheck state reason) state.bootstrap
    state.relayAnnouncements (entryAddresses state.peers)

end RouteUpdate

/-- A run of updates that were taken in, with the state that each one met. -/
inductive RouteRun (start : DaemonState) : List (DaemonState × RouteUpdate) → DaemonState → Prop
  | start : RouteRun start [] start
  | step {trace : List (DaemonState × RouteUpdate)} {state after : DaemonState}
      {update : RouteUpdate} (hrun : RouteRun start trace state)
      (h : update.apply state = .ok after) : RouteRun start (trace ++ [(state, update)]) after

structure RoutesTracked (state : DaemonState) : Prop where
  sorted : Sorted state.peers
  current : state.CandidatesCurrent
  served : state.Served

theorem fixture_entry (peer : PeerId) (h : peer = fixtureRelayPeer ∨ peer = fixtureWorkerPeer) :
    ∃ addresses ∈ entryAddresses fixturePeers peer,
      addresses = ["udp://203.0.113.10:443"] ∨ addresses = ["udp://198.51.100.24:8443"] := by
  have hkeyed := ((upserts_ingest 1720000000).foldl fixtureBootstrap PeerStore.keyed_empty).1
  have hentry := PeerStore.entryAddresses_inspections (PeerStore.keyed_upsert hkeyed
    ⟨fixtureWorkerPeer, ["/quip/control/1", "/quip/records/1"], ["udp://198.51.100.24:8443"]⟩
    ⟨.discovery, .direct, some 1720000120⟩) peer
  change entryAddresses fixturePeers peer = _ at hentry
  rw [hentry]
  simp only [PeerStore.upsertPeerWithStatus, fixtureBootstrap, List.foldl_cons, List.foldl_nil,
    TreeMap.getElem?_insert]
  split_ifs with hworker hrelay
  · exact ⟨_, rfl, .inr rfl⟩
  · exact ⟨_, rfl, .inl rfl⟩
  · rcases h with rfl | rfl
    · exact absurd ReflOrd.compare_self hrelay
    · exact absurd ReflOrd.compare_self hworker

theorem fixture_kindsServed {netcheck : NetcheckReport} (network : String) :
    KindsServed netcheck (fixtureDaemonState network).bootstrap
      (fixtureDaemonState network).relayAnnouncements (entryAddresses fixturePeers) := by
  have hserves : ∀ peer, peer = fixtureRelayPeer ∨ peer = fixtureWorkerPeer →
      ∀ announced ∈ [["udp://203.0.113.10:443"], ["udp://198.51.100.24:8443"]],
        ∃ addresses ∈ entryAddresses fixturePeers peer, Serves addresses announced := by
    intro peer hpeer announced hannounced
    obtain ⟨addresses, haddresses, hudp⟩ := fixture_entry peer hpeer
    refine ⟨addresses, haddresses, ?_⟩
    rcases hudp with rfl | rfl <;> rcases List.mem_pair.1 hannounced with rfl | rfl <;>
      exact ⟨_, List.mem_singleton_self _, by decide +kernel⟩
  constructor
  · intro _ endpoint hendpoint _ peer hpeer
    obtain ⟨hint, hhint, rfl⟩ := List.mem_map.1 hendpoint
    obtain rfl := Option.some.inj hpeer
    rcases List.mem_pair.1 hhint with rfl | rfl
    · exact hserves _ (.inl rfl) _ (by simp)
    · exact hserves _ (.inr rfl) _ (by simp)
  · intro relay hrelay
    obtain rfl := List.mem_singleton.1 hrelay
    exact hserves _ (.inl rfl) _ (by simp [fixtureRelay])

theorem Started.tracked {state : DaemonState} (h : Started state) : RoutesTracked state := by
  cases h with
  | @seeded network roles snapshot state h =>
    have hsorted := (fromAuthoritySnapshot_coherent h).1.sorted
    obtain ⟨membership, -, rfl⟩ := DaemonState.fromAuthoritySnapshot_ok h
    refine ⟨hsorted, withMergedCandidates_current _, ?_, ?_⟩
    · -- A seeded state has not probed the network, so no hint makes a candidate.
      rintro (hudp | hipv6)
      · cases hudp
      · cases hipv6
    · intro relay hrelay
      cases hrelay
  | selfIdentity network roles localIdentity =>
    refine ⟨fixturePeers_spec.1, withMergedCandidates_current _, ?_⟩
    exact fixture_kindsServed network
  | fixture network =>
    refine ⟨fixturePeers_spec.1, ?_, fixture_kindsServed network⟩
    intro candidate hmem hsource
    rcases List.mem_pair.1 hmem with rfl | rfl <;> exact absurd rfl hsource

theorem RoutesTracked.apply {state after : DaemonState} (h : RoutesTracked state)
    {update : RouteUpdate} (hserves : update.Serves state) (happly : update.apply state = .ok after) :
    RoutesTracked after := by
  cases update with
  | sync client incoming =>
    cases hsync : state.syncAuthoritySnapshot client incoming with
    | error error => simp [RouteUpdate.apply, hsync, Except.map] at happly
    | ok result =>
      simp only [RouteUpdate.apply, hsync, Except.map, Except.ok.injEq] at happly
      subst happly
      obtain ⟨membership, merged, delta, hmerge, -, hafter⟩ :=
        DaemonState.syncAuthoritySnapshot_ok hsync
      have hhints := (ControlClient.mergeSnapshot_held hmerge).2.1
      rw [hafter]
      refine ⟨(mergeBootstrapPeers_spec state.peers _).1, withMergedCandidates_current _, ?_⟩
      change KindsServed state.netcheck (merged.bootstrapHints.map bootstrapEndpointFromHint)
        state.relayAnnouncements (entryAddresses (mergeBootstrapPeers state.peers
          (merged.bootstrapHints.map bootstrapEndpointFromHint)))
      rw [hhints, funext (entryAddresses_mergeBootstrapPeers _ _), funext h.sorted.storedAddresses]
      exact hserves
  | relayMap incoming =>
    cases happly
    cases hstale : StaleRelayMap state incoming with
    | true =>
      rw [applyRelayMap_of_stale hstale]
      exact h
    | false =>
      have hkinds := hserves hstale
      rw [applyRelayMap_of_current hstale]
      refine ⟨(mergeRelayPeers_spec state.peers (relayPeers incoming)).1,
        withMergedCandidates_current _, ?_⟩
      change KindsServed state.netcheck state.bootstrap incoming.relays
        (entryAddresses (mergeRelayPeers state.peers (relayPeers incoming)))
      rw [funext (entryAddresses_mergeRelayPeers _ incoming), funext h.sorted.storedAddresses]
      exact hkinds
  | revoke incoming =>
    cases happly
    exact ⟨h.sorted, h.current, h.served⟩
  | reload config =>
    cases happly
    exact ⟨h.sorted, withMergedCandidates_current _, h.served⟩
  | reprobe reason =>
    cases happly
    exact ⟨h.sorted, withMergedCandidates_current _, hserves⟩

theorem RouteRun.tracked {start state : DaemonState} {trace : List (DaemonState × RouteUpdate)}
    (hrun : RouteRun start trace state) (hstart : RoutesTracked start)
    (hserves : ∀ step ∈ trace, step.2.Serves step.1) : RoutesTracked state := by
  induction hrun with
  | start => exact hstart
  | @step trace state after update hrun h ih =>
    have hbefore := ih fun step hstep => hserves step (List.mem_append_left _ hstep)
    exact hbefore.apply (hserves (state, update) (by simp)) h

/-- In every run whose updates leave entries that serve the candidates they make, the direct
routes start with an endpoint of their own kind. -/
theorem direct_routes_match_kind {start state : DaemonState}
    {trace : List (DaemonState × RouteUpdate)} (hstart : Started start)
    (hrun : RouteRun start trace state) (hserves : ∀ step ∈ trace, step.2.Serves step.1) :
    DirectRoutesMatch state := by
  have htracked := hrun.tracked hstart.tracked hserves
  exact htracked.served.directRoutesMatch htracked.current

end Hashing

section Closed
attribute [local instance] Primitives.transparent

theorem relayless_fixture_routes_match :
    (∃ decision, relaylessFixture.bestPath fixtureWorkerPeer .background = some decision ∧
      decision.selected.source = .bootstrap ∧ decision.selected.pathKind = .directUdp) ∧
    DirectRoutesMatch relaylessFixture := by
  have hbest : ((relaylessFixture.bestPath fixtureWorkerPeer .background).any fun decision =>
      decision.selected.source = .bootstrap ∧ decision.selected.pathKind = .directUdp) = true := by
    decide +kernel
  obtain ⟨decision, hdecision, hselected⟩ := (Option.any_eq_true _ _).1 hbest
  refine ⟨⟨decision, hdecision, of_decide_eq_true hselected⟩, ?_⟩
  have hrun : RouteRun (fixtureDaemonState "mesh")
      [(fixtureDaemonState "mesh", .relayMap emptiedRelayMap)] relaylessFixture := .step .start rfl
  refine direct_routes_match_kind (.fixture "mesh") hrun ?_
  intro step hstep
  obtain rfl := List.mem_singleton.1 hstep
  intro _
  refine ⟨(fixture_kindsServed "mesh").bootstrap, ?_⟩
  intro relay hrelay
  cases hrelay

def mixedSnapshot : AuthorityArtifactSnapshot :=
  { (fixtureDaemonState "mesh").authoritySnapshot with
    bootstrapHints :=
      [⟨some fixtureRelayPeer, ["udp://203.0.113.10:443"], ∅⟩,
       ⟨some fixtureWorkerPeer, ["tcp://[2001:db8::7]:443", "udp://198.51.100.24:8443"], ∅⟩] }

theorem mixed_hint_routes_to_no_endpoint : ∃ after,
    Started (fixtureDaemonState "mesh") ∧
      RouteRun (fixtureDaemonState "mesh")
        [(fixtureDaemonState "mesh", .sync ⟨NetworkId.derive "mesh"⟩ mixedSnapshot)] after ∧
      (∃ decision route, after.bestPath fixtureWorkerPeer .background = some decision ∧
        decision.selected.source = .bootstrap ∧ decision.selected.pathKind = .directIpv6 ∧
        after.routePlan fixtureWorkerPeer none .background = .ok route ∧
        route.remoteEndpoints = ["tcp://[2001:db8::7]:443", "udp://198.51.100.24:8443"]) ∧
      ¬ DirectRoutesMatch after := by
  have hrun : (((fixtureDaemonState "mesh").syncAuthoritySnapshot ⟨NetworkId.derive "mesh"⟩
      mixedSnapshot).toOption.any fun synced =>
        ((synced.1.bestPath fixtureWorkerPeer .background).any fun decision =>
          decision.selected.source = .bootstrap ∧ decision.selected.pathKind = .directIpv6) &&
        ((synced.1.routePlan fixtureWorkerPeer none .background).toOption.any fun route =>
          route.remoteEndpoints = ["tcp://[2001:db8::7]:443", "udp://198.51.100.24:8443"])) =
      true := by
    decide +kernel
  obtain ⟨after, report, hsync, hafter⟩ := exists_of_synced hrun
  obtain ⟨hbest, hplan⟩ := Bool.and_eq_true_iff.1 hafter
  obtain ⟨decision, hdecision, hselected⟩ := (Option.any_eq_true _ _).1 hbest
  obtain ⟨hsource, hkind⟩ := of_decide_eq_true hselected
  cases hroute : after.routePlan fixtureWorkerPeer none .background with
  | error error => simp [hroute, Except.toOption] at hplan
  | ok route =>
    have hendpoints : route.remoteEndpoints =
        ["tcp://[2001:db8::7]:443", "udp://198.51.100.24:8443"] := by
      simpa [hroute, Except.toOption] using hplan
    have happly : RouteUpdate.apply (fixtureDaemonState "mesh")
        (.sync ⟨NetworkId.derive "mesh"⟩ mixedSnapshot) = .ok after := by
      rw [RouteUpdate.apply, hsync]
      rfl
    refine ⟨after, .fixture "mesh", .step .start happly,
      ⟨decision, route, hdecision, hsource, hkind, hroute, hendpoints⟩, ?_⟩
    intro hmatch
    obtain ⟨planned, address, rest, hplanned, hremote, hquic, -⟩ :=
      hmatch _ none _ decision hdecision (by simp [hsource]) (.inl hkind)
    rw [hroute, Except.ok.injEq] at hplanned
    rw [← hplanned, hendpoints] at hremote
    cases hremote
    have hno : isDirectQuicAddress "tcp://[2001:db8::7]:443" = false := by decide +kernel
    rw [hno] at hquic
    cases hquic

end Closed

end QuipNet.Fabric
