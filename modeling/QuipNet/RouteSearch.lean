import QuipNet.Coherence
import QuipNet.Library.FirstLeast
import QuipNet.Library.Raises
import QuipNet.ReconciliationTurns

/-!
# Route plans and the candidates they come from

A route plan takes the cheapest candidate for the peer and the class, and looks for its
relay and for the entry of the peer afterwards. The relay may be gone from the map. The
entry of the peer is always there, because every candidate of a state that the daemon
builds is for a listed peer.
-/

open Std
namespace QuipNet.Fabric
open QuipNet.Library QuipNet.Library.Effect QuipNet.Peers QuipNet.Quic QuipNet.Routing
open QuipNet.Transport

variable {ρ : Type}

/-! ## The search for a route -/

/-- The candidate is not relayed, or its relay is in the current relay map. -/
def Routable (state : DaemonState) (candidate : PathCandidate) : Prop :=
  candidate.pathKind ≠ .relay ∨ ∃ relay ∈ state.relayAnnouncements,
    candidate.relayPeer = some relay.peerId

namespace DaemonState

def supporting (state : DaemonState) (peer : PeerId) (trafficClass : TrafficClass) :
    List PathCandidate :=
  (state.pathCandidatesFor peer).filter fun candidate => candidate.supportsClass trafficClass

variable {state : DaemonState} {peer : PeerId} {trafficClass : TrafficClass}

theorem bestPath_eq_some {decision : PathDecision} :
    state.bestPath peer trafficClass = some decision ↔
      (state.supporting peer trafficClass).argmin
          (fun candidate => (candidate.score trafficClass).toNat) = some decision.selected ∧
        decision.trafficClass = trafficClass := by
  obtain ⟨selected, decided⟩ := decision
  simp only [bestPath, selectBestPath, supporting, Option.map_eq_some_iff, PathDecision.mk.injEq]
  constructor
  · rintro ⟨candidate, hcandidate, rfl, rfl⟩
    exact ⟨hcandidate, rfl⟩
  · rintro ⟨hselected, rfl⟩
    exact ⟨selected, hselected, rfl, rfl⟩

theorem relayPlan_of_routable {selected : PathCandidate} (h : Routable state selected)
    (remoteEndpoints : List String) :
    ∃ relay, state.relayPlan peer selected remoteEndpoints = .ok relay := by
  unfold relayPlan
  by_cases hkind : selected.pathKind = .relay
  · obtain ⟨relay, hrelay, hrelayPeer⟩ := h.resolve_left (not_not.2 hkind)
    rw [if_pos hkind, hrelayPeer]
    cases hfind : state.relayAnnouncements.find? fun candidate =>
        candidate.peerId = relay.peerId with
    | none =>
      have hunknown := List.find?_eq_none.1 hfind relay hrelay
      simp at hunknown
    | some found =>
      simp only [hfind]
      exact ⟨_, rfl⟩
  · rw [if_neg hkind]
    exact ⟨none, rfl⟩

theorem relayPlan_of_not_routable {selected : PathCandidate} (h : ¬ Routable state selected)
    (remoteEndpoints : List String) :
    state.relayPlan peer selected remoteEndpoints = .error (.noRoute peer) := by
  unfold Routable at h
  push Not at h
  obtain ⟨hkind, hunknown⟩ := h
  unfold relayPlan
  rw [if_pos hkind]
  cases hrelayPeer : selected.relayPeer with
  | none => rfl
  | some relayPeer =>
    have hnone : (state.relayAnnouncements.find? fun candidate => candidate.peerId = relayPeer) =
        none := by
      rw [List.find?_eq_none]
      intro relay hrelay hid
      rw [decide_eq_true_eq] at hid
      exact hunknown relay hrelay (by rw [hrelayPeer, hid])
    simp only [hnone]

end DaemonState

open DaemonState

/-- A route is found when there is a realizable candidate for the class, and the planner
says that there is none only when there is none. -/
structure FindsRoute (state : DaemonState) (peer : PeerId) (protocol : Option ProtocolId)
    (trafficClass : TrafficClass) : Prop where
  found : (∃ candidate ∈ state.supporting peer trafficClass, Routable state candidate) →
    ∃ decision route, state.bestPath peer trafficClass = some decision ∧
      Routable state decision.selected ∧ state.routePlan peer protocol trafficClass = .ok route
  none : state.routePlan peer protocol trafficClass = .error (.noRoute peer) →
    ¬ ∃ candidate ∈ state.supporting peer trafficClass, Routable state candidate

section Search
variable {state : DaemonState} {peer : PeerId} {trafficClass : TrafficClass}

theorem routePlan_of_selected {decision : PathDecision} {inspection : PeerInspection}
    (hbest : state.bestPath peer trafficClass = some decision)
    (hpeer : state.peer peer = some inspection) (protocol : Option ProtocolId) :
    (Routable state decision.selected →
      ∃ route, state.routePlan peer protocol trafficClass = .ok route) ∧
    (¬ Routable state decision.selected →
      state.routePlan peer protocol trafficClass = .error (.noRoute peer)) := by
  unfold DaemonState.routePlan
  simp only [hbest, hpeer]
  constructor
  · intro hroutable
    obtain ⟨relay, hrelay⟩ : ∃ relay, state.relayPlan peer decision.selected _ = .ok relay :=
      relayPlan_of_routable hroutable
        (routeEndpoints inspection.snapshot.addresses decision.selected.pathKind)
    rw [hrelay]
    exact ⟨_, rfl⟩
  · intro hroutable
    rw [relayPlan_of_not_routable hroutable]

/-- The planner looks at the cost alone: it finds a route that exists exactly when the
realizable candidates outdo the others. -/
theorem finds_route_iff (hlisted : (state.peer peer).isSome) (protocol : Option ProtocolId) :
    FindsRoute state peer protocol trafficClass ↔
      ((∃ candidate ∈ state.supporting peer trafficClass, Routable state candidate) →
        OutdoesOthers (fun candidate => (candidate.score trafficClass).toNat) (Routable state)
          (state.supporting peer trafficClass)) := by
  obtain ⟨inspection, hpeer⟩ := Option.isSome_iff_exists.1 hlisted
  constructor
  · intro hfinds hexists
    obtain ⟨decision, route, hbest, hroutable, -⟩ := hfinds.found hexists
    exact (exists_argmin_iff hexists).1 ⟨decision.selected, (bestPath_eq_some.1 hbest).1, hroutable⟩
  · intro houtdoes
    have hfound : (∃ candidate ∈ state.supporting peer trafficClass, Routable state candidate) →
        ∃ decision route, state.bestPath peer trafficClass = some decision ∧
          Routable state decision.selected ∧
          state.routePlan peer protocol trafficClass = .ok route := by
      intro hexists
      obtain ⟨selected, hselected, hroutable⟩ := (exists_argmin_iff hexists).2 (houtdoes hexists)
      have hbest : state.bestPath peer trafficClass = some ⟨selected, trafficClass⟩ :=
        bestPath_eq_some.2 ⟨hselected, rfl⟩
      obtain ⟨route, hroute⟩ := (routePlan_of_selected hbest hpeer protocol).1 hroutable
      exact ⟨_, route, hbest, hroutable, hroute⟩
    refine ⟨hfound, ?_⟩
    intro hnone hexists
    obtain ⟨decision, route, -, -, hroute⟩ := hfound hexists
    rw [hnone] at hroute
    cases hroute

end Search

section Closed
attribute [local instance] Primitives.transparent

def relaylessFixture : DaemonState := ((fixtureDaemonState "mesh").applyRelayMap emptiedRelayMap).1

theorem relayless_fixture_finds_interactive :
    (∃ candidate ∈ relaylessFixture.supporting fixtureWorkerPeer .interactive,
      ¬ Routable relaylessFixture candidate) ∧
    FindsRoute relaylessFixture fixtureWorkerPeer none .interactive := by
  have hlisted : (relaylessFixture.peer fixtureWorkerPeer).isSome := by decide +kernel
  have hrelayless : relaylessFixture.relayAnnouncements = [] := by decide +kernel
  have hrelayed : ∃ candidate ∈ relaylessFixture.supporting fixtureWorkerPeer .interactive,
      candidate.pathKind = .relay := by
    decide +kernel
  have hcheapest : ∃ candidate ∈ relaylessFixture.supporting fixtureWorkerPeer .interactive,
      (relaylessFixture.supporting fixtureWorkerPeer .interactive).argmin
        (fun candidate => (candidate.score .interactive).toNat) = some candidate ∧
      candidate.pathKind ≠ .relay := by
    decide +kernel
  obtain ⟨relayed, hmem, hkind⟩ := hrelayed
  obtain ⟨direct, hdirect, hargmin, hdirectKind⟩ := hcheapest
  refine ⟨⟨relayed, hmem, ?_⟩, (finds_route_iff hlisted none).2 fun hexists => ?_⟩
  · simp [Routable, hkind, hrelayless]
  · exact (exists_argmin_iff hexists).1 ⟨direct, hargmin, .inl hdirectKind⟩

theorem relayless_fixture_misses_bulk :
    (relaylessFixture.peer fixtureWorkerPeer).isSome ∧
      (∃ candidate ∈ relaylessFixture.supporting fixtureWorkerPeer .bulk,
        Routable relaylessFixture candidate) ∧
      relaylessFixture.routePlan fixtureWorkerPeer none .bulk = .error (.noRoute fixtureWorkerPeer) ∧
      ¬ FindsRoute relaylessFixture fixtureWorkerPeer none .bulk := by
  have hlisted : (relaylessFixture.peer fixtureWorkerPeer).isSome := by decide +kernel
  have hdirect : ∃ candidate ∈ relaylessFixture.supporting fixtureWorkerPeer .bulk,
      candidate.pathKind ≠ .relay := by
    decide +kernel
  have hnone : relaylessFixture.routePlan fixtureWorkerPeer none .bulk =
      .error (.noRoute fixtureWorkerPeer) := by
    decide +kernel
  obtain ⟨candidate, hcandidate, hkind⟩ := hdirect
  refine ⟨hlisted, ⟨candidate, hcandidate, .inl hkind⟩, hnone, ?_⟩
  intro hfinds
  exact hfinds.none hnone ⟨candidate, hcandidate, .inl hkind⟩

end Closed

/-! ## The peers of the candidates -/

/-- Every candidate is for a listed peer. -/
def CandidatesListed (state : DaemonState) : Prop :=
  ∀ candidate ∈ state.pathCandidates, Lists state.peers candidate.peer

theorem lists_of_mem_synthesized {state : DaemonState} (h : Grounded state)
    {candidate : PathCandidate} (hmem : candidate ∈ synthesizedCandidates state) :
    Lists state.peers candidate.peer := by
  rcases List.mem_append.1 hmem with hdirect | hrelay
  · obtain ⟨-, endpoint, hendpoint, -, peer, hpeer, rfl⟩ :=
      mem_synthesizedDirectBootstrapCandidates.1 hdirect
    exact h.bootstrap endpoint hendpoint peer hpeer
  · obtain ⟨relay, hannounced, rfl | ⟨entry, hentry, -, rfl⟩⟩ :=
      mem_synthesizedRelayCandidates.1 hrelay
    · exact h.relays relay hannounced
    · exact ⟨entry, hentry, rfl⟩

theorem candidatesListed_merged {state : DaemonState} (h : Grounded state.withMergedCandidates)
    (hobserved : ∀ candidate ∈ state.pathCandidates, Lists state.peers candidate.peer) :
    CandidatesListed state.withMergedCandidates := by
  intro candidate hmem
  obtain ⟨added, heq, hsubset, -⟩ := exists_mergedPathCandidates state
  have hgrounded : Grounded state := ⟨h.denyList, h.localPeer, h.sorted, h.relays, h.bootstrap⟩
  have hmerged : candidate ∈ observedCandidates state ++ added := heq ▸ hmem
  rcases List.mem_append.1 hmerged with hold | hadded
  · exact hobserved candidate (List.mem_of_mem_filter hold)
  · exact lists_of_mem_synthesized hgrounded (hsubset hadded)

section Updates
variable {state : DaemonState}

theorem withArtifacts_listed (h : Grounded state) (hlisted : CandidatesListed state)
    (membership : MembershipCertificate) (merged : Control.AuthorityArtifactSnapshot) :
    CandidatesListed (state.withArtifacts membership merged) := by
  have hkept := (mergeBootstrapPeers_spec state.peers
    (merged.bootstrapHints.map bootstrapEndpointFromHint)).2.1
  refine candidatesListed_merged (withArtifacts_coherent h membership merged).toGrounded ?_
  intro candidate hmem
  exact hkept candidate.peer (hlisted candidate hmem)

theorem applyRelayMap_listed (h : Grounded state) (hlisted : CandidatesListed state)
    (incoming : Relay.RelayMap) : CandidatesListed (state.applyRelayMap incoming).1 := by
  cases hstale : StaleRelayMap state incoming with
  | true =>
    rw [applyRelayMap_of_stale hstale]
    exact hlisted
  | false =>
    have hgrounded := (applyRelayMap_of_fresh h hstale).1.toGrounded
    have hkept := (mergeRelayPeers_spec state.peers (relayPeers incoming)).2.1
    rw [applyRelayMap_of_current hstale] at hgrounded ⊢
    refine candidatesListed_merged hgrounded ?_
    intro candidate hmem
    exact hkept candidate.peer (hlisted candidate hmem)

theorem prepared_listed (h : Grounded state) (hlisted : CandidatesListed state)
    (config : DaemonConfig) : CandidatesListed (LocalControlPlane.prepared config state) :=
  candidatesListed_merged (prepared_coherent h config).toGrounded hlisted

theorem CandidatesListed.load (h : CandidatesListed state) {loaded : DaemonState}
    (hload : state.saved.load = .ok loaded) : CandidatesListed loaded := by
  cases hload
  exact h

end Updates

section Hashing
variable [Primitives] {state : DaemonState}

theorem fixtureDaemonState_listed (network : String) :
    CandidatesListed (fixtureDaemonState network) := by
  intro candidate hmem
  rcases List.mem_pair.1 hmem with rfl | rfl <;> exact fixturePeers_spec.2.2

theorem fromAuthoritySnapshot_listed {network : String} {roles : List DaemonRole}
    {snapshot : Control.AuthorityArtifactSnapshot}
    (h : DaemonState.fromAuthoritySnapshot network roles snapshot = .ok state) :
    CandidatesListed state := by
  have hgrounded := (fromAuthoritySnapshot_coherent h).1.toGrounded
  obtain ⟨membership, -, rfl⟩ := DaemonState.fromAuthoritySnapshot_ok h
  refine candidatesListed_merged hgrounded ?_
  intro candidate hmem
  cases hmem

theorem ensureState_listed {world opened : World ρ} {config : DaemonConfig} {after : DaemonState}
    (hstate : Coherent state) (hlisted : CandidatesListed state)
    (hfile : world.stateFile = some state.saved)
    (h : LocalControlPlane.ensureState config world = .ok after opened) :
    CandidatesListed after := by
  have hload : state.saved.load = .ok { state with
    schemaVersion := daemonStateSchemaVersion, activeSessions := [] } := rfl
  rw [LocalControlPlane.ensureState_of_load hfile hload] at h
  cases h
  exact prepared_listed (hstate.load hload).toGrounded (hlisted.load hload) config

theorem reprobeNetworkChange_listed {world next : World ρ} {config : DaemonConfig}
    {reason : String} {report : LocalControlPlane.NetcheckReprobeReport} {after : DaemonState}
    (hstate : Coherent state) (hlisted : CandidatesListed state)
    (hfile : world.stateFile = some state.saved)
    (h : LocalControlPlane.reprobeNetworkChange config reason world = .ok report next)
    (hafter : Stored next after) : CandidatesListed after := by
  have hensure : LocalControlPlane.ensureState config world = .ok _ world :=
    LocalControlPlane.ensureState_of_load hfile rfl
  have hprepared := (ensureState_coherent hstate hfile hensure).1
  have hprepared' := ensureState_listed hstate hlisted hfile hensure
  obtain ⟨file, hstored, hload⟩ := hafter
  rw [← final_of_ok h, LocalControlPlane.reprobeNetworkChange,
    LocalControlPlane.transaction_stateFile hensure] at hstored
  cases hstored
  have hreprobed := (reprobedState_coherent hprepared.toGrounded reason).1.toGrounded
  exact (candidatesListed_merged hreprobed hprepared').load hload

/-- The candidates of every state that the daemon reaches are for listed peers: no update
drops a peer, so that of a candidate that is kept is still there. -/
theorem Reachable.listed {merged : Bool} (h : Reachable merged state) : CandidatesListed state := by
  induction h with
  | fromAuthoritySnapshot h => exact fromAuthoritySnapshot_listed h
  | selfIdentity network roles localIdentity =>
    exact candidatesListed_merged
      (selfIdentityDaemonState_coherent network roles localIdentity).toGrounded
      (fixtureDaemonState_listed network)
  | fixture network => exact fixtureDaemonState_listed network
  | syncAuthoritySnapshot hstate h ih =>
    obtain ⟨membership, artifacts, delta, -, -, rfl⟩ := DaemonState.syncAuthoritySnapshot_ok h
    exact withArtifacts_listed hstate.coherent.1.toGrounded ih membership artifacts
  | applyRevocations hstate incoming ih => exact ih
  | applyRelayMap hstate incoming ih =>
    exact applyRelayMap_listed hstate.coherent.1.toGrounded ih incoming
  | save hstate h ih =>
    obtain ⟨file, hstored, hload⟩ := h
    cases hstored
    exact ih.load hload
  | ensureState hstate hfile h ih => exact ensureState_listed hstate.coherent.1 ih hfile h
  | @createState ρ world opened config state hfile h =>
    rw [LocalControlPlane.ensureState_of_none hfile] at h
    cases h
    exact prepared_listed (fixtureDaemonState_coherent config.network).toGrounded
      (fixtureDaemonState_listed config.network) config
  | reprobeNetworkChange hstate hfile h hafter ih =>
    exact reprobeNetworkChange_listed hstate.coherent.1 ih hfile h hafter

end Hashing

/-! ## What a failed plan stops -/

def PlansRoutes (state : DaemonState) : Prop :=
  ∀ peer protocol trafficClass, (∃ route, state.routePlan peer protocol trafficClass = .ok route) ∨
    state.routePlan peer protocol trafficClass = .error (.noRoute peer)

theorem plansRoutes_of_listed {state : DaemonState} (h : CandidatesListed state) :
    PlansRoutes state := by
  intro peer protocol trafficClass
  cases hbest : state.bestPath peer trafficClass with
  | none =>
    right
    simp only [DaemonState.routePlan, hbest]
  | some decision =>
    have hmem := List.argmin_mem (bestPath_eq_some.1 hbest).1
    have hcandidate := List.mem_filter.1 (List.mem_of_mem_filter hmem)
    obtain ⟨entry, hentry, hpeer⟩ := h decision.selected hcandidate.1
    have hselected : decision.selected.peer = peer := of_decide_eq_true hcandidate.2
    have hfind : (state.peer peer).isSome := by
      rw [DaemonState.peer, List.find?_isSome]
      exact ⟨entry, hentry, decide_eq_true (hpeer.trans hselected)⟩
    obtain ⟨inspection, hinspection⟩ := Option.isSome_iff_exists.1 hfind
    have hplan := routePlan_of_selected hbest hinspection protocol
    by_cases hroutable : Routable state decision.selected
    · exact .inl (hplan.1 hroutable)
    · exact .inr (hplan.2 hroutable)

def OfTransport (error : DaemonStateError) : Prop := ∃ cause, error = .transport cause

theorem onTransport_raises {α : Type} (m : QuicM ρ α) : Raises OfTransport (onTransport m) :=
  Raises.mapError (fun cause => ⟨cause, rfl⟩) m

theorem failAndCloseSession_raises (session : SessionSnapshot)
    (closureReason : SessionClosureReason) (reason : String) :
    Raises OfTransport (failAndCloseSession session closureReason reason : FabricM ρ Unit) := by
  refine Raises.bind (onTransport_raises _) fun _ => ?_
  exact Raises.bind (Raises.modify _) fun _ => onTransport_raises _

theorem closeFailed_raises (progress : ReconcileProgress) (session : SessionSnapshot)
    (closureReason : SessionClosureReason) (reason : String) :
    Raises OfTransport (closeFailed progress session closureReason reason : FabricM ρ _) :=
  Raises.bind (failAndCloseSession_raises session closureReason reason) fun _ => Raises.pure _

theorem degradeSession_raises (session : SessionSnapshot) (protocol : ProtocolId)
    (reason : String) :
    Raises OfTransport (degradeSession session protocol reason : FabricM ρ Unit) :=
  Raises.bind (onTransport_raises _) fun _ => Raises.modify _

section Passes
variable [Primitives] {state : DaemonState}

theorem reconcileRoute_raises (progress : ReconcileProgress) (session : SessionSnapshot)
    {peer : PeerId} {plan : Except DaemonStateError RoutePlan}
    (hplan : (∃ route, plan = .ok route) ∨ plan = .error (.noRoute peer)) :
    Raises OfTransport (reconcileRoute progress session plan : FabricM ρ _) := by
  rcases hplan with ⟨route, rfl⟩ | rfl
  · simp only [reconcileRoute]
    split_ifs
    · exact Raises.bind (onTransport_raises _) fun _ => Raises.pure _
    · refine Raises.bind (onTransport_raises _) fun _ => ?_
      refine Raises.bind (Raises.attempt _) fun answer => ?_
      cases answer with
      | ok migrated => exact Raises.pure _
      | error error => exact closeFailed_raises progress session _ _
  · exact closeFailed_raises progress session _ _

theorem reconcileSession_raises (hplans : PlansRoutes state) {progress : ReconcileProgress}
    (hon : progress.On state) (session : SessionSnapshot) :
    Raises OfTransport (reconcileSession progress session : FabricM ρ _) := by
  refine Raises.bind (onTransport_raises _) fun _ => Raises.bind Raises.get fun adapter => ?_
  cases adapter.sessionSnapshot session.sessionId with
  | none => exact Raises.pure _
  | some registered =>
    dsimp only
    unfold reconcileRegistered
    cases registered.protocol with
    | none => exact closeFailed_raises progress registered _ _
    | some protocol =>
      dsimp only
      split_ifs
      · have hplan := hplans registered.peer (some protocol) registered.trafficClass
        rw [← hon.routePlan] at hplan
        exact reconcileRoute_raises progress registered hplan
      · refine Raises.bind (onTransport_raises _) fun _ => ?_
        exact Raises.bind (onTransport_raises _) fun _ => Raises.pure _

theorem reconcileState_raises (hplans : PlansRoutes state) :
    Raises OfTransport (reconcileState state : FabricM ρ _) := by
  refine Raises.bind Raises.get fun adapter => ?_
  refine Raises.bind ?_ fun progress => Raises.bind Raises.get fun _ => Raises.pure _
  exact Raises.foldlM (fun progress session hon => reconcileSession_raises hplans hon session)
    (fun progress session hon => reconcileSession_on hon session) _ (ReconcileProgress.on_start state)

theorem followRoute_raises (session : SessionSnapshot) (protocol : ProtocolId)
    (report : AuthorityReevaluationReport) {peer : PeerId}
    {plan : Except DaemonStateError RoutePlan}
    (hplan : (∃ route, plan = .ok route) ∨ plan = .error (.noRoute peer)) :
    Raises OfTransport (followRoute session protocol report plan : FabricM ρ _) := by
  rcases hplan with ⟨route, rfl⟩ | rfl
  · simp only [followRoute]
    split_ifs
    · refine Raises.bind ?_ fun _ => Raises.pure _
      unfold restorePosture
      split_ifs
      · exact onTransport_raises _
      · exact Raises.pure _
    · refine Raises.bind (Raises.modify _) fun _ => Raises.bind (onTransport_raises _) fun _ => ?_
      refine Raises.bind (Raises.attempt _) fun answer => ?_
      cases answer with
      | ok migrated => exact Raises.pure _
      | error error =>
        refine Raises.bind (failAndCloseSession_raises session _ _) fun _ => ?_
        exact Raises.bind (Raises.modify _) fun _ => Raises.pure _
    · exact Raises.bind (degradeSession_raises session protocol _) fun _ => Raises.pure _
  · exact Raises.bind (degradeSession_raises session protocol _) fun _ => Raises.pure _

theorem reevaluateSession_raises (hplans : PlansRoutes state) (runtimePeerId : PeerId)
    (report : AuthorityReevaluationReport) (session : SessionSnapshot) :
    Raises OfTransport (reevaluateSession state runtimePeerId report session : FabricM ρ _) := by
  unfold reevaluateSession
  cases session.protocol with
  | none => exact Raises.pure _
  | some protocol =>
    dsimp only
    cases state.authorityEnforcement runtimePeerId session.peer protocol with
    | some enforced =>
      refine Raises.bind Raises.get fun _ => Raises.bind (Raises.modify _) fun _ => ?_
      refine Raises.bind (onTransport_raises _) fun _ => Raises.bind (Raises.modify _) fun _ => ?_
      exact Raises.bind (onTransport_raises _) fun _ => Raises.pure _
    | none =>
      refine Raises.bind Raises.get fun _ => Raises.bind (Raises.modify _) fun _ => ?_
      exact followRoute_raises session protocol _
        (hplans session.peer (some protocol) session.trafficClass)

theorem reevaluateListener_raises (runtimePeerId : PeerId) (report : AuthorityReevaluationReport)
    (listener : RuntimeListenerSnapshot) :
    Raises OfTransport (reevaluateListener state runtimePeerId report listener : FabricM ρ _) := by
  unfold reevaluateListener
  by_cases hfailed : listener.state = .failed
  · rw [if_pos hfailed]
    exact Raises.pure _
  · rw [if_neg hfailed]
    cases listenerEnforcement state runtimePeerId listener with
    | some reason =>
      refine Raises.bind (Raises.modify _) fun _ => ?_
      split_ifs
      · exact Raises.pure _
      · exact Raises.bind (Raises.modify _) fun _ => Raises.pure _
    | none =>
      dsimp only
      split_ifs
      · exact Raises.bind (Raises.modify _) fun _ => Raises.pure _
      · exact Raises.pure _

theorem reevaluateAuthority_raises (hplans : PlansRoutes state) (runtimePeerId : PeerId) :
    Raises OfTransport (reevaluateAuthority state runtimePeerId : FabricM ρ _) := by
  refine Raises.bind (Raises.modify _) fun _ => Raises.bind Raises.get fun adapter => ?_
  refine Raises.bind ?_ fun report => Raises.bind Raises.get fun listening => ?_
  · exact Raises.foldlM (I := fun _ => True)
      (fun report session _ => reevaluateSession_raises hplans runtimePeerId report session)
      (fun _ _ _ _ _ _ _ => trivial) _ trivial
  · refine Raises.bind ?_ fun _ => Raises.bind (Raises.modify _) fun _ => Raises.pure _
    exact Raises.foldlM (I := fun _ => True)
      (fun report listener _ => reevaluateListener_raises runtimePeerId report listener)
      (fun _ _ _ _ _ _ _ => trivial) _ trivial

/-- A state that the daemon reaches plans a route or finds none, and so neither pass over
its sessions ends but by an error of the transport. -/
theorem route_plan_fails_with_no_route {merged : Bool} (h : Reachable merged state) :
    (∀ peer protocol trafficClass,
      (∃ route, state.routePlan peer protocol trafficClass = .ok route) ∨
        state.routePlan peer protocol trafficClass = .error (.noRoute peer)) ∧
      (∀ (adapter after : QuicTransportAdapter ρ) (error : DaemonStateError),
        reconcileState state adapter = .error error after → ∃ cause, error = .transport cause) ∧
      ∀ (runtimePeerId : PeerId) (adapter after : QuicTransportAdapter ρ)
        (error : DaemonStateError), reevaluateAuthority state runtimePeerId adapter =
          .error error after → ∃ cause, error = .transport cause := by
  have hplans : PlansRoutes state := plansRoutes_of_listed h.listed
  refine ⟨hplans, ?_, ?_⟩
  · intro adapter after error hfails
    exact reconcileState_raises hplans adapter error after hfails
  · intro runtimePeerId adapter after error hfails
    exact reevaluateAuthority_raises hplans runtimePeerId adapter error after hfails

end Passes

section Closed
attribute [local instance] Primitives.transparent

theorem relayless_fixture_plans :
    relaylessFixture.routePlan fixtureWorkerPeer none .bulk = .error (.noRoute fixtureWorkerPeer) ∧
      PlansRoutes relaylessFixture := by
  have hreachable : Reachable true relaylessFixture :=
    .applyRelayMap (.fixture "mesh") emptiedRelayMap
  refine ⟨by decide +kernel, ?_⟩
  exact (route_plan_fails_with_no_route (ρ := Unit) hreachable).1

end Closed

end QuipNet.Fabric
