import QuipNet.PeerEntries
import QuipNet.RouteSearch
import QuipNet.SyncTriggers

/-!
# Route changes that a sync reports

The route to a peer goes over the cheapest of its candidates, which are made from the
hints and the relays, to the addresses of its entry. The report of a sync compares hints
by their peer and relays by their id, so that it counts nothing when either changes in
place or a relay goes.
-/

open Std
namespace QuipNet.Fabric
open QuipNet.Control QuipNet.Daemon QuipNet.Library QuipNet.Library.Effect QuipNet.Peers
open QuipNet.Relay QuipNet.Routing QuipNet.Transport

/-! ## What a route is made from -/

def hintKinds (bootstrap : List BootstrapEndpoint) (peer : PeerId) : List PathKind :=
  (bootstrap.filter fun endpoint => endpoint.peer = some peer &&
    endpoint.addresses.any isDirectQuicAddress).map endpointPathKind

/-- The candidate over a relay, in terms of the one to the relay itself. -/
def fallbackOver (netcheck : NetcheckReport) (peer : PeerId) (direct : PathCandidate) :
    PathCandidate where
  peer := peer
  pathKind := .relay
  relayPeer := some direct.peer
  source := .authorityRelay
  trafficClasses := direct.trafficClasses
  rttMs := saturatingAdd (saturatingMul direct.rttMs 2) 20
  jitterMs := relayFallbackJitterMs netcheck
  lossPct := relayFallbackLossPct netcheck
  throughputMbps := max (direct.throughputMbps / 2) 80
  relayPenalty := 25

def candidatesOf (netcheck : NetcheckReport) (kinds : List PathKind)
    (directs : List PathCandidate) (peer : PeerId) : List PathCandidate :=
  (if !netcheck.udpReachable && !netcheck.ipv6Reachable then []
    else kinds.map (directBootstrapCandidate netcheck peer)) ++
    directs.filter (fun direct => direct.peer = peer) ++
    if directs.any fun direct => direct.peer = peer then []
    else directs.map (fallbackOver netcheck peer)

theorem flatMap_ite {α β : Type} (p : α → Prop) [DecidablePred p] (f : α → List β)
    (items : List α) :
    (items.flatMap fun item => if p item then f item else []) = (items.filter p).flatMap f := by
  induction items with
  | nil => rfl
  | cons item rest ih => by_cases hitem : p item <;> simp [hitem, ih]

section Candidates
variable {state : DaemonState} {peer : PeerId}

theorem filter_synthesizedDirectBootstrapCandidates (state : DaemonState) (peer : PeerId) :
    (synthesizedDirectBootstrapCandidates state).filter (fun candidate => candidate.peer = peer) =
      if !state.netcheck.udpReachable && !state.netcheck.ipv6Reachable then []
      else (hintKinds state.bootstrap peer).map (directBootstrapCandidate state.netcheck peer) := by
  unfold synthesizedDirectBootstrapCandidates hintKinds
  split_ifs
  · rfl
  · induction state.bootstrap with
    | nil => rfl
    | cons endpoint rest ih =>
      by_cases hdirect : endpoint.addresses.any isDirectQuicAddress = true
      · cases hpeer : endpoint.peer with
        | none => simp_all
        | some other =>
          by_cases hother : other = peer
          · subst hother
            simp_all [directBootstrapCandidate]
          · simp_all
      · simp_all

theorem filter_synthesizedRelayCandidates (hsorted : Sorted state.peers)
    (hlisted : Lists state.peers peer) :
    (synthesizedRelayCandidates state).filter (fun candidate => candidate.peer = peer) =
      let directs := state.relayAnnouncements.map (directRelayCandidate state.netcheck)
      directs.filter (fun direct => direct.peer = peer) ++
        if directs.any fun direct => direct.peer = peer then []
        else directs.map (fallbackOver state.netcheck peer) := by
  obtain ⟨entry, hentry, rfl⟩ := hlisted
  have honly := filter_key_eq_singleton hsorted.distinct hentry
  unfold synthesizedRelayCandidates
  cases hmap : state.relayMap with
  | none => simp [DaemonState.relayAnnouncements, hmap]
  | some relayMap =>
    have hrelays : state.relayAnnouncements = relayMap.relays := by
      simp [DaemonState.relayAnnouncements, hmap]
    have hfallback : (fun other : PeerInspection =>
        (relayMap.relays.map (relayFallbackCandidate state.netcheck other.snapshot.peer)).filter
          fun candidate => candidate.peer = entry.snapshot.peer) =
        fun other => if other.snapshot.peer = entry.snapshot.peer then
          relayMap.relays.map (relayFallbackCandidate state.netcheck other.snapshot.peer)
        else [] := by
      funext other
      rw [List.filter_map]
      split_ifs with hpeer
      · simp [Function.comp_def, relayFallbackCandidate, hpeer]
      · simp [Function.comp_def, relayFallbackCandidate, hpeer]
    have hone : (state.peers.filter fun other =>
        !(relayMap.relays.map RelayAnnouncement.peerId).contains other.snapshot.peer).filter
          (fun other => other.snapshot.peer = entry.snapshot.peer) =
        if (relayMap.relays.map (directRelayCandidate state.netcheck)).any
          (fun direct => direct.peer = entry.snapshot.peer) then [] else [entry] := by
      have hrelay : (relayMap.relays.map (directRelayCandidate state.netcheck)).any
          (fun direct => direct.peer = entry.snapshot.peer) =
          (relayMap.relays.map RelayAnnouncement.peerId).contains entry.snapshot.peer := by
        rw [List.any_map, List.contains_eq_any_beq, List.any_map]
        refine List.any_congr rfl fun relay => ?_
        rw [Bool.eq_iff_iff, Function.comp_apply, Function.comp_apply, decide_eq_true_eq, beq_iff_eq]
        exact eq_comm
      rw [List.filter_comm, honly, List.filter_singleton, hrelay]
      cases (relayMap.relays.map RelayAnnouncement.peerId).contains entry.snapshot.peer <;> rfl
    simp only [hrelays, List.filter_append, List.filter_flatMap, hfallback, flatMap_ite, hone]
    split_ifs
    · rfl
    · rw [List.flatMap_singleton, List.map_map]
      rfl

/-- The candidates for a peer are its observed ones, then those of its hints and of the relays. -/
theorem pathCandidatesFor_eq (hmerged : CandidatesMerged state) (hsorted : Sorted state.peers)
    (hlisted : Lists state.peers peer) :
    state.pathCandidatesFor peer =
      (mergeNew sameCandidate
        ((observedCandidates state).filter fun candidate => candidate.peer = peer)
        (candidatesOf state.netcheck (hintKinds state.bootstrap peer)
          (state.relayAnnouncements.map (directRelayCandidate state.netcheck)) peer)).1 := by
  have hsame : ∀ a b, sameCandidate a b = true → decide (a.peer = peer) = decide (b.peer = peer) := by
    intro a b hkeys
    have hpeer : a.peer = b.peer := congrArg Prod.fst (of_decide_eq_true hkeys)
    rw [hpeer]
  rw [DaemonState.pathCandidatesFor, hmerged, mergedPathCandidates_eq,
    filter_mergeNew sameCandidate hsame, synthesizedCandidates, List.filter_append,
    filter_synthesizedDirectBootstrapCandidates, filter_synthesizedRelayCandidates hsorted hlisted,
    ← List.append_assoc]
  rfl

end Candidates

/-! ## Equal plans -/

def announcedPlan (relay : RelayAnnouncement) : RelayPlan where
  relayPeer := relay.peerId
  relayEndpoints := routeEndpoints relay.advertisedEndpoints (relayPathKind relay)
  relayControlEndpoint := relay.controlEndpoint
  destinationEndpoints := []
  supportsDatagrams := relay.supportsQuicDatagrams
  supportsPathMigration := relay.supportsPathMigration

/-- What the route over the candidate says of its relay: nothing for a direct path, and
none when the relay is not announced. -/
def relayOver (relays : List RelayAnnouncement) (candidate : PathCandidate) :
    Option (Option RelayPlan) :=
  if candidate.pathKind = .relay then
    (candidate.relayPeer.bind fun relayPeer =>
      (relays.map announcedPlan).find? fun plan => plan.relayPeer = relayPeer).map some
  else some none

theorem relayOver_destinationEndpoints {relays : List RelayAnnouncement}
    {candidate : PathCandidate} {plan : RelayPlan}
    (h : relayOver relays candidate = some (some plan)) : plan.destinationEndpoints = [] := by
  unfold relayOver at h
  split_ifs at h
  · obtain ⟨found, hfind, hplan⟩ := Option.map_eq_some_iff.1 h
    obtain ⟨relayPeer, -, hfound⟩ := Option.bind_eq_some_iff.1 hfind
    obtain ⟨relay, -, hrelay⟩ := List.mem_map.1 (List.mem_of_find?_eq_some hfound)
    rw [← Option.some.inj hplan, ← hrelay, announcedPlan]
  · cases h

theorem relayPlan_eq (state : DaemonState) (peer : PeerId) (selected : PathCandidate)
    (remoteEndpoints : List String) :
    state.relayPlan peer selected remoteEndpoints =
      (relayOver state.relayAnnouncements selected).elim (.error (.noRoute peer)) fun relay =>
        .ok (relay.map fun plan => { plan with destinationEndpoints := remoteEndpoints }) := by
  unfold DaemonState.relayPlan relayOver
  by_cases hkind : selected.pathKind = .relay
  · rw [if_pos hkind, if_pos hkind]
    cases selected.relayPeer with
    | none => rfl
    | some relayPeer =>
      have hfind : (state.relayAnnouncements.map announcedPlan).find? (fun plan =>
          plan.relayPeer = relayPeer) =
          (state.relayAnnouncements.find? fun relay => relay.peerId = relayPeer).map
            announcedPlan := List.find?_map
      rw [Option.bind_some, hfind]
      cases hrelay : state.relayAnnouncements.find? fun relay => relay.peerId = relayPeer with
      | none => simp only [hrelay, Option.map_none, Option.elim_none]
      | some relay =>
        have hpeer := List.find?_some hrelay
        rw [decide_eq_true_eq] at hpeer
        simp [hrelay, announcedPlan, hpeer]
  · rw [if_neg hkind, if_neg hkind]
    rfl

/-- What the routes to a peer are made from. -/
structure Makings where
  localPeer : PeerId
  candidates : List PathCandidate
  relays : List RelayAnnouncement
  addresses : List String

namespace Makings

def cheapest (makings : Makings) (trafficClass : TrafficClass) : Option PathCandidate :=
  (selectBestPath makings.candidates trafficClass).map PathDecision.selected

/-- No route leads over the cheapest candidate. -/
def Blocked (makings : Makings) (trafficClass : TrafficClass) : Prop :=
  ∀ candidate ∈ makings.cheapest trafficClass, relayOver makings.relays candidate = none

end Makings

/-- Over the one candidate and over the other, the same way leads to the peer. -/
structure SameWay (before after : Makings) (held made : PathCandidate) : Prop where
  localPeer : after.localPeer = before.localPeer
  pathKind : made.pathKind = held.pathKind
  source : routeSource made.source = routeSource held.source
  endpoints : routeEndpoints after.addresses held.pathKind =
    routeEndpoints before.addresses held.pathKind
  relay : relayOver after.relays made = relayOver before.relays held

/-- The cheapest candidates lead the same way, or none leads to the peer. -/
def Makings.Keeps (before after : Makings) (trafficClass : TrafficClass) : Prop :=
  (before.Blocked trafficClass ∧ after.Blocked trafficClass) ∨
    ∃ held ∈ before.cheapest trafficClass, ∃ made ∈ after.cheapest trafficClass,
      relayOver before.relays held ≠ none ∧ SameWay before after held made

structure MadeFrom (state : DaemonState) (peer : PeerId) (makings : Makings) : Prop where
  localPeer : state.localPeerId = makings.localPeer
  candidates : state.pathCandidatesFor peer = makings.candidates
  relays : state.relayAnnouncements = makings.relays
  addresses : entryAddresses state.peers peer = some makings.addresses

section Plans
variable {state before after : DaemonState} {peer : PeerId} {makings held renewed : Makings}
  {trafficClass : TrafficClass}

theorem MadeFrom.routePlan_blocked (h : MadeFrom state peer makings)
    (hblocked : makings.Blocked trafficClass) (protocol : Option ProtocolId) :
    state.routePlan peer protocol trafficClass = .error (.noRoute peer) := by
  obtain ⟨entry, hentry, -⟩ := Option.map_eq_some_iff.1 h.addresses
  have hpeer : state.peer peer = some entry := hentry
  unfold DaemonState.routePlan
  rw [DaemonState.bestPath, h.candidates]
  cases hdecision : selectBestPath makings.candidates trafficClass with
  | none => rfl
  | some decision =>
    have hnone := hblocked decision.selected (by rw [Makings.cheapest, hdecision]; rfl)
    simp only [hpeer, relayPlan_eq, h.relays, hnone, Option.elim_none]

theorem MadeFrom.routePlan_over (h : MadeFrom state peer makings) {candidate : PathCandidate}
    (hcheapest : candidate ∈ makings.cheapest trafficClass) {relay : Option RelayPlan}
    (hrelay : relayOver makings.relays candidate = some relay) (protocol : Option ProtocolId) :
    state.routePlan peer protocol trafficClass =
      .ok ⟨makings.localPeer, peer, protocol, trafficClass, candidate.pathKind,
        routeSource candidate.source, routeEndpoints makings.addresses candidate.pathKind,
        relay.map fun plan => { plan with
          destinationEndpoints := routeEndpoints makings.addresses candidate.pathKind }⟩ := by
  obtain ⟨entry, hentry, haddresses⟩ := Option.map_eq_some_iff.1 h.addresses
  have hpeer : state.peer peer = some entry := hentry
  obtain ⟨decision, hdecision, rfl⟩ := Option.map_eq_some_iff.1 hcheapest
  unfold DaemonState.routePlan
  rw [DaemonState.bestPath, h.candidates]
  simp only [hdecision, hpeer, relayPlan_eq, h.relays, hrelay, Option.elim_some, haddresses,
    h.localPeer]

theorem Makings.exists_relayOver (h : ¬ makings.Blocked trafficClass) :
    ∃ candidate ∈ makings.cheapest trafficClass, ∃ relay,
      relayOver makings.relays candidate = some relay := by
  unfold Makings.Blocked at h
  push Not at h
  obtain ⟨candidate, hcheapest, hrelay⟩ := h
  exact ⟨candidate, hcheapest, Option.ne_none_iff_exists'.1 hrelay⟩

theorem relayOver_ext {relays relays' : List RelayAnnouncement} {made kept : PathCandidate}
    {relay relay' : Option RelayPlan} (hmade : relayOver relays made = some relay)
    (hkept : relayOver relays' kept = some relay') {endpoints : List String}
    (h : relay.map (fun plan => { plan with destinationEndpoints := endpoints }) =
      relay'.map fun plan => { plan with destinationEndpoints := endpoints }) : relay = relay' := by
  cases relay with
  | none => cases relay' with
    | none => rfl
    | some plan' => cases h
  | some plan => cases relay' with
    | none => cases h
    | some plan' =>
      have hplan := relayOver_destinationEndpoints hmade
      have hplan' := relayOver_destinationEndpoints hkept
      obtain ⟨_, _, _, _, _, _⟩ := plan
      obtain ⟨_, _, _, _, _, _⟩ := plan'
      simp_all

theorem routePlan_eq_iff (hheld : MadeFrom before peer held) (hrenewed : MadeFrom after peer renewed)
    (protocol : Option ProtocolId) :
    after.routePlan peer protocol trafficClass = before.routePlan peer protocol trafficClass ↔
      held.Keeps renewed trafficClass := by
  by_cases hblocked : held.Blocked trafficClass
  · rw [hheld.routePlan_blocked hblocked]
    by_cases hblocked' : renewed.Blocked trafficClass
    · rw [hrenewed.routePlan_blocked hblocked']
      exact iff_of_true rfl (.inl ⟨hblocked, hblocked'⟩)
    · obtain ⟨made, hmade, relay, hrelay⟩ := Makings.exists_relayOver hblocked'
      rw [hrenewed.routePlan_over hmade hrelay]
      refine iff_of_false (fun h => by cases h) ?_
      rintro (⟨-, habsurd⟩ | ⟨kept, hkept, made', -, hrouted, -⟩)
      · exact hblocked' habsurd
      · exact hrouted (hblocked kept hkept)
  · obtain ⟨kept, hkept, relay, hrelay⟩ := Makings.exists_relayOver hblocked
    rw [hheld.routePlan_over hkept hrelay]
    have hone : ∀ other ∈ held.cheapest trafficClass, other = kept := fun other hother =>
      Option.mem_unique hother hkept
    by_cases hblocked' : renewed.Blocked trafficClass
    · rw [hrenewed.routePlan_blocked hblocked']
      refine iff_of_false (fun h => by cases h) ?_
      rintro (⟨habsurd, -⟩ | ⟨other, hother, made, hmade, hrouted, hway⟩)
      · exact hblocked habsurd
      · exact hrouted (hway.relay.symm.trans (hblocked' made hmade))
    · obtain ⟨made, hmade, relay', hrelay'⟩ := Makings.exists_relayOver hblocked'
      rw [hrenewed.routePlan_over hmade hrelay', Except.ok.injEq]
      constructor
      · intro h
        simp only [RoutePlan.mk.injEq, true_and] at h
        obtain ⟨hlocal, hkind, hsource, hendpoints, hplans⟩ := h
        rw [hendpoints] at hplans
        rw [hkind] at hendpoints
        have hrelays := relayOver_ext hrelay' hrelay hplans
        refine .inr ⟨kept, hkept, made, hmade, by simp [hrelay], hlocal, hkind, hsource,
          hendpoints, ?_⟩
        rw [hrelay', hrelay, hrelays]
      · rintro (⟨habsurd, -⟩ | ⟨other, hother, made', hmade', -, hway⟩)
        · exact absurd habsurd hblocked
        · obtain rfl := hone other hother
          obtain rfl := Option.mem_unique hmade' hmade
          have hrelays := hway.relay
          rw [hrelay', hrelay, Option.some.injEq] at hrelays
          rw [hway.localPeer, hway.pathKind, hway.source, hway.endpoints, hrelays]

def RoutesChanged (before after : DaemonState) : Prop :=
  ∃ peer protocol trafficClass, (before.peer peer).isSome ∧
    after.routePlan peer protocol trafficClass ≠ before.routePlan peer protocol trafficClass

end Plans

/-! ## Syncs -/

def takenRelayMap (state : DaemonState) (fetched : RelayMap) : Option RelayMap :=
  if StaleRelayMap state fetched then none else some fetched

/-- The addresses that a sync writes into the entry of the peer: those that its relay map
has, and else those of its last hint. -/
def writtenAddresses (incoming : AuthorityArtifactSnapshot) (taken : Option RelayMap)
    (peer : PeerId) : Option (List String) :=
  (taken.bind fun relayMap => advertisedAddresses relayMap.relays peer).or
    (hintedAddresses (incoming.bootstrapHints.map bootstrapEndpointFromHint) peer)

structure SameIdentities (state : DaemonState) (incoming : AuthorityArtifactSnapshot)
    (taken : Option RelayMap) : Prop where
  membership : mergeMembership (some state.membership) incoming.membership =
    .ok (some state.membership)
  grants : Covers sameGrant state.capabilityGrants incoming.capabilityGrants
  revocations : (mergeNew sameRevocation state.revocations incoming.revocations).2 = 0
  hints : Covers sameHint (state.bootstrap.map bootstrapHintFromEndpoint) incoming.bootstrapHints
  relays : ∀ relayMap ∈ taken, ∀ relay ∈ relayMap.relays,
    ∃ known ∈ state.relayAnnouncements, known.peerId = relay.peerId

def heldMakings (state : DaemonState) (peer : PeerId) : Makings where
  localPeer := state.localPeerId
  candidates := state.pathCandidatesFor peer
  relays := state.relayAnnouncements
  addresses := (entryAddresses state.peers peer).getD []

def relaysWith (state : DaemonState) (taken : Option RelayMap) : List RelayAnnouncement :=
  (taken.map RelayMap.relays).getD state.relayAnnouncements

def syncedMakings (state : DaemonState) (incoming : AuthorityArtifactSnapshot)
    (taken : Option RelayMap) (peer : PeerId) : Makings where
  localPeer := state.membership.subjectPeerId
  candidates := (mergeNew sameCandidate
    ((observedCandidates state).filter fun candidate => candidate.peer = peer)
    (candidatesOf state.netcheck
      (hintKinds (incoming.bootstrapHints.map bootstrapEndpointFromHint) peer)
      ((relaysWith state taken).map (directRelayCandidate state.netcheck)) peer)).1
  relays := relaysWith state taken
  addresses :=
    ((writtenAddresses incoming taken peer).or (storedAddresses state.peers peer)).getD []

/-- To each known peer, and for each class, the sync keeps the way. -/
def RoutesKept (state : DaemonState) (incoming : AuthorityArtifactSnapshot)
    (taken : Option RelayMap) : Prop :=
  ∀ peer, Lists state.peers peer → ∀ trafficClass,
    (heldMakings state peer).Keeps (syncedMakings state incoming taken peer) trafficClass

structure Synced (state : DaemonState) (incoming : AuthorityArtifactSnapshot)
    (taken : Option RelayMap) (after : DaemonState) : Prop where
  localPeer : after.localPeerId = state.membership.subjectPeerId
  netcheck : after.netcheck = state.netcheck
  bootstrap : after.bootstrap = incoming.bootstrapHints.map bootstrapEndpointFromHint
  relays : after.relayAnnouncements = relaysWith state taken
  observed : observedCandidates after = observedCandidates state
  merged : CandidatesMerged after
  sorted : Sorted after.peers
  entries : ∀ peer, entryAddresses after.peers peer =
    (writtenAddresses incoming taken peer).or (storedAddresses state.peers peer)

section Syncs
variable {state after : DaemonState} {incoming : AuthorityArtifactSnapshot}
  {taken : Option RelayMap}

theorem isSome_peer_iff {peer : PeerId} : (state.peer peer).isSome ↔ Lists state.peers peer := by
  simp [DaemonState.peer, Peers.Lists]

theorem madeFrom_held {peer : PeerId} (h : Lists state.peers peer) :
    MadeFrom state peer (heldMakings state peer) := by
  refine ⟨rfl, rfl, rfl, ?_⟩
  obtain ⟨addresses, haddresses⟩ := exists_entryAddresses h
  rw [heldMakings, haddresses, Option.getD_some]

theorem Synced.madeFrom (h : Synced state incoming taken after) {peer : PeerId}
    (hlisted : Lists state.peers peer) :
    MadeFrom after peer (syncedMakings state incoming taken peer) := by
  obtain ⟨stored, hstored⟩ := exists_storedAddresses hlisted
  have haddresses : entryAddresses after.peers peer =
      some ((syncedMakings state incoming taken peer).addresses) := by
    rw [h.entries, hstored, syncedMakings, hstored]
    cases writtenAddresses incoming taken peer <;> rfl
  refine ⟨h.localPeer, ?_, h.relays, haddresses⟩
  rw [pathCandidatesFor_eq h.merged h.sorted (lists_of_entryAddresses haddresses), h.observed,
    h.netcheck, h.bootstrap, h.relays]
  rfl

theorem Synced.routesChanged_iff (h : Synced state incoming taken after) :
    RoutesChanged state after ↔ ¬ RoutesKept state incoming taken := by
  have hplans : ∀ peer, Lists state.peers peer → ∀ protocol trafficClass,
      after.routePlan peer protocol trafficClass = state.routePlan peer protocol trafficClass ↔
        (heldMakings state peer).Keeps (syncedMakings state incoming taken peer) trafficClass :=
    fun peer hlisted protocol trafficClass =>
      routePlan_eq_iff (madeFrom_held hlisted) (h.madeFrom hlisted) protocol
  unfold RoutesChanged RoutesKept
  push Not
  constructor
  · rintro ⟨peer, protocol, trafficClass, hknown, hchanged⟩
    have hlisted := isSome_peer_iff.1 hknown
    exact ⟨peer, hlisted, trafficClass, (hplans peer hlisted protocol trafficClass).not.1 hchanged⟩
  · rintro ⟨peer, hlisted, trafficClass, hkeeps⟩
    exact ⟨peer, none, trafficClass, isSome_peer_iff.2 hlisted,
      (hplans peer hlisted none trafficClass).not.2 hkeeps⟩

theorem Synced.withArtifacts {membership : MembershipCertificate} {merged : AuthorityArtifactSnapshot}
    (hsubject : membership.subjectPeerId = state.membership.subjectPeerId)
    (hhints : merged.bootstrapHints = incoming.bootstrapHints) :
    Synced state incoming none (state.withArtifacts membership merged) := by
  refine ⟨hsubject, rfl, ?_, rfl, filter_observed_merged _, withMergedCandidates_merged _,
    (mergeBootstrapPeers_spec state.peers _).1, ?_⟩
  · rw [← hhints]
    rfl
  · intro peer
    rw [writtenAddresses, ← hhints]
    exact entryAddresses_mergeBootstrapPeers state.peers _ peer

theorem Synced.applyRelayMap (h : Synced state incoming none after) {fetched : RelayMap} :
    Synced state incoming (takenRelayMap after fetched) (after.applyRelayMap fetched).1 := by
  cases hstale : StaleRelayMap after fetched with
  | true =>
    rw [applyRelayMap_of_stale hstale, takenRelayMap, hstale]
    exact h
  | false =>
    rw [takenRelayMap, hstale, applyRelayMap_of_current hstale]
    refine ⟨h.localPeer, h.netcheck, h.bootstrap, rfl, ?_, withMergedCandidates_merged _,
      (mergeRelayPeers_spec after.peers _).1, ?_⟩
    · rw [← h.observed]
      exact filter_observed_merged _
    · intro peer
      have hentry := entryAddresses_mergeRelayPeers after.peers fetched peer
      rw [h.sorted.storedAddresses, h.entries, writtenAddresses, ← Option.or_assoc] at hentry
      exact hentry

theorem applyRelayMap_added_iff (state : DaemonState) (fetched : RelayMap) :
    (state.applyRelayMap fetched).2 = 0 ↔ ∀ relayMap ∈ takenRelayMap state fetched,
      ∀ relay ∈ relayMap.relays, ∃ known ∈ state.relayAnnouncements, known.peerId = relay.peerId := by
  unfold DaemonState.applyRelayMap takenRelayMap StaleRelayMap
  split_ifs
  · simp
  · cases hmap : state.relayMap with
    | none => simp [DaemonState.relayAnnouncements, hmap, List.eq_nil_iff_forall_not_mem]
    | some held => simp [DaemonState.relayAnnouncements, hmap]

variable [Primitives] {client : ControlClient} {report : StateSyncReport}

theorem synced_of_ok
    (h : state.syncAuthoritySnapshot client incoming = .ok (after, report)) :
    Synced state incoming none after := by
  obtain ⟨membership, merged, rfl, hkept, -, hhints, -⟩ := sync_ok h
  obtain ⟨kept, hsome, hsubject, -⟩ := mergeMembership_some hkept
  cases hsome
  exact Synced.withArtifacts hsubject hhints

theorem relayAnnouncementsAdded_of_sync
    (h : state.syncAuthoritySnapshot client incoming = .ok (after, report)) :
    report.relayAnnouncementsAdded = 0 := by
  unfold DaemonState.syncAuthoritySnapshot at h
  split at h
  · cases h
  · split at h
    · cases h
    · cases h
      rfl

theorem unflagged_iff (h : state.syncAuthoritySnapshot client incoming = .ok (after, report)) :
    stateSyncRequiresReevaluation report = false ↔ SameIdentities state incoming none := by
  obtain ⟨membership, merged, rfl, hkept, -, -, -, -, hunflagged⟩ := sync_ok h
  rw [hunflagged]
  constructor
  · rintro ⟨rfl, hgrants, hrevocations, hhints⟩
    refine ⟨hkept, hgrants, hrevocations, hhints, ?_⟩
    intro relayMap hmap
    cases hmap
  · rintro ⟨hmembership, hgrants, hrevocations, hhints, -⟩
    rw [hkept] at hmembership
    cases hmembership
    exact ⟨rfl, hgrants, hrevocations, hhints⟩

end Syncs

def reopened (config : DaemonConfig) (state : DaemonState) : DaemonState :=
  { state with activeSessions := [], roles := config.roles }

theorem flag_withRelays {counted : StateSyncReport} (h : counted.relayAnnouncementsAdded = 0)
    (added : ℕ) : stateSyncRequiresReevaluation { counted with relayAnnouncementsAdded := added } =
      (stateSyncRequiresReevaluation counted || decide (0 < added)) := by
  simp [stateSyncRequiresReevaluation, h]

section Origin
variable [Primitives] {ρ : Type} {state after : DaemonState}
  {incoming : AuthorityArtifactSnapshot} {report : StateSyncReport} {config : DaemonConfig}
  {origin : AuthorityOrigin} {subject : Option String} {fetched : RelayMap} {world next : World ρ}

theorem syncAuthorityOrigin_ok (hfile : world.stateFile = some (.durable state))
    (hsnapshot : LocalControlPlane.fetchAuthoritySnapshotFor config origin subject = .ok incoming)
    (hrelayMap : origin.relayMap = .ok fetched)
    (h : LocalControlPlane.syncAuthorityOrigin config origin subject world =
      .ok (after, report) next) :
    ∃ synced counted, (reopened config state).syncAuthoritySnapshot
        (LocalControlPlane.authorityClient config) incoming = .ok (synced, counted) ∧
      after = (synced.applyRelayMap fetched).1 ∧
      report = { counted with relayAnnouncementsAdded := (synced.applyRelayMap fetched).2 } := by
  have hload : LocalControlPlane.syncedState config (some (.durable state)) incoming =
      (reopened config state).syncAuthoritySnapshot (LocalControlPlane.authorityClient config)
        incoming := rfl
  simp only [LocalControlPlane.syncAuthorityOrigin, hsnapshot, hrelayMap, fetched_ok, bind_run,
    pure_run, get_run, hfile, hload] at h
  cases hsync : (reopened config state).syncAuthoritySnapshot
      (LocalControlPlane.authorityClient config) incoming with
  | error error =>
    rw [hsync] at h
    cases h
  | ok result =>
    rw [hsync] at h
    cases h
    exact ⟨result.1, result.2, rfl, rfl, rfl⟩

/-- A sync is flagged if it changes the route to a known peer exactly when it brings another
identity or keeps the ways to the known peers. -/
theorem route_change_requires_reevaluation (state : DaemonState)
    (incoming : AuthorityArtifactSnapshot) :
    (∀ client after report, state.syncAuthoritySnapshot client incoming = .ok (after, report) →
      ((RoutesChanged state after → stateSyncRequiresReevaluation report = true) ↔
        (SameIdentities state incoming none → RoutesKept state incoming none))) ∧
    ∀ (config : DaemonConfig) (origin : AuthorityOrigin) (subject : Option String)
      (fetched : RelayMap) (world next : World ρ) (after : DaemonState) (report : StateSyncReport),
      world.stateFile = some (.durable state) →
      LocalControlPlane.fetchAuthoritySnapshotFor config origin subject = .ok incoming →
      origin.relayMap = .ok fetched →
      LocalControlPlane.syncAuthorityOrigin config origin subject world =
        .ok (after, report) next →
      ((RoutesChanged state after → stateSyncRequiresReevaluation report = true) ↔
        (SameIdentities state incoming (takenRelayMap state fetched) →
          RoutesKept state incoming (takenRelayMap state fetched))) := by
  refine ⟨?_, ?_⟩
  · intro client after report hsync
    rw [(synced_of_ok hsync).routesChanged_iff, ← unflagged_iff hsync, ← Bool.not_eq_true]
    exact not_imp_not.symm.trans (imp_congr_right fun _ => not_not)
  · intro config origin subject fetched world next after report hfile hsnapshot hrelayMap h
    obtain ⟨synced, counted, hsync, rfl, rfl⟩ :=
      syncAuthorityOrigin_ok hfile hsnapshot hrelayMap h
    have hunflagged : stateSyncRequiresReevaluation { counted with
        relayAnnouncementsAdded := (synced.applyRelayMap fetched).2 } = false ↔
        SameIdentities state incoming (takenRelayMap state fetched) := by
      rw [flag_withRelays (relayAnnouncementsAdded_of_sync hsync), Bool.or_eq_false_iff,
        unflagged_iff hsync, decide_eq_false_iff_not, Nat.not_lt, Nat.le_zero,
        applyRelayMap_added_iff]
      obtain ⟨membership, merged, rfl, -⟩ := sync_ok hsync
      constructor
      · rintro ⟨hsame, hknown⟩
        exact ⟨hsame.membership, hsame.grants, hsame.revocations, hsame.hints, hknown⟩
      · intro hsame
        refine ⟨⟨hsame.membership, hsame.grants, hsame.revocations, hsame.hints, ?_⟩, hsame.relays⟩
        intro relayMap hmap
        cases hmap
    have hstale : takenRelayMap synced fetched = takenRelayMap state fetched := by
      obtain ⟨membership, merged, rfl, -⟩ := sync_ok hsync
      rfl
    have hchanged : RoutesChanged state (synced.applyRelayMap fetched).1 ↔
        ¬ RoutesKept state incoming (takenRelayMap state fetched) := by
      rw [← hstale]
      exact (synced_of_ok hsync).applyRelayMap.routesChanged_iff
    rw [hchanged, ← hunflagged, ← Bool.not_eq_true]
    exact not_imp_not.symm.trans (imp_congr_right fun _ => not_not)

end Origin

section Closed
attribute [local instance] Primitives.transparent

def settledFixture : DaemonState := (fixtureDaemonState "mesh").withMergedCandidates

def hintedSnapshot (hints : List BootstrapHint) : AuthorityArtifactSnapshot :=
  { settledFixture.authoritySnapshot with bootstrapHints := hints }

def relayHint : BootstrapHint := ⟨some fixtureRelayPeer, ["udp://203.0.113.10:443"], ∅⟩

def originOf (snapshot : AuthorityArtifactSnapshot) (relayMap : RelayMap) : AuthorityOrigin :=
  ⟨fun _ => .ok snapshot, .ok relayMap, fun _ => .ok []⟩

theorem changes_in_place_unseen :
    (∃ after report, settledFixture.syncAuthoritySnapshot ⟨NetworkId.derive "mesh"⟩
        (hintedSnapshot [relayHint, ⟨some fixtureWorkerPeer, ["udp://198.51.100.99:8443"], ∅⟩]) =
          .ok (after, report) ∧
      stateSyncRequiresReevaluation report = false ∧ RoutesChanged settledFixture after) ∧
    ∃ result next, LocalControlPlane.syncAuthorityOrigin meshConfig
        (originOf settledFixture.authoritySnapshot emptiedRelayMap) none
        (meshWorld settledFixture [] []) = .ok result next ∧
      stateSyncRequiresReevaluation result.2 = false ∧ RoutesChanged settledFixture result.1 := by
  have hmoved : ((settledFixture.syncAuthoritySnapshot ⟨NetworkId.derive "mesh"⟩
      (hintedSnapshot [relayHint, ⟨some fixtureWorkerPeer, ["udp://198.51.100.99:8443"], ∅⟩])
      ).toOption.any fun synced => decide (stateSyncRequiresReevaluation synced.2 = false ∧
        (settledFixture.peer fixtureWorkerPeer).isSome ∧
        synced.1.routePlan fixtureWorkerPeer none .background ≠
          settledFixture.routePlan fixtureWorkerPeer none .background)) = true := by
    decide +kernel
  have hrelayless : okWith (fun (result : DaemonState × StateSyncReport) _ =>
      decide (stateSyncRequiresReevaluation result.2 = false ∧
        (settledFixture.peer fixtureWorkerPeer).isSome ∧
        result.1.routePlan fixtureWorkerPeer none .bulk ≠
          settledFixture.routePlan fixtureWorkerPeer none .bulk))
      (LocalControlPlane.syncAuthorityOrigin meshConfig
        (originOf settledFixture.authoritySnapshot emptiedRelayMap) none
        (meshWorld settledFixture [] [])) = true := by
    decide +kernel
  obtain ⟨after, report, hsync, hafter⟩ := exists_of_synced hmoved
  obtain ⟨hflag, hknown, hchanged⟩ := of_decide_eq_true hafter
  obtain ⟨result, next, hrun, hresult⟩ := exists_of_okWith hrelayless
  obtain ⟨hflag', hknown', hchanged'⟩ := of_decide_eq_true hresult
  exact ⟨⟨after, report, hsync, hflag, _, _, _, hknown, hchanged⟩, result, next, hrun, hflag', _, _,
    _, hknown', hchanged'⟩

theorem withdrawn_hint_requires_reevaluation :
    (∃ after report, settledFixture.syncAuthoritySnapshot ⟨NetworkId.derive "mesh"⟩
        (hintedSnapshot [relayHint]) = .ok (after, report) ∧ RoutesChanged settledFixture after ∧
      stateSyncRequiresReevaluation report = true) ∧
    ∃ result next, LocalControlPlane.syncAuthorityOrigin meshConfig
        (originOf (hintedSnapshot [relayHint]) emptiedRelayMap) none
        (meshWorld settledFixture [] []) = .ok result next ∧
      RoutesChanged settledFixture result.1 ∧ stateSyncRequiresReevaluation result.2 = true := by
  have hsynced : ((settledFixture.syncAuthoritySnapshot ⟨NetworkId.derive "mesh"⟩
      (hintedSnapshot [relayHint])).toOption.any fun synced =>
        decide ((settledFixture.peer fixtureWorkerPeer).isSome ∧
          synced.1.routePlan fixtureWorkerPeer none .background ≠
            settledFixture.routePlan fixtureWorkerPeer none .background)) = true := by
    decide +kernel
  have hfetched : okWith (fun (result : DaemonState × StateSyncReport) _ =>
      decide ((settledFixture.peer fixtureWorkerPeer).isSome ∧
        result.1.routePlan fixtureWorkerPeer none .background ≠
          settledFixture.routePlan fixtureWorkerPeer none .background))
      (LocalControlPlane.syncAuthorityOrigin meshConfig
        (originOf (hintedSnapshot [relayHint]) emptiedRelayMap) none
        (meshWorld settledFixture [] [])) = true := by
    decide +kernel
  have hwithdrawn : ∀ taken, ¬ SameIdentities settledFixture (hintedSnapshot [relayHint]) taken := by
    intro taken hsame
    have hcovered : ∀ existing ∈ settledFixture.bootstrap.map bootstrapHintFromEndpoint,
        sameHint existing relayHint = true := by
      intro existing hexisting
      obtain ⟨hint, hhint, hkey⟩ := hsame.hints.2 existing hexisting
      rw [← List.mem_singleton.1 hhint]
      exact hkey
    have hworker : (settledFixture.bootstrap.map bootstrapHintFromEndpoint).all
        (fun existing => sameHint existing relayHint) = false := by
      decide +kernel
    rw [List.all_eq_true.2 hcovered] at hworker
    cases hworker
  obtain ⟨after, report, hsync, hafter⟩ := exists_of_synced hsynced
  obtain ⟨hknown, hroute⟩ := of_decide_eq_true hafter
  obtain ⟨result, next, hrun, hresult⟩ := exists_of_okWith hfetched
  obtain ⟨hknown', hroute'⟩ := of_decide_eq_true hresult
  have hchanged : RoutesChanged settledFixture after := ⟨_, _, _, hknown, hroute⟩
  have hchanged' : RoutesChanged settledFixture result.1 := ⟨_, _, _, hknown', hroute'⟩
  have hsnapshot : LocalControlPlane.fetchAuthoritySnapshotFor meshConfig
      (originOf (hintedSnapshot [relayHint]) emptiedRelayMap) none =
        .ok (hintedSnapshot [relayHint]) := if_neg (not_not.2 rfl)
  refine ⟨⟨after, report, hsync, hchanged, ?_⟩, result, next, hrun, hchanged', ?_⟩
  · exact ((route_change_requires_reevaluation (ρ := Unit) settledFixture _).1 _ _ _ hsync).2
      (fun hsame => absurd hsame (hwithdrawn _)) hchanged
  · exact ((route_change_requires_reevaluation settledFixture _).2 _ _ _ emptiedRelayMap _ _ _ _ rfl
      hsnapshot rfl hrun).2 (fun hsame => absurd hsame (hwithdrawn _)) hchanged'

end Closed

end QuipNet.Fabric
