import QuipNet.HttpRelayControl
import QuipNet.RelayAdmission
import QuipNet.RelayFailures

/-!
# Connecting over a relay

An adapter connects over a relay that it reaches over HTTP. The credential that it draws and
signs passes every identity check of the relay for 300 seconds, so whether the connect succeeds
is up to what the relay carries, for whom, and how much.
-/

open Std
namespace QuipNet.Relay
open QuipNet.Control QuipNet.Library QuipNet.Library.Effect QuipNet.Quic QuipNet.Transport

def HttpRelayControl.control [Primitives] [RelayReader] (network : Network) :
    RelayControl Relays where
  openSession := HttpRelayControl.openSession network
  closeSession := HttpRelayControl.closeSession network

/-! ## The request of an adapter -/

section Requests
variable [Primitives] {ρ : Type}

def drawnBytes (adapter : QuicTransportAdapter ρ) (skipped n : ℕ) : Vector UInt8 n :=
  Vector.ofFn fun i => adapter.host.entropy (adapter.host.drawn + skipped + i)

def issuedCredential (networkId : NetworkId) (identity : IdentityKeypair)
    (protocol : Option ProtocolId) (adapter : QuicTransportAdapter ρ) : SessionCredential :=
  SessionCredential.issue networkId identity (Primitives.x25519Public (drawnBytes adapter 0 32))
    ((protocol.map fun protocol => [protocol.text]).getD ["/quip/relay/1"]) 300 1
    adapter.currentUnixSecs (drawnBytes adapter 32 16)

/-- What the adapter asks of the relay for a route. -/
def relayRequest (networkId : NetworkId) (identity : IdentityKeypair) (route : RoutePlan)
    (adapter : QuicTransportAdapter ρ) : RelayOpenRequest where
  attemptId := ⟨drawnBytes adapter 48 16⟩
  networkId := networkId
  source := route.localPeer
  sourcePublicKey := identity.publicKey
  sourceCredential := issuedCredential networkId identity route.protocol adapter
  destination := route.peer
  protocol := route.protocol
  trafficClass := route.trafficClass

variable {networkId : NetworkId} {identity : IdentityKeypair} {route : RoutePlan}
  {relay : RelayPlan} {adapter : QuicTransportAdapter ρ}

theorem issueCredential_eq (networkId : NetworkId) (identity : IdentityKeypair)
    (protocol : Option ProtocolId) (adapter : QuicTransportAdapter ρ) : ∃ issued asking,
    issueCredential networkId identity protocol adapter =
        .ok (issuedCredential networkId identity protocol adapter) issued ∧
      fillBytes 16 issued = .ok (drawnBytes adapter 48 16) asking ∧
      asking.relays = adapter.relays ∧ asking.relayControl = adapter.relayControl ∧
      asking.runtimeSessions = adapter.runtimeSessions :=
  ⟨_, _, rfl, rfl, rfl, rfl, rfl⟩

omit [Primitives] in
theorem openRelaySession_run {adapter : QuicTransportAdapter ρ} {endpoint : String}
    {request : RelayOpenRequest} {answer : Except RelayError RelaySessionAccepted × ρ}
    (h : adapter.relayControl.openSession endpoint request adapter.relays = answer) :
    openRelaySession endpoint request adapter = match answer.1 with
      | .ok accepted => .ok accepted { adapter with relays := answer.2 }
      | .error error => .error (.relayRejected error.text) { adapter with relays := answer.2 } := by
  subst h
  unfold openRelaySession
  rcases adapter.relayControl.openSession endpoint request adapter.relays with ⟨accepted | error, relays⟩ <;>
    rfl

structure Sends (networkId : NetworkId) (identity : IdentityKeypair) (route : RoutePlan)
    (relay : RelayPlan) (adapter : QuicTransportAdapter ρ) : Prop where
  network : adapter.networkId = some networkId
  signer : adapter.localIdentity = some identity
  own : identity.peerId = route.localPeer
  planned : route.relay = some relay
  endpoints : relay.relayEndpoints ≠ []

structure OpenedOver (relay : RelayPlan) (route : RoutePlan) (drawn : SessionId)
    (before : QuicTransportAdapter ρ) (opened : SessionSnapshot) (after : QuicTransportAdapter ρ) :
    Prop where
  sessionId : opened.sessionId = logicalSessionId before.runtimeInstanceId route
  transport : opened.transportSessionId = drawn
  endpoint : opened.relayControlEndpoint = some relay.relayControlEndpoint
  active : opened.state = .active
  sessions : after.runtimeSessions = before.runtimeSessions

theorem sessionSnapshotForRoute_sends (h : Sends networkId identity route relay adapter) :
    let asked := adapter.relayControl.openSession relay.relayControlEndpoint
      (relayRequest networkId identity route adapter) adapter.relays
    (∀ accepted, asked.1 = .ok accepted → ∃ opened after,
      sessionSnapshotForRoute route adapter = .ok opened after ∧ after.relays = asked.2 ∧
        OpenedOver relay route accepted.sessionId adapter opened after) ∧
    ∀ error, asked.1 = .error error → ∃ after,
      sessionSnapshotForRoute route adapter = .error (.relayRejected error.text) after ∧
        after.relays = asked.2 ∧ after.runtimeSessions = adapter.runtimeSessions := by
  obtain ⟨hnetwork, hidentity, hown, hplanned, hendpoints⟩ := h
  obtain ⟨endpoint, rest, hhead⟩ := List.exists_cons_of_ne_nil hendpoints
  obtain ⟨issued, asking, hissued, hattempt, hrelays, hcontrol, hsessions⟩ :=
    issueCredential_eq networkId identity route.protocol adapter
  intro asked
  have hasked : asking.relayControl.openSession relay.relayControlEndpoint
      (relayRequest networkId identity route adapter) asking.relays = asked := by
    rw [hcontrol, hrelays]
  have hopened := openRelaySession_run hasked
  simp only [relayRequest] at hopened
  simp only [sessionSnapshotForRoute, hplanned, relaySessionSnapshot, bind_run, get_run, hnetwork,
    hidentity, ne_eq, hown, not_true, if_false, hissued, hattempt, hhead, List.head?_cons, hopened]
  constructor
  · intro accepted haccepted
    simp only [haccepted, unixSecs, modifyGet_run, pure_run]
    exact ⟨_, _, rfl, rfl, rfl, rfl, rfl, rfl, hsessions⟩
  · intro error herror
    simp only [herror]
    exact ⟨_, rfl, rfl, hsessions⟩

/-! ## Verification of an adapter's own request -/

theorem issuedCredential_verifies (hsign : SignaturesVerify) (protocol : Option ProtocolId)
    (adapter : QuicTransportAdapter ρ) :
    (issuedCredential networkId identity protocol adapter).verify identity.publicKey = .ok () := by
  unfold SessionCredential.verify
  rw [show (issuedCredential networkId identity protocol adapter).identitySignature =
    identity.sign (canonicalJson (issuedCredential networkId identity protocol adapter).unsigned)
    from rfl, IdentityKeypair.verify_sign hsign]

theorem verifyOpenRequest_relayRequest (hsign : SignaturesVerify)
    (hown : identity.peerId = route.localPeer) (now : ℕ) :
    verifyOpenRequest now (relayRequest networkId identity route adapter) = .ok () ↔
      now ≤ adapter.currentUnixSecs + 300 := by
  have hprotocols : (route.protocol.all fun protocol => decide (protocol.text ∈
      (issuedCredential networkId identity route.protocol adapter).protocolVersions)) = true := by
    cases route.protocol <;> simp [issuedCredential, SessionCredential.issue]
  have hkey : identity.publicKey.peerId = route.localPeer := hown
  have hpeer : (issuedCredential networkId identity route.protocol adapter).peerId =
      route.localPeer := hown
  have hnetwork : (issuedCredential networkId identity route.protocol adapter).networkId =
      networkId := rfl
  have hexpires : (issuedCredential networkId identity route.protocol adapter).expiresAt =
      adapter.currentUnixSecs + 300 := rfl
  rw [verifyOpenRequest_ok_iff, firstFailing_eq_none_iff]
  simp [identityChecks, relayRequest, issuedCredential_verifies hsign, hprotocols, hkey, hpeer,
    hnetwork, hexpires, Except.isOk, Except.toBool]

end Requests

/-! ## A connect over a relay -/

structure RelayService.Takes (service : RelayService) (drawn : SessionId) (route : RoutePlan) :
    Prop where
  carried : supportsTrafficClass service.node.announcement.trafficClasses route.trafficClass
  authorized : authorizeDestination service.node.destinations route.peer route.protocol = .ok ()
  underQuota : service.overQuota route.localPeer = none
  fresh : service.session drawn = none

section Connects
variable [Primitives] [RelayReader] {network : Network} {networkId : NetworkId}
  {identity : IdentityKeypair} {route : RoutePlan} {relay : RelayPlan} {host : String}
  {service : RelayService} {adapter : QuicTransportAdapter Relays}

omit [RelayReader] in
theorem admits_relayRequest_iff (hsign : SignaturesVerify)
    (hown : identity.peerId = route.localPeer) (now : ℕ) (drawn : SessionId) :
    service.Admits now drawn (relayRequest networkId identity route adapter) ↔
      now ≤ adapter.currentUnixSecs + 300 ∧ service.Takes drawn route := by
  rw [← verifyOpenRequest_relayRequest hsign hown]
  constructor
  · rintro ⟨hverified, hcarried, hauthorized, hquota, hfresh⟩
    exact ⟨hverified, hcarried, hauthorized, hquota, hfresh⟩
  · rintro ⟨hverified, hcarried, hauthorized, hquota, hfresh⟩
    exact ⟨hverified, hcarried, hauthorized, hquota, hfresh⟩

/-- A relay that runs can be reached for the route, and this exchange is delivered to it. -/
structure Reached (network : Network) (host : String) (service : RelayService)
    (request : RelayOpenRequest) (relay : RelayPlan) (adapter : QuicTransportAdapter Relays) :
    Prop where
  control : adapter.relayControl = HttpRelayControl.control network
  named : network.host (baseOf relay.relayControlEndpoint) = .ok host
  server : adapter.relays.servers host = some ⟨service, true⟩
  delivered : (network.exchange adapter.relays.exchanged).fate = .delivered
  fits : (RelayControlRequest.postSession request).Fits

theorem asked_of_reached (hread : RelayReader.RoundTrips) {request : RelayOpenRequest}
    (h : Reached network host service request relay adapter) :
    let now := network.exchange adapter.relays.exchanged
    let asked := adapter.relayControl.openSession relay.relayControlEndpoint request adapter.relays
    asked.1 = openDecision now.now now.drawn request service ∧ asked.2.servers host =
      some ⟨service.serve (.openSession now.now now.drawn request), true⟩ := by
  obtain ⟨hcontrol, hnamed, hserver, hdelivered, hfits⟩ := h
  intro now asked
  obtain ⟨after, hservers, htook, htold⟩ := exchange_run hread hnamed hserver hfits
  rw [hdelivered] at htook htold
  have hasked : asked = HttpRelayControl.openSession network relay.relayControlEndpoint request
      adapter.relays :=
    congrArg (fun control : RelayControl Relays => control.openSession relay.relayControlEndpoint
      request adapter.relays) hcontrol
  rw [hasked]
  refine ⟨(congrArg openAnswer htold).trans (openAnswer_decided hread _ _ _ _), ?_⟩
  refine (congrFun hservers host).trans ?_
  rw [Function.update_self, show after = _ from htook, (controlResponse_service _ _ _).1]

omit [Primitives] [RelayReader] in
theorem emitRuntimeEvent_relays {ρ : Type} (eventType : String) (subject : RuntimeEventSubject)
    (details : Json) (adapter : QuicTransportAdapter ρ) :
    (adapter.emitRuntimeEvent eventType subject details).relays = adapter.relays := by
  simp only [QuicTransportAdapter.emitRuntimeEvent, QuicTransportAdapter.ticked]

omit [Primitives] [RelayReader] in
theorem upsertRuntimeSession_new {ρ : Type} {record : RuntimeSessionRecord}
    {adapter : QuicTransportAdapter ρ}
    (h : adapter.runtimeSessions.find record.snapshot.sessionId = none) :
    ∃ after, upsertRuntimeSession record adapter = .ok () after ∧ after.relays = adapter.relays := by
  simp only [upsertRuntimeSession, bind_run, modifyGet_run, h, announceSession, modify_run]
  refine ⟨_, rfl, ?_⟩
  rw [emitRuntimeEvent_relays, emitRuntimeEvent_relays]

omit [RelayReader] in
theorem openDecision_of_ok {now : ℕ} {drawn : SessionId} {request : RelayOpenRequest}
    {accepted : RelaySessionAccepted} {after : RelayService}
    (h : RelayService.openSession now drawn request service = .ok accepted after) :
    openDecision now drawn request service = .ok accepted := by
  simp only [openDecision, h]

omit [RelayReader] in
theorem connect_accepted {ρ : Type} {adapter : QuicTransportAdapter ρ}
    (hsends : Sends networkId identity route relay adapter) {accepted : RelaySessionAccepted}
    {relays : ρ} (haccepted : adapter.relayControl.openSession relay.relayControlEndpoint
      (relayRequest networkId identity route adapter) adapter.relays = (.ok accepted, relays))
    (hfree : ¬ adapter.Suppressed route.key)
    (hnew : adapter.runtimeSessions.find (logicalSessionId adapter.runtimeInstanceId route) = none) :
    ∃ connection after, connect route adapter = .ok connection after ∧
      after.runtimeSessions.find (logicalSessionId adapter.runtimeInstanceId route) =
        some ⟨connection.session, connection.alpnProtocol⟩ ∧
      connection.session.transportSessionId = accepted.sessionId ∧
      connection.session.relayControlEndpoint = some relay.relayControlEndpoint ∧
      connection.session.pathKind = route.pathKind ∧ after.relays = relays := by
  obtain ⟨opened, between, hopened, hrelays, hover⟩ :=
    (sessionSnapshotForRoute_sends hsends).1 accepted (congrArg Prod.fst haccepted)
  have hfind : between.runtimeSessions.find opened.sessionId = none := by
    rw [hover.sessions, hover.sessionId, hnew]
  let record : RuntimeSessionRecord := ⟨opened, route.protocol.map ProtocolId.text⟩
  have hstored := upsertRuntimeSession_find record between
  obtain ⟨after, hupsert, hkept⟩ := @upsertRuntimeSession_new _ record _ hfind
  rw [final_of_ok hupsert] at hstored
  rw [connect_run hfree, bind_of_ok hopened]
  refine ⟨⟨opened, record.alpnProtocol⟩, after, bind_of_ok hupsert, ?_, hover.transport,
    hover.endpoint, (sessionSnapshotForRoute_returns route _ _ _ hopened).2, ?_⟩
  · rw [← hover.sessionId]
    exact hstored
  · rw [hkept, hrelays]
    exact congrArg Prod.snd haccepted

/-- The connect succeeds exactly when the relay's own limits allow the session and the
credential has not expired there. Then the registry runs over the session that the relay opened
for it, and otherwise the relay and the registry are as before. -/
theorem connect_relayed (hread : RelayReader.RoundTrips) (hsign : SignaturesVerify)
    (hsends : Sends networkId identity route relay adapter)
    (hreached : Reached network host service (relayRequest networkId identity route adapter) relay
      adapter)
    (hfree : ¬ adapter.Suppressed route.key)
    (hnew : adapter.runtimeSessions.find (logicalSessionId adapter.runtimeInstanceId route) = none) :
    let now := network.exchange adapter.relays.exchanged
    let taken := now.now ≤ adapter.currentUnixSecs + 300 ∧ service.Takes now.drawn route
    (taken → ∃ connection after, connect route adapter = .ok connection after ∧
      after.runtimeSessions.find (logicalSessionId adapter.runtimeInstanceId route) =
        some ⟨connection.session, connection.alpnProtocol⟩ ∧
      connection.session.transportSessionId = now.drawn ∧
      connection.session.relayControlEndpoint = some relay.relayControlEndpoint ∧
      after.relays.servers host = some ⟨service.afterOpen now.drawn
        (relayRequest networkId identity route adapter), true⟩) ∧
    (¬ taken → ∃ error after, connect route adapter = .error (.relayRejected error) after ∧
      after.runtimeSessions = adapter.runtimeSessions ∧
      after.relays.servers host = some ⟨service, true⟩) := by
  intro now taken
  obtain ⟨htold, hserver⟩ := asked_of_reached hread hreached
  obtain ⟨-, hrejects⟩ := sessionSnapshotForRoute_sends hsends
  have hadmits := @admits_relayRequest_iff _ networkId _ route service adapter hsign
    hsends.own now.now now.drawn
  constructor
  · intro htaken
    have hopen := RelayService.openSession_of_admits (hadmits.2 htaken)
    rw [openDecision_of_ok hopen] at htold
    rw [RelayService.serve, final_of_ok hopen] at hserver
    obtain ⟨connection, after, hrun, hstored, hdrawn, hendpoint, -, hrelays⟩ :=
      connect_accepted hsends (Prod.ext htold rfl) hfree hnew
    refine ⟨connection, after, hrun, hstored, hdrawn, hendpoint, ?_⟩
    rw [hrelays]
    exact hserver
  · intro htaken
    obtain ⟨rejected, hrefused⟩ := Option.ne_none_iff_exists'.1
      (mt (RelayService.refusal_eq_none_iff service now.now now.drawn _).1 (mt hadmits.1 htaken))
    have hopen := RelayService.openSession_of_refused hrefused
    rw [openDecision, hopen] at htold
    rw [RelayService.serve, final_of_error hopen] at hserver
    obtain ⟨after, hrun, hrelays, hsessions⟩ := hrejects _ htold
    rw [connect_run hfree]
    exact ⟨_, after, bind_of_error hrun, hsessions, by rw [hrelays]; exact hserver⟩

end Connects

section Closed
attribute [local instance] Primitives.transparent RelayReader.ofTexts

def interactiveRelay : RelayPlan where
  relayPeer := (keypairOf 9).peerId
  relayEndpoints := ["udp://203.0.113.10:9080"]
  relayControlEndpoint := "http://relay"
  destinationEndpoints := []
  supportsDatagrams := true
  supportsPathMigration := true

def interactiveRoute : RoutePlan where
  localPeer := (keypairOf 1).peerId
  peer := (keypairOf 3).peerId
  protocol := some relayedProtocol
  trafficClass := .interactive
  pathKind := .relay
  source := .authorityRelay
  remoteEndpoints := []
  relay := some interactiveRelay

noncomputable def relayedAdapter : QuicTransportAdapter Relays where
  runtimeInstanceId := "rt-1"
  networkId := some relayedNetwork
  localIdentity := some (keypairOf 1)
  relayControl := HttpRelayControl.control (steadyNetwork .delivered)
  runtimeSessions := { entries := ∅, keyed := keyed_empty }
  relays := oneRelay (.new oneSessionNode)
  host := { clock := fun _ => 1720000000000000000, entropy := fun _ => 0 }

theorem relayedAdapter_sends :
    Sends relayedNetwork (keypairOf 1) interactiveRoute interactiveRelay relayedAdapter :=
  ⟨rfl, rfl, rfl, rfl, by decide⟩

theorem relayedAdapter_reached : Reached (steadyNetwork .delivered) "relay" (.new oneSessionNode)
    (relayRequest relayedNetwork (keypairOf 1) interactiveRoute relayedAdapter)
    interactiveRelay relayedAdapter := by
  refine ⟨rfl, rfl, rfl, rfl, ?_⟩
  rintro length ⟨⟩
  rw [canonicalJson_eq]
  decide +kernel

theorem signaturesVerify_transparent : SignaturesVerify := fun _ _ => decide_eq_true rfl

theorem relayedAdapter_taken : 0 ≤ relayedAdapter.currentUnixSecs + 300 ∧
    (RelayService.new oneSessionNode).Takes (.fill 9) interactiveRoute :=
  ⟨Nat.zero_le _, by decide, by decide, by decide, by decide⟩

theorem interactive_connect_opens : ∃ connection after,
    connect interactiveRoute relayedAdapter = .ok connection after ∧
      connection.session.transportSessionId = .fill 9 ∧
      ∃ opened, after.relays.servers "relay" = some ⟨opened, true⟩ ∧
        (opened.session (.fill 9)).map RelaySession.status = some .open := by
  have hfree : ¬ relayedAdapter.Suppressed interactiveRoute.key := by
    rintro ⟨entry, hentry, -⟩
    cases hentry
  obtain ⟨connection, after, hconnect, -, hdrawn, -, hserver⟩ :=
    (connect_relayed RelayReader.roundTrips_ofTexts signaturesVerify_transparent relayedAdapter_sends
      relayedAdapter_reached hfree rfl).1 relayedAdapter_taken
  have hopened : (((RelayService.new oneSessionNode).afterOpen (.fill 9) (relayRequest
      relayedNetwork (keypairOf 1) interactiveRoute relayedAdapter)).session (.fill 9)).map
        RelaySession.status = some .open := by
    rw [RelayService.session_afterOpen, if_pos rfl]
    rfl
  exact ⟨connection, after, hconnect, hdrawn, _, hserver, hopened⟩

theorem relayedAdapter_accepted : ∃ accepted,
    (HttpRelayControl.openSession (steadyNetwork .delivered) "http://relay"
      (relayRequest relayedNetwork (keypairOf 1) interactiveRoute relayedAdapter)
      relayedAdapter.relays).1 = .ok accepted ∧ accepted.sessionId = .fill 9 := by
  obtain ⟨htold, -⟩ := asked_of_reached RelayReader.roundTrips_ofTexts relayedAdapter_reached
  have hadmits := (@admits_relayRequest_iff _ relayedNetwork _ interactiveRoute _ relayedAdapter
    signaturesVerify_transparent relayedAdapter_sends.own 0 (.fill 9)).2 relayedAdapter_taken
  have hopen := RelayService.openSession_of_admits hadmits
  refine ⟨(relayRequest relayedNetwork (keypairOf 1) interactiveRoute relayedAdapter).accept (.fill 9),
    htold.trans (openDecision_of_ok hopen), rfl⟩

end Closed

end QuipNet.Relay
