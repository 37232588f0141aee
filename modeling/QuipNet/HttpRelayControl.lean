import QuipNet.RelayServer
import QuipNet.SubjectSelection

/-!
# Relays over HTTP

The client side of the control API. A request or its answer may be lost on the way, and then
the client only knows that the exchange failed. When nothing is lost, the client is told what
the relay decided.
-/

namespace QuipNet.Relay
open QuipNet.Control QuipNet.SessionIds

/-! ## Requests -/

def sessionPath (sessionId : SessionId) : String := "/sessions/" ++ sessionId.hex

def withBody (method url : String) (payload : Json) : HttpRequest :=
  ⟨method, url, some (canonicalJson payload).length, .ok (canonicalJson payload)⟩

def RelayControlRequest.http : RelayControlRequest → HttpRequest
  | .postSession request => withBody "POST" "/sessions" request.json
  | .getSession sessionId => ⟨"GET", sessionPath sessionId, none, .ok []⟩
  | .deleteSession sessionId reason => withBody "DELETE" (sessionPath sessionId) (closeJson reason)

def RelayControlRequest.Fits (request : RelayControlRequest) : Prop :=
  ∀ length ∈ request.http.bodyLength, length ≤ maxControlBodyBytes

instance (request : RelayControlRequest) : Decidable request.Fits :=
  inferInstanceAs (Decidable (∀ length ∈ request.http.bodyLength, length ≤ maxControlBodyBytes))

theorem startsWith_sessionPath (sessionId : SessionId) :
    startsWith (sessionPath sessionId) "/sessions/" = true := by
  rw [startsWith, sessionPath, String.toList_append, List.isPrefixOf_iff_prefix]
  exact List.prefix_append _ _

theorem parseSessionPath_sessionPath (sessionId : SessionId) :
    parseSessionPath (sessionPath sessionId) = some (some sessionId) := by
  rw [sessionPath, parseSessionPath_append, parseSessionId_eq_some_iff]
  exact parseText_hex () () sessionId

theorem readRequestBody_withBody {method url : String} {payload : Json}
    (hmethod : ¬ (method = "GET" ∨ method = "HEAD"))
    (hfits : (canonicalJson payload).length ≤ maxControlBodyBytes) :
    readRequestBody (withBody method url payload) = .ok (canonicalJson payload) := by
  rw [readRequestBody, withBody, if_neg hmethod]
  simp [HttpRequest.readBody, Nat.not_lt.2 hfits, Except.mapError]

section Serving
variable [Primitives] [RelayReader]

theorem readAsk_http (hread : RelayReader.RoundTrips) {request : RelayControlRequest}
    (hfits : request.Fits) : ∃ body, readRequestBody request.http = .ok body ∧
      readAsk request.http.method request.http.url body = some (.session request) := by
  cases request with
  | postSession request =>
    refine ⟨_, readRequestBody_withBody (by decide) (hfits _ rfl), ?_⟩
    simp [RelayControlRequest.http, withBody, readAsk, hread.openRequest]
  | getSession sessionId =>
    refine ⟨[], rfl, ?_⟩
    have hhealth : sessionPath sessionId ≠ "/healthz" := by
      intro h
      have hstarts := startsWith_sessionPath sessionId
      rw [h] at hstarts
      revert hstarts
      decide
    simp [RelayControlRequest.http, readAsk, hhealth, startsWith_sessionPath,
      parseSessionPath_sessionPath]
  | deleteSession sessionId reason =>
    refine ⟨_, readRequestBody_withBody (by decide) (hfits _ rfl), ?_⟩
    simp [RelayControlRequest.http, withBody, readAsk, startsWith_sessionPath,
      parseSessionPath_sessionPath, hread.closeReason]

theorem handle_http (hread : RelayReader.RoundTrips) {request : RelayControlRequest}
    (hfits : request.Fits) (now : ℕ) (drawn : SessionId) (service : RelayService) :
    RelayServer.handle ⟨service, true⟩ ⟨now, drawn, request.http⟩ =
      (some (controlResponse now drawn request service).1.answer,
        ⟨(controlResponse now drawn request service).2, true⟩) := by
  obtain ⟨body, hbody, hask⟩ := readAsk_http hread hfits
  simp only [RelayServer.handle, if_true, hbody, hask, respond]

theorem handle_oversized {request : RelayControlRequest} (hfits : ¬ request.Fits) (now : ℕ)
    (drawn : SessionId) (service : RelayService) :
    RelayServer.handle ⟨service, true⟩ ⟨now, drawn, request.http⟩ =
      (some (bodyRefusal .tooLong), ⟨service, true⟩) := by
  have hlength : ∀ {method url : String} {payload : Json}, ¬ (method = "GET" ∨ method = "HEAD") →
      ¬ (canonicalJson payload).length ≤ maxControlBodyBytes →
        readRequestBody (withBody method url payload) = .error (bodyRefusal .tooLong) := by
    intro method url payload hmethod hlong
    rw [readRequestBody, withBody, if_neg hmethod]
    simp [HttpRequest.readBody, Nat.lt_of_not_le hlong, Except.mapError]
  have hbody : readRequestBody request.http = .error (bodyRefusal .tooLong) := by
    cases request with
    | postSession request =>
      exact hlength (by decide) fun hshort => hfits fun _ hmem => by cases hmem; exact hshort
    | getSession sessionId => exact absurd (fun _ hmem => by cases hmem) hfits
    | deleteSession sessionId reason =>
      exact hlength (by decide) fun hshort => hfits fun _ hmem => by cases hmem; exact hshort
  simp only [RelayServer.handle, if_true, hbody]

end Serving

/-! ## Calls -/

inductive Fate
  | delivered
  | requestLost (detail : String)
  | responseLost (detail : String)

structure Exchange where
  fate : Fate
  now : ℕ
  drawn : SessionId

/-- What a client of the relays depends on: the host that an endpoint names, what is reported
of a host that does not answer, and what becomes of each exchange. -/
structure Network where
  host : String → Except String String
  silent : String → String
  exchange : ℕ → Exchange

structure Relays where
  servers : String → Option RelayServer
  exchanged : ℕ := 0

section Calling
variable [Primitives] [RelayReader] (network : Network)

def arrive (host : String) (request : RelayControlRequest) (relays : Relays) :
    Except String RelayAnswer × Relays :=
  match relays.servers host with
  | none => (.error (network.silent host), relays)
  | some server =>
    let now := network.exchange relays.exchanged
    let handled := server.handle ⟨now.now, now.drawn, request.http⟩
    (handled.1.elim (.error (network.silent host)) .ok,
      { relays with servers := Function.update relays.servers host (some handled.2) })

/-- One exchange with the relay at the endpoint. -/
def exchange (endpoint : String) (request : RelayControlRequest) (relays : Relays) :
    Except String RelayAnswer × Relays :=
  let carried : Except String RelayAnswer × Relays :=
    match network.host (baseOf endpoint) with
    | .error detail => (.error detail, relays)
    | .ok host =>
      match (network.exchange relays.exchanged).fate with
      | .delivered => arrive network host request relays
      | .requestLost detail => (.error detail, relays)
      | .responseLost detail => (.error detail, (arrive network host request relays).2)
  carried.map id fun after => { after with exchanged := relays.exchanged + 1 }

end Calling

def mapRejectedToError (rejected : RelaySessionRejected) : RelayError :=
  match rejected.code with
  | .sessionExists => .sessionExists
  | .capacityExceeded => .capacityExceeded rejected.source
  | .unsupportedTrafficClass => .unsupportedTrafficClass rejected.trafficClass
  | .invalidIdentityProof => .invalidIdentityProof rejected.reason
  | .destinationProtocolRejected => .destinationProtocolRejected rejected.destination
  | .destinationUnauthorized => .destinationUnauthorized rejected.destination
  | .invalidRequest | .unauthorized => .unauthorized

section Answers
variable [RelayReader]

/-- What the client makes of the answer to an open request. -/
def openAnswer : Except String RelayAnswer → Except RelayError RelaySessionAccepted
  | .error detail => .error (.controlTransport detail)
  | .ok (status, payload) =>
    if status < 400 then (RelayReader.accepted payload).mapError .controlDecode
    else
      match RelayReader.rejected payload with
      | .ok rejected => .error (mapRejectedToError rejected)
      | .error detail => .error (.controlDecode detail)

def closeAnswer : Except String RelayAnswer → Except RelayError Unit
  | .error detail => .error (.controlTransport detail)
  | .ok (status, payload) =>
    if status < 400 then .ok ()
    else if status = 404 then .error .sessionNotFound
    else .error (.controlTransport payload)

def sessionAnswer : Except String RelayAnswer → Except RelayError (Option RelaySession)
  | .error detail => .error (.controlTransport detail)
  | .ok (status, payload) =>
    if status < 400 then ((RelayReader.session payload).map some).mapError .controlDecode
    else if status = 404 then .ok none
    else .error (.controlTransport payload)

end Answers

namespace HttpRelayControl
variable [Primitives] [RelayReader] (network : Network)

def openSession (endpoint : String) (request : RelayOpenRequest) (relays : Relays) :
    Except RelayError RelaySessionAccepted × Relays :=
  (exchange network endpoint (.postSession request) relays).map openAnswer id

def closeSession (endpoint : String) (sessionId : SessionId) (reason : String) (relays : Relays) :
    Except RelayError Unit × Relays :=
  (exchange network endpoint (.deleteSession sessionId reason) relays).map closeAnswer id

def session (endpoint : String) (sessionId : SessionId) (relays : Relays) :
    Except RelayError (Option RelaySession) × Relays :=
  (exchange network endpoint (.getSession sessionId) relays).map sessionAnswer id

end HttpRelayControl

/-! ## What the client is told -/

/-- The client is told the decision, or that the exchange failed. -/
def Told {α : Type} (decided told : Except RelayError α) : Fate → Prop
  | .delivered => told = decided
  | .requestLost detail | .responseLost detail => told = .error (.controlTransport detail)

def Took (decided before after : RelayService) : Fate → Prop
  | .requestLost _ => after = before
  | .delivered | .responseLost _ => after = decided

section Told
variable [Primitives] [RelayReader] {network : Network} {endpoint host : String}
  {relays : Relays} {service : RelayService}

theorem exchange_run (hread : RelayReader.RoundTrips)
    (hhost : network.host (baseOf endpoint) = .ok host)
    (hserver : relays.servers host = some ⟨service, true⟩) {request : RelayControlRequest}
    (hfits : request.Fits) :
    let now := network.exchange relays.exchanged
    let decided := controlResponse now.now now.drawn request service
    ∃ after, ((exchange network endpoint request relays).2.servers =
        Function.update relays.servers host (some ⟨after, true⟩)) ∧
      Took decided.2 service after now.fate ∧
      (exchange network endpoint request relays).1 =
        match now.fate with
        | .delivered => .ok decided.1.answer
        | .requestLost detail | .responseLost detail => .error detail := by
  intro now decided
  have hsame : Function.update relays.servers host (some ⟨service, true⟩) = relays.servers := by
    rw [← hserver, Function.update_eq_self]
  have harrives : arrive network host request relays = (.ok decided.1.answer,
      { relays with servers := Function.update relays.servers host (some ⟨decided.2, true⟩) }) := by
    simp only [arrive, hserver, handle_http hread hfits]
    rfl
  simp only [exchange, hhost, Prod.map_fst, Prod.map_snd]
  cases hfate : (network.exchange relays.exchanged).fate with
  | delivered =>
    simp only [harrives]
    exact ⟨decided.2, rfl, rfl, rfl⟩
  | requestLost detail =>
    simp only
    exact ⟨service, hsame.symm, rfl, rfl⟩
  | responseLost detail =>
    simp only [harrives]
    exact ⟨decided.2, rfl, rfl, rfl⟩

omit [Primitives] in
theorem openAnswer_accepted (hread : RelayReader.RoundTrips) (granted : RelaySessionAccepted) :
    openAnswer (.ok (RelayControlReply.accepted granted).answer) = .ok granted := by
  change (RelayReader.accepted granted.json.text).mapError RelayError.controlDecode = _
  rw [hread.accepted]
  rfl

omit [Primitives] in
theorem openAnswer_rejected (hread : RelayReader.RoundTrips) (refusal : RelaySessionRejected) :
    openAnswer (.ok (RelayControlReply.rejected refusal).answer) =
      .error (mapRejectedToError refusal) := by
  change (match RelayReader.rejected refusal.json.text with
    | .ok rejected => Except.error (mapRejectedToError rejected)
    | .error detail => .error (.controlDecode detail)) = _
  rw [hread.rejected]

omit [Primitives] in
theorem sessionAnswer_session (hread : RelayReader.RoundTrips) (held : RelaySession) :
    sessionAnswer (.ok (RelayControlReply.session held).answer) = .ok (some held) := by
  change ((RelayReader.session held.json.text).map some).mapError RelayError.controlDecode = _
  rw [hread.session]
  rfl

def openDecision (now : ℕ) (drawn : SessionId) (request : RelayOpenRequest)
    (service : RelayService) : Except RelayError RelaySessionAccepted :=
  match RelayService.openSession now drawn request service with
  | .ok accepted _ => .ok accepted
  | .error rejected _ => .error (mapRejectedToError rejected)

def closeDecision (sessionId : SessionId) (service : RelayService) : Except RelayError Unit :=
  if service.session sessionId = none then .error .sessionNotFound else .ok ()

theorem openAnswer_decided (hread : RelayReader.RoundTrips) (now : ℕ) (drawn : SessionId)
    (request : RelayOpenRequest) (service : RelayService) :
    openAnswer (.ok (controlResponse now drawn (.postSession request) service).1.answer) =
      openDecision now drawn request service := by
  cases hopen : RelayService.openSession now drawn request service with
  | ok granted after =>
    simp only [controlResponse, openDecision, hopen, openAnswer_accepted hread]
  | error refusal after =>
    simp only [controlResponse, openDecision, hopen, openAnswer_rejected hread]

omit [RelayReader] in
theorem closeAnswer_decided (now : ℕ) (drawn : SessionId) (sessionId : SessionId) (reason : String)
    (service : RelayService) :
    closeAnswer (.ok (controlResponse now drawn (.deleteSession sessionId reason) service).1.answer) =
      closeDecision sessionId service := by
  rw [closeDecision]
  split_ifs with hnone
  · rw [deleteSession_of_none hnone]
    rfl
  · simp only [controlResponse, RelayService.closeSession_eq, if_neg hnone]
    rfl

theorem sessionAnswer_decided (hread : RelayReader.RoundTrips) (now : ℕ) (drawn : SessionId)
    (sessionId : SessionId) (service : RelayService) :
    sessionAnswer (.ok (controlResponse now drawn (.getSession sessionId) service).1.answer) =
      .ok (service.session sessionId) := by
  cases hheld : service.session sessionId with
  | none =>
    rw [getSession_of_none hheld]
    rfl
  | some held =>
    rw [RelayService.session] at hheld
    simp only [controlResponse, hheld, sessionAnswer_session hread]

omit [Primitives] [RelayReader] in
theorem told_of_exchange {α : Type} {read : Except String RelayAnswer → Except RelayError α}
    (hlost : ∀ detail, read (.error detail) = .error (.controlTransport detail))
    {answer : RelayAnswer} {exchanged : Except String RelayAnswer} {fate : Fate}
    (h : exchanged = match fate with
      | .delivered => .ok answer
      | .requestLost detail | .responseLost detail => .error detail) :
    Told (read (.ok answer)) (read exchanged) fate := by
  cases fate with
  | delivered => exact congrArg read h
  | requestLost detail => exact (congrArg read h).trans (hlost detail)
  | responseLost detail => exact (congrArg read h).trans (hlost detail)

/-- A call over HTTP tells the client the decision of the relay at the host and leaves the
relay as the decision does, as far as the exchange gets. -/
structure Carries {α : Type} (network : Network) (host : String) (relays : Relays)
    (service decidedService : RelayService) (decided : Except RelayError α)
    (called : Except RelayError α × Relays) : Prop where
  told : Told decided called.1 (network.exchange relays.exchanged).fate
  took : ∃ after, called.2.servers = Function.update relays.servers host (some ⟨after, true⟩) ∧
    Took decidedService service after (network.exchange relays.exchanged).fate

theorem carries_of_exchange {α : Type} (hread : RelayReader.RoundTrips)
    (hhost : network.host (baseOf endpoint) = .ok host)
    (hserver : relays.servers host = some ⟨service, true⟩) {request : RelayControlRequest}
    (hfits : request.Fits) {read : Except String RelayAnswer → Except RelayError α}
    (hlost : ∀ detail, read (.error detail) = .error (.controlTransport detail))
    {decided : Except RelayError α} {decidedService : RelayService}
    (hdecided : read (.ok (controlResponse (network.exchange relays.exchanged).now
      (network.exchange relays.exchanged).drawn request service).1.answer) = decided)
    (hservice : (controlResponse (network.exchange relays.exchanged).now
      (network.exchange relays.exchanged).drawn request service).2 = decidedService) :
    Carries network host relays service decidedService decided
      ((exchange network endpoint request relays).map read id) := by
  obtain ⟨after, hservers, htook, hanswer⟩ :=
    exchange_run hread hhost hserver hfits
  subst hdecided hservice
  exact ⟨told_of_exchange hlost hanswer, after, hservers, htook⟩

omit [RelayReader] in
theorem controlResponse_service (now : ℕ) (drawn : SessionId) (service : RelayService) :
    (∀ request, (controlResponse now drawn (.postSession request) service).2 =
      service.serve (.openSession now drawn request)) ∧
    (∀ sessionId reason, (controlResponse now drawn (.deleteSession sessionId reason) service).2 =
      service.serve (.closeSession sessionId reason)) ∧
    ∀ sessionId, (controlResponse now drawn (.getSession sessionId) service).2 = service := by
  refine ⟨?_, ?_, ?_⟩
  · intro request
    simp only [controlResponse, RelayService.serve, Library.Effect.final]
    cases RelayService.openSession now drawn request service <;> rfl
  · intro sessionId reason
    simp only [controlResponse, RelayService.serve, Library.Effect.final]
    rw [RelayService.closeSession_eq]
    split_ifs <;> rfl
  · intro sessionId
    simp only [controlResponse]
    cases service.runtime.session sessionId <;> rfl

/-- Calls over HTTP carry out the calls on the relay, over any network. -/
theorem calls_carried (hread : RelayReader.RoundTrips)
    (hhost : network.host (baseOf endpoint) = .ok host)
    (hserver : relays.servers host = some ⟨service, true⟩) :
    let now := network.exchange relays.exchanged
    (∀ request, (RelayControlRequest.postSession request).Fits →
      Carries network host relays service (service.serve (.openSession now.now now.drawn request))
        (openDecision now.now now.drawn request service)
        (HttpRelayControl.openSession network endpoint request relays)) ∧
    (∀ sessionId reason, (RelayControlRequest.deleteSession sessionId reason).Fits →
      Carries network host relays service (service.serve (.closeSession sessionId reason))
        (closeDecision sessionId service)
        (HttpRelayControl.closeSession network endpoint sessionId reason relays)) ∧
    ∀ sessionId, Carries network host relays service service (.ok (service.session sessionId))
      (HttpRelayControl.session network endpoint sessionId relays) := by
  intro now
  obtain ⟨hopened, hclosed, hread'⟩ := controlResponse_service now.now now.drawn service
  refine ⟨?_, ?_, ?_⟩
  · intro request hfits
    exact carries_of_exchange hread hhost hserver hfits (fun _ => rfl)
      (openAnswer_decided hread _ _ _ _) (hopened request)
  · intro sessionId reason hfits
    exact carries_of_exchange hread hhost hserver hfits (fun _ => rfl)
      (closeAnswer_decided _ _ _ _ _) (hclosed sessionId reason)
  · intro sessionId
    exact carries_of_exchange hread hhost hserver (fun _ hmem => by cases hmem) (fun _ => rfl)
      (sessionAnswer_decided hread _ _ _ _) (hread' sessionId)

end Told

section Closed
attribute [local instance] Primitives.transparent RelayReader.ofTexts

def steadyNetwork (fate : Fate) : Network where
  host _ := .ok "relay"
  silent host := "connection refused: " ++ host
  exchange _ := ⟨fate, 0, .fill 9⟩

def oneRelay (service : RelayService) : Relays := ⟨fun _ => some ⟨service, true⟩, 0⟩

theorem lost_answer_closes :
    let called := HttpRelayControl.closeSession (steadyNetwork (.responseLost "timed out"))
      "http://relay" (.fill 101) "path migrated" (oneRelay oneSessionService)
    called.1 = .error (.controlTransport "timed out") ∧
      ∃ after, called.2.servers "relay" = some ⟨after, true⟩ ∧
        (after.session (.fill 101)).map RelaySession.status = some .closed := by
  intro called
  have hfits : (RelayControlRequest.deleteSession (.fill 101) "path migrated").Fits := by
    decide +kernel
  have hcarries : Carries (steadyNetwork (.responseLost "timed out")) "relay"
      (oneRelay oneSessionService) oneSessionService
      (oneSessionService.serve (.closeSession (.fill 101) "path migrated"))
      (closeDecision (.fill 101) oneSessionService) called :=
    (calls_carried RelayReader.roundTrips_ofTexts rfl rfl).2.1 _ _ hfits
  obtain ⟨after, hservers, hafter⟩ := hcarries.took
  have hclosed : ((oneSessionService.serve (.closeSession (.fill 101) "path migrated")).session
      (.fill 101)).map RelaySession.status = some .closed := by
    decide +kernel
  refine ⟨hcarries.told, after, ?_, ?_⟩
  · exact (congrFun hservers "relay").trans (Function.update_self ..)
  · rw [show after = _ from hafter]
    exact hclosed

end Closed

end QuipNet.Relay
