import QuipNet.Http
import QuipNet.RelayTable
import QuipNet.SessionIdText
import QuipNet.SignedArtifacts

/-!
# The control server of a relay

The loop of the relay binary: the body is read, method and path say what is asked, and the
answer is a status and a text. A session path that cuts a character ends the process.
-/

namespace QuipNet

def Json.text (value : Json) : String := String.ofList value.compact

namespace Relay
open QuipNet.SessionIds

/-! ## Messages -/

namespace RelayRejectCode

def variant : RelayRejectCode → String
  | .unauthorized => "Unauthorized"
  | .unsupportedTrafficClass => "UnsupportedTrafficClass"
  | .capacityExceeded => "CapacityExceeded"
  | .sessionExists => "SessionExists"
  | .invalidIdentityProof => "InvalidIdentityProof"
  | .destinationUnauthorized => "DestinationUnauthorized"
  | .destinationProtocolRejected => "DestinationProtocolRejected"
  | .invalidRequest => "InvalidRequest"

end RelayRejectCode

def RelaySessionStatus.variant : RelaySessionStatus → String
  | .pending => "Pending"
  | .open => "Open"
  | .closed => "Closed"

def keyAlgorithmVariant : KeyAlgorithm → String
  | .ed25519 => "Ed25519"
  | .x25519 => "X25519"

def protocolJson (protocol : Option ProtocolId) : Json :=
  .option (fun protocol => .string protocol.text) protocol

def publicKeyJson (key : PublicIdentityKey) : Json :=
  .object [("algorithm", .string (keyAlgorithmVariant key.algorithm)), ("bytes", .bytes key.bytes)]

def credentialJson (credential : SessionCredential) : Json :=
  .object [("network_id", .bytes credential.networkId.bytes.toList),
    ("peer_id", .bytes credential.peerId.bytes),
    ("session_public_key", .bytes credential.sessionPublicKey.toList),
    ("issued_at", .number credential.issuedAt),
    ("expires_at", .number credential.expiresAt),
    ("protocol_versions", .strings credential.protocolVersions),
    ("key_epoch", .number credential.keyEpoch),
    ("nonce", .bytes credential.nonce.toList),
    ("identity_signature", .bytes credential.identitySignature.bytes)]

def RelayOpenRequest.json (request : RelayOpenRequest) : Json :=
  .object [("attempt_id", .bytes request.attemptId.bytes.toList),
    ("network_id", .bytes request.networkId.bytes.toList),
    ("source", .bytes request.source.bytes),
    ("source_public_key", publicKeyJson request.sourcePublicKey),
    ("source_credential", credentialJson request.sourceCredential),
    ("destination", .bytes request.destination.bytes),
    ("protocol", protocolJson request.protocol),
    ("traffic_class", .string request.trafficClass.debug)]

def RelaySessionAccepted.json (accepted : RelaySessionAccepted) : Json :=
  .object [("attempt_id", .bytes accepted.attemptId.bytes.toList),
    ("session_id", .bytes accepted.sessionId.bytes.toList),
    ("source", .bytes accepted.source.bytes),
    ("destination", .bytes accepted.destination.bytes),
    ("protocol", protocolJson accepted.protocol),
    ("traffic_class", .string accepted.trafficClass.debug)]

def RelaySessionRejected.json (rejected : RelaySessionRejected) : Json :=
  .object [("attempt_id", .bytes rejected.attemptId.bytes.toList),
    ("code", .string rejected.code.variant),
    ("source", .bytes rejected.source.bytes),
    ("destination", .bytes rejected.destination.bytes),
    ("protocol", protocolJson rejected.protocol),
    ("traffic_class", .string rejected.trafficClass.debug),
    ("reason", .string rejected.reason)]

def RelaySession.json (session : RelaySession) : Json :=
  .object [("session_id", .bytes session.sessionId.bytes.toList),
    ("source", .bytes session.source.bytes),
    ("destination", .bytes session.destination.bytes),
    ("protocol", protocolJson session.protocol),
    ("traffic_class", .string session.trafficClass.debug),
    ("status", .string session.status.variant)]

def closeJson (reason : String) : Json := .object [("reason", .string reason)]

def errorJson (detail : String) : Json := .object [("error", .string detail)]

/-- How `serde_json` reads the messages, or the text of its error. -/
class RelayReader where
  openRequest : List UInt8 → Except String RelayOpenRequest
  closeReason : List UInt8 → Except String String
  accepted : String → Except String RelaySessionAccepted
  rejected : String → Except String RelaySessionRejected
  session : String → Except String RelaySession

structure RelayReader.RoundTrips [RelayReader] : Prop where
  openRequest : ∀ request, RelayReader.openRequest (canonicalJson request.json) = .ok request
  closeReason : ∀ reason, RelayReader.closeReason (canonicalJson (closeJson reason)) = .ok reason
  accepted : ∀ accepted, RelayReader.accepted accepted.json.text = .ok accepted
  rejected : ∀ rejected, RelayReader.rejected rejected.json.text = .ok rejected
  session : ∀ session, RelayReader.session session.json.text = .ok session

/-! ### Messages are read back -/

theorem text_injective : Function.Injective Json.text := by
  intro value value' h
  exact Json.compact_injective (String.ofList_injective h)

theorem sessionId_injective : Function.Injective fun id : SessionId => Json.bytes id.bytes.toList := by
  rintro ⟨bytes⟩ ⟨bytes'⟩ h
  exact congrArg SessionId.mk (Json.vector_injective h)

theorem protocolJson_injective : Function.Injective protocolJson := by
  refine Json.option_injective ?_ fun _ => Json.noConfusion
  rintro ⟨text⟩ ⟨text'⟩ h
  exact congrArg ProtocolId.mk (Json.string.inj h)

theorem debug_injective : Function.Injective TrafficClass.debug := by
  intro a b h
  cases a <;> cases b <;> first | rfl | exact absurd h (by decide)

theorem publicKeyJson_injective : Function.Injective publicKeyJson := by
  rintro ⟨algorithm, bytes⟩ ⟨algorithm', bytes'⟩ h
  simp only [publicKeyJson, Json.object.injEq, List.cons.injEq, Prod.mk.injEq, true_and, and_true,
    Json.string.injEq] at h
  obtain ⟨halgorithm, hbytes⟩ := h
  rw [Json.bytes_injective hbytes]
  cases algorithm <;> cases algorithm' <;> first | rfl | exact absurd halgorithm (by decide)

theorem credentialJson_injective : Function.Injective credentialJson := by
  have hsignatures : Function.Injective fun signature : SignatureBytes =>
      Json.bytes signature.bytes := by
    rintro ⟨bytes⟩ ⟨bytes'⟩ h
    exact congrArg SignatureBytes.mk (Json.bytes_injective h)
  rintro ⟨⟩ ⟨⟩ h
  simp only [credentialJson, Json.object.injEq, List.cons.injEq, Prod.mk.injEq, true_and, and_true,
    Json.number.injEq] at h
  obtain ⟨hnetwork, hpeer, hkey, rfl, rfl, hversions, rfl, hnonce, hsignature⟩ := h
  rw [Json.network_injective hnetwork, Json.peer_injective hpeer, Json.vector_injective hkey,
    Json.strings_injective hversions, Json.vector_injective hnonce, hsignatures hsignature]

theorem RelayOpenRequest.json_injective : Function.Injective RelayOpenRequest.json := by
  rintro ⟨⟩ ⟨⟩ h
  simp only [json, Json.object.injEq, List.cons.injEq, Prod.mk.injEq, true_and, and_true,
    Json.string.injEq] at h
  obtain ⟨hattempt, hnetwork, hsource, hkey, hcredential, hdestination, hprotocol, hclass⟩ := h
  rw [sessionId_injective hattempt, Json.network_injective hnetwork, Json.peer_injective hsource,
    publicKeyJson_injective hkey, credentialJson_injective hcredential,
    Json.peer_injective hdestination, protocolJson_injective hprotocol, debug_injective hclass]

theorem RelaySessionAccepted.json_injective : Function.Injective RelaySessionAccepted.json := by
  rintro ⟨⟩ ⟨⟩ h
  simp only [json, Json.object.injEq, List.cons.injEq, Prod.mk.injEq, true_and, and_true,
    Json.string.injEq] at h
  obtain ⟨hattempt, hsession, hsource, hdestination, hprotocol, hclass⟩ := h
  rw [sessionId_injective hattempt, sessionId_injective hsession, Json.peer_injective hsource,
    Json.peer_injective hdestination, protocolJson_injective hprotocol, debug_injective hclass]

theorem RelaySessionRejected.json_injective : Function.Injective RelaySessionRejected.json := by
  have hcodes : Function.Injective RelayRejectCode.variant := by
    intro a b h
    cases a <;> cases b <;> first | rfl | exact absurd h (by decide)
  rintro ⟨⟩ ⟨⟩ h
  simp only [json, Json.object.injEq, List.cons.injEq, Prod.mk.injEq, true_and, and_true,
    Json.string.injEq] at h
  obtain ⟨hattempt, hcode, hsource, hdestination, hprotocol, hclass, rfl⟩ := h
  rw [sessionId_injective hattempt, hcodes hcode, Json.peer_injective hsource,
    Json.peer_injective hdestination, protocolJson_injective hprotocol, debug_injective hclass]

theorem RelaySession.json_injective : Function.Injective RelaySession.json := by
  rintro ⟨⟩ ⟨⟩ h
  simp only [json, Json.object.injEq, List.cons.injEq, Prod.mk.injEq, true_and, and_true,
    Json.string.injEq] at h
  obtain ⟨hsession, hsource, hdestination, hprotocol, hclass, hstatus⟩ := h
  rw [sessionId_injective hsession, Json.peer_injective hsource, Json.peer_injective hdestination,
    protocolJson_injective hprotocol, debug_injective hclass]
  congr 1
  revert hstatus
  rename_i status _ _ _ _ _ status'
  cases status <;> cases status' <;> decide

theorem closeJson_injective : Function.Injective closeJson := by
  intro reason reason' h
  simpa [closeJson] using h

open Classical in
/-- A reader that looks for a value with the given text. -/
noncomputable def readBack {α β : Type} (write : α → β) (written : β) : Except String α :=
  if h : ∃ value, write value = written then .ok h.choose else .error "unknown message"

theorem readBack_write {α β : Type} {write : α → β} (h : Function.Injective write) (value : α) :
    readBack write (write value) = .ok value := by
  have hsome : ∃ other, write other = write value := ⟨value, rfl⟩
  rw [readBack, dif_pos hsome, h hsome.choose_spec]

@[reducible] noncomputable def RelayReader.ofTexts : RelayReader where
  openRequest := readBack fun request => canonicalJson request.json
  closeReason := readBack fun reason => canonicalJson (closeJson reason)
  accepted := readBack fun accepted => accepted.json.text
  rejected := readBack fun rejected => rejected.json.text
  session := readBack fun session => session.json.text

theorem RelayReader.roundTrips_ofTexts : @RelayReader.RoundTrips .ofTexts := by
  let _ : RelayReader := .ofTexts
  exact
    { openRequest := readBack_write (canonicalJson_injective.comp RelayOpenRequest.json_injective)
      closeReason := readBack_write (canonicalJson_injective.comp closeJson_injective)
      accepted := readBack_write (text_injective.comp RelaySessionAccepted.json_injective)
      rejected := readBack_write (text_injective.comp RelaySessionRejected.json_injective)
      session := readBack_write (text_injective.comp RelaySession.json_injective) }

/-! ## What is asked -/

inductive RelayAsk
  | session (request : RelayControlRequest)
  | health
  | refused (status : ℕ) (payload : Json)

section Asking
variable [Primitives] [RelayReader]

/-- The rejection of a body that is no open request. -/
def invalidOpen (detail : String) : RelaySessionRejected where
  attemptId := .fill 0
  code := .invalidRequest
  source := PeerId.fromPublicKey .ed25519 (asBytes "invalid")
  destination := PeerId.fromPublicKey .ed25519 (asBytes "invalid")
  protocol := none
  trafficClass := .control
  reason := "invalid relay request: " ++ detail

def invalidPath (path : String) : RelayAsk :=
  .refused 400 (errorJson ("invalid relay session path " ++ path))

/-- The routing of `control_response`; nothing where the path makes it panic. -/
def readAsk (method path : String) (body : List UInt8) : Option RelayAsk :=
  if method = "POST" ∧ path = "/sessions" then
    match RelayReader.openRequest body with
    | .ok request => some (.session (.postSession request))
    | .error detail => some (.refused 400 (invalidOpen detail).json)
  else if method = "GET" ∧ path = "/healthz" then some .health
  else if method = "GET" ∧ startsWith path "/sessions/" then
    match parseSessionPath path with
    | none => none
    | some none => some (invalidPath path)
    | some (some sessionId) => some (.session (.getSession sessionId))
  else if method = "DELETE" ∧ startsWith path "/sessions/" then
    match parseSessionPath path with
    | none => none
    | some none => some (invalidPath path)
    | some (some sessionId) =>
      match RelayReader.closeReason body with
      | .ok reason => some (.session (.deleteSession sessionId reason))
      | .error detail => some (.refused 400 (errorJson ("invalid close request: " ++ detail)))
  else some (.refused 404 (errorJson ("no relay control route for " ++ method ++ " " ++ path)))

end Asking

/-! ## Answers -/

abbrev RelayAnswer := ℕ × String

def RelayControlReply.payload : RelayControlReply → String
  | .accepted granted => granted.json.text
  | .rejected refusal => refusal.json.text
  | .session held => held.json.text
  | .deleted => ""
  | .notFound sessionId =>
    (errorJson ("relay session " ++ sessionId.hex ++ " was not found")).text
  | .failed cause => (errorJson cause.text).text

def RelayControlReply.answer (reply : RelayControlReply) : RelayAnswer :=
  (reply.status, reply.payload)

def healthJson (sessions : ℕ) : Json :=
  .object [("ok", .bool true), ("sessions", .number sessions)]

def respond [Primitives] (now : ℕ) (drawn : SessionId) (service : RelayService) :
    RelayAsk → RelayAnswer × RelayService
  | .session request =>
    ((controlResponse now drawn request service).1.answer,
      (controlResponse now drawn request service).2)
  | .health => ((200, (healthJson service.runtime.sessionCount).text), service)
  | .refused status payload => ((status, payload.text), service)

/-! ## The loop -/

def bodyRefusal : BodyError → RelayAnswer
  | .lengthMissing =>
    (411, (errorJson "relay control requests must include Content-Length").text)
  | .tooLong =>
    (413, (errorJson ("relay control request body exceeds " ++ Nat.repr maxControlBodyBytes ++
      " bytes")).text)
  | .unreadable detail =>
    (400, (errorJson ("relay control request body could not be read: " ++ detail)).text)

def readRequestBody (request : HttpRequest) : Except RelayAnswer (List UInt8) :=
  if request.method = "GET" ∨ request.method = "HEAD" then .ok []
  else request.readBody.mapError bodyRefusal

structure Arrival where
  now : ℕ
  drawn : SessionId
  request : HttpRequest

/-- The relay process; it is gone after a panic. -/
structure RelayServer where
  service : RelayService
  serving : Bool := true

section Serving
variable [Primitives] [RelayReader]

/-- One turn of the loop. -/
def RelayServer.handle (server : RelayServer) (arrival : Arrival) :
    Option RelayAnswer × RelayServer :=
  if server.serving then
    match readRequestBody arrival.request with
    | .error refusal => (some refusal, server)
    | .ok body =>
      match readAsk arrival.request.method arrival.request.url body with
      | none => (none, { server with serving := false })
      | some ask =>
        (some (respond arrival.now arrival.drawn server.service ask).1,
          { server with service := (respond arrival.now arrival.drawn server.service ask).2 })
  else (none, server)

def RelayServer.run (server : RelayServer) (arrivals : List Arrival) : RelayServer :=
  arrivals.foldl (fun server arrival => (server.handle arrival).2) server

end Serving

end Relay

end QuipNet
