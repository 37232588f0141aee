import QuipNet.Crypto
import QuipNet.Library.Effect

/-!
# The relay service

Wire messages, the session table and the admission checks of a relay. The table
is one map for two kinds of keys: a pending entry stands under the attempt id the
client chose, an open one under the session id the relay drew. The clock reading
and the drawn session id of an open request are arguments.
-/

open Std
namespace QuipNet.Relay
open QuipNet.Library

inductive RelayRejectCode
  | unauthorized
  | unsupportedTrafficClass
  | capacityExceeded
  | sessionExists
  | invalidIdentityProof
  | destinationUnauthorized
  | destinationProtocolRejected
  | invalidRequest
deriving DecidableEq, Repr

structure RelayOpenRequest where
  attemptId : SessionId
  networkId : NetworkId
  source : PeerId
  sourcePublicKey : PublicIdentityKey
  sourceCredential : SessionCredential
  destination : PeerId
  protocol : Option ProtocolId
  trafficClass : TrafficClass
deriving DecidableEq, Repr

structure RelaySessionAccepted where
  attemptId : SessionId
  sessionId : SessionId
  source : PeerId
  destination : PeerId
  protocol : Option ProtocolId
  trafficClass : TrafficClass
deriving DecidableEq, Repr

structure RelaySessionRejected where
  attemptId : SessionId
  code : RelayRejectCode
  source : PeerId
  destination : PeerId
  protocol : Option ProtocolId
  trafficClass : TrafficClass
  reason : String
deriving DecidableEq, Repr

inductive RelayFrame
  | openSession (request : RelayOpenRequest)
  | sessionAccepted (accepted : RelaySessionAccepted)
  | sessionRejected (rejected : RelaySessionRejected)
  | data (sessionId : SessionId) (payload : List UInt8)
  | health (sessionId : SessionId) (queueDepth : ℕ) (loadPercent : ℕ)
  | close (sessionId : SessionId) (reason : String)
deriving DecidableEq, Repr

structure RelayAnnouncement where
  peerId : PeerId
  region : String
  advertisedEndpoints : List String
  controlEndpoint : String
  maxBandwidthBps : ℕ
  supportsQuicDatagrams : Bool
  supportsPathMigration : Bool
  trafficClasses : List String
deriving DecidableEq, Repr

structure RelayMap where
  version : ℕ
  generatedAt : ℕ
  relays : List RelayAnnouncement
deriving DecidableEq, Repr

structure RelayQuota where
  peer : PeerId
  maxBandwidthBps : ℕ
  maxConcurrentSessions : UInt32
deriving DecidableEq, Repr

structure RelayDestination where
  peer : PeerId
  protocols : List ProtocolId
deriving DecidableEq, Repr

structure RelayNode where
  announcement : RelayAnnouncement
  quotas : List RelayQuota
  destinations : List RelayDestination
deriving DecidableEq, Repr

inductive RelayError
  | unauthorized
  | invalidIdentityProof (detail : String)
  | destinationUnauthorized (peer : PeerId)
  | destinationProtocolRejected (peer : PeerId)
  | unavailable (peer : PeerId)
  | unsupportedTrafficClass (trafficClass : TrafficClass)
  | capacityExceeded (peer : PeerId)
  | sessionExists
  | sessionNotFound
  | controlTransport (detail : String)
  | controlDecode (detail : String)
deriving DecidableEq, Repr

def RelayError.text : RelayError → String
  | .unauthorized => "peer is not authorized to use this relay"
  | .invalidIdentityProof detail => "source identity proof is invalid: " ++ detail
  | .destinationUnauthorized peer => "relay destination " ++ peer.toText ++ " is not authorized"
  | .destinationProtocolRejected peer =>
    "relay destination " ++ peer.toText ++ " does not support requested protocol"
  | .unavailable peer => "relay " ++ peer.toText ++ " is unavailable"
  | .unsupportedTrafficClass trafficClass =>
    "relay path does not support traffic class " ++ trafficClass.debug
  | .capacityExceeded peer => "relay is at session capacity for peer " ++ peer.toText
  | .sessionExists => "relay session already exists"
  | .sessionNotFound => "relay session was not found"
  | .controlTransport detail => "relay control transport failed: " ++ detail
  | .controlDecode detail => "relay control payload decode failed: " ++ detail

inductive RelaySessionStatus
  | pending
  | open
  | closed
deriving DecidableEq, Repr

structure RelaySession where
  sessionId : SessionId
  source : PeerId
  destination : PeerId
  protocol : Option ProtocolId
  trafficClass : TrafficClass
  status : RelaySessionStatus
deriving DecidableEq, Repr

structure RelayRuntime where
  sessions : TreeMap SessionId RelaySession := ∅

/-- A client's attempt id is used as a session id while the request is pending. -/
def pendingSessionId (attemptId : SessionId) : SessionId := attemptId

def RelayOpenRequest.pendingSession (request : RelayOpenRequest) : RelaySession :=
  ⟨pendingSessionId request.attemptId, request.source, request.destination, request.protocol,
    request.trafficClass, .pending⟩

def RelaySessionAccepted.openSession (accepted : RelaySessionAccepted) : RelaySession :=
  ⟨accepted.sessionId, accepted.source, accepted.destination, accepted.protocol,
    accepted.trafficClass, .open⟩

namespace RelayRuntime

def session (runtime : RelayRuntime) (sessionId : SessionId) : Option RelaySession :=
  runtime.sessions[sessionId]?

def sessionCount (runtime : RelayRuntime) : ℕ :=
  (runtime.sessions.toList.filter fun entry => entry.2.status = .open).length

def isOpen (runtime : RelayRuntime) (sessionId : SessionId) : Bool :=
  (runtime.session sessionId).any fun session => session.status = .open

def applyFrame : RelayFrame → EStateM RelayError RelayRuntime Unit
  | .openSession request => modify fun runtime =>
    { runtime with sessions :=
        runtime.sessions.insert (pendingSessionId request.attemptId) request.pendingSession }
  | .sessionAccepted accepted => modify fun runtime =>
    { runtime with sessions :=
        runtime.sessions.insert accepted.sessionId accepted.openSession }
  | .sessionRejected rejected => do
    modify fun runtime =>
      { runtime with sessions := runtime.sessions.erase (pendingSessionId rejected.attemptId) }
    throw .unauthorized
  | .data sessionId _ | .health sessionId _ _ => do
    if (← get).isOpen sessionId then pure () else throw .unauthorized
  | .close sessionId _ => modify fun runtime =>
    { runtime with sessions :=
        runtime.sessions.modify sessionId fun session => { session with status := .closed } }

end RelayRuntime

def supportsTrafficClass (values : List String) (trafficClass : TrafficClass) : Bool :=
  values.any fun value =>
    match trafficClass with
    | .control => value == "NetworkControl"
    | .interactive => value == "InteractiveRpc"
    | .bulk => value == "BulkTransfer"
    | .background => value == "Background"

def authorizeDestination (destinations : List RelayDestination) (destination : PeerId)
    (protocol : Option ProtocolId) : Except RelayError Unit :=
  match destinations.find? fun candidate => candidate.peer == destination with
  | none => .error (.destinationUnauthorized destination)
  | some entry =>
    match protocol with
    | none => .ok ()
    | some protocol =>
      if entry.protocols.contains protocol then .ok ()
      else .error (.destinationProtocolRejected destination)

section Verification
variable [Primitives]

def verifySourceKeyBinding (key : PublicIdentityKey) (source : PeerId) : Except RelayError Unit :=
  if key.peerId ≠ source then
    .error (.invalidIdentityProof "source identity proof peer id does not match claimed source")
  else .ok ()

def verifySessionCredential (now : ℕ) (request : RelayOpenRequest) : Except String Unit := do
  match request.sourceCredential.verify request.sourcePublicKey with
  | .error error => throw ("source identity proof verification failed: " ++ error.text)
  | .ok _ => pure ()
  if request.sourceCredential.peerId ≠ request.source then
    throw "source identity proof peer id does not match credential"
  if request.sourceCredential.networkId ≠ request.networkId then
    throw "source identity proof network does not match relay network"
  if request.sourceCredential.expiresAt < now then
    throw "source identity proof is expired"
  match request.protocol with
  | none => pure ()
  | some protocol =>
    if !request.sourceCredential.protocolVersions.contains protocol.text then
      throw "source identity proof does not authorize requested protocol"

def verifyOpenRequest (now : ℕ) (request : RelayOpenRequest) : Except RelayError Unit := do
  verifySourceKeyBinding request.sourcePublicKey request.source
  match verifySessionCredential now request with
  | .error detail => throw (.invalidIdentityProof detail)
  | .ok _ => pure ()

structure RelayService where
  node : RelayNode
  runtime : RelayRuntime := {}

def RelayOpenRequest.reject (request : RelayOpenRequest) (code : RelayRejectCode)
    (reason : String) : RelaySessionRejected :=
  ⟨request.attemptId, code, request.source, request.destination, request.protocol,
    request.trafficClass, reason⟩

def RelayOpenRequest.accept (request : RelayOpenRequest) (sessionId : SessionId) :
    RelaySessionAccepted :=
  ⟨request.attemptId, sessionId, request.source, request.destination, request.protocol,
    request.trafficClass⟩

namespace RelayService

def new (node : RelayNode) : RelayService := { node }

def quotaFor (service : RelayService) (source : PeerId) : Option RelayQuota :=
  service.node.quotas.find? fun quota => quota.peer == source

def activeForSource (service : RelayService) (source : PeerId) : ℕ :=
  (service.runtime.sessions.toList.filter fun entry =>
    entry.2.source = source ∧ entry.2.status = .open).length

/-- The quota check compares after `count() as u32`. -/
def overQuota (service : RelayService) (source : PeerId) : Option RelayQuota :=
  (service.quotaFor source).filter fun quota =>
    quota.maxConcurrentSessions ≤ UInt32.ofNat (service.activeForSource source)

/-- The checks of `open_session` in source order; none of them writes. -/
def refusal (service : RelayService) (now : ℕ) (sessionId : SessionId)
    (request : RelayOpenRequest) : Option RelaySessionRejected :=
  match verifyOpenRequest now request with
  | .error error => some (request.reject .invalidIdentityProof error.text)
  | .ok _ =>
    if !supportsTrafficClass service.node.announcement.trafficClasses request.trafficClass then
      some (request.reject .unsupportedTrafficClass
        ("relay does not support " ++ request.trafficClass.debug ++ " traffic"))
    else
      match authorizeDestination service.node.destinations request.destination
          request.protocol with
      | .error error =>
        let code := match error with
          | .destinationProtocolRejected _ => RelayRejectCode.destinationProtocolRejected
          | _ => .destinationUnauthorized
        some (request.reject code error.text)
      | .ok _ =>
        match service.overQuota request.source with
        | some quota =>
          some (request.reject .capacityExceeded
            ("source " ++ quota.peer.toText ++ " is over relay session quota"))
        | none =>
          if service.runtime.sessions.contains sessionId then
            some (request.reject .sessionExists "relay session already exists")
          else none

def applyFrame (frame : RelayFrame) (service : RelayService) : RelayService :=
  { service with runtime := Effect.final (RelayRuntime.applyFrame frame) service.runtime }

def openSession (now : ℕ) (sessionId : SessionId) (request : RelayOpenRequest) :
    EStateM RelaySessionRejected RelayService RelaySessionAccepted := do
  match (← get).refusal now sessionId request with
  | some rejected => throw rejected
  | none => pure ()
  modify (applyFrame (.openSession request))
  let accepted := request.accept sessionId
  modify (applyFrame (.sessionAccepted accepted))
  pure accepted

def closeSession (sessionId : SessionId) (reason : String) : EStateM RelayError RelayService Unit := do
  if ((← get).runtime.session sessionId).isNone then throw .sessionNotFound
  modify (applyFrame (.close sessionId reason))

end RelayService
end Verification

end QuipNet.Relay
