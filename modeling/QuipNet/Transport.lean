import QuipNet.Json

/-!
# Transport vocabulary

Route plans, session snapshots and the records of the runtime registries, as the
transport trait passes them around.
-/

namespace QuipNet.Transport

inductive TransportError
  | unreachable
  | noRoute (peer : PeerId)
  | protocolRejected
  | policyDenied (reason : String)
  | invalidRoute (detail : String)
  | relayRejected (detail : String)
  | notImplemented
deriving DecidableEq, Repr

def TransportError.text : TransportError → String
  | .unreachable => "peer is unreachable"
  | .noRoute peer => "no route is available for peer " ++ peer.toText
  | .protocolRejected => "protocol is not authorized or supported"
  | .policyDenied reason => "policy denied transport request: " ++ reason
  | .invalidRoute detail => "route plan is invalid: " ++ detail
  | .relayRejected detail => "relay rejected session open: " ++ detail
  | .notImplemented => "transport implementation is not wired yet"

inductive RouteSource
  | observed
  | bootstrap
  | authorityRelay
deriving DecidableEq, Repr

def RouteSource.debug : RouteSource → String
  | .observed => "Observed"
  | .bootstrap => "Bootstrap"
  | .authorityRelay => "AuthorityRelay"

structure RelayPlan where
  relayPeer : PeerId
  relayEndpoints : List String
  relayControlEndpoint : String
  destinationEndpoints : List String
  supportsDatagrams : Bool
  supportsPathMigration : Bool
deriving DecidableEq, Repr

structure RoutePlan where
  localPeer : PeerId
  peer : PeerId
  protocol : Option ProtocolId
  trafficClass : TrafficClass
  pathKind : PathKind
  source : RouteSource
  remoteEndpoints : List String
  relay : Option RelayPlan
deriving DecidableEq, Repr

/-- The key under which sessions are reconnected, suppressed and scheduled. -/
structure SessionKey where
  peer : PeerId
  protocol : Option ProtocolId
  trafficClass : TrafficClass
deriving DecidableEq, Repr

def RoutePlan.key (route : RoutePlan) : SessionKey :=
  ⟨route.peer, route.protocol, route.trafficClass⟩

inductive RuntimeSessionState
  | pending
  | connecting
  | active
  | degraded
  | migrating
  | reconciling
  | closing
  | closed
  | failed
deriving DecidableEq, Repr

def RuntimeSessionState.label : RuntimeSessionState → String
  | .pending => "pending"
  | .connecting => "connecting"
  | .active => "active"
  | .degraded => "degraded"
  | .migrating => "migrating"
  | .reconciling => "reconciling"
  | .closing => "closing"
  | .closed => "closed"
  | .failed => "failed"

inductive SessionClosureReason
  | operatorRequested
  | localRuntimeFailure
  | remoteFailure
  | policyRejected
  | pathExhaustion
  | daemonShutdown
deriving DecidableEq, Repr

/-- `session_closure_reason_label` and `path_failure_cause`. -/
def SessionClosureReason.label : SessionClosureReason → String
  | .operatorRequested => "operator_requested"
  | .localRuntimeFailure => "local_runtime_failure"
  | .remoteFailure => "remote_failure"
  | .policyRejected => "policy_rejected"
  | .pathExhaustion => "path_exhaustion"
  | .daemonShutdown => "daemon_shutdown"

structure SessionSnapshot where
  sessionId : SessionId
  transportSessionId : SessionId
  relayAttemptId : Option SessionId
  peer : PeerId
  protocol : Option ProtocolId
  trafficClass : TrafficClass
  pathKind : PathKind
  source : RouteSource
  remoteEndpoint : String
  relayPeer : Option PeerId
  relayEndpoint : Option String
  relayControlEndpoint : Option String
  datagramsCapable : Bool
  migrationCapable : Bool
  state : RuntimeSessionState
  closureReason : Option SessionClosureReason
  stateReason : Option String
  createdAtUnixSecs : ℕ
  lastActivityUnixSecs : ℕ
deriving DecidableEq, Repr

def SessionSnapshot.key (session : SessionSnapshot) : SessionKey :=
  ⟨session.peer, session.protocol, session.trafficClass⟩

structure RuntimeEventSubject where
  kind : String
  id : String
deriving DecidableEq, Repr

structure RuntimeEvent where
  eventId : String
  eventType : String
  emittedAt : String
  truthKind : String
  subject : RuntimeEventSubject
  details : Json

structure ReconnectSuppression where
  peer : PeerId
  protocol : Option ProtocolId
  trafficClass : TrafficClass
  reason : String
  imposedAtUnixSecs : ℕ
deriving DecidableEq, Repr

def ReconnectSuppression.key (entry : ReconnectSuppression) : SessionKey :=
  ⟨entry.peer, entry.protocol, entry.trafficClass⟩

inductive RuntimeListenerState
  | active
  | failed
  | suppressed
deriving DecidableEq, Repr

structure RuntimeListenerSnapshot where
  listenerId : String
  transport : String
  bindSummary : String
  protocol : ProtocolId
  advertise : Bool
  state : RuntimeListenerState
  stateReason : Option String
  startedAtUnixSecs : ℕ
deriving DecidableEq, Repr

inductive RuntimeReconnectAttemptState
  | backingOff
  | failed
deriving DecidableEq, Repr

structure RuntimeReconnectAttempt where
  peer : PeerId
  protocol : Option ProtocolId
  trafficClass : TrafficClass
  state : RuntimeReconnectAttemptState
  reason : String
  attemptCount : UInt32
  lastAttemptUnixSecs : ℕ
  nextAttemptUnixSecs : ℕ
  maxAttempts : UInt32
deriving DecidableEq, Repr

def RuntimeReconnectAttempt.key (attempt : RuntimeReconnectAttempt) : SessionKey :=
  ⟨attempt.peer, attempt.protocol, attempt.trafficClass⟩

structure BindSpec where
  protocol : ProtocolId
  advertise : Bool
deriving DecidableEq, Repr

end QuipNet.Transport
