import QuipNet.Control
import QuipNet.Peers
import QuipNet.Policy
import QuipNet.Routing
import QuipNet.Transport

/-!
# The daemon state and its policy

The durable facts of a node and the policy read off them: a peer is denied by the
deny list, and a protocol is allowed to the local peer when one of its unrevoked
grants carries the protocol's capability within its scopes.
-/

open Std
namespace QuipNet.Fabric
open QuipNet.Control QuipNet.Peers QuipNet.Policy QuipNet.Relay QuipNet.Routing QuipNet.Transport

def daemonStateSchemaVersion : ℕ := 2

inductive DaemonRole
  | bootstrap
  | relay
  | observer
  | edge
deriving DecidableEq, Repr

inductive DaemonStateError
  | io (detail : String)
  | serialization (detail : String)
  | peerNotFound (peer : String)
  | networkMismatch
  | missingMembership
  | control (error : ControlError)
  | noRoute (peer : PeerId)
  | policyDenied (reason : String)
  | transport (error : TransportError)
  | sessionNotFound (sessionId : String)
  | invalidSession (detail : String)
  | missingSchemaVersion
  | migrationRequired (found target : ℕ)
  | unsupportedSchemaVersion (found expected : ℕ)
  | unsupportedDurableField (field : String)
deriving DecidableEq, Repr

def DaemonStateError.text : DaemonStateError → String
  | .io detail => "io error: " ++ detail
  | .serialization detail => "serialization error: " ++ detail
  | .peerNotFound peer => "peer " ++ peer ++ " was not found in daemon state"
  | .networkMismatch => "authority snapshot network does not match configured network"
  | .missingMembership => "authority snapshot did not contain a membership certificate"
  | .control error => "control-plane merge failed: " ++ error.text
  | .noRoute peer => "no route is available for peer " ++ peer.toText
  | .policyDenied reason => "transport policy denied request: " ++ reason
  | .transport error => "transport execution failed: " ++ error.text
  | .sessionNotFound sessionId => "session " ++ sessionId ++ " was not found"
  | .invalidSession detail => "session state is invalid: " ++ detail
  | .missingSchemaVersion => "durable state schema version is missing"
  | .migrationRequired found target =>
    "durable state schema version " ++ Nat.repr found ++
      " requires explicit migration before use; target schema is " ++ Nat.repr target
  | .unsupportedSchemaVersion found expected =>
    "durable state schema version " ++ Nat.repr found ++ " is unsupported; expected " ++
      Nat.repr expected
  | .unsupportedDurableField field =>
    "durable state contains unsupported field `" ++ field ++ "`"

structure BootstrapEndpoint where
  peer : Option PeerId
  addresses : List String
  protocols : List String
  metadata : TreeMap String String

structure DeniedPeer where
  peer : PeerId
  reason : String
deriving DecidableEq, Repr

structure DaemonState where
  schemaVersion : ℕ
  network : String
  localPeerId : PeerId
  roles : List DaemonRole
  membership : MembershipCertificate
  capabilityGrants : List CapabilityGrant
  revocations : List RevocationRecord
  deniedPeers : List DeniedPeer
  bootstrap : List BootstrapEndpoint
  relayMap : Option RelayMap
  peers : List PeerInspection
  netcheck : NetcheckReport
  queuePolicies : List QueuePolicy
  activeSessions : List SessionSnapshot
  pathCandidates : List PathCandidate

/-! ## The deny list -/

def revokedText (kind : String) (revocation : RevocationRecord) : String :=
  kind ++ " revoked: " ++ revocation.reason.debug ++ " seq=" ++ Nat.repr revocation.sequence ++
    " issuer=" ++ revocation.issuerPeerId.toText

def deniedPeer (membership : MembershipCertificate) (revocation : RevocationRecord) :
    Option DeniedPeer :=
  match revocation.target with
  | .peer peerId => some ⟨peerId, revokedText "peer" revocation⟩
  | .membershipCertificate subjectPeerId issuedAt =>
    if subjectPeerId = membership.subjectPeerId ∧ issuedAt = membership.issuedAt then
      some ⟨subjectPeerId, revokedText "membership" revocation⟩
    else none
  | _ => none

def deniedPeers (membership : MembershipCertificate) (revocations : List RevocationRecord) :
    List DeniedPeer :=
  revocations.filterMap (deniedPeer membership)

theorem mem_deniedPeers_of_peer {membership : MembershipCertificate}
    {revocations : List RevocationRecord} {revocation : RevocationRecord} {peer : PeerId}
    (hmem : revocation ∈ revocations) (htarget : revocation.target = .peer peer) :
    ∃ entry ∈ deniedPeers membership revocations, entry.peer = peer := by
  refine ⟨⟨peer, revokedText "peer" revocation⟩, ?_, rfl⟩
  apply List.mem_filterMap.2
  exact ⟨revocation, hmem, by simp only [deniedPeer, htarget]⟩

def protocolCapability (protocol : ProtocolId) : String :=
  if protocol.text = "/quip/records/1" then "records.publish"
  else if protocol.text = "/quip/control/1" then "control.access"
  else "protocol:" ++ protocol.text

namespace DaemonState

def peer (state : DaemonState) (peer : PeerId) : Option PeerInspection :=
  state.peers.find? fun entry => entry.snapshot.peer = peer

def isCapabilityRevoked (state : DaemonState) (peer : PeerId) (sequence : ℕ) : Bool :=
  state.revocations.any fun revocation => revocation.target = .capabilityGrant peer sequence

def grantsForPeer (state : DaemonState) (peer : PeerId) : List CapabilityGrant :=
  (state.capabilityGrants.filter fun grant => grant.subjectPeerId = peer).filter fun grant =>
    !state.isCapabilityRevoked grant.subjectPeerId grant.sequence

theorem mem_grantsForPeer {state : DaemonState} {peer : PeerId} {grant : CapabilityGrant} :
    grant ∈ state.grantsForPeer peer ↔
      grant ∈ state.capabilityGrants ∧ grant.subjectPeerId = peer ∧
        ∀ revocation ∈ state.revocations,
          revocation.target ≠ .capabilityGrant grant.subjectPeerId grant.sequence := by
  simp only [grantsForPeer, isCapabilityRevoked, List.mem_filter, decide_eq_true_eq,
    Bool.not_eq_true', List.any_eq_false, and_assoc, ne_eq]

def denyReason (state : DaemonState) (peer : PeerId) : Option String :=
  (state.deniedPeers.find? fun entry => entry.peer = peer).map DeniedPeer.reason

section Hashing
variable [Primitives]

def explainLocalProtocolPolicy (state : DaemonState) (protocol : ProtocolId) : Decision :=
  let grants := state.grantsForPeer state.localPeerId
  let engine := PolicyEngine.withRules
    [⟨.allow, some (NetworkId.derive state.network), some protocol, some state.localPeerId,
      some (protocolCapability protocol)⟩]
  let decision := engine.evaluate (NetworkId.derive state.network) state.localPeerId protocol grants
  if decision.allowed then
    ⟨true, decision.reason ++ " using " ++ Nat.repr grants.length ++ " active grant(s)"⟩
  else if grants.isEmpty then ⟨false, "no active capability grants for " ++ protocol.text⟩
  else decision

def explainPolicy (state : DaemonState) (peer : PeerId) (protocol : ProtocolId) : Decision :=
  match state.denyReason peer with
  | some reason => ⟨false, reason⟩
  | none => state.explainLocalProtocolPolicy protocol

theorem explainLocalProtocolPolicy_allowed (state : DaemonState) (protocol : ProtocolId) :
    (state.explainLocalProtocolPolicy protocol).allowed =
      hasCapability (protocolCapability protocol) protocol
        (state.grantsForPeer state.localPeerId) := by
  unfold explainLocalProtocolPolicy PolicyEngine.withRules PolicyEngine.evaluate
  cases hcap : hasCapability (protocolCapability protocol) protocol
      (state.grantsForPeer state.localPeerId) with
  | true => simp [PolicyRule.applies, hcap]
  | false =>
    simp only [PolicyRule.applies, hcap, Option.all_some, Bool.and_false, List.find?_cons,
      List.find?_nil, Bool.false_eq_true, if_false]
    split <;> rfl

theorem explainPolicy_allowed_iff (state : DaemonState) (peer : PeerId) (protocol : ProtocolId) :
    (state.explainPolicy peer protocol).allowed = true ↔
      state.denyReason peer = none ∧
        hasCapability (protocolCapability protocol) protocol
          (state.grantsForPeer state.localPeerId) = true := by
  unfold explainPolicy
  cases state.denyReason peer with
  | some reason => simp
  | none => simp [explainLocalProtocolPolicy_allowed]

end Hashing

def relayAnnouncements (state : DaemonState) : List RelayAnnouncement :=
  (state.relayMap.map RelayMap.relays).getD []

def maxRevocationSequence (state : DaemonState) : Option ℕ :=
  (state.revocations.map RevocationRecord.sequence).max?

def withActiveSession (state : DaemonState) (session : SessionSnapshot) : DaemonState :=
  if state.activeSessions.any fun existing => existing.sessionId = session.sessionId then
    { state with activeSessions := state.activeSessions.replaceF fun existing =>
        if existing.sessionId = session.sessionId then some session else none }
  else { state with activeSessions := state.activeSessions ++ [session] }

def withoutSession (state : DaemonState) (sessionId : SessionId) : DaemonState :=
  { state with activeSessions := state.activeSessions.filter fun session =>
      session.sessionId ≠ sessionId }

end DaemonState

end QuipNet.Fabric
