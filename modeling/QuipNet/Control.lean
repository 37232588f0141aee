import QuipNet.Membership
import QuipNet.Relay
import QuipNet.Library.MergeNew

/-!
# The authority client

Snapshots of the authority's artifacts and how an incoming snapshot is merged
into the one a node already holds. What the authority's HTTP endpoints answer is
an argument: a decoded body or the transport's error.
-/

open Std
namespace QuipNet.Control
open QuipNet.Library QuipNet.Relay

structure AuthorityArtifactSnapshot where
  networkId : NetworkId
  enrollmentToken : Option EnrollmentToken
  membership : Option MembershipCertificate
  capabilityGrants : List CapabilityGrant
  revocations : List RevocationRecord
  bootstrapHints : List BootstrapHint

inductive ControlError
  | networkMismatch
  | subjectMismatch
  | membershipRollback
  | grantConflict
  | transport (detail : String)
  | decode (detail : String)
  | missingSubject (subject : String)
deriving DecidableEq, Repr

def ControlError.text : ControlError → String
  | .networkMismatch => "snapshot network does not match client network"
  | .subjectMismatch => "incoming membership subject does not match local membership subject"
  | .membershipRollback => "incoming membership is older than the local membership"
  | .grantConflict => "grant identity collision with non-identical payload"
  | .transport detail => "http transport failed: " ++ detail
  | .decode detail => "snapshot decoding failed: " ++ detail
  | .missingSubject subject => "authority subject projection is unavailable: " ++ subject

structure SnapshotDelta where
  membershipChanged : Bool
  grantsAdded : ℕ
  grantsRemoved : ℕ
  revocationsAdded : ℕ
  bootstrapHintsAdded : ℕ
  bootstrapHintsRemoved : ℕ
deriving DecidableEq, Repr

/-- The endpoints of a client only select where it connects to. -/
structure ControlClient where
  networkId : NetworkId
deriving DecidableEq, Repr

/-- The decoded answers of an authority origin, per endpoint and query. -/
structure AuthorityOrigin where
  snapshot : Option String → Except ControlError AuthorityArtifactSnapshot
  relayMap : Except ControlError RelayMap
  revocations : Option ℕ → Except ControlError (List RevocationRecord)

def sameGrant (left right : CapabilityGrant) : Bool :=
  left.networkId = right.networkId && left.issuerPeerId = right.issuerPeerId &&
    left.subjectPeerId = right.subjectPeerId && left.sequence = right.sequence

def sameRevocation (left right : RevocationRecord) : Bool :=
  left.sequence = right.sequence && left.issuerPeerId = right.issuerPeerId &&
    left.target = right.target

def normalizeAddresses (addresses : List String) : List String :=
  ((addresses.map trim).insertionSort (· ≤ ·)).destutter (· ≠ ·)

def sameHint (left right : BootstrapHint) : Bool :=
  match left.peerId, right.peerId with
  | some leftPeer, some rightPeer => leftPeer = rightPeer
  | _, _ => normalizeAddresses left.addresses = normalizeAddresses right.addresses

def mergeMembership (current incoming : Option MembershipCertificate) :
    Except ControlError (Option MembershipCertificate) :=
  match current, incoming with
  | none, incoming => .ok incoming
  | some current, none => .ok (some current)
  | some current, some incoming =>
    if current.subjectPeerId ≠ incoming.subjectPeerId then .error .subjectMismatch
    else if incoming.issuedAt < current.issuedAt then .error .membershipRollback
    else if incoming.issuedAt = current.issuedAt ∧ incoming ≠ current then .error .grantConflict
    else .ok (some (if incoming.issuedAt > current.issuedAt ∨ incoming.expiresAt ≥ current.expiresAt
      then incoming else current))

theorem mergeMembership_some {current : MembershipCertificate}
    {incoming merged : Option MembershipCertificate}
    (h : mergeMembership (some current) incoming = .ok merged) :
    ∃ membership, merged = some membership ∧
      membership.subjectPeerId = current.subjectPeerId ∧
      current.issuedAt ≤ membership.issuedAt := by
  cases incoming with
  | none =>
    cases h
    exact ⟨current, rfl, rfl, le_rfl⟩
  | some incoming =>
    simp only [mergeMembership] at h
    split_ifs at h with hsubject hrollback hconflict hnewer
    · cases h
      exact ⟨incoming, rfl, (not_ne_iff.1 hsubject).symm, Nat.not_lt.1 hrollback⟩
    · cases h
      exact ⟨current, rfl, rfl, le_rfl⟩

theorem mergeMembership_eq {current : MembershipCertificate}
    {incoming merged : Option MembershipCertificate}
    (h : mergeMembership (some current) incoming = .ok merged) :
    merged = incoming.or (some current) := by
  cases incoming with
  | none =>
    cases h
    rfl
  | some incoming =>
    simp only [mergeMembership] at h
    split_ifs at h with hsubject hrollback hconflict hnewer
    · cases h
      rfl
    · cases h
      rw [not_or] at hnewer
      have hsame : incoming.issuedAt = current.issuedAt := by omega
      rw [not_and, not_ne_iff] at hconflict
      rw [hconflict hsame]
      rfl

namespace ControlClient

def syncAuthoritySnapshot (client : ControlClient) (snapshot : AuthorityArtifactSnapshot) :
    Except ControlError AuthorityArtifactSnapshot :=
  if snapshot.networkId ≠ client.networkId then .error .networkMismatch else .ok snapshot

def fetchAuthoritySnapshotFor (client : ControlClient) (origin : AuthorityOrigin)
    (subject : Option String) : Except ControlError AuthorityArtifactSnapshot := do
  client.syncAuthoritySnapshot (← origin.snapshot subject)

/-- A grant of the incoming list names a held grant but differs from it. -/
def grantConflict (current incoming : List CapabilityGrant) : Bool :=
  incoming.any fun grant =>
    (current.find? fun existing => sameGrant existing grant).any fun existing => existing ≠ grant

def mergeSnapshot (client : ControlClient) (current : Option AuthorityArtifactSnapshot)
    (incoming : AuthorityArtifactSnapshot) :
    Except ControlError (AuthorityArtifactSnapshot × SnapshotDelta) := do
  let incoming ← client.syncAuthoritySnapshot incoming
  match current with
  | none =>
    .ok (incoming, ⟨incoming.membership.isSome, incoming.capabilityGrants.length, 0,
      incoming.revocations.length, incoming.bootstrapHints.length, 0⟩)
  | some current =>
    let membership ← mergeMembership current.membership incoming.membership
    if grantConflict current.capabilityGrants incoming.capabilityGrants then
      .error .grantConflict
    else
      let revocations := mergeNew sameRevocation current.revocations incoming.revocations
      .ok ({ networkId := incoming.networkId
             enrollmentToken := incoming.enrollmentToken.or current.enrollmentToken
             membership
             capabilityGrants := incoming.capabilityGrants
             revocations := revocations.1
             bootstrapHints := incoming.bootstrapHints },
        { membershipChanged := membership ≠ current.membership
          grantsAdded := (incoming.capabilityGrants.filter fun grant =>
            !current.capabilityGrants.any fun existing => sameGrant existing grant).length
          grantsRemoved := (current.capabilityGrants.filter fun grant =>
            !incoming.capabilityGrants.any fun other => sameGrant grant other).length
          revocationsAdded := revocations.2
          bootstrapHintsAdded := (incoming.bootstrapHints.filter fun hint =>
            !current.bootstrapHints.any fun existing => sameHint existing hint).length
          bootstrapHintsRemoved := (current.bootstrapHints.filter fun hint =>
            !incoming.bootstrapHints.any fun other => sameHint hint other).length })

def heldDelta (current incoming merged : AuthorityArtifactSnapshot) : SnapshotDelta where
  membershipChanged := merged.membership ≠ current.membership
  grantsAdded := (incoming.capabilityGrants.filter fun grant =>
    !current.capabilityGrants.any fun existing => sameGrant existing grant).length
  grantsRemoved := (current.capabilityGrants.filter fun grant =>
    !incoming.capabilityGrants.any fun other => sameGrant grant other).length
  revocationsAdded := (mergeNew sameRevocation current.revocations incoming.revocations).2
  bootstrapHintsAdded := (incoming.bootstrapHints.filter fun hint =>
    !current.bootstrapHints.any fun existing => sameHint existing hint).length
  bootstrapHintsRemoved := (current.bootstrapHints.filter fun hint =>
    !incoming.bootstrapHints.any fun other => sameHint hint other).length

section Held
variable {client : ControlClient} {current incoming merged : AuthorityArtifactSnapshot}
  {delta : SnapshotDelta}

theorem mergeSnapshot_held (h : client.mergeSnapshot (some current) incoming = .ok (merged, delta)) :
    grantConflict current.capabilityGrants incoming.capabilityGrants = false ∧
      merged.bootstrapHints = incoming.bootstrapHints ∧ delta = heldDelta current incoming merged ∧
      incoming.networkId = client.networkId ∧
      mergeMembership current.membership incoming.membership = .ok merged.membership ∧
      merged.capabilityGrants = incoming.capabilityGrants ∧
      merged.revocations =
        (mergeNew sameRevocation current.revocations incoming.revocations).1 := by
  unfold mergeSnapshot syncAuthoritySnapshot at h
  obtain ⟨snapshot, hsync, h⟩ := Effect.except_bind_eq_ok h
  split_ifs at hsync with hnetwork
  cases hsync
  obtain ⟨membership, hmembership, h⟩ := Effect.except_bind_eq_ok h
  split_ifs at h with hconflict
  cases h
  exact ⟨Bool.eq_false_iff.2 hconflict, rfl, rfl, not_not.1 hnetwork, hmembership, rfl, rfl⟩

/-- What a successful merge keeps of the held snapshot: the membership is the one
of `mergeMembership`, and the revocations only grow at the end. -/
theorem mergeSnapshot_some (h : client.mergeSnapshot (some current) incoming = .ok (merged, delta)) :
    incoming.networkId = client.networkId ∧
      mergeMembership current.membership incoming.membership = .ok merged.membership ∧
      merged.capabilityGrants = incoming.capabilityGrants ∧
      merged.revocations =
        (mergeNew sameRevocation current.revocations incoming.revocations).1 :=
  (mergeSnapshot_held h).2.2.2

end Held

end ControlClient

end QuipNet.Control
