import QuipNet.Crypto

/-!
# Signed authority artifacts

Membership certificates, capability grants, revocation records and bootstrap
hints, with the byte strings their issuer signs.
-/

open Std
namespace QuipNet

variable [Primitives]

inductive MembershipError
  | invalidSignature
  | expiredArtifact
  | notYetValid
  | subjectMismatch
  | artifactIdMismatch
deriving DecidableEq, Repr

structure BootstrapHint where
  peerId : Option PeerId
  addresses : List String
  metadata : TreeMap String String

structure EnrollmentToken where
  tokenId : Vector UInt8 32
  networkId : NetworkId
  issuerPeerId : PeerId
  issuedAt : ℕ
  expiresAt : ℕ
  realm : String
  subjectAlias : Option String
  requestedRoles : List String
  bootstrapHints : List BootstrapHint
  nonce : Vector UInt8 16
  signature : SignatureBytes

def BootstrapHint.json (hint : BootstrapHint) : Json :=
  .object [("peer_id", .option (fun peer => .bytes peer.bytes) hint.peerId),
    ("addresses", .strings hint.addresses),
    ("metadata", .object (hint.metadata.toList.map fun entry => (entry.1, .string entry.2)))]

namespace EnrollmentToken

def unsigned (token : EnrollmentToken) : Json :=
  .object [("network_id", .bytes token.networkId.bytes.toList),
    ("issuer_peer_id", .bytes token.issuerPeerId.bytes),
    ("issued_at", .number token.issuedAt),
    ("expires_at", .number token.expiresAt),
    ("realm", .string token.realm),
    ("subject_alias", .option .string token.subjectAlias),
    ("requested_roles", .strings token.requestedRoles),
    ("bootstrap_hints", .array (token.bootstrapHints.map BootstrapHint.json)),
    ("nonce", .bytes token.nonce.toList)]

def issue (issuer : IdentityKeypair) (networkId : NetworkId) (issuedAt expiresAt : ℕ)
    (realm : String) (subjectAlias : Option String) (requestedRoles : List String)
    (bootstrapHints : List BootstrapHint) (nonce : Vector UInt8 16) : EnrollmentToken :=
  let token : EnrollmentToken := ⟨Vector.replicate 32 0, networkId, issuer.peerId, issuedAt,
    expiresAt, realm, subjectAlias, requestedRoles, bootstrapHints, nonce, ⟨[]⟩⟩
  let canonical := canonicalJson token.unsigned
  { token with tokenId := Primitives.blake3 canonical, signature := issuer.sign canonical }

def verify (token : EnrollmentToken) (issuerKey : PublicIdentityKey) (expectedNetwork : NetworkId)
    (nowEpochSecs : ℕ) : Except MembershipError Unit :=
  if token.networkId ≠ expectedNetwork then .error .subjectMismatch
  else if nowEpochSecs > token.expiresAt then .error .expiredArtifact
  else
    let canonical := canonicalJson token.unsigned
    if Primitives.blake3 canonical ≠ token.tokenId then .error .artifactIdMismatch
    else (token.signature.verify issuerKey canonical).mapError fun _ => .invalidSignature

end EnrollmentToken

structure MembershipCertificate where
  networkId : NetworkId
  subjectPeerId : PeerId
  issuerPeerId : PeerId
  issuedAt : ℕ
  expiresAt : ℕ
  roles : List String
  signature : SignatureBytes
deriving DecidableEq, Repr

namespace MembershipCertificate

def unsigned (certificate : MembershipCertificate) : Json :=
  .object [("network_id", .bytes certificate.networkId.bytes.toList),
    ("subject_peer_id", .bytes certificate.subjectPeerId.bytes),
    ("issuer_peer_id", .bytes certificate.issuerPeerId.bytes),
    ("issued_at", .number certificate.issuedAt),
    ("expires_at", .number certificate.expiresAt),
    ("roles", .strings certificate.roles)]

def issue (issuer : IdentityKeypair) (networkId : NetworkId) (subjectPeerId : PeerId)
    (issuedAt expiresAt : ℕ) (roles : List String) : MembershipCertificate :=
  let certificate : MembershipCertificate :=
    ⟨networkId, subjectPeerId, issuer.peerId, issuedAt, expiresAt, roles, ⟨[]⟩⟩
  { certificate with signature := issuer.sign (canonicalJson certificate.unsigned) }

@[simp] theorem issue_subjectPeerId (issuer : IdentityKeypair) (networkId : NetworkId)
    (subject : PeerId) (issuedAt expiresAt : ℕ) (roles : List String) :
    (issue issuer networkId subject issuedAt expiresAt roles).subjectPeerId = subject := rfl

def verify (certificate : MembershipCertificate) (issuerKey : PublicIdentityKey)
    (expectedNetwork : NetworkId) (expectedSubject : PeerId) (nowEpochSecs : ℕ) :
    Except MembershipError Unit :=
  if certificate.networkId ≠ expectedNetwork ∨ certificate.subjectPeerId ≠ expectedSubject then
    .error .subjectMismatch
  else if nowEpochSecs > certificate.expiresAt then .error .expiredArtifact
  else (certificate.signature.verify issuerKey (canonicalJson certificate.unsigned)).mapError
    fun _ => .invalidSignature

end MembershipCertificate

structure ResourceLimits where
  bandwidthBps : Option ℕ
  concurrentStreams : Option ℕ
  maxObjectBytes : Option ℕ
deriving DecidableEq, Repr

structure CapabilityGrant where
  networkId : NetworkId
  subjectPeerId : PeerId
  issuerPeerId : PeerId
  capabilities : List String
  protocolScopes : List ProtocolId
  resourceLimits : ResourceLimits
  constraints : List String
  notBefore : ℕ
  expiresAt : ℕ
  sequence : ℕ
  signature : SignatureBytes
deriving DecidableEq, Repr

namespace CapabilityGrant

def unsigned (grant : CapabilityGrant) : Json :=
  .object [("network_id", .bytes grant.networkId.bytes.toList),
    ("subject_peer_id", .bytes grant.subjectPeerId.bytes),
    ("issuer_peer_id", .bytes grant.issuerPeerId.bytes),
    ("capabilities", .strings grant.capabilities),
    ("protocol_scopes", .strings (grant.protocolScopes.map ProtocolId.text)),
    ("resource_limits", .object
      [("bandwidth_bps", .option .number grant.resourceLimits.bandwidthBps),
        ("concurrent_streams", .option .number grant.resourceLimits.concurrentStreams),
        ("max_object_bytes", .option .number grant.resourceLimits.maxObjectBytes)]),
    ("constraints", .strings grant.constraints),
    ("not_before", .number grant.notBefore),
    ("expires_at", .number grant.expiresAt),
    ("sequence", .number grant.sequence)]

def issue (issuer : IdentityKeypair) (networkId : NetworkId) (subjectPeerId : PeerId)
    (capabilities : List String) (protocolScopes : List ProtocolId)
    (resourceLimits : ResourceLimits) (constraints : List String)
    (notBefore expiresAt sequence : ℕ) : CapabilityGrant :=
  let grant : CapabilityGrant := ⟨networkId, subjectPeerId, issuer.peerId, capabilities,
    protocolScopes, resourceLimits, constraints, notBefore, expiresAt, sequence, ⟨[]⟩⟩
  { grant with signature := issuer.sign (canonicalJson grant.unsigned) }

def verify (grant : CapabilityGrant) (issuerKey : PublicIdentityKey) (expectedNetwork : NetworkId)
    (expectedSubject : PeerId) (nowEpochSecs : ℕ) : Except MembershipError Unit :=
  if grant.networkId ≠ expectedNetwork ∨ grant.subjectPeerId ≠ expectedSubject then
    .error .subjectMismatch
  else if nowEpochSecs < grant.notBefore then .error .notYetValid
  else if nowEpochSecs > grant.expiresAt then .error .expiredArtifact
  else (grant.signature.verify issuerKey (canonicalJson grant.unsigned)).mapError
    fun _ => .invalidSignature

end CapabilityGrant

inductive RevocationReason
  | administrative
  | keyCompromise
  | superseded
  | unspecified
deriving DecidableEq, Repr

def RevocationReason.debug : RevocationReason → String
  | .administrative => "Administrative"
  | .keyCompromise => "KeyCompromise"
  | .superseded => "Superseded"
  | .unspecified => "Unspecified"

inductive RevocationTarget
  | enrollmentToken (tokenId : Vector UInt8 32)
  | membershipCertificate (subjectPeerId : PeerId) (issuedAt : ℕ)
  | capabilityGrant (subjectPeerId : PeerId) (sequence : ℕ)
  | peer (peerId : PeerId)
deriving DecidableEq, Repr

def RevocationTarget.json : RevocationTarget → Json
  | .enrollmentToken tokenId =>
    .object [("EnrollmentToken", .object [("token_id", .bytes tokenId.toList)])]
  | .membershipCertificate subjectPeerId issuedAt =>
    .object [("MembershipCertificate", .object
      [("subject_peer_id", .bytes subjectPeerId.bytes), ("issued_at", .number issuedAt)])]
  | .capabilityGrant subjectPeerId sequence =>
    .object [("CapabilityGrant", .object
      [("subject_peer_id", .bytes subjectPeerId.bytes), ("sequence", .number sequence)])]
  | .peer peerId => .object [("Peer", .object [("peer_id", .bytes peerId.bytes)])]

structure RevocationRecord where
  networkId : NetworkId
  issuerPeerId : PeerId
  target : RevocationTarget
  reason : RevocationReason
  issuedAt : ℕ
  effectiveAt : ℕ
  sequence : ℕ
  note : Option String
  signature : SignatureBytes
deriving DecidableEq, Repr

namespace RevocationRecord

def unsigned (record : RevocationRecord) : Json :=
  .object [("network_id", .bytes record.networkId.bytes.toList),
    ("issuer_peer_id", .bytes record.issuerPeerId.bytes),
    ("target", record.target.json),
    ("reason", .string record.reason.debug),
    ("issued_at", .number record.issuedAt),
    ("effective_at", .number record.effectiveAt),
    ("sequence", .number record.sequence),
    ("note", .option .string record.note)]

def issue (issuer : IdentityKeypair) (networkId : NetworkId) (target : RevocationTarget)
    (reason : RevocationReason) (issuedAt effectiveAt sequence : ℕ) (note : Option String) :
    RevocationRecord :=
  let record : RevocationRecord := ⟨networkId, issuer.peerId, target, reason, issuedAt, effectiveAt,
    sequence, note, ⟨[]⟩⟩
  { record with signature := issuer.sign (canonicalJson record.unsigned) }

def verify (record : RevocationRecord) (issuerKey : PublicIdentityKey)
    (expectedNetwork : NetworkId) (nowEpochSecs : ℕ) : Except MembershipError Unit :=
  if record.networkId ≠ expectedNetwork then .error .subjectMismatch
  else if nowEpochSecs < record.effectiveAt then .error .notYetValid
  else (record.signature.verify issuerKey (canonicalJson record.unsigned)).mapError
    fun _ => .invalidSignature

@[simp] theorem issue_sequence (issuer : IdentityKeypair) (networkId : NetworkId)
    (target : RevocationTarget) (reason : RevocationReason) (issuedAt effectiveAt sequence : ℕ)
    (note : Option String) :
    (issue issuer networkId target reason issuedAt effectiveAt sequence note).sequence =
      sequence := rfl

end RevocationRecord

end QuipNet
