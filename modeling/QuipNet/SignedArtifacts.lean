import QuipNet.JsonText
import QuipNet.Membership

/-!
# What a signature is made for

Six types are signed over the compact encoding of their unsigned fields, without a tag
for the type. The encodings are told apart by their field names, and within one type the
encoding determines every unsigned field.
-/

open Std
namespace QuipNet

structure RecordNamespace where
  text : String
deriving DecidableEq, Repr

structure SignedRecord where
  networkId : NetworkId
  recordNamespace : RecordNamespace
  recordType : String
  schemaVersion : ℕ
  authorPeerId : PeerId
  sequence : ℕ
  issuedAt : ℕ
  expiresAt : ℕ
  previousHash : Option (Vector UInt8 32)
  payloadHash : Vector UInt8 32
  payload : List UInt8
  signature : SignatureBytes
deriving DecidableEq, Repr

inductive RecordError
  | invalidSignature
  | payloadHashMismatch
deriving DecidableEq, Repr

namespace SignedRecord

def unsigned (record : SignedRecord) : Json :=
  .object [("network_id", .bytes record.networkId.bytes.toList),
    ("namespace", .string record.recordNamespace.text),
    ("record_type", .string record.recordType),
    ("schema_version", .number record.schemaVersion),
    ("author_peer_id", .bytes record.authorPeerId.bytes),
    ("sequence", .number record.sequence),
    ("issued_at", .number record.issuedAt),
    ("expires_at", .number record.expiresAt),
    ("previous_hash", .option (fun hash => .bytes hash.toList) record.previousHash),
    ("payload_hash", .bytes record.payloadHash.toList),
    ("payload", .bytes record.payload)]

def sign [Primitives] (networkId : NetworkId) (recordNamespace : RecordNamespace) (recordType : String)
    (schemaVersion : ℕ) (author : IdentityKeypair) (sequence issuedAt expiresAt : ℕ)
    (previousHash : Option (Vector UInt8 32)) (payload : List UInt8) : SignedRecord :=
  let record : SignedRecord := ⟨networkId, recordNamespace, recordType, schemaVersion, author.peerId,
    sequence, issuedAt, expiresAt, previousHash, Primitives.blake3 payload, payload, ⟨[]⟩⟩
  { record with signature := author.sign (canonicalJson record.unsigned) }

def verify [Primitives] (record : SignedRecord) (key : PublicIdentityKey) : Except RecordError Unit :=
  if Primitives.blake3 record.payload ≠ record.payloadHash then .error .payloadHashMismatch
  else (record.signature.verify key (canonicalJson record.unsigned)).mapError
    fun _ => .invalidSignature

end SignedRecord

/-! ## Encoded fields -/

namespace Json

theorem bytes_injective : Function.Injective bytes := by
  intro values values' h
  refine List.map_injective_iff.mpr ?_ (Json.array.inj h)
  intro value value' hvalue
  exact UInt8.toNat_inj.mp (Json.number.inj hvalue)

theorem vector_injective {n : ℕ} :
    Function.Injective fun values : Vector UInt8 n => bytes values.toList :=
  fun _ _ h => Vector.toList_inj.mp (bytes_injective h)

theorem peer_injective : Function.Injective fun peer : PeerId => bytes peer.bytes := by
  rintro ⟨values⟩ ⟨values'⟩ h
  exact congrArg PeerId.mk (bytes_injective h)

theorem network_injective : Function.Injective fun id : NetworkId => bytes id.bytes.toList := by
  rintro ⟨values⟩ ⟨values'⟩ h
  exact congrArg NetworkId.mk (vector_injective h)

theorem strings_injective : Function.Injective strings := by
  intro values values' h
  refine List.map_injective_iff.mpr ?_ (Json.array.inj h)
  intro value value' hvalue
  exact Json.string.inj hvalue

theorem option_injective {α : Type} {encode : α → Json} (hencode : Function.Injective encode)
    (hnull : ∀ value, encode value ≠ .null) : Function.Injective (option encode) := by
  intro value value' h
  cases value with
  | none =>
    cases value' with
    | none => rfl
    | some value' => exact absurd h.symm (hnull value')
  | some value =>
    cases value' with
    | none => exact absurd h (hnull value)
    | some value' => exact congrArg some (hencode h)

end Json

/-! ## Unsigned fields -/

/-- Equal as `BTreeMap`s and not as trees. -/
structure BootstrapHint.Same (hint hint' : BootstrapHint) : Prop where
  peerId : hint.peerId = hint'.peerId
  addresses : hint.addresses = hint'.addresses
  metadata : hint.metadata.Equiv hint'.metadata

theorem BootstrapHint.json_same {hint hint' : BootstrapHint} (h : hint.json = hint'.json) :
    hint.Same hint' := by
  simp only [BootstrapHint.json, Json.object.injEq, List.cons.injEq, Prod.mk.injEq, true_and,
    and_true] at h
  obtain ⟨hpeer, haddresses, hmetadata⟩ := h
  refine ⟨?_, Json.strings_injective haddresses, ?_⟩
  · exact Json.option_injective Json.peer_injective (fun _ => Json.noConfusion) hpeer
  · rw [TreeMap.equiv_iff_toList_eq]
    refine List.map_injective_iff.mpr ?_ hmetadata
    rintro ⟨key, value⟩ ⟨key', value'⟩ hentry
    simpa using hentry

theorem hints_same {hints hints' : List BootstrapHint}
    (h : hints.map BootstrapHint.json = hints'.map BootstrapHint.json) :
    List.Forall₂ BootstrapHint.Same hints hints' := by
  induction hints generalizing hints' with
  | nil =>
    rw [List.map_nil, List.nil_eq, List.map_eq_nil_iff] at h
    rw [h]
    exact .nil
  | cons hint hints ih =>
    cases hints' with
    | nil => cases h
    | cons hint' hints' =>
      obtain ⟨hhint, hrest⟩ := List.cons.inj h
      exact .cons (BootstrapHint.json_same hhint) (ih hrest)

/-- The `token_id` is not signed. -/
def EnrollmentToken.SameUnsigned (token token' : EnrollmentToken) : Prop :=
  { token with
      tokenId := token'.tokenId
      bootstrapHints := token'.bootstrapHints
      signature := token'.signature } = token' ∧
    List.Forall₂ BootstrapHint.Same token.bootstrapHints token'.bootstrapHints

theorem EnrollmentToken.unsigned_same {token token' : EnrollmentToken}
    (h : token.unsigned = token'.unsigned) : token.SameUnsigned token' := by
  simp only [EnrollmentToken.unsigned, Json.object.injEq, List.cons.injEq, Prod.mk.injEq, true_and,
    and_true, Json.number.injEq, Json.string.injEq, Json.array.injEq] at h
  obtain ⟨hnetwork, hissuer, hissued, hexpires, hrealm, hsubject, hroles, hhints, hnonce⟩ := h
  refine ⟨?_, hints_same hhints⟩
  cases token
  cases token'
  simp only [EnrollmentToken.mk.injEq, true_and, and_true]
  exact ⟨Json.network_injective hnetwork, Json.peer_injective hissuer, hissued, hexpires, hrealm,
    Json.option_injective (fun _ _ => Json.string.inj) (fun _ => Json.noConfusion) hsubject,
    Json.strings_injective hroles, Json.vector_injective hnonce⟩

theorem MembershipCertificate.unsigned_same {certificate certificate' : MembershipCertificate}
    (h : certificate.unsigned = certificate'.unsigned) :
    { certificate with signature := certificate'.signature } = certificate' := by
  simp only [MembershipCertificate.unsigned, Json.object.injEq, List.cons.injEq, Prod.mk.injEq,
    true_and, and_true, Json.number.injEq] at h
  obtain ⟨hnetwork, hsubject, hissuer, hissued, hexpires, hroles⟩ := h
  cases certificate
  cases certificate'
  simp only [MembershipCertificate.mk.injEq, and_true]
  exact ⟨Json.network_injective hnetwork, Json.peer_injective hsubject, Json.peer_injective hissuer,
    hissued, hexpires, Json.strings_injective hroles⟩

theorem ResourceLimits.json_injective {limits limits' : ResourceLimits}
    (hbandwidth : Json.option .number limits.bandwidthBps = .option .number limits'.bandwidthBps)
    (hstreams : Json.option .number limits.concurrentStreams =
      .option .number limits'.concurrentStreams)
    (hobject : Json.option .number limits.maxObjectBytes = .option .number limits'.maxObjectBytes) :
    limits = limits' := by
  have hnumber : Function.Injective (Json.option Json.number) :=
    Json.option_injective (fun _ _ => Json.number.inj) fun _ => Json.noConfusion
  cases limits
  cases limits'
  simp only [ResourceLimits.mk.injEq]
  exact ⟨hnumber hbandwidth, hnumber hstreams, hnumber hobject⟩

theorem CapabilityGrant.unsigned_same {grant grant' : CapabilityGrant}
    (h : grant.unsigned = grant'.unsigned) :
    { grant with signature := grant'.signature } = grant' := by
  simp only [CapabilityGrant.unsigned, Json.object.injEq, List.cons.injEq, Prod.mk.injEq, true_and,
    and_true, Json.number.injEq] at h
  obtain ⟨hnetwork, hsubject, hissuer, hcapabilities, hscopes, ⟨hbandwidth, hstreams, hobject⟩,
    hconstraints, hnotBefore, hexpires, hsequence⟩ := h
  have hprotocols : Function.Injective ProtocolId.text := by
    rintro ⟨text⟩ ⟨text'⟩ htext
    exact congrArg ProtocolId.mk htext
  cases grant
  cases grant'
  simp only [CapabilityGrant.mk.injEq, and_true]
  exact ⟨Json.network_injective hnetwork, Json.peer_injective hsubject, Json.peer_injective hissuer,
    Json.strings_injective hcapabilities,
    List.map_injective_iff.mpr hprotocols (Json.strings_injective hscopes),
    ResourceLimits.json_injective hbandwidth hstreams hobject, Json.strings_injective hconstraints,
    hnotBefore, hexpires, hsequence⟩

theorem RevocationTarget.json_injective : Function.Injective RevocationTarget.json := by
  intro target target' h
  cases target <;> cases target' <;>
    simp only [RevocationTarget.json, Json.object.injEq, List.cons.injEq, Prod.mk.injEq,
      Json.number.injEq, and_true, true_and, reduceCtorEq, String.reduceEq, false_and] at h
  case enrollmentToken.enrollmentToken => exact congrArg _ (Json.vector_injective h)
  case membershipCertificate.membershipCertificate =>
    rw [Json.peer_injective h.1, h.2]
  case capabilityGrant.capabilityGrant =>
    rw [Json.peer_injective h.1, h.2]
  case peer.peer => exact congrArg _ (Json.peer_injective h)

theorem RevocationReason.debug_injective : Function.Injective RevocationReason.debug := by
  intro reason reason' h
  cases reason <;> cases reason' <;> first | rfl | exact absurd h (by decide)

theorem RevocationRecord.unsigned_same {record record' : RevocationRecord}
    (h : record.unsigned = record'.unsigned) :
    { record with signature := record'.signature } = record' := by
  simp only [RevocationRecord.unsigned, Json.object.injEq, List.cons.injEq, Prod.mk.injEq, true_and,
    and_true, Json.number.injEq, Json.string.injEq] at h
  obtain ⟨hnetwork, hissuer, htarget, hreason, hissued, heffective, hsequence, hnote⟩ := h
  cases record
  cases record'
  simp only [RevocationRecord.mk.injEq, and_true]
  exact ⟨Json.network_injective hnetwork, Json.peer_injective hissuer,
    RevocationTarget.json_injective htarget, RevocationReason.debug_injective hreason, hissued,
    heffective, hsequence,
    Json.option_injective (fun _ _ => Json.string.inj) (fun _ => Json.noConfusion) hnote⟩

theorem SignedRecord.unsigned_same {record record' : SignedRecord}
    (h : record.unsigned = record'.unsigned) :
    { record with signature := record'.signature } = record' := by
  simp only [SignedRecord.unsigned, Json.object.injEq, List.cons.injEq, Prod.mk.injEq, true_and,
    and_true, Json.number.injEq, Json.string.injEq] at h
  obtain ⟨hnetwork, hnamespace, htype, hversion, hauthor, hsequence, hissued, hexpires, hprevious,
    hhash, hpayload⟩ := h
  obtain ⟨networkId, ⟨text⟩, _, _, _, _, _, _, _, _, _, _⟩ := record
  obtain ⟨networkId', ⟨text'⟩, _, _, _, _, _, _, _, _, _, _⟩ := record'
  simp only [SignedRecord.mk.injEq, RecordNamespace.mk.injEq, and_true]
  exact ⟨Json.network_injective hnetwork, hnamespace, htype, hversion, Json.peer_injective hauthor,
    hsequence, hissued, hexpires,
    Json.option_injective Json.vector_injective (fun _ => Json.noConfusion) hprevious,
    Json.vector_injective hhash, Json.bytes_injective hpayload⟩

theorem SessionCredential.unsigned_same {credential credential' : SessionCredential}
    (h : credential.unsigned = credential'.unsigned) :
    { credential with identitySignature := credential'.identitySignature } = credential' := by
  simp only [SessionCredential.unsigned, Json.object.injEq, List.cons.injEq, Prod.mk.injEq, true_and,
    and_true, Json.number.injEq] at h
  obtain ⟨hnetwork, hpeer, hkey, hissued, hexpires, hversions, hepoch, hnonce⟩ := h
  cases credential
  cases credential'
  simp only [SessionCredential.mk.injEq, and_true]
  exact ⟨Json.network_injective hnetwork, Json.peer_injective hpeer, Json.vector_injective hkey,
    hissued, hexpires, Json.strings_injective hversions, hepoch, Json.vector_injective hnonce⟩

/-! ## All six types -/

inductive SignedArtifact
  | enrollmentToken (value : EnrollmentToken)
  | membership (value : MembershipCertificate)
  | capability (value : CapabilityGrant)
  | revocation (value : RevocationRecord)
  | record (value : SignedRecord)
  | credential (value : SessionCredential)

namespace SignedArtifact

def unsigned : SignedArtifact → Json
  | .enrollmentToken value => value.unsigned
  | .membership value => value.unsigned
  | .capability value => value.unsigned
  | .revocation value => value.unsigned
  | .record value => value.unsigned
  | .credential value => value.unsigned

/-- The bytes that are signed. -/
def canon (artifact : SignedArtifact) : List UInt8 := canonicalJson artifact.unsigned

def SameUnsigned : SignedArtifact → SignedArtifact → Prop
  | .enrollmentToken value, .enrollmentToken value' => value.SameUnsigned value'
  | .membership value, .membership value' => { value with signature := value'.signature } = value'
  | .capability value, .capability value' => { value with signature := value'.signature } = value'
  | .revocation value, .revocation value' => { value with signature := value'.signature } = value'
  | .record value, .record value' => { value with signature := value'.signature } = value'
  | .credential value, .credential value' =>
    { value with identitySignature := value'.identitySignature } = value'
  | _, _ => False

def fieldNames : SignedArtifact → List String
  | .enrollmentToken _ => ["network_id", "issuer_peer_id", "issued_at", "expires_at", "realm",
      "subject_alias", "requested_roles", "bootstrap_hints", "nonce"]
  | .membership _ => ["network_id", "subject_peer_id", "issuer_peer_id", "issued_at", "expires_at",
      "roles"]
  | .capability _ => ["network_id", "subject_peer_id", "issuer_peer_id", "capabilities",
      "protocol_scopes", "resource_limits", "constraints", "not_before", "expires_at", "sequence"]
  | .revocation _ => ["network_id", "issuer_peer_id", "target", "reason", "issued_at",
      "effective_at", "sequence", "note"]
  | .record _ => ["network_id", "namespace", "record_type", "schema_version", "author_peer_id",
      "sequence", "issued_at", "expires_at", "previous_hash", "payload_hash", "payload"]
  | .credential _ => ["network_id", "peer_id", "session_public_key", "issued_at", "expires_at",
      "protocol_versions", "key_epoch", "nonce"]

theorem unsigned_fieldNames (artifact : SignedArtifact) :
    ∃ fields, artifact.unsigned = .object fields ∧ fields.map Prod.fst = artifact.fieldNames := by
  cases artifact <;> exact ⟨_, rfl, rfl⟩

theorem fieldNames_eq {artifact artifact' : SignedArtifact}
    (h : artifact.unsigned = artifact'.unsigned) : artifact.fieldNames = artifact'.fieldNames := by
  obtain ⟨fields, heq, hnames⟩ := unsigned_fieldNames artifact
  obtain ⟨fields', heq', hnames'⟩ := unsigned_fieldNames artifact'
  rw [heq, heq'] at h
  rw [← hnames, ← hnames', Json.object.inj h]

theorem sameUnsigned_of_unsigned_eq {artifact artifact' : SignedArtifact}
    (h : artifact.unsigned = artifact'.unsigned) : artifact.SameUnsigned artifact' := by
  have hnames := fieldNames_eq h
  cases artifact <;> cases artifact'
  case enrollmentToken.enrollmentToken => exact EnrollmentToken.unsigned_same h
  case membership.membership => exact MembershipCertificate.unsigned_same h
  case capability.capability => exact CapabilityGrant.unsigned_same h
  case revocation.revocation => exact RevocationRecord.unsigned_same h
  case record.record => exact SignedRecord.unsigned_same h
  case credential.credential => exact SessionCredential.unsigned_same h
  all_goals simp [fieldNames] at hnames

/-- The signature of the payload verifies on no other payload under the signer's key. -/
def Unforgeable [Primitives] (signer : IdentityKeypair) (payload : List UInt8) : Prop :=
  ∀ other, (signer.sign payload).verify signer.publicKey other = .ok () → other = payload

theorem signed_bytes_separate [Primitives] (artifact artifact' : SignedArtifact) :
    (artifact.canon = artifact'.canon → artifact.SameUnsigned artifact') ∧
      ∀ signer, Unforgeable signer artifact.canon →
        (signer.sign artifact.canon).verify signer.publicKey artifact'.canon = .ok () →
          artifact.SameUnsigned artifact' := by
  have hcanon : artifact.canon = artifact'.canon → artifact.SameUnsigned artifact' := by
    intro h
    exact sameUnsigned_of_unsigned_eq (canonicalJson_injective h)
  refine ⟨hcanon, ?_⟩
  intro signer hunforgeable hverifies
  exact hcanon (hunforgeable artifact'.canon hverifies).symm

end SignedArtifact

section Closed

def plainMembership : SignedArtifact :=
  .membership ⟨⟨Vector.replicate 32 1⟩, ⟨[2]⟩, ⟨[3]⟩, 1700000000, 1700003600, ["member"], ⟨[]⟩⟩

@[reducible] def oneTimePrimitives : Primitives :=
  { Primitives.transparent with
    ed25519Sign := fun _ _ => Vector.replicate 64 7
    ed25519Verify := fun _ payload signature =>
      payload = plainMembership.canon && signature = Vector.replicate 64 7 }

attribute [local instance] oneTimePrimitives

theorem membership_signature_separates :
    let signer : IdentityKeypair := ⟨Vector.replicate 32 9⟩
    SignedArtifact.Unforgeable signer plainMembership.canon ∧
      (signer.sign plainMembership.canon).verify signer.publicKey plainMembership.canon = .ok () ∧
      plainMembership.SameUnsigned plainMembership := by
  intro signer
  have hunforgeable : SignedArtifact.Unforgeable signer plainMembership.canon := by
    intro other hverifies
    unfold SignatureBytes.verify at hverifies
    split_ifs at hverifies with hsignature hkey hcheck
    exact of_decide_eq_true (Bool.and_eq_true_iff.mp hcheck).1
  have hverifies : (signer.sign plainMembership.canon).verify signer.publicKey
      plainMembership.canon = .ok () := by
    have hlength : (signer.sign plainMembership.canon).bytes.length = 64 := Vector.length_toList
    have hkey : signer.publicKey.bytes.length = 32 := Vector.length_toList
    rw [SignatureBytes.verify, dif_pos hlength, dif_pos hkey]
    exact if_pos (Bool.and_eq_true_iff.mpr ⟨decide_eq_true rfl, decide_eq_true rfl⟩)
  exact ⟨hunforgeable, hverifies,
    (SignedArtifact.signed_bytes_separate _ _).2 signer hunforgeable hverifies⟩

end Closed

end QuipNet
