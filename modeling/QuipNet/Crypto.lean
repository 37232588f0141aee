import QuipNet.Json

/-!
# Identity keys and session credentials

The crates `crypto` and `identity`, without the encrypted keystore. An identity
is its 32 secret bytes; its public key, peer id and signatures are computed from
them by the primitives.
-/

namespace QuipNet

variable [Primitives]

structure PublicIdentityKey where
  algorithm : KeyAlgorithm
  bytes : List UInt8
deriving DecidableEq, Repr

def PublicIdentityKey.peerId (key : PublicIdentityKey) : PeerId :=
  PeerId.fromPublicKey key.algorithm key.bytes

structure SignatureBytes where
  bytes : List UInt8
deriving DecidableEq, Repr

inductive CryptoError
  | invalidSignature
  | invalidPublicKey
deriving DecidableEq, Repr

/-- `SignatureBytes::verify`: the signature must have 64 bytes, the key 32. The
algorithm label of the key plays no role. -/
def SignatureBytes.verify (signature : SignatureBytes) (key : PublicIdentityKey)
    (payload : List UInt8) : Except CryptoError Unit :=
  if hs : signature.bytes.length = 64 then
    if hk : key.bytes.length = 32 then
      if Primitives.ed25519Verify ⟨⟨key.bytes⟩, hk⟩ payload ⟨⟨signature.bytes⟩, hs⟩ then .ok ()
      else .error .invalidSignature
    else .error .invalidPublicKey
  else .error .invalidSignature

structure IdentityKeypair where
  secret : Vector UInt8 32
deriving DecidableEq, Repr

namespace IdentityKeypair

def fromSecretBytes (secret : Vector UInt8 32) : IdentityKeypair := ⟨secret⟩

def publicKey (keypair : IdentityKeypair) : PublicIdentityKey :=
  ⟨.ed25519, (Primitives.ed25519Public keypair.secret).toList⟩

def peerId (keypair : IdentityKeypair) : PeerId := keypair.publicKey.peerId

def sign (keypair : IdentityKeypair) (payload : List UInt8) : SignatureBytes :=
  ⟨(Primitives.ed25519Sign keypair.secret payload).toList⟩

end IdentityKeypair

/-- What `sign` makes verifies under the key of the same pair. -/
def SignaturesVerify : Prop := ∀ (secret : Vector UInt8 32) (payload : List UInt8),
  Primitives.ed25519Verify (Primitives.ed25519Public secret) payload
    (Primitives.ed25519Sign secret payload) = true

theorem IdentityKeypair.verify_sign (h : SignaturesVerify) (keypair : IdentityKeypair)
    (payload : List UInt8) : (keypair.sign payload).verify keypair.publicKey payload = .ok () := by
  have hverify := h keypair.secret payload
  have hsignature : (keypair.sign payload).bytes.length = 64 := Vector.length_toList
  have hkey : keypair.publicKey.bytes.length = 32 := Vector.length_toList
  rw [SignatureBytes.verify, dif_pos hsignature, dif_pos hkey]
  exact if_pos hverify

structure SessionCredential where
  networkId : NetworkId
  peerId : PeerId
  sessionPublicKey : Vector UInt8 32
  issuedAt : ℕ
  expiresAt : ℕ
  protocolVersions : List String
  keyEpoch : ℕ
  nonce : Vector UInt8 16
  identitySignature : SignatureBytes
deriving DecidableEq, Repr

namespace SessionCredential

def unsigned (credential : SessionCredential) : Json :=
  .object [("network_id", .bytes credential.networkId.bytes.toList),
    ("peer_id", .bytes credential.peerId.bytes),
    ("session_public_key", .bytes credential.sessionPublicKey.toList),
    ("issued_at", .number credential.issuedAt),
    ("expires_at", .number credential.expiresAt),
    ("protocol_versions", .strings credential.protocolVersions),
    ("key_epoch", .number credential.keyEpoch),
    ("nonce", .bytes credential.nonce.toList)]

def issue (networkId : NetworkId) (identity : IdentityKeypair)
    (sessionPublicKey : Vector UInt8 32) (protocolVersions : List String) (ttlSecs keyEpoch : ℕ)
    (now : ℕ) (nonce : Vector UInt8 16) : SessionCredential :=
  let credential : SessionCredential :=
    ⟨networkId, identity.peerId, sessionPublicKey, now, now + ttlSecs, protocolVersions,
      keyEpoch, nonce, ⟨[]⟩⟩
  { credential with identitySignature := identity.sign (canonicalJson credential.unsigned) }

inductive IdentityError
  | invalidKeystore
deriving DecidableEq, Repr

def IdentityError.text : IdentityError → String
  | .invalidKeystore => "invalid keystore passphrase or ciphertext"

/-- Every failure of the signature check is reported as `InvalidKeystore`. -/
def verify (credential : SessionCredential) (key : PublicIdentityKey) :
    Except IdentityError Unit :=
  match credential.identitySignature.verify key (canonicalJson credential.unsigned) with
  | .ok _ => .ok ()
  | .error _ => .error .invalidKeystore

end SessionCredential

end QuipNet
