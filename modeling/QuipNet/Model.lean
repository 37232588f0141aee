import Mathlib

/-!
# Identifiers shared by every crate

Peer, network, protocol and session identifiers with their text forms, and the
closed enumerations of traffic classes and path kinds. Hashing and signing are
third-party code; they enter as the fields of `Primitives` and nothing below
assumes more of them than their types.
-/

open Std
namespace QuipNet

/-- BLAKE3, Ed25519 and X25519 as the crates call them. -/
class Primitives where
  blake3 : List UInt8 → Vector UInt8 32
  ed25519Public : Vector UInt8 32 → Vector UInt8 32
  ed25519Sign : Vector UInt8 32 → List UInt8 → Vector UInt8 64
  ed25519Verify : Vector UInt8 32 → List UInt8 → Vector UInt8 64 → Bool
  x25519Public : Vector UInt8 32 → Vector UInt8 32

/-- A readable stand-in for closed inputs: the digest of a payload of at most 32
bytes is the payload, and a signature is the signer's public key, twice. -/
@[reducible] def Primitives.transparent : Primitives where
  blake3 payload := Vector.ofFn fun i : Fin 32 => payload.getD i 0
  ed25519Public secret := secret
  ed25519Sign secret _ := secret ++ secret
  ed25519Verify key _ signature := signature = key ++ key
  x25519Public secret := secret

def asBytes (text : String) : List UInt8 := text.toUTF8.toList

theorem toList_loop_eq (bytes : ByteArray) (i : ℕ) (collected : List UInt8) :
    ByteArray.toList.loop bytes i collected = collected.reverse ++ bytes.data.toList.drop i := by
  fun_induction ByteArray.toList.loop bytes i collected with
  | case1 i collected hlt ih =>
    have hi : i < bytes.data.toList.length := by simpa using hlt
    rw [ih, List.drop_eq_getElem_cons hi]
    simp [ByteArray.get!, hlt]
  | case2 i collected hge =>
    have hi : bytes.data.toList.length ≤ i := by simpa using hge
    rw [List.drop_eq_nil_of_le hi, List.append_nil]

theorem asBytes_eq (text : String) : asBytes text = text.toByteArray.data.toList :=
  toList_loop_eq text.toByteArray 0 []

theorem asBytes_ofList (chars : List Char) :
    asBytes (String.ofList chars) = chars.flatMap String.utf8EncodeChar := by
  rw [asBytes_eq, String.toByteArray_ofList]
  exact List.toList_data_toByteArray

theorem asBytes_injective : Function.Injective asBytes := by
  intro a b h
  rw [asBytes_eq, asBytes_eq] at h
  exact String.toByteArray_inj.mp (ByteArray.ext (Array.toList_inj.mp h))

/-- `str::starts_with` and `str::contains` on the character lists, so that they
evaluate by structural recursion. -/
def startsWith (text pattern : String) : Bool := pattern.toList.isPrefixOf text.toList
def contains (text pattern : String) : Bool :=
  text.toList.tails.any (fun rest => pattern.toList.isPrefixOf rest)

/-- The code points with the Unicode property `White_Space`. -/
def isWhiteSpace (c : Char) : Bool :=
  let n := c.toNat
  (0x09 ≤ n && n ≤ 0x0D) || n == 0x20 || n == 0x85 || n == 0xA0 || n == 0x1680 ||
    (0x2000 ≤ n && n ≤ 0x200A) || n == 0x2028 || n == 0x2029 || n == 0x202F || n == 0x205F ||
    n == 0x3000

def trim (text : String) : String :=
  String.ofList (((text.toList.dropWhile isWhiteSpace).reverse.dropWhile isWhiteSpace).reverse)

inductive KeyAlgorithm
  | ed25519
  | x25519
deriving DecidableEq, Repr

def KeyAlgorithm.codec : KeyAlgorithm → ℕ
  | .ed25519 => 0xED
  | .x25519 => 0xEC

/-- Unsigned LEB128. A `u64` never needs more than ten groups of seven bits. -/
def varint : (groups : ℕ) → ℕ → List UInt8
  | 0, _ => []
  | groups + 1, n =>
    if n < 128 then [UInt8.ofNat n]
    else UInt8.ofNat (n % 128 + 128) :: varint groups (n / 128)

def u64Varint (n : ℕ) : List UInt8 := varint 10 n

def bitsOfByte (byte : UInt8) : List Bool :=
  (List.range 8).map (fun i => byte.toNat.testBit (7 - i))

def base32Alphabet : List Char := "abcdefghijklmnopqrstuvwxyz234567".toList

def base32Digit (bits : List Bool) : Char :=
  let padded := bits ++ List.replicate (5 - bits.length) false
  base32Alphabet.getD (padded.foldl (fun n bit => 2 * n + bit.toNat) 0) 'a'

def base32 (bytes : List UInt8) : String :=
  String.ofList (((bytes.flatMap bitsOfByte).toChunks 5).map base32Digit)

def bitsOfDigit (digit : ℕ) : List Bool := (List.range 5).map (fun i => digit.testBit (4 - i))

def byteOfBits (bits : List Bool) : UInt8 :=
  UInt8.ofNat (bits.foldl (fun n bit => 2 * n + bit.toNat) 0)

/-- `BASE32_NOPAD.decode(text.to_ascii_uppercase())`: the length must be one that an
encoding can have, and the bits after the last whole byte must be zero. -/
def base32Decode (text : String) : Option (List UInt8) := do
  let digits ← text.toList.mapM fun c => base32Alphabet.idxOf? c.toLower
  let bits := digits.flatMap bitsOfDigit
  let whole := bits.length / 8 * 8
  if digits.length % 8 ∈ [0, 2, 4, 5, 7] ∧ (bits.drop whole).all (! ·) then
    some (((bits.take whole).toChunks 8).map byteOfBits)
  else none

def hexDigit (n : ℕ) : Char := "0123456789abcdef".toList.getD n '0'

def hexByte (byte : UInt8) : List Char := [hexDigit (byte.toNat / 16), hexDigit (byte.toNat % 16)]

structure PeerId where
  bytes : List UInt8
deriving DecidableEq, Repr

namespace PeerId

instance : Ord PeerId := ⟨compareOn PeerId.bytes⟩
instance : TransOrd PeerId := inferInstanceAs (TransCmp (compareOn PeerId.bytes))
instance : LawfulEqOrd PeerId where
  eq_of_compare {a b} h := by
    cases a
    cases b
    exact congrArg PeerId.mk (LawfulEqOrd.eq_of_compare (α := List UInt8) h)

def encodeMultihash [Primitives] (payload : List UInt8) : List UInt8 :=
  let digest := (Primitives.blake3 payload).toList
  u64Varint 0x1E ++ u64Varint digest.length ++ digest

def fromPublicKey [Primitives] (algorithm : KeyAlgorithm) (publicKey : List UInt8) : PeerId :=
  ⟨u64Varint algorithm.codec ++ encodeMultihash publicKey⟩

def toText (peer : PeerId) : String := "peer1" ++ base32 peer.bytes

def parse (value : String) : Option PeerId :=
  if startsWith value "peer1" then
    (base32Decode (String.ofList (value.toList.drop 5))).map PeerId.mk
  else none

end PeerId

structure NetworkId where
  bytes : Vector UInt8 32
deriving DecidableEq, Repr

def NetworkId.derive [Primitives] (scope : String) : NetworkId :=
  ⟨Primitives.blake3 (asBytes "quip:network-id:v1" ++ asBytes scope)⟩

inductive TypeError
  | invalidPeerIdPrefix
  | invalidPeerIdEncoding (detail : String)
  | invalidProtocolId
deriving DecidableEq, Repr

def TypeError.text : TypeError → String
  | .invalidPeerIdPrefix => "peer id text prefix is invalid"
  | .invalidPeerIdEncoding detail => "peer id encoding is invalid: " ++ detail
  | .invalidProtocolId => "protocol id must start with '/' and contain at least one namespace"

/-- Deserialization does not run `ProtocolId::new`, so any text can occur. -/
structure ProtocolId where
  text : String
deriving DecidableEq, Repr

def ProtocolId.new (value : String) : Except TypeError ProtocolId :=
  if !startsWith value "/" || value.toList.count '/' < 2 then .error .invalidProtocolId
  else .ok ⟨value⟩

/-- `[u8; 16]`, the key of every session table. -/
structure SessionId where
  bytes : Vector UInt8 16
deriving DecidableEq, Repr

namespace SessionId

instance : Ord SessionId := ⟨compareOn fun id => id.bytes.toList⟩
instance : TransOrd SessionId :=
  inferInstanceAs (TransCmp (compareOn fun id : SessionId => id.bytes.toList))
instance : LawfulEqOrd SessionId where
  eq_of_compare {a b} h := by
    cases a
    cases b
    have hbytes := LawfulEqOrd.eq_of_compare (α := List UInt8) h
    simpa [Vector.toList_inj] using hbytes

def fill (byte : UInt8) : SessionId := ⟨Vector.replicate 16 byte⟩

def hex (id : SessionId) : String := String.ofList (id.bytes.toList.flatMap hexByte)

end SessionId

inductive TrafficClass
  | control
  | interactive
  | bulk
  | background
deriving DecidableEq, Repr

def TrafficClass.debug : TrafficClass → String
  | .control => "Control"
  | .interactive => "Interactive"
  | .bulk => "Bulk"
  | .background => "Background"

def TrafficClass.label : TrafficClass → String
  | .control => "control"
  | .interactive => "interactive"
  | .bulk => "bulk"
  | .background => "background"

inductive PathKind
  | directUdp
  | directIpv6
  | relay
  | loopback
  | lan
deriving DecidableEq, Repr

def PathKind.debug : PathKind → String
  | .directUdp => "DirectUdp"
  | .directIpv6 => "DirectIpv6"
  | .relay => "Relay"
  | .loopback => "Loopback"
  | .lan => "Lan"

end QuipNet
