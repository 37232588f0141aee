import QuipNet.Crypto
import QuipNet.Library.File

/-!
# The encrypted identity file

`FileKeystore` of the crate `identity` and the daemon's `load_or_init_identity`.
The key derivation, the cipher, base64 and the parser of the file are third-party
code; they are the fields of `Sealing`. What the operating system answers during
one start of the daemon and the bytes drawn from its generator are a `Machine`.
-/

namespace QuipNet.Identity
open QuipNet.Library.Effect QuipNet.Library.File

structure EncryptedKeyFile where
  version : ℕ
  kdf : String
  salt : Vector UInt8 16
  nonce : Vector UInt8 12
  ciphertext : String
  publicKeyHash : String
deriving DecidableEq, Repr

def EncryptedKeyFile.json (blob : EncryptedKeyFile) : Json :=
  .object [("version", .number blob.version), ("kdf", .string blob.kdf),
    ("salt", .bytes blob.salt.toList), ("nonce", .bytes blob.nonce.toList),
    ("ciphertext", .string blob.ciphertext), ("public_key_hash", .string blob.publicKeyHash)]

/-- scrypt with its recommended parameters, ChaCha20-Poly1305, base64, and
`serde_json::from_slice` of an `EncryptedKeyFile` with the text of its error. -/
class Sealing where
  scrypt : List UInt8 → Vector UInt8 16 → Option (Vector UInt8 32)
  encrypt : Vector UInt8 32 → Vector UInt8 12 → List UInt8 → Option (List UInt8)
  decrypt : Vector UInt8 32 → Vector UInt8 12 → List UInt8 → Option (List UInt8)
  base64Encode : List UInt8 → String
  base64Decode : String → Option (List UInt8)
  parseKeyFile : List UInt8 → Except String EncryptedKeyFile

inductive IdentityError
  | io (text : String)
  | serialization (text : String)
  | invalidKeystore
  | keyDerivation
deriving DecidableEq, Repr

def IdentityError.text : IdentityError → String
  | .io text => "io error: " ++ text
  | .serialization text => "serialization error: " ++ text
  | .invalidKeystore => "invalid keystore passphrase or ciphertext"
  | .keyDerivation => "scrypt key derivation failed"

structure Machine where
  missing : String := "No such file or directory (os error 2)"
  denied : Option String := none
  createDirAll : Except String Unit := .ok ()
  writeAnswer : WriteAnswer String := .complete
  secret : Vector UInt8 32
  salt : Vector UInt8 16
  nonce : Vector UInt8 12

def orInvalid {α : Type} : Option α → Except IdentityError α
  | some value => .ok value
  | none => .error .invalidKeystore

theorem eq_some_of_orInvalid {α : Type} {answer : Option α} {value : α}
    (h : orInvalid answer = .ok value) : answer = some value := by
  cases answer with
  | none => cases h
  | some found =>
    cases h
    rfl

section Sealed
variable [Sealing]

def deriveFileKey (passphrase : List UInt8) (salt : Vector UInt8 16) :
    Except IdentityError (Vector UInt8 32) :=
  match Sealing.scrypt passphrase salt with
  | some key => .ok key
  | none => .error .keyDerivation

theorem eq_some_of_deriveFileKey {passphrase : List UInt8} {salt : Vector UInt8 16}
    {key : Vector UInt8 32} (h : deriveFileKey passphrase salt = .ok key) :
    Sealing.scrypt passphrase salt = some key := by
  unfold deriveFileKey at h
  cases hkey : Sealing.scrypt passphrase salt with
  | none => simp [hkey] at h
  | some found => simpa [hkey] using h

namespace FileKeystore

def load (machine : Machine) (passphrase : String) (contents : Contents) :
    Except IdentityError IdentityKeypair := do
  let bytes ← (read machine.missing machine.denied contents).mapError .io
  let blob ← (Sealing.parseKeyFile bytes).mapError .serialization
  let key ← deriveFileKey (asBytes passphrase) blob.salt
  let ciphertext ← orInvalid (Sealing.base64Decode blob.ciphertext)
  let plaintext ← orInvalid (Sealing.decrypt key blob.nonce ciphertext)
  if h : plaintext.length = 32 then .ok (.fromSecretBytes ⟨⟨plaintext⟩, h⟩)
  else .error .invalidKeystore

variable [Primitives]

/-- What `store` writes for this key pair, or the error before it writes. -/
def sealed (machine : Machine) (keypair : IdentityKeypair) (passphrase : String) :
    Except IdentityError EncryptedKeyFile := do
  let key ← deriveFileKey (asBytes passphrase) machine.salt
  let ciphertext ← orInvalid (Sealing.encrypt key machine.nonce keypair.secret.toList)
  pure { version := 1, kdf := "scrypt", salt := machine.salt, nonce := machine.nonce,
         ciphertext := Sealing.base64Encode ciphertext,
         publicKeyHash := String.ofList
          ((Primitives.blake3 keypair.publicKey.bytes).toList.flatMap hexByte) }

def store (machine : Machine) (keypair : IdentityKeypair) (passphrase : String) :
    EStateM IdentityError Contents Unit := do
  match sealed machine keypair passphrase with
  | .ok blob => mapError .io (write machine.writeAnswer (prettyJson blob.json))
  | .error error => throw error

end FileKeystore

inductive InitError
  | io (text : String)
  | identity (error : IdentityError)
deriving DecidableEq, Repr

/-- `passphraseEnv` is the name of the variable and `passphrase` its value. Any error
of `load` leads to the branch that stores a fresh key. -/
def loadOrInitIdentity [Primitives] (machine : Machine) (passphraseEnv : String)
    (passphrase : Option String) : EStateM InitError Contents IdentityKeypair := do
  match passphrase with
  | none => throw (.io ("identity passphrase env var " ++ passphraseEnv ++ " must be set"))
  | some passphrase =>
    match FileKeystore.load machine passphrase (← get) with
    | .ok identity => pure identity
    | .error _ =>
      match machine.createDirAll with
      | .error text => throw (.io text)
      | .ok () =>
        let identity := IdentityKeypair.fromSecretBytes machine.secret
        mapError .identity (FileKeystore.store machine identity passphrase)
        pure identity

section RoundTrip
variable [Primitives] {machine : Machine} {keypair : IdentityKeypair} {passphrase : String}

theorem sealed_ok {blob : EncryptedKeyFile}
    (h : FileKeystore.sealed machine keypair passphrase = .ok blob) :
    ∃ key ciphertext, Sealing.scrypt (asBytes passphrase) machine.salt = some key ∧
      Sealing.encrypt key machine.nonce keypair.secret.toList = some ciphertext ∧
      blob.salt = machine.salt ∧ blob.nonce = machine.nonce ∧
      blob.ciphertext = Sealing.base64Encode ciphertext := by
  obtain ⟨key, hkey, h⟩ := except_bind_eq_ok h
  obtain ⟨ciphertext, hcipher, h⟩ := except_bind_eq_ok h
  cases h
  exact ⟨key, ciphertext, eq_some_of_deriveFileKey hkey, eq_some_of_orInvalid hcipher,
    rfl, rfl, rfl⟩

theorem store_ok {contents stored : Contents}
    (h : FileKeystore.store machine keypair passphrase contents = .ok () stored) :
    ∃ blob, FileKeystore.sealed machine keypair passphrase = .ok blob ∧
      stored = some (prettyJson blob.json) := by
  unfold FileKeystore.store at h
  cases hsealed : FileKeystore.sealed machine keypair passphrase with
  | error error => simp [hsealed] at h
  | ok blob =>
    refine ⟨blob, rfl, ?_⟩
    cases hanswer : machine.writeAnswer <;> simp [hsealed, hanswer, write, mapError] at h
    exact h.symm

theorem load_store
    (decode_encode : ∀ bytes, Sealing.base64Decode (Sealing.base64Encode bytes) = some bytes)
    (decrypt_encrypt : ∀ key nonce plaintext ciphertext,
      Sealing.encrypt key nonce plaintext = some ciphertext →
        Sealing.decrypt key nonce ciphertext = some plaintext)
    (parse_pretty : ∀ blob : EncryptedKeyFile,
      Sealing.parseKeyFile (prettyJson blob.json) = .ok blob)
    {later : Machine} (hreadable : later.denied = none) {contents stored : Contents}
    (h : FileKeystore.store machine keypair passphrase contents = .ok () stored) :
    FileKeystore.load later passphrase stored = .ok keypair := by
  obtain ⟨blob, hsealed, rfl⟩ := store_ok h
  obtain ⟨key, ciphertext, hkey, hcipher, hsalt, hnonce, htext⟩ := sealed_ok hsealed
  have hplain := decrypt_encrypt _ _ _ _ hcipher
  simp [FileKeystore.load, bind, Except.bind, Except.mapError, hreadable, parse_pretty,
    deriveFileKey, hkey, hsalt, hnonce, htext, decode_encode, hplain, orInvalid,
    IdentityKeypair.fromSecretBytes]
  rfl

end RoundTrip

section Existing
variable [Primitives] {machine : Machine} {env passphrase : String} {contents : Contents}

/-- Storing a fresh key stops before it changes the file: its directory or its key
cannot be made, the cipher refuses, or the old bytes survive the write. -/
def StoreStops (machine : Machine) (passphrase : String) (contents : Contents) : Prop :=
  match machine.createDirAll,
      FileKeystore.sealed machine (.fromSecretBytes machine.secret) passphrase with
  | .error _, _ => True
  | .ok _, .error _ => True
  | .ok _, .ok blob => Survives machine.writeAnswer (prettyJson blob.json) contents

theorem loadOrInitIdentity_of_loads {identity : IdentityKeypair}
    (h : FileKeystore.load machine passphrase contents = .ok identity) :
    loadOrInitIdentity machine env (some passphrase) contents = .ok identity contents := by
  simp only [loadOrInitIdentity, bind_run, get_run, h, pure_run]

theorem loadOrInitIdentity_unchanged_iff {error : IdentityError}
    (h : FileKeystore.load machine passphrase contents = .error error) :
    (∃ failure, loadOrInitIdentity machine env (some passphrase) contents =
      .error failure contents) ↔ StoreStops machine passphrase contents := by
  cases hdir : machine.createDirAll with
  | error text => simp [loadOrInitIdentity, StoreStops, h, hdir]
  | ok _ =>
    cases hsealed : FileKeystore.sealed machine (.fromSecretBytes machine.secret) passphrase with
    | error failure =>
      simp [loadOrInitIdentity, StoreStops, FileKeystore.store, mapError, h, hdir, hsealed]
    | ok blob =>
      simp only [StoreStops, hdir, hsealed, ← write_error_unchanged_iff]
      cases hwrite : write machine.writeAnswer (prettyJson blob.json) contents <;>
        simp [loadOrInitIdentity, FileKeystore.store, mapError, h, hdir, hsealed, hwrite]

/-- An identity file that does not load makes the start fail and is left alone; the
contents of the file change only where there was none. -/
def KeepsExisting (machine : Machine) (env : String) (passphrase : Option String)
    (contents : Contents) : Prop :=
  (∀ text error, passphrase = some text → contents.isSome →
    FileKeystore.load machine text contents = .error error →
      ∃ failure, loadOrInitIdentity machine env passphrase contents = .error failure contents) ∧
  (final (loadOrInitIdentity machine env passphrase) contents ≠ contents → contents = none)

theorem keepsExisting_iff (machine : Machine) (env : String) (passphrase : Option String)
    (contents : Contents) :
    KeepsExisting machine env passphrase contents ↔
      contents = none ∨ ∀ text, passphrase = some text →
        (∃ identity, FileKeystore.load machine text contents = .ok identity) ∨
          StoreStops machine text contents := by
  constructor
  · rintro ⟨hkeeps, -⟩
    refine or_iff_not_imp_left.mpr fun hexists text htext => ?_
    cases hload : FileKeystore.load machine text contents with
    | ok identity => exact .inl ⟨identity, rfl⟩
    | error error =>
      subst htext
      have hfails := hkeeps text error rfl (Option.isSome_iff_ne_none.mpr hexists) hload
      exact .inr ((loadOrInitIdentity_unchanged_iff hload).mp hfails)
  · intro hwhen
    refine ⟨fun text error htext hsome hload => ?_, fun hchanged => ?_⟩
    · subst htext
      rcases hwhen with hnone | hwhen
      · simp [hnone] at hsome
      · rcases hwhen text rfl with ⟨identity, hloads⟩ | hstops
        · rw [hload] at hloads
          cases hloads
        · exact (loadOrInitIdentity_unchanged_iff hload).mpr hstops
    · by_contra hexists
      refine hchanged ?_
      cases passphrase with
      | none => rfl
      | some text =>
        rcases (hwhen.resolve_left hexists) text rfl with ⟨identity, hloads⟩ | hstops
        · exact final_of_ok (loadOrInitIdentity_of_loads hloads)
        · cases hload : FileKeystore.load machine text contents with
          | ok identity => exact final_of_ok (loadOrInitIdentity_of_loads hload)
          | error error =>
            have hunchanged : ∃ failure, loadOrInitIdentity machine env (some text) contents =
                .error failure contents := (loadOrInitIdentity_unchanged_iff hload).mpr hstops
            obtain ⟨failure, hfails⟩ := hunchanged
            exact final_of_error hfails

end Existing

end Sealed

section Closed
attribute [local instance] Primitives.transparent

/-- Crates for a closed input: the derived key is the passphrase, padded, and the
cipher appends a tag of zeros. The parser knows only the empty file. -/
@[reducible] def Sealing.transparent : Sealing where
  scrypt passphrase _ := some (Vector.ofFn fun i : Fin 32 => passphrase.getD i 0)
  encrypt _ _ plaintext := some (plaintext ++ List.replicate 16 0)
  decrypt _ _ ciphertext := some (ciphertext.take (ciphertext.length - 16))
  base64Encode bytes := String.ofList (bytes.flatMap hexByte)
  base64Decode _ := none
  parseKeyFile _ := .error "EOF while parsing a value at line 1 column 0"

attribute [local instance] Sealing.transparent

def freshMachine : Machine where
  secret := Vector.replicate 32 7
  salt := Vector.replicate 16 1
  nonce := Vector.replicate 12 2

theorem truncated_identity_replaced :
    ¬ KeepsExisting freshMachine "QUIP_IDENTITY_PASSPHRASE" (some "horse") (some []) := by
  intro hkeeps
  have hload : FileKeystore.load freshMachine "horse" (some []) =
      .error (.serialization "EOF while parsing a value at line 1 column 0") := rfl
  obtain ⟨failure, hfails⟩ := hkeeps.1 "horse" _ rfl rfl hload
  cases hfails

end Closed

end QuipNet.Identity
