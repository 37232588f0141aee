import QuipNet.DurableState
import QuipNet.Keystore

/-!
# Backup bundles

The export of the identity file and the state file into an encrypted bundle, and the restore
from it. The cipher, the key derivation, base64, SHA-256 and the decoders of JSON are
third-party code; they are the fields of `BackupCodec`. What the operating system answers
during a call is an argument, and the files are a map from their paths.
-/

namespace QuipNet.Backup
open QuipNet.Fabric QuipNet.Identity QuipNet.Library.Effect QuipNet.Library.File

structure DurableBackupAsset where
  concern : String
  relativePath : String
  sha256Hex : String
  bytes : UInt64
deriving DecidableEq, Repr

structure DurableBackupManifest where
  format : String
  formatVersion : UInt8
  createdAtUnixSecs : UInt64
  hostname : String
  environment : String
  network : String
  identityPath : String
  statePath : String
  authorityOrigin : Option String
  authoritySubject : Option String
  authoritySnapshot : Option String
  durableStatePresent : Bool
  durableStateValid : Bool
  assets : List DurableBackupAsset
deriving DecidableEq, Repr

structure DurableBackupBundleData where
  manifest : DurableBackupManifest
  identityFileBase64 : String
  stateFileBase64 : String
deriving DecidableEq, Repr

structure DurableBackupBundleEnvelope where
  version : UInt8
  cipher : String
  kdf : String
  salt : Vector UInt8 16
  nonce : Vector UInt8 12
  ciphertext : String
deriving DecidableEq, Repr

def DurableBackupAsset.json (asset : DurableBackupAsset) : Json :=
  .object [("concern", .string asset.concern), ("relative_path", .string asset.relativePath),
    ("sha256_hex", .string asset.sha256Hex), ("bytes", .number asset.bytes.toNat)]

def optionalField (name : String) (value : Option String) : List (String × Json) :=
  (value.map fun text => (name, Json.string text)).toList

def DurableBackupManifest.json (manifest : DurableBackupManifest) : Json :=
  .object ([("format", .string manifest.format),
      ("format_version", .number manifest.formatVersion.toNat),
      ("created_at_unix_secs", .number manifest.createdAtUnixSecs.toNat),
      ("hostname", .string manifest.hostname), ("environment", .string manifest.environment),
      ("network", .string manifest.network), ("identity_path", .string manifest.identityPath),
      ("state_path", .string manifest.statePath)] ++
    optionalField "authority_origin" manifest.authorityOrigin ++
    optionalField "authority_subject" manifest.authoritySubject ++
    optionalField "authority_snapshot" manifest.authoritySnapshot ++
    [("durable_state_present", .bool manifest.durableStatePresent),
      ("durable_state_valid", .bool manifest.durableStateValid),
      ("assets", .array (manifest.assets.map DurableBackupAsset.json))])

def DurableBackupBundleData.json (bundle : DurableBackupBundleData) : Json :=
  .object [("manifest", bundle.manifest.json),
    ("identity_file_base64", .string bundle.identityFileBase64),
    ("state_file_base64", .string bundle.stateFileBase64)]

def DurableBackupBundleEnvelope.json (envelope : DurableBackupBundleEnvelope) : Json :=
  .object [("version", .number envelope.version.toNat), ("cipher", .string envelope.cipher),
    ("kdf", .string envelope.kdf), ("salt", .bytes envelope.salt.toList),
    ("nonce", .bytes envelope.nonce.toList), ("ciphertext", .string envelope.ciphertext)]

/-- SHA-256 and the decoders, with the texts of their errors, besides the crates that seal. -/
class BackupCodec extends Sealing where
  sha256 : List UInt8 → Vector UInt8 32
  parseEnvelope : List UInt8 → Except String DurableBackupBundleEnvelope
  parseBundle : List UInt8 → Except String DurableBackupBundleData
  parseValue : List UInt8 → Except String Value
  decodeState : Value → Except String DaemonState

inductive BackupError
  | durable (error : DaemonStateError)
  | invalidBackupBundle
  | backupKeyDerivation
deriving DecidableEq, Repr

def BackupError.text : BackupError → String
  | .durable error => error.text
  | .invalidBackupBundle => "backup bundle is invalid or the passphrase is incorrect"
  | .backupKeyDerivation => "backup bundle key derivation failed"

def ioError (detail : String) : BackupError := .durable (.io detail)

def orInvalidBundle {α : Type} : Option α → Except BackupError α
  | some value => .ok value
  | none => .error .invalidBackupBundle

abbrev Files := String → Contents

/-! ## Inspection -/

structure DurableStateViolation where
  path : String
  message : String
deriving DecidableEq, Repr

structure DurableStateSummary where
  network : String
  localPeerId : PeerId
  roles : List DaemonRole
  bootstrapHints : ℕ
  relays : ℕ
  peers : ℕ
  capabilityGrants : ℕ
  revocations : ℕ
  deniedPeers : ℕ
  pathCandidates : ℕ
deriving DecidableEq, Repr

structure DurableStateInspectionReport where
  statePath : String
  present : Bool
  schemaVersion : Option ℕ
  valid : Bool
  violations : List DurableStateViolation
  summary : Option DurableStateSummary
deriving DecidableEq, Repr

def durableStateSummary (state : DaemonState) : DurableStateSummary where
  network := state.network
  localPeerId := state.localPeerId
  roles := state.roles
  bootstrapHints := state.bootstrap.length
  relays := ((state.relayMap.map fun relayMap => relayMap.relays.length).getD 0)
  peers := state.peers.length
  capabilityGrants := state.capabilityGrants.length
  revocations := state.revocations.length
  deniedPeers := state.deniedPeers.length
  pathCandidates := state.pathCandidates.length

def durableStateViolationsFromError (error : DaemonStateError) : List DurableStateViolation :=
  match error with
  | .missingSchemaVersion => [⟨"$.schema_version", error.text⟩]
  | .migrationRequired _ _ => [⟨"$.schema_version", error.text⟩]
  | .unsupportedSchemaVersion _ _ => [⟨"$.schema_version", error.text⟩]
  | .unsupportedDurableField field => [⟨"$." ++ field, error.text⟩]
  | _ => [⟨"$", error.text⟩]

section Codec
variable [BackupCodec]

def inspectDurableStateFile (denied : Option String) (statePath : String) (contents : Contents) :
    Except BackupError DurableStateInspectionReport :=
  match contents with
  | none => .ok ⟨statePath, false, none, false, [⟨"$", "durable state file is missing"⟩], none⟩
  | some bytes =>
    match denied with
    | some detail => .error (ioError detail)
    | none =>
      match BackupCodec.parseValue bytes with
      | .error detail => .ok ⟨statePath, true, none, false,
          [⟨"$", "durable state is not valid JSON: " ++ detail⟩], none⟩
      | .ok value =>
        match validateDurableStateValue value with
        | .error error => .ok ⟨statePath, true, durableStateSchemaVersion value, false,
            durableStateViolationsFromError error, none⟩
        | .ok () =>
          match BackupCodec.decodeState value with
          | .error detail => .ok ⟨statePath, true, durableStateSchemaVersion value, false,
              [⟨"$", "durable state could not be deserialized: " ++ detail⟩], none⟩
          | .ok state => .ok ⟨statePath, true, durableStateSchemaVersion value, true, [],
              some (durableStateSummary state)⟩

/-! ## Sealing a bundle -/

def sha256Hex (bytes : List UInt8) : String :=
  String.ofList ((BackupCodec.sha256 bytes).toList.flatMap hexByte)

def deriveBackupKey (passphrase : List UInt8) (salt : Vector UInt8 16) :
    Except BackupError (Vector UInt8 32) :=
  match Sealing.scrypt passphrase salt with
  | some key => .ok key
  | none => .error .backupKeyDerivation

def encryptBackupBundle (bundle : DurableBackupBundleData) (passphrase : String)
    (salt : Vector UInt8 16) (nonce : Vector UInt8 12) :
    Except BackupError DurableBackupBundleEnvelope := do
  let key ← deriveBackupKey (asBytes passphrase) salt
  let ciphertext ← orInvalidBundle (Sealing.encrypt key nonce (prettyJson bundle.json))
  pure { version := 1, cipher := "chacha20poly1305", kdf := "scrypt", salt, nonce,
         ciphertext := Sealing.base64Encode ciphertext }

def decryptBackupBundle (envelope : DurableBackupBundleEnvelope) (passphrase : String) :
    Except BackupError DurableBackupBundleData :=
  if envelope.version ≠ 1 ∨ envelope.cipher ≠ "chacha20poly1305" ∨ envelope.kdf ≠ "scrypt" then
    .error .invalidBackupBundle
  else do
    let ciphertext ← orInvalidBundle (Sealing.base64Decode envelope.ciphertext)
    let key ← deriveBackupKey (asBytes passphrase) envelope.salt
    let plaintext ← orInvalidBundle (Sealing.decrypt key envelope.nonce ciphertext)
    (BackupCodec.parseBundle plaintext).mapError fun detail => .durable (.serialization detail)

/-! ## Export -/

structure DurableBackupExportRequest where
  outputPath : String
  passphrase : String
  hostname : String
  environment : String
  identityPath : String
  statePath : String
  network : String
  authorityOrigin : Option String
  authoritySubject : Option String
  authoritySnapshot : Option String
  overwrite : Bool
deriving DecidableEq, Repr

structure DurableBackupExportReport where
  bundlePath : String
  createdAtUnixSecs : UInt64
  hostname : String
  environment : String
  network : String
  identitySha256Hex : String
  stateSha256Hex : String
  durableStatePresent : Bool
  durableStateValid : Bool
deriving DecidableEq, Repr

structure ExportMachine where
  missing : String := "No such file or directory (os error 2)"
  identityDenied : Option String := none
  stateDenied : Option String := none
  inspectionDenied : Option String := none
  createDirAll : Except String Unit := .ok ()
  outputWrite : WriteAnswer String := .complete
  salt : Vector UInt8 16
  nonce : Vector UInt8 12
  now : UInt64

def bundleOf (machine : ExportMachine) (request : DurableBackupExportRequest)
    (identityBytes stateBytes : List UInt8) (durableState : DurableStateInspectionReport) :
    DurableBackupBundleData where
  manifest :=
    { format := "quip_backup_bundle"
      formatVersion := 1
      createdAtUnixSecs := machine.now
      hostname := request.hostname
      environment := request.environment
      network := request.network
      identityPath := request.identityPath
      statePath := request.statePath
      authorityOrigin := request.authorityOrigin
      authoritySubject := request.authoritySubject
      authoritySnapshot := request.authoritySnapshot
      durableStatePresent := durableState.present
      durableStateValid := durableState.valid
      assets := [
        { concern := "identity"
          relativePath := "identity/node.json"
          sha256Hex := sha256Hex identityBytes
          bytes := UInt64.ofNat identityBytes.length },
        { concern := "network_state"
          relativePath := "net/state.json"
          sha256Hex := sha256Hex stateBytes
          bytes := UInt64.ofNat stateBytes.length }] }
  identityFileBase64 := Sealing.base64Encode identityBytes
  stateFileBase64 := Sealing.base64Encode stateBytes

def readAssets (machine : ExportMachine) (request : DurableBackupExportRequest) (files : Files) :
    Except BackupError (List UInt8 × List UInt8 × DurableStateInspectionReport) :=
  if (files request.outputPath).isSome ∧ request.overwrite = false then
    .error (.durable (.invalidSession ("backup bundle path " ++ request.outputPath ++
      " already exists; rerun with overwrite enabled")))
  else do
    let identityBytes ← (read machine.missing machine.identityDenied
      (files request.identityPath)).mapError ioError
    let stateBytes ← (read machine.missing machine.stateDenied
      (files request.statePath)).mapError ioError
    let durableState ← inspectDurableStateFile machine.inspectionDenied request.statePath
      (files request.statePath)
    pure (identityBytes, stateBytes, durableState)

def exportReport (request : DurableBackupExportRequest) (bundle : DurableBackupBundleData)
    (identityBytes stateBytes : List UInt8) : DurableBackupExportReport where
  bundlePath := request.outputPath
  createdAtUnixSecs := bundle.manifest.createdAtUnixSecs
  hostname := request.hostname
  environment := request.environment
  network := request.network
  identitySha256Hex := sha256Hex identityBytes
  stateSha256Hex := sha256Hex stateBytes
  durableStatePresent := bundle.manifest.durableStatePresent
  durableStateValid := bundle.manifest.durableStateValid

def ofExcept {α : Type} (answer : Except BackupError α) : EStateM BackupError Files α :=
  match answer with
  | .ok value => pure value
  | .error error => throw error

def exportBackupBundle (machine : ExportMachine) (request : DurableBackupExportRequest) :
    EStateM BackupError Files DurableBackupExportReport := do
  let (identityBytes, stateBytes, durableState) ← ofExcept (readAssets machine request (← get))
  let bundle := bundleOf machine request identityBytes stateBytes durableState
  let envelope ← ofExcept (encryptBackupBundle bundle request.passphrase machine.salt machine.nonce)
  ofExcept (machine.createDirAll.mapError ioError)
  mapError ioError (writeAt request.outputPath machine.outputWrite (prettyJson envelope.json))
  pure (exportReport request bundle identityBytes stateBytes)

/-! ## Restore -/

structure DurableBackupRestoreRequest where
  inputPath : String
  passphrase : String
  identityPath : String
  statePath : String
  overwrite : Bool
deriving DecidableEq, Repr

structure DurableBackupRestoreReport where
  inputPath : String
  restoredIdentityPath : String
  restoredStatePath : String
  createdAtUnixSecs : UInt64
  hostname : String
  environment : String
  network : String
  identitySha256Hex : String
  stateSha256Hex : String
deriving DecidableEq, Repr

structure RestoreMachine where
  missing : String := "No such file or directory (os error 2)"
  inputDenied : Option String := none
  createIdentityDir : Except String Unit := .ok ()
  createStateDir : Except String Unit := .ok ()
  identityWrite : WriteAnswer String := .complete
  stateWrite : WriteAnswer String := .complete

def assetFor (bundle : DurableBackupBundleData) (concern : String) :
    Except BackupError DurableBackupAsset :=
  orInvalidBundle (bundle.manifest.assets.find? fun asset => asset.concern = concern)

def checkAssets (bundle : DurableBackupBundleData) (identityBytes stateBytes : List UInt8) :
    Except BackupError Unit := do
  let identityAsset ← assetFor bundle "identity"
  let stateAsset ← assetFor bundle "network_state"
  if sha256Hex identityBytes ≠ identityAsset.sha256Hex ∨
      sha256Hex stateBytes ≠ stateAsset.sha256Hex then
    .error .invalidBackupBundle
  else do
    let stateValue ← orInvalidBundle (BackupCodec.parseValue stateBytes).toOption
    (validateDurableStateValue stateValue).mapError .durable

def openBundle (input : List UInt8) (passphrase : String) :
    Except BackupError (DurableBackupBundleData × List UInt8 × List UInt8) := do
  let envelope ← (BackupCodec.parseEnvelope input).mapError fun detail =>
    .durable (.serialization detail)
  let bundle ← decryptBackupBundle envelope passphrase
  let identityBytes ← orInvalidBundle (Sealing.base64Decode bundle.identityFileBase64)
  let stateBytes ← orInvalidBundle (Sealing.base64Decode bundle.stateFileBase64)
  checkAssets bundle identityBytes stateBytes
  pure (bundle, identityBytes, stateBytes)

/-- All that comes before the first write. -/
def contentsToRestore (machine : RestoreMachine) (request : DurableBackupRestoreRequest)
    (files : Files) : Except BackupError (DurableBackupBundleData × List UInt8 × List UInt8) :=
  if request.overwrite = false ∧
      ((files request.identityPath).isSome ∨ (files request.statePath).isSome) then
    .error (.durable (.invalidSession
      "restore target already exists; rerun with overwrite enabled"))
  else do
    let input ← (read machine.missing machine.inputDenied (files request.inputPath)).mapError ioError
    let opened ← openBundle input request.passphrase
    machine.createIdentityDir.mapError ioError
    machine.createStateDir.mapError ioError
    pure opened

def restoreReport (request : DurableBackupRestoreRequest) (bundle : DurableBackupBundleData)
    (identityBytes stateBytes : List UInt8) : DurableBackupRestoreReport where
  inputPath := request.inputPath
  restoredIdentityPath := request.identityPath
  restoredStatePath := request.statePath
  createdAtUnixSecs := bundle.manifest.createdAtUnixSecs
  hostname := bundle.manifest.hostname
  environment := bundle.manifest.environment
  network := bundle.manifest.network
  identitySha256Hex := sha256Hex identityBytes
  stateSha256Hex := sha256Hex stateBytes

/-- The identity is written first, then the state. -/
def restoreBackupBundle (machine : RestoreMachine) (request : DurableBackupRestoreRequest) :
    EStateM BackupError Files DurableBackupRestoreReport := do
  let (bundle, identityBytes, stateBytes) ← ofExcept (contentsToRestore machine request (← get))
  mapError ioError (writeAt request.identityPath machine.identityWrite identityBytes)
  mapError ioError (writeAt request.statePath machine.stateWrite stateBytes)
  pure (restoreReport request bundle identityBytes stateBytes)

end Codec

end QuipNet.Backup
