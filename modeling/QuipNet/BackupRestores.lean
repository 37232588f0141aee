import QuipNet.Backups
import QuipNet.SessionIdText

/-!
# What a restore brings back

An exported bundle is restored exactly when its state passes the check that the export only
reports on. A restore that fails leaves both files as they were unless a write fails after it
or the one before it has changed a file.
-/

namespace QuipNet.Backup
open QuipNet.Fabric QuipNet.Identity QuipNet.Library.Effect QuipNet.Library.File

theorem ofExcept_run {α : Type} (answer : Except BackupError α) (files : Files) :
    ofExcept answer files = match answer with
      | .ok value => .ok value files
      | .error error => .error error files := by
  cases answer <;> rfl

theorem ofExcept_eq_ok {α : Type} {answer : Except BackupError α} {value : α}
    {files after : Files} (h : ofExcept answer files = .ok value after) :
    answer = .ok value ∧ files = after := by
  cases answer with
  | ok found =>
    cases h
    exact ⟨rfl, rfl⟩
  | error error => cases h

theorem eq_some_of_orInvalidBundle {α : Type} {answer : Option α} {value : α}
    (h : orInvalidBundle answer = .ok value) : answer = some value := by
  cases answer with
  | none => cases h
  | some found =>
    cases h
    rfl

theorem forall_error_iff {α : Type} (failure : BackupError) (left : Files) (P : Files → Prop) :
    (∀ error after, (EStateM.Result.error failure left : EStateM.Result BackupError Files α) =
      .error error after → P after) ↔ P left := by
  constructor
  · intro h
    exact h failure left rfl
  · intro h error after heq
    cases heq
    exact h

section Targets
variable {request : DurableBackupRestoreRequest} {files : Files}

def SameTargets (request : DurableBackupRestoreRequest) (files after : Files) : Prop :=
  after request.identityPath = files request.identityPath ∧
    after request.statePath = files request.statePath

theorem sameTargets_update_identity (bytes : List UInt8) :
    SameTargets request files (Function.update files request.identityPath (some bytes)) ↔
      files request.identityPath = some bytes := by
  unfold SameTargets
  rw [Function.update_self]
  constructor
  · intro h
    exact h.1.symm
  · intro hsame
    rw [← hsame, Function.update_eq_self]
    exact ⟨rfl, rfl⟩

theorem sameTargets_update_both (identityBytes stateBytes : List UInt8) :
    SameTargets request files
        (Function.update (Function.update files request.identityPath (some identityBytes))
          request.statePath (some stateBytes)) ↔
      files request.statePath = some stateBytes ∧
        (request.identityPath = request.statePath ∨
          files request.identityPath = some identityBytes) := by
  unfold SameTargets
  rw [Function.update_self]
  by_cases hpaths : request.identityPath = request.statePath
  · rw [hpaths, Function.update_self]
    constructor
    · intro h
      exact ⟨h.2.symm, Or.inl rfl⟩
    · intro h
      exact ⟨h.1.symm, h.1.symm⟩
  · rw [Function.update_of_ne hpaths, Function.update_self]
    constructor
    · intro h
      exact ⟨h.2.symm, Or.inr h.1.symm⟩
    · rintro ⟨hstate, hpath | hidentity⟩
      · exact absurd hpath hpaths
      · exact ⟨hidentity.symm, hstate.symm⟩

/-- No write fails after it or the one before it has changed a file. -/
def WritesCleanly (machine : RestoreMachine) (request : DurableBackupRestoreRequest)
    (files : Files) (identityBytes stateBytes : List UInt8) : Prop :=
  match machine.identityWrite with
  | .refused _ => True
  | .stopped count _ => files request.identityPath = some (identityBytes.take count)
  | .complete =>
    match machine.stateWrite with
    | .complete => True
    | .refused _ => files request.identityPath = some identityBytes
    | .stopped count _ => files request.statePath = some (stateBytes.take count) ∧
        (request.identityPath = request.statePath ∨
          files request.identityPath = some identityBytes)

end Targets

section Codec
variable [BackupCodec]

/-! ## The two writes -/

section Writes
variable {machine : RestoreMachine} {request : DurableBackupRestoreRequest} {files : Files}

theorem restoreBackupBundle_of_error {error : BackupError}
    (h : contentsToRestore machine request files = .error error) :
    restoreBackupBundle machine request files = .error error files := by
  unfold restoreBackupBundle
  simp only [bind_run, get_run, ofExcept_run, h]

theorem restoreBackupBundle_of_ok {bundle : DurableBackupBundleData}
    {identityBytes stateBytes : List UInt8}
    (h : contentsToRestore machine request files = .ok (bundle, identityBytes, stateBytes)) :
    restoreBackupBundle machine request files =
      match machine.identityWrite with
      | .refused detail => .error (ioError detail) files
      | .stopped count detail => .error (ioError detail)
          (Function.update files request.identityPath (some (identityBytes.take count)))
      | .complete =>
        let restored := Function.update files request.identityPath (some identityBytes)
        match machine.stateWrite with
        | .refused detail => .error (ioError detail) restored
        | .stopped count detail => .error (ioError detail)
            (Function.update restored request.statePath (some (stateBytes.take count)))
        | .complete => .ok (restoreReport request bundle identityBytes stateBytes)
            (Function.update restored request.statePath (some stateBytes)) := by
  unfold restoreBackupBundle
  simp only [bind_run, get_run, ofExcept_run, h, mapError, writeAt_run, pure_run]
  cases machine.identityWrite with
  | refused detail => rfl
  | stopped count detail => rfl
  | complete =>
    cases machine.stateWrite with
    | refused detail => rfl
    | stopped count detail => rfl
    | complete => rfl

end Writes

/-! ## From an export to a restore -/

section Exported
variable {machine : ExportMachine} {request : DurableBackupExportRequest} {files exported : Files}
  {identityBytes stateBytes : List UInt8} {durableState : DurableStateInspectionReport}
  {bundle : DurableBackupBundleData} {envelope : DurableBackupBundleEnvelope} {passphrase : String}

/-- Base64, the cipher and the decoders of JSON read back what this export has written. -/
structure ReadsBack (machine : ExportMachine) (request : DurableBackupExportRequest)
    (files : Files) : Prop where
  decode_encode : ∀ bytes, Sealing.base64Decode (Sealing.base64Encode bytes) = some bytes
  decrypt_encrypt : ∀ key nonce plaintext ciphertext,
    Sealing.encrypt key nonce plaintext = some ciphertext →
      Sealing.decrypt key nonce ciphertext = some plaintext
  parse_bundle : ∀ identityBytes stateBytes durableState,
    readAssets machine request files = .ok (identityBytes, stateBytes, durableState) →
      BackupCodec.parseBundle
        (prettyJson (bundleOf machine request identityBytes stateBytes durableState).json) =
          .ok (bundleOf machine request identityBytes stateBytes durableState)
  parse_envelope : ∀ identityBytes stateBytes durableState envelope,
    readAssets machine request files = .ok (identityBytes, stateBytes, durableState) →
      encryptBackupBundle (bundleOf machine request identityBytes stateBytes durableState)
        request.passphrase machine.salt machine.nonce = .ok envelope →
          BackupCodec.parseEnvelope (prettyJson envelope.json) = .ok envelope

theorem readAssets_ok
    (h : readAssets machine request files = .ok (identityBytes, stateBytes, durableState)) :
    files request.identityPath = some identityBytes ∧
      files request.statePath = some stateBytes := by
  unfold readAssets at h
  split_ifs at h
  obtain ⟨first, hidentity, h⟩ := except_bind_eq_ok h
  obtain ⟨second, hstate, h⟩ := except_bind_eq_ok h
  obtain ⟨found, -, h⟩ := except_bind_eq_ok h
  cases h
  exact ⟨eq_some_of_read (except_mapError_eq_ok hidentity),
    eq_some_of_read (except_mapError_eq_ok hstate)⟩

theorem exportBackupBundle_ok {report : DurableBackupExportReport}
    (h : exportBackupBundle machine request files = .ok report exported) :
    ∃ identityBytes stateBytes durableState envelope,
      readAssets machine request files = .ok (identityBytes, stateBytes, durableState) ∧
      encryptBackupBundle (bundleOf machine request identityBytes stateBytes durableState)
        request.passphrase machine.salt machine.nonce = .ok envelope ∧
      exported = Function.update files request.outputPath (some (prettyJson envelope.json)) := by
  obtain ⟨current, files₁, hget, h⟩ := bind_eq_ok h
  cases hget
  obtain ⟨⟨identityBytes, stateBytes, durableState⟩, files₂, hread, h⟩ := bind_eq_ok h
  obtain ⟨hassets, rfl⟩ := ofExcept_eq_ok hread
  obtain ⟨envelope, files₃, hencrypt, h⟩ := bind_eq_ok h
  obtain ⟨hseal, rfl⟩ := ofExcept_eq_ok hencrypt
  obtain ⟨_, files₄, hdir, h⟩ := bind_eq_ok h
  obtain ⟨-, rfl⟩ := ofExcept_eq_ok hdir
  obtain ⟨_, written, hwrite, h⟩ := bind_eq_ok h
  cases h
  exact ⟨identityBytes, stateBytes, durableState, envelope, hassets, hseal,
    eq_update_of_writeAt (mapError_eq_ok hwrite)⟩

theorem final_exportBackupBundle (machine : ExportMachine) (request : DurableBackupExportRequest)
    (files : Files) : final (exportBackupBundle machine request) files = files ∨
      ∃ bytes, final (exportBackupBundle machine request) files =
        Function.update files request.outputPath (some bytes) := by
  unfold final exportBackupBundle
  simp only [bind_run, get_run, ofExcept_run]
  cases readAssets machine request files with
  | error error => exact .inl rfl
  | ok assets =>
    dsimp only
    cases encryptBackupBundle _ request.passphrase machine.salt machine.nonce with
    | error error => exact .inl rfl
    | ok envelope =>
      dsimp only
      cases machine.createDirAll with
      | error error => exact .inl rfl
      | ok _ =>
        simp only [Except.mapError, mapError, writeAt_run]
        cases machine.outputWrite with
        | refused error => exact .inl rfl
        | stopped count error => exact .inr ⟨_, rfl⟩
        | complete => exact .inr ⟨_, rfl⟩

theorem exportBackupBundle_of_ok (hdir : machine.createDirAll = .ok ())
    (hwrite : machine.outputWrite = .complete)
    (hassets : readAssets machine request files = .ok (identityBytes, stateBytes, durableState))
    (hseal : encryptBackupBundle (bundleOf machine request identityBytes stateBytes durableState)
      request.passphrase machine.salt machine.nonce = .ok envelope) :
    exportBackupBundle machine request files =
      .ok (exportReport request (bundleOf machine request identityBytes stateBytes durableState)
        identityBytes stateBytes)
        (Function.update files request.outputPath (some (prettyJson envelope.json))) := by
  unfold exportBackupBundle
  simp only [bind_run, get_run, ofExcept_run, hassets, hseal, hdir, hwrite, Except.mapError,
    mapError, writeAt_run, pure_run]

theorem eq_some_of_deriveBackupKey {secret : List UInt8} {salt : Vector UInt8 16}
    {key : Vector UInt8 32} (h : deriveBackupKey secret salt = .ok key) :
    Sealing.scrypt secret salt = some key := by
  unfold deriveBackupKey at h
  cases hkey : Sealing.scrypt secret salt with
  | none => simp [hkey] at h
  | some found => simpa [hkey] using h

theorem encryptBackupBundle_ok {salt : Vector UInt8 16} {nonce : Vector UInt8 12}
    (h : encryptBackupBundle bundle passphrase salt nonce = .ok envelope) :
    ∃ key ciphertext, Sealing.scrypt (asBytes passphrase) salt = some key ∧
      Sealing.encrypt key nonce (prettyJson bundle.json) = some ciphertext ∧
      envelope = ⟨1, "chacha20poly1305", "scrypt", salt, nonce, Sealing.base64Encode ciphertext⟩ := by
  obtain ⟨key, hkey, h⟩ := except_bind_eq_ok h
  obtain ⟨ciphertext, hcipher, h⟩ := except_bind_eq_ok h
  cases h
  exact ⟨key, ciphertext, eq_some_of_deriveBackupKey hkey, eq_some_of_orInvalidBundle hcipher, rfl⟩

theorem checkAssets_bundleOf :
    checkAssets (bundleOf machine request identityBytes stateBytes durableState)
        identityBytes stateBytes = .ok () ↔
      ∃ value, BackupCodec.parseValue stateBytes = .ok value ∧
        validateDurableStateValue value = .ok () := by
  have hidentity : assetFor (bundleOf machine request identityBytes stateBytes durableState)
      "identity" = .ok ⟨"identity", "identity/node.json", sha256Hex identityBytes,
        UInt64.ofNat identityBytes.length⟩ := rfl
  have hstate : assetFor (bundleOf machine request identityBytes stateBytes durableState)
      "network_state" = .ok ⟨"network_state", "net/state.json", sha256Hex stateBytes,
        UInt64.ofNat stateBytes.length⟩ := rfl
  simp only [checkAssets, hidentity, hstate, bind, Except.bind, ne_eq, not_true_eq_false,
    or_self, if_false]
  cases hparse : BackupCodec.parseValue stateBytes with
  | error detail => simp [Except.toOption, orInvalidBundle]
  | ok value =>
    simp only [Except.toOption, orInvalidBundle, Except.ok.injEq, exists_eq_left']
    cases validateDurableStateValue value with
    | error failure => simp [Except.mapError]
    | ok _ => simp [Except.mapError]

theorem decryptBackupBundle_of_encrypt {salt : Vector UInt8 16} {nonce : Vector UInt8 12}
    (decode_encode : ∀ bytes, Sealing.base64Decode (Sealing.base64Encode bytes) = some bytes)
    (decrypt_encrypt : ∀ key nonce plaintext ciphertext,
      Sealing.encrypt key nonce plaintext = some ciphertext →
        Sealing.decrypt key nonce ciphertext = some plaintext)
    (hparse : BackupCodec.parseBundle (prettyJson bundle.json) = .ok bundle)
    (h : encryptBackupBundle bundle passphrase salt nonce = .ok envelope) :
    decryptBackupBundle envelope passphrase = .ok bundle := by
  obtain ⟨key, ciphertext, hkey, hcipher, rfl⟩ := encryptBackupBundle_ok h
  have hplain := decrypt_encrypt key nonce _ ciphertext hcipher
  simp [decryptBackupBundle, deriveBackupKey, bind, Except.bind, Except.mapError, orInvalidBundle,
    decode_encode, hkey, hplain, hparse]

/-- What a restore finds in the bundle of an export: only the checks of the assets remain. -/
theorem openBundle_of_export (hback : ReadsBack machine request files)
    (hassets : readAssets machine request files = .ok (identityBytes, stateBytes, durableState))
    (hseal : encryptBackupBundle (bundleOf machine request identityBytes stateBytes durableState)
      request.passphrase machine.salt machine.nonce = .ok envelope) :
    openBundle (prettyJson envelope.json) request.passphrase =
      (checkAssets (bundleOf machine request identityBytes stateBytes durableState)
        identityBytes stateBytes).map fun _ =>
          (bundleOf machine request identityBytes stateBytes durableState,
            identityBytes, stateBytes) := by
  have henvelope := hback.parse_envelope _ _ _ _ hassets hseal
  have hbundle := decryptBackupBundle_of_encrypt hback.decode_encode hback.decrypt_encrypt
    (hback.parse_bundle _ _ _ hassets) hseal
  have hidentity := hback.decode_encode identityBytes
  have hstate := hback.decode_encode stateBytes
  simp only [openBundle, bind, Except.bind, henvelope, Except.mapError, hbundle]
  simp only [bundleOf, hidentity, hstate, orInvalidBundle]
  cases checkAssets (bundleOf machine request identityBytes stateBytes durableState)
    identityBytes stateBytes <;> rfl

structure FreshTargets (target : DurableBackupRestoreRequest) (files : Files) : Prop where
  identity : files target.identityPath = none
  state : files target.statePath = none
  distinct : target.identityPath ≠ target.statePath

/-- The restore succeeds, and both files are the ones that were there before the export. -/
def BringsBack (request : DurableBackupExportRequest) (target : DurableBackupRestoreRequest)
    (files exported : Files) : Prop :=
  ∃ report restored, restoreBackupBundle {} target exported = .ok report restored ∧
    restored target.identityPath = files request.identityPath ∧
    restored target.statePath = files request.statePath

/-- Without an obstacle before the first write, what matters is the bundle. -/
theorem contentsToRestore_eq {restorer : RestoreMachine} {target : DurableBackupRestoreRequest}
    {input : List UInt8} (hreadable : restorer.inputDenied = none)
    (hidentityDir : restorer.createIdentityDir = .ok ())
    (hstateDir : restorer.createStateDir = .ok ())
    (hallowed : target.overwrite = true ∨
      files target.identityPath = none ∧ files target.statePath = none)
    (hinput : files target.inputPath = some input) :
    contentsToRestore restorer target files = openBundle input target.passphrase := by
  unfold contentsToRestore
  rw [if_neg, hinput, hreadable, hidentityDir, hstateDir, read_of_some]
  · simp only [Except.mapError, bind, Except.bind]
    cases openBundle input target.passphrase <;> rfl
  · rcases hallowed with hoverwrite | ⟨hidentity, hstate⟩
    · simp [hoverwrite]
    · simp [hidentity, hstate]

theorem contentsToRestore_of_export {target : DurableBackupRestoreRequest}
    (hback : ReadsBack machine request files)
    (hassets : readAssets machine request files = .ok (identityBytes, stateBytes, durableState))
    (hseal : encryptBackupBundle (bundleOf machine request identityBytes stateBytes durableState)
      request.passphrase machine.salt machine.nonce = .ok envelope)
    (hinput : exported target.inputPath = some (prettyJson envelope.json))
    (hpassphrase : target.passphrase = request.passphrase)
    (hfresh : FreshTargets target exported) :
    contentsToRestore {} target exported =
      (checkAssets (bundleOf machine request identityBytes stateBytes durableState)
        identityBytes stateBytes).map fun _ =>
          (bundleOf machine request identityBytes stateBytes durableState,
            identityBytes, stateBytes) := by
  rw [contentsToRestore_eq rfl rfl rfl (Or.inr ⟨hfresh.identity, hfresh.state⟩) hinput, hpassphrase]
  exact openBundle_of_export hback hassets hseal

end Exported

end Codec

/-! ## One bundle -/

def sampleExporter : ExportMachine where
  salt := Vector.replicate 16 1
  nonce := Vector.replicate 12 2
  now := 1700000000

def sampleRequest : DurableBackupExportRequest where
  outputPath := "backup.qbk"
  passphrase := "backup-passphrase"
  hostname := "host-a"
  environment := "test"
  identityPath := "identity-node.json"
  statePath := "state.json"
  network := "backup-roundtrip"
  authorityOrigin := some "https://authority.example"
  authoritySubject := some "peer-authority"
  authoritySnapshot := none
  overwrite := false

def sampleTarget (overwrite : Bool) : DurableBackupRestoreRequest where
  inputPath := "backup.qbk"
  passphrase := "backup-passphrase"
  identityPath := "restored-identity.json"
  statePath := "restored-state.json"
  overwrite := overwrite

def identityFile : List UInt8 := asBytes "\x7b\"encrypted\":true\x7d"

def stateFileOf (version : ℕ) : List UInt8 :=
  canonicalJson (.object [("schema_version", .number version)])

def stateValueOf (version : ℕ) : Value := .object [("schema_version", .ofU64 version)]

def filesOf (version : ℕ) : Files := fun path =>
  if path = "identity-node.json" then some identityFile
  else if path = "state.json" then some (stateFileOf version)
  else none

def unhex : List Char → Option (List UInt8)
  | first :: second :: rest => do
    let byte ← Library.fromStrRadix 16 256 [first, second]
    let rest ← unhex rest
    pure (UInt8.ofNat byte :: rest)
  | [_] => none
  | [] => some []

theorem unhex_hexBytes (bytes : List UInt8) : unhex (bytes.flatMap hexByte) = some bytes := by
  induction bytes with
  | nil => rfl
  | cons byte rest ih =>
    have hbyte := SessionIds.fromStrRadix_hexByte byte
    rw [hexByte] at hbyte
    rw [List.flatMap_cons, hexByte, List.cons_append, List.cons_append, List.nil_append, unhex,
      hbyte, ih]
    simp

/-- Crates for a closed input: keys and digests are the text, padded, the cipher appends a
tag of zeros, and bytes are written in hexadecimal. -/
@[reducible] def unreadCodec : BackupCodec where
  scrypt passphrase _ := some (Vector.ofFn fun i : Fin 32 => passphrase.getD i 0)
  encrypt _ _ plaintext := some (plaintext ++ List.replicate 16 0)
  decrypt _ _ ciphertext := some (ciphertext.take (ciphertext.length - 16))
  base64Encode bytes := String.ofList (bytes.flatMap hexByte)
  base64Decode text := unhex text.toList
  parseKeyFile _ := .error "missing field 'salt' at line 1 column 2"
  sha256 bytes := Vector.ofFn fun i : Fin 32 => bytes.getD i 0
  parseEnvelope _ := .error "expected value at line 1 column 1"
  parseBundle _ := .error "expected value at line 1 column 1"
  parseValue _ := .error "expected value at line 1 column 1"
  decodeState _ := .error "missing field 'network'"

def bundleFor (version : ℕ) : DurableBackupBundleData :=
  @bundleOf unreadCodec sampleExporter sampleRequest identityFile (stateFileOf version)
    ⟨"state.json", true, none, false, [], none⟩

def envelopeFor (version : ℕ) : DurableBackupBundleEnvelope where
  version := 1
  cipher := "chacha20poly1305"
  kdf := "scrypt"
  salt := sampleExporter.salt
  nonce := sampleExporter.nonce
  ciphertext := String.ofList
    ((prettyJson (bundleFor version).json ++ List.replicate 16 0).flatMap hexByte)

@[reducible] def codecFor (version : ℕ) : BackupCodec :=
  { unreadCodec with
    parseEnvelope := fun input =>
      if input = prettyJson (envelopeFor version).json then .ok (envelopeFor version)
      else .error "expected value at line 1 column 1"
    parseBundle := fun input =>
      if input = prettyJson (bundleFor version).json then .ok (bundleFor version)
      else .error "expected value at line 1 column 1"
    parseValue := fun input =>
      if input = stateFileOf version then .ok (stateValueOf version)
      else .error "expected value at line 1 column 1" }

def exportedFiles (version : ℕ) : Files :=
  Function.update (filesOf version) "backup.qbk" (some (prettyJson (envelopeFor version).json))

theorem parseValue_stateFileOf (version : ℕ) :
    @BackupCodec.parseValue (codecFor version) (stateFileOf version) = .ok (stateValueOf version) :=
  if_pos rfl

theorem inspect_stateFileOf (version : ℕ) : ∃ schemaVersion violations,
    @inspectDurableStateFile (codecFor version) none "state.json" (some (stateFileOf version)) =
      .ok ⟨"state.json", true, schemaVersion, false, violations, none⟩ := by
  have hdecode : @BackupCodec.decodeState (codecFor version) (stateValueOf version) =
      .error "missing field 'network'" := rfl
  simp only [inspectDurableStateFile, parseValue_stateFileOf, hdecode]
  cases validateDurableStateValue (stateValueOf version) with
  | error failure => exact ⟨_, _, rfl⟩
  | ok _ => exact ⟨_, _, rfl⟩

theorem readAssets_filesOf (version : ℕ) : ∃ schemaVersion violations,
    @readAssets (codecFor version) sampleExporter sampleRequest (filesOf version) =
      .ok (identityFile, stateFileOf version,
        ⟨"state.json", true, schemaVersion, false, violations, none⟩) := by
  obtain ⟨schemaVersion, violations, hinspect⟩ := inspect_stateFileOf version
  have hidentity : filesOf version "identity-node.json" = some identityFile := rfl
  have hstate : filesOf version "state.json" = some (stateFileOf version) := rfl
  have houtput : filesOf version "backup.qbk" = none := rfl
  refine ⟨schemaVersion, violations, ?_⟩
  simp [readAssets, sampleRequest, sampleExporter, hidentity, hstate, houtput, hinspect, bind,
    Except.bind, Except.mapError, pure, Except.pure]

theorem encrypt_bundleFor (version : ℕ) :
    @encryptBackupBundle (codecFor version) (bundleFor version) "backup-passphrase"
      sampleExporter.salt sampleExporter.nonce = .ok (envelopeFor version) := rfl

theorem readsBack_filesOf (version : ℕ) :
    @ReadsBack (codecFor version) sampleExporter sampleRequest (filesOf version) := by
  obtain ⟨schemaVersion, violations, hread⟩ := readAssets_filesOf version
  refine @ReadsBack.mk (codecFor version) _ _ _ ?_ ?_ ?_ ?_
  · intro bytes
    exact (congrArg unhex (String.toList_ofList)).trans (unhex_hexBytes bytes)
  · intro key nonce plaintext ciphertext hcipher
    cases hcipher
    have htake : (plaintext ++ List.replicate 16 0).length - 16 = plaintext.length := by simp
    exact congrArg some ((congrArg (List.take · _) htake).trans List.take_left)
  · intro identityBytes stateBytes durableState hassets
    rw [hread] at hassets
    cases hassets
    exact if_pos rfl
  · intro identityBytes stateBytes durableState envelope hassets hseal
    rw [hread] at hassets
    cases hassets
    have henvelope := (encrypt_bundleFor version).symm.trans hseal
    cases henvelope
    exact if_pos rfl

theorem export_filesOf (version : ℕ) : ∃ report,
    @exportBackupBundle (codecFor version) sampleExporter sampleRequest (filesOf version) =
      .ok report (exportedFiles version) := by
  obtain ⟨schemaVersion, violations, hread⟩ := readAssets_filesOf version
  exact ⟨_, @exportBackupBundle_of_ok (codecFor version) sampleExporter sampleRequest
    (filesOf version) _ _ _ _ rfl rfl hread (encrypt_bundleFor version)⟩

theorem freshTargets_exportedFiles (version : ℕ) :
    FreshTargets (sampleTarget false) (exportedFiles version) where
  identity := rfl
  state := rfl
  distinct := by decide

theorem validates_current : validateDurableStateValue (stateValueOf 2) = .ok () := rfl

theorem refuses_old_schema : validateDurableStateValue (stateValueOf 1) =
    .error (.migrationRequired 1 2) := rfl

/-! ## Every backup comes back -/

/-- An exported backup comes back exactly when the state file is a value that passes the
check, which the export reports on and the restore insists on. -/
theorem exported_backup_restores_iff [BackupCodec] (machine : ExportMachine)
    (request : DurableBackupExportRequest) (files : Files)
    (hback : ReadsBack machine request files) (report : DurableBackupExportReport)
    (exported : Files)
    (hexport : exportBackupBundle machine request files = .ok report exported)
    (target : DurableBackupRestoreRequest) (hinput : target.inputPath = request.outputPath)
    (hpassphrase : target.passphrase = request.passphrase)
    (hfresh : FreshTargets target exported) :
    BringsBack request target files exported ↔
      ∃ stateBytes value, files request.statePath = some stateBytes ∧
        BackupCodec.parseValue stateBytes = .ok value ∧
        validateDurableStateValue value = .ok () := by
  obtain ⟨identityBytes, stateBytes, durableState, envelope, hassets, hseal, rfl⟩ :=
    exportBackupBundle_ok hexport
  obtain ⟨hidentity, hstate⟩ := readAssets_ok hassets
  have hcontents := contentsToRestore_of_export hback hassets hseal
    (by rw [hinput, Function.update_self]) hpassphrase hfresh
  have hvalid : (∃ bytes value, files request.statePath = some bytes ∧
      BackupCodec.parseValue bytes = .ok value ∧ validateDurableStateValue value = .ok ()) ↔
      checkAssets (bundleOf machine request identityBytes stateBytes durableState)
        identityBytes stateBytes = .ok () := by
    rw [checkAssets_bundleOf, hstate]
    simp only [Option.some.injEq, exists_and_left, exists_eq_left']
  rw [hvalid]
  unfold BringsBack
  cases hcheck : checkAssets (bundleOf machine request identityBytes stateBytes durableState)
      identityBytes stateBytes with
  | error failure =>
    rw [hcheck] at hcontents
    rw [restoreBackupBundle_of_error hcontents]
    simp
  | ok _ =>
    rw [hcheck] at hcontents
    rw [restoreBackupBundle_of_ok hcontents]
    refine iff_of_true ⟨_, _, rfl, ?_, ?_⟩ rfl
    · rw [Function.update_of_ne hfresh.distinct, Function.update_self, hidentity]
    · rw [Function.update_self, hstate]

theorem current_backup_restores :
    @BringsBack (codecFor 2) sampleRequest (sampleTarget false) (filesOf 2) (exportedFiles 2) := by
  obtain ⟨report, hexport⟩ := export_filesOf 2
  exact (@exported_backup_restores_iff (codecFor 2) sampleExporter sampleRequest (filesOf 2)
    (readsBack_filesOf 2) report (exportedFiles 2) hexport (sampleTarget false) rfl rfl
    (freshTargets_exportedFiles 2)).2
      ⟨stateFileOf 2, stateValueOf 2, rfl, parseValue_stateFileOf 2, validates_current⟩

/-- A backup of a node that was never migrated is exported and does not come back. -/
theorem old_schema_backup_is_lost :
    @ReadsBack (codecFor 1) sampleExporter sampleRequest (filesOf 1) ∧
      (∃ report, @exportBackupBundle (codecFor 1) sampleExporter sampleRequest (filesOf 1) =
        .ok report (exportedFiles 1)) ∧
      FreshTargets (sampleTarget false) (exportedFiles 1) ∧
      ¬ @BringsBack (codecFor 1) sampleRequest (sampleTarget false) (filesOf 1)
        (exportedFiles 1) := by
  refine ⟨readsBack_filesOf 1, export_filesOf 1, freshTargets_exportedFiles 1, ?_⟩
  rintro ⟨report, restored, hrestored, -, -⟩
  obtain ⟨schemaVersion, violations, hread⟩ := readAssets_filesOf 1
  have hcontents := @contentsToRestore_of_export (codecFor 1) sampleExporter sampleRequest
    (filesOf 1) (exportedFiles 1) _ _ _ _ (sampleTarget false) (readsBack_filesOf 1) hread
    (encrypt_bundleFor 1) rfl rfl (freshTargets_exportedFiles 1)
  cases hcheck : @checkAssets (codecFor 1) (bundleFor 1) identityFile (stateFileOf 1) with
  | error failure =>
    have hfails := @restoreBackupBundle_of_error (codecFor 1) _ _ _ _
      (hcontents.trans (congrArg (Except.map _) hcheck))
    cases hfails.symm.trans hrestored
  | ok _ =>
    obtain ⟨value, hparse, hvalid⟩ := (@checkAssets_bundleOf (codecFor 1) sampleExporter
      sampleRequest identityFile (stateFileOf 1) _).1 hcheck
    cases (parseValue_stateFileOf 1).symm.trans hparse
    cases refuses_old_schema.symm.trans hvalid

/-! ## All or nothing -/

/-- A failed restore leaves both files exactly when no write that fails has changed one. -/
theorem restore_all_or_nothing_iff [BackupCodec] (machine : RestoreMachine)
    (request : DurableBackupRestoreRequest) (files : Files) :
    (∀ error after, restoreBackupBundle machine request files = .error error after →
      SameTargets request files after) ↔
      ∀ bundle identityBytes stateBytes,
        contentsToRestore machine request files = .ok (bundle, identityBytes, stateBytes) →
          WritesCleanly machine request files identityBytes stateBytes := by
  cases hcontents : contentsToRestore machine request files with
  | error failure =>
    rw [restoreBackupBundle_of_error hcontents, forall_error_iff]
    have hsame : SameTargets request files files := ⟨rfl, rfl⟩
    simp only [hsame, reduceCtorEq, false_imp_iff, implies_true]
  | ok opened =>
    obtain ⟨bundle, identityBytes, stateBytes⟩ := opened
    have hclean : (∀ b i s, (Except.ok (bundle, identityBytes, stateBytes) :
        Except BackupError (DurableBackupBundleData × List UInt8 × List UInt8)) = .ok (b, i, s) →
          WritesCleanly machine request files i s) ↔
        WritesCleanly machine request files identityBytes stateBytes := by
      constructor
      · intro h
        exact h _ _ _ rfl
      · intro h b i s heq
        cases heq
        exact h
    rw [hclean, restoreBackupBundle_of_ok hcontents]
    unfold WritesCleanly
    cases machine.identityWrite with
    | refused detail =>
      simp only [forall_error_iff, SameTargets, and_self]
    | stopped count detail =>
      simp only [forall_error_iff, sameTargets_update_identity]
    | complete =>
      cases machine.stateWrite with
      | complete => simp only [reduceCtorEq, false_imp_iff, implies_true]
      | refused detail => simp only [forall_error_iff, sameTargets_update_identity]
      | stopped count detail => simp only [forall_error_iff, sameTargets_update_both]

def occupiedFiles : Files :=
  Function.update (Function.update (exportedFiles 2) "restored-identity.json"
    (some (asBytes "\x7b\"encrypted\":false\x7d")))
    "restored-state.json" (some (stateFileOf 1))

def interrupted : RestoreMachine where
  stateWrite := .refused "Permission denied (os error 13)"

theorem half_restored_backup :
    ¬ ∀ error after, @restoreBackupBundle (codecFor 2) interrupted (sampleTarget true)
        occupiedFiles = .error error after →
      SameTargets (sampleTarget true) occupiedFiles after := by
  obtain ⟨schemaVersion, violations, hread⟩ := readAssets_filesOf 2
  have hopen := @openBundle_of_export (codecFor 2) _ _ _ _ _ _ _ (readsBack_filesOf 2) hread
    (encrypt_bundleFor 2)
  have hcheck := (@checkAssets_bundleOf (codecFor 2) sampleExporter sampleRequest identityFile
    (stateFileOf 2) ⟨"state.json", true, schemaVersion, false, violations, none⟩).2
    ⟨stateValueOf 2, parseValue_stateFileOf 2, validates_current⟩
  have hcontents := (@contentsToRestore_eq (codecFor 2) occupiedFiles interrupted
    (sampleTarget true) _ rfl rfl rfl (Or.inl rfl) rfl).trans
      (hopen.trans (congrArg (Except.map _) hcheck))
  have hrun := @restoreBackupBundle_of_ok (codecFor 2) _ _ _ _ _ _ hcontents
  intro hsame
  have hidentity := (hsame _ _ hrun).1
  have htexts : "\x7b\"encrypted\":true\x7d" = "\x7b\"encrypted\":false\x7d" :=
    asBytes_injective (Option.some.inj hidentity)
  exact absurd htexts (by decide)

end QuipNet.Backup
