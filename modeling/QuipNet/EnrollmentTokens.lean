import QuipNet.AuthorityStore

/-!
# The enrollment token that the authority serves

A token is signed over the bootstrap hints of its issue, and every projection puts the
present hints of the store in their place. It verifies as long as both encode alike.
-/

open Std
namespace QuipNet.Authority
open QuipNet.Control QuipNet.Library

section Tokens
variable [Primitives]

structure Sealed (token : EnrollmentToken) : Prop where
  tokenId : token.tokenId = Primitives.blake3 (canonicalJson token.unsigned)
  signature : token.signature =
    (seededKeypair ("authority:" ++ token.realm)).sign (canonicalJson token.unsigned)

theorem Sealed.verify (hsignatures : SignaturesVerify) {token : EnrollmentToken} (h : Sealed token)
    {now : ℕ} (hnow : now ≤ token.expiresAt) :
    token.verify (seededKeypair ("authority:" ++ token.realm)).publicKey token.networkId now =
      .ok () := by
  have hsignature := IdentityKeypair.verify_sign hsignatures
    (seededKeypair ("authority:" ++ token.realm)) (canonicalJson token.unsigned)
  rw [← h.signature] at hsignature
  simp [EnrollmentToken.verify, Nat.not_lt.mpr hnow, ← h.tokenId, hsignature, Except.mapError]

def encodedHints (hints : List BootstrapHint) : List Json := hints.map BootstrapHint.json

theorem Sealed.withHints {token : EnrollmentToken} (h : Sealed token) {hints : List BootstrapHint}
    (hhints : encodedHints hints = encodedHints token.bootstrapHints) :
    Sealed { token with bootstrapHints := hints } := by
  have hunsigned : EnrollmentToken.unsigned { token with bootstrapHints := hints } =
      token.unsigned := by
    simp only [encodedHints] at hhints
    simp only [EnrollmentToken.unsigned, hhints]
  exact ⟨hunsigned ▸ h.tokenId, hunsigned ▸ h.signature⟩

theorem Sealed.verify_edited {token : EnrollmentToken} (h : Sealed token)
    {hints : List BootstrapHint} {key : PublicIdentityKey} {now : ℕ} (hnow : now ≤ token.expiresAt)
    (hdigest : Primitives.blake3
        (canonicalJson (EnrollmentToken.unsigned { token with bootstrapHints := hints })) ≠
      Primitives.blake3 (canonicalJson token.unsigned)) :
    EnrollmentToken.verify { token with bootstrapHints := hints } key token.networkId now =
      .error .artifactIdMismatch := by
  rw [← h.tokenId] at hdigest
  simp [EnrollmentToken.verify, Nat.not_lt.mpr hnow, hdigest]

/-- The token of the store is sealed with the hints of the store. -/
def TokenSealed (stored : AuthorityState) : Prop :=
  ∀ token, stored.snapshot.enrollmentToken = some token →
    Sealed token ∧ token.bootstrapHints = stored.bootstrapHints

theorem tokenSealed_materializeState {state : AuthorityState}
    (h : ∀ token, state.snapshot.enrollmentToken = some token →
      Sealed token ∧ encodedHints state.bootstrapHints = encodedHints token.bootstrapHints) :
    TokenSealed (materializeState state) := by
  intro token htoken
  obtain ⟨held, hheld, rfl⟩ := Option.map_eq_some_iff.mp htoken
  obtain ⟨hsealed, hhints⟩ := h held hheld
  exact ⟨hsealed.withHints hhints, rfl⟩

theorem issue_sealed (networkId : NetworkId) (issuedAt expiresAt : ℕ) (realm : String)
    (subjectAlias : Option String) (requestedRoles : List String) (hints : List BootstrapHint)
    (nonce : Vector UInt8 16) :
    Sealed (.issue (seededKeypair ("authority:" ++ realm)) networkId issuedAt expiresAt realm
      subjectAlias requestedRoles hints nonce) := ⟨rfl, rfl⟩

theorem initialState_tokenSealed (network realm : String) (bootstrapAddresses : List String) :
    TokenSealed (initialState network realm bootstrapAddresses) := by
  refine tokenSealed_materializeState fun token htoken => ?_
  cases htoken
  exact ⟨issue_sealed _ _ _ _ _ _ _ _, rfl⟩

theorem TokenSealed.materialize {stored : AuthorityState} (h : TokenSealed stored)
    {state : AuthorityState}
    (htoken : state.snapshot.enrollmentToken = stored.snapshot.enrollmentToken)
    (hhints : encodedHints state.bootstrapHints = encodedHints stored.bootstrapHints) :
    TokenSealed (materializeState state) := by
  refine tokenSealed_materializeState fun token htoken' => ?_
  rw [htoken] at htoken'
  obtain ⟨hsealed, hheld⟩ := h token htoken'
  exact ⟨hsealed, by rw [hhints, hheld]⟩

/-- The command puts no other hints under the token of the store: it does not change
the hints, and a token that it issues is signed over the same ones. -/
def StoreCommand.KeepsHints (stored : AuthorityState) : StoreCommand → Prop
  | .addBootstrap args =>
    encodedHints (upsertBootstrapHint stored.bootstrapHints args.hint) =
      encodedHints stored.bootstrapHints
  | .issue (.enrollmentToken _ _ _ _ bootstrapAddresses _ _) =>
    encodedHints stored.bootstrapHints = encodedHints (bootstrapHints bootstrapAddresses)
  | _ => True

theorem issue_tokenSealed {stored after : AuthorityState} (h : TokenSealed stored)
    {command : ArtifactCommand} (hkeeps : (StoreCommand.issue command).KeepsHints stored)
    (hissue : issue stored command = some after) : TokenSealed after := by
  obtain ⟨artifact, hartifact, hpersist⟩ := Option.bind_eq_some_iff.mp hissue
  cases artifact with
  | enrollmentToken value =>
    cases hpersist
    refine tokenSealed_materializeState fun token htoken => ?_
    cases htoken
    cases command with
    | enrollmentToken network realm subject roles bootstrapAddresses ttlSecs issuedAt =>
      cases hartifact
      exact ⟨issue_sealed _ _ _ _ _ _ _ _, hkeeps⟩
    | membership => simp [issuedArtifact] at hartifact
    | capability => simp [issuedArtifact] at hartifact
    | revocation => cases hartifact
  | membership subjectSeed active value =>
    cases hpersist
    exact h.materialize rfl rfl
  | capability value =>
    obtain ⟨next, -, rfl⟩ := Option.map_eq_some_iff.mp hpersist
    exact h.materialize rfl rfl
  | revocation value =>
    obtain ⟨next, -, rfl⟩ := Option.map_eq_some_iff.mp hpersist
    exact h.materialize rfl rfl

theorem StoreCommand.apply_tokenSealed {stored after : AuthorityState} (hstored : Consistent stored)
    (h : TokenSealed stored) {command : StoreCommand} (hkeeps : command.KeepsHints stored)
    (happly : command.apply stored = some after) : TokenSealed after := by
  cases command with
  | addMember args =>
    obtain ⟨⟨label, peerId⟩, -, rfl⟩ := Option.map_eq_some_iff.mp happly
    rw [hstored.loadState_eq]
    exact h.materialize rfl rfl
  | addBootstrap args =>
    obtain ⟨generation, -, rfl⟩ := Option.map_eq_some_iff.mp happly
    rw [hstored.loadState_eq]
    exact h.materialize rfl hkeeps
  | addRelay args =>
    obtain ⟨relay, rfl⟩ := addRelay_eq_some hstored happly
    exact h.materialize rfl rfl
  | issue command => exact issue_tokenSealed h hkeeps happly
  | reload =>
    cases happly
    rw [hstored.loadState_eq]
    exact h

def AllKeepHints : AuthorityState → List StoreCommand → Prop
  | _, [] => True
  | stored, command :: rest => command.KeepsHints stored ∧ AllKeepHints (command.run stored) rest

theorem run_tokenSealed {stored : AuthorityState} (hstored : Consistent stored)
    (h : TokenSealed stored) {commands : List StoreCommand} (hkeep : AllKeepHints stored commands) :
    TokenSealed (commands.foldl StoreCommand.run stored) := by
  induction commands generalizing stored with
  | nil => exact h
  | cons command rest ih =>
    refine ih (command.run_consistent hstored) ?_ hkeep.2
    unfold StoreCommand.run
    cases happly : command.apply stored with
    | none => exact h
    | some after => exact command.apply_tokenSealed hstored h hkeep.1 happly

theorem TokenSealed.of_projectedSnapshot {stored : AuthorityState} (h : TokenSealed stored)
    {subject : Option String} {snapshot : AuthorityArtifactSnapshot}
    (hsnapshot : projectedSnapshot stored subject = some snapshot) {token : EnrollmentToken}
    (htoken : snapshot.enrollmentToken = some token) : Sealed token := by
  have hserved : snapshot.enrollmentToken = stored.snapshot.enrollmentToken.map fun token =>
      { token with bootstrapHints := stored.bootstrapHints } := by
    cases subject with
    | none =>
      cases hsnapshot
      rfl
    | some seed =>
      obtain ⟨member, -, rfl⟩ := Option.map_eq_some_iff.mp hsnapshot
      rfl
  rw [hserved] at htoken
  obtain ⟨held, hheld, rfl⟩ := Option.map_eq_some_iff.mp htoken
  obtain ⟨hsealed, hhints⟩ := h held hheld
  exact hsealed.withHints (congrArg encodedHints hhints.symm)

/-- In a run whose commands keep the hints, every token that is served verifies until it
expires, under the key of the authority of its realm and for its network. -/
theorem served_token_verifies (hsignatures : SignaturesVerify) {network realm : String}
    {bootstrapAddresses : List String} {commands : List StoreCommand}
    (hkeep : AllKeepHints (initialState network realm bootstrapAddresses) commands)
    {subject : Option String}
    {snapshot : AuthorityArtifactSnapshot} {token : EnrollmentToken}
    (hsnapshot : projectedSnapshot (storeAfter network realm bootstrapAddresses commands) subject =
      some snapshot) (htoken : snapshot.enrollmentToken = some token) {now : ℕ}
    (hnow : now ≤ token.expiresAt) :
    token.verify (seededKeypair ("authority:" ++ token.realm)).publicKey token.networkId now =
      .ok () := by
  have hsealed : TokenSealed (storeAfter network realm bootstrapAddresses commands) :=
    run_tokenSealed (initialState_consistent network realm bootstrapAddresses)
      (initialState_tokenSealed network realm bootstrapAddresses) hkeep
  exact (hsealed.of_projectedSnapshot hsnapshot htoken).verify hsignatures hnow

end Tokens

/-- Stand-ins that tell payloads of different lengths apart. -/
@[reducible] def measuringPrimitives : Primitives :=
  { Primitives.transparent with
    blake3 := fun payload => Vector.replicate 32 (UInt8.ofNat payload.length) }

section Closed
attribute [local instance] measuringPrimitives

theorem initial_token_verifies : ∃ snapshot token,
    projectedSnapshot (storeAfter "mesh" "default" [] [.addRelay edgeRelayArgs]) none =
        some snapshot ∧ snapshot.enrollmentToken = some token ∧
      token.verify (seededKeypair ("authority:" ++ "default")).publicKey (.derive "mesh")
        1700003600 = .ok () := by
  have hsignatures : SignaturesVerify := fun secret payload => decide_eq_true rfl
  have hkeep : AllKeepHints (initialState "mesh" "default" []) [.addRelay edgeRelayArgs] :=
    ⟨trivial, trivial⟩
  have hsnapshot : projectedSnapshot (storeAfter "mesh" "default" [] [.addRelay edgeRelayArgs])
      none = some (snapshotFor _ none) := rfl
  exact ⟨_, _, hsnapshot, rfl, served_token_verifies hsignatures hkeep hsnapshot rfl le_rfl⟩

def secondBootstrap : AddBootstrapArgs :=
  ⟨"https://bootstrap2.example.invalid:8443", none, [], "authority-cli", none⟩

def initialToken : EnrollmentToken :=
  .issue (seededKeypair ("authority:" ++ "default")) (.derive "mesh") 1700000000
    (1700000000 + 3600) "default" none ["member"] (fixtureBootstrapHints "default")
    (fixtureNonce "init-enrollment")

theorem edited_hints_break_token : ∃ snapshot token,
    projectedSnapshot (storeAfter "mesh" "default" [] [.addBootstrap secondBootstrap]) none =
        some snapshot ∧ snapshot.enrollmentToken = some token ∧
      token.verify (seededKeypair ("authority:" ++ "default")).publicKey (.derive "mesh")
        1700000000 = .error .artifactIdMismatch := by
  let hints := upsertBootstrapHint (fixtureBootstrapHints "default") secondBootstrap.hint
  have hsnapshot : projectedSnapshot (storeAfter "mesh" "default" []
      [.addBootstrap secondBootstrap]) none = some (snapshotFor _ none) := rfl
  have hsealed : Sealed initialToken := issue_sealed _ _ _ _ _ _ _ _
  refine ⟨_, { initialToken with bootstrapHints := hints }, hsnapshot, rfl, ?_⟩
  refine hsealed.verify_edited (by decide) fun hdigest => ?_
  have hlength := congrArg (fun digest : Vector UInt8 32 => digest[0]) hdigest
  simp only [canonicalJson_eq] at hlength
  revert hlength
  decide +kernel

end Closed

end QuipNet.Authority
