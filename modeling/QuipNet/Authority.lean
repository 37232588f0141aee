import QuipNet.Control
import QuipNet.Library.Cursor
import QuipNet.Library.Upsert

/-!
# The authority store

The state file of the `authority` command: what its subcommands write into it and what
the server answers from it. Arguments that do not parse and counters that leave their
64 bits make a command panic before it writes; it then has no result here. The
server reads the file again for each request.
-/

open Std
namespace QuipNet.Authority
open QuipNet.Control QuipNet.Library QuipNet.Relay

structure AuthorityMember where
  subjectSeed : String
  peerId : String
  membership : MembershipCertificate

structure AuthorityState where
  realm : String
  authorityPeerId : String
  activeSubjectSeed : Option String
  members : List AuthorityMember
  capabilityGrants : List CapabilityGrant
  revocations : List RevocationRecord
  relayMapVersion : ℕ
  relays : List RelayAnnouncement
  nextCapabilitySequence : ℕ
  nextRevocationSequence : ℕ
  bootstrapGeneration : ℕ
  bootstrapHints : List BootstrapHint
  snapshot : AuthorityArtifactSnapshot

inductive IssuedArtifact
  | enrollmentToken (value : EnrollmentToken)
  | membership (subjectSeed : String) (active : Bool) (value : MembershipCertificate)
  | capability (value : CapabilityGrant)
  | revocation (value : RevocationRecord)

/-! ## Projections -/

def selectedMember (state : AuthorityState) (subjectSeed : String) : Option AuthorityMember :=
  state.members.find? fun member => member.subjectSeed = subjectSeed

def snapshotFor (state : AuthorityState) (member : Option AuthorityMember) :
    AuthorityArtifactSnapshot where
  networkId := state.snapshot.networkId
  enrollmentToken := state.snapshot.enrollmentToken.map fun token =>
    { token with bootstrapHints := state.bootstrapHints }
  membership := member.map AuthorityMember.membership
  capabilityGrants := match member with
    | some member => state.capabilityGrants.filter fun grant =>
        grant.subjectPeerId = member.membership.subjectPeerId
    | none => []
  revocations := state.revocations
  bootstrapHints := state.bootstrapHints

/-- A subject that is asked for must be a member; without one the active member, if there
is one, is taken. -/
def projectedSnapshot (state : AuthorityState) (subject : Option String) :
    Option AuthorityArtifactSnapshot :=
  match subject with
  | some subjectSeed => (selectedMember state subjectSeed).map fun member =>
      snapshotFor state (some member)
  | none => some (snapshotFor state (state.activeSubjectSeed.bind (selectedMember state)))

/-- The fallback of `materialize_state` is for a subject that is not found, which a
projection without a subject never is. -/
def materializeState (state : AuthorityState) : AuthorityState :=
  let unprojected : AuthorityArtifactSnapshot := { state.snapshot with
    membership := none
    capabilityGrants := []
    revocations := state.revocations
    bootstrapHints := state.bootstrapHints }
  { state with snapshot := (projectedSnapshot state none).getD unprojected }

def filteredRevocations (state : AuthorityState) (afterSequence : Option ℕ) :
    List RevocationRecord :=
  state.revocations.filter fun revocation =>
    (afterSequence.map fun sequence => decide (sequence < revocation.sequence)).getD true

def loadState (decoded : AuthorityState) : AuthorityState :=
  materializeState { decoded with
    bootstrapHints := if decoded.bootstrapHints.isEmpty then decoded.snapshot.bootstrapHints
      else decoded.bootstrapHints
    capabilityGrants := if decoded.capabilityGrants.isEmpty then decoded.snapshot.capabilityGrants
      else decoded.capabilityGrants
    revocations := if decoded.revocations.isEmpty then decoded.snapshot.revocations
      else decoded.revocations }

/-- The server's answers from the stored file at a clock reading. A missing subject is
answered with status 404, which the client reads as `MissingSubject`. -/
def serve (stored : AuthorityState) (now : ℕ) : AuthorityOrigin where
  snapshot subject :=
    match projectedSnapshot (loadState stored) subject with
    | some snapshot => .ok snapshot
    | none => .error (.missingSubject (subject.getD ""))
  relayMap :=
    .ok ⟨(loadState stored).relayMapVersion, now, (loadState stored).relays⟩
  revocations afterSequence := .ok (filteredRevocations (loadState stored) afterSequence)

/-! ## Issuing -/

def upsertMember (members : List AuthorityMember) (member : AuthorityMember) :
    List AuthorityMember :=
  if members.any fun existing => existing.subjectSeed = member.subjectSeed then
    members.replaceF fun existing =>
      if existing.subjectSeed = member.subjectSeed then some member else none
  else members ++ [member]

def upsertRelay (relays : List RelayAnnouncement) (relay : RelayAnnouncement) :
    List RelayAnnouncement :=
  upsert (fun existing => existing.peerId = relay.peerId) relay relays

def sameEndpoint (existing hint : BootstrapHint) : Bool :=
  match existing.peerId, hint.peerId with
  | some left, some right => left = right
  | _, _ => existing.addresses = hint.addresses

def upsertBootstrapHint (hints : List BootstrapHint) (hint : BootstrapHint) : List BootstrapHint :=
  upsert (fun existing => sameEndpoint existing hint) hint hints

def nextSequence (sequence : ℕ) : Option ℕ :=
  if sequence + 1 < 2 ^ 64 then some (sequence + 1) else none

/-- The artifact is merged into the decoded file, which is then written back. -/
def persistIssuedArtifact (state : AuthorityState) : IssuedArtifact → Option AuthorityState
  | .enrollmentToken value =>
    some (materializeState { state with
      snapshot := { state.snapshot with enrollmentToken := some value } })
  | .membership subjectSeed active value =>
    some (materializeState { state with
      members := upsertMember state.members ⟨subjectSeed, value.subjectPeerId.toText, value⟩
      activeSubjectSeed := if active || state.activeSubjectSeed.isNone then some subjectSeed
        else state.activeSubjectSeed })
  | .capability value =>
    (nextSequence value.sequence).map fun next =>
      materializeState { state with
        capabilityGrants :=
          if state.capabilityGrants.any fun existing => sameGrant existing value then
            state.capabilityGrants.replaceF fun existing =>
              if sameGrant existing value then some value else none
          else state.capabilityGrants ++ [value]
        nextCapabilitySequence := max state.nextCapabilitySequence next }
  | .revocation value =>
    (nextSequence value.sequence).map fun next =>
      materializeState { state with
        revocations :=
          if state.revocations.any fun existing => sameRevocation existing value then
            state.revocations
          else state.revocations ++ [value]
        nextRevocationSequence := max state.nextRevocationSequence next }

structure AddBootstrapArgs where
  address : String
  peerId : Option PeerId
  protocols : List String
  source : String
  priority : Option ℕ
deriving DecidableEq, Repr

def AddBootstrapArgs.hint (args : AddBootstrapArgs) : BootstrapHint :=
  let metadata : TreeMap String String := .ofList [("source", args.source)]
  let metadata := match args.priority with
    | some priority => metadata.insert "priority" (Nat.repr priority)
    | none => metadata
  let metadata := if args.protocols.isEmpty then metadata
    else metadata.insert "protocols" (",".intercalate args.protocols)
  ⟨args.peerId, [args.address], metadata⟩

def addBootstrap (stored : AuthorityState) (args : AddBootstrapArgs) : Option AuthorityState :=
  let state := loadState stored
  (nextSequence state.bootstrapGeneration).map fun bootstrapGeneration =>
    materializeState { state with
      bootstrapHints := upsertBootstrapHint state.bootstrapHints args.hint
      bootstrapGeneration }

section Commands
variable [Primitives]

def seededKeypair (label : String) : IdentityKeypair :=
  .fromSecretBytes (Primitives.blake3 (asBytes label))

def fixtureNonce (label : String) : Vector UInt8 16 := (Primitives.blake3 (asBytes label)).take 16

def normalizeRoles (roles : List String) : List String :=
  if roles.isEmpty then ["member"] else roles

def normalizeCapabilities (capabilities : List String) : List String :=
  if capabilities.isEmpty then ["records.publish"] else capabilities

def parseRevocationReason (value : String) : RevocationReason :=
  if value = "key-compromise" then .keyCompromise
  else if value = "superseded" then .superseded
  else if value = "unspecified" then .unspecified
  else .administrative

def bootstrapHints (addresses : List String) : List BootstrapHint :=
  let values := if addresses.isEmpty then ["https://bootstrap.example.invalid:8443"] else addresses
  values.zipIdx.map fun (address, index) =>
    ⟨none, [address], .ofList [("source", "authority-cli"), ("priority", Nat.repr index)]⟩

/-- The label and peer of a subject given by its seed, its peer id, or both. -/
def resolveSubject (subjectSeed : Option String) (subjectPeerId : Option PeerId) :
    Option (String × PeerId) :=
  match subjectPeerId with
  | some peerId => some (subjectSeed.getD ("peer:" ++ peerId.toText), peerId)
  | none => subjectSeed.map fun seed => (seed, (seededKeypair ("subject:" ++ seed)).peerId)

/-- The artifact commands with their parsed arguments and the clock reading they use. -/
inductive ArtifactCommand
  | enrollmentToken (network realm : String) (subject : Option String) (roles : List String)
      (bootstrapAddresses : List String) (ttlSecs issuedAt : ℕ)
  | membership (network realm : String) (subjectSeed : Option String)
      (subjectPeerId : Option PeerId) (roles : List String) (ttlSecs : ℕ) (active : Bool)
      (issuedAt : ℕ)
  | capability (network realm : String) (subjectSeed : Option String)
      (subjectPeerId : Option PeerId) (capabilities : List String) (protocols : List ProtocolId)
      (constraints : List String) (ttlSecs issuedAt : ℕ)
  | revocation (network realm : String) (peerId : PeerId) (reason : String) (note : Option String)
      (issuedAt : ℕ)

def issuedArtifact (stored : AuthorityState) : ArtifactCommand → Option IssuedArtifact
  | .enrollmentToken network realm subject roles bootstrapAddresses ttlSecs issuedAt =>
    some (.enrollmentToken (.issue (seededKeypair ("authority:" ++ realm)) (.derive network) issuedAt
      (issuedAt + ttlSecs) realm subject (normalizeRoles roles) (bootstrapHints bootstrapAddresses)
      (fixtureNonce "enrollment-token")))
  | .membership network realm subjectSeed subjectPeerId roles ttlSecs active issuedAt =>
    (resolveSubject subjectSeed subjectPeerId).map fun (label, peerId) =>
      .membership label active (.issue (seededKeypair ("authority:" ++ realm)) (.derive network)
        peerId issuedAt (issuedAt + ttlSecs) (normalizeRoles roles))
  | .capability network realm subjectSeed subjectPeerId capabilities protocols constraints ttlSecs
      issuedAt =>
    (resolveSubject subjectSeed subjectPeerId).map fun (_, peerId) =>
      .capability (.issue (seededKeypair ("authority:" ++ realm)) (.derive network) peerId
        (normalizeCapabilities capabilities)
        (if protocols.isEmpty then [⟨"/quip/records/1"⟩] else protocols)
        ⟨some 10000000, some 32, some (4 * 1024 * 1024)⟩ constraints issuedAt (issuedAt + ttlSecs)
        (loadState stored).nextCapabilitySequence)
  | .revocation network realm peerId reason note issuedAt =>
    some (.revocation (.issue (seededKeypair ("authority:" ++ realm)) (.derive network)
      (.peer peerId) (parseRevocationReason reason) issuedAt issuedAt
      (loadState stored).nextRevocationSequence note))

def issue (stored : AuthorityState) (command : ArtifactCommand) : Option AuthorityState :=
  (issuedArtifact stored command).bind (persistIssuedArtifact stored)

structure AddMemberArgs where
  network : String
  realm : String
  subjectSeed : Option String
  subjectPeerId : Option PeerId
  roles : List String
  ttlSecs : ℕ
  active : Bool
  issuedAt : ℕ
deriving DecidableEq, Repr

def addMember (stored : AuthorityState) (args : AddMemberArgs) : Option AuthorityState :=
  (resolveSubject args.subjectSeed args.subjectPeerId).map fun (label, peerId) =>
    let state := loadState stored
    materializeState { state with
      members := upsertMember state.members ⟨label, peerId.toText,
        .issue (seededKeypair ("authority:" ++ args.realm)) (.derive args.network) peerId
          args.issuedAt (args.issuedAt + args.ttlSecs) (normalizeRoles args.roles)⟩
      activeSubjectSeed := if args.active || state.activeSubjectSeed.isNone then some label
        else state.activeSubjectSeed }

structure AddRelayArgs where
  peerId : Option PeerId
  peerSeed : Option String
  region : String
  addresses : List String
  controlEndpoint : String
  maxBandwidthBps : ℕ
  supportsQuicDatagrams : Bool
  supportsPathMigration : Bool
  trafficClasses : List String
deriving DecidableEq, Repr

def AddRelayArgs.announcement (args : AddRelayArgs) : Option RelayAnnouncement :=
  (args.peerId.or (args.peerSeed.map fun seed => (seededKeypair seed).peerId)).map fun peerId =>
    { peerId
      region := args.region
      advertisedEndpoints := args.addresses
      controlEndpoint := args.controlEndpoint
      maxBandwidthBps := args.maxBandwidthBps
      supportsQuicDatagrams := args.supportsQuicDatagrams
      supportsPathMigration := args.supportsPathMigration
      trafficClasses := if args.trafficClasses.isEmpty
        then ["NetworkControl", "InteractiveRpc", "Background"] else args.trafficClasses }

def addRelay (stored : AuthorityState) (args : AddRelayArgs) : Option AuthorityState := do
  let state := loadState stored
  let relay ← args.announcement
  let relayMapVersion ← nextSequence state.relayMapVersion
  pure (materializeState { state with relays := upsertRelay state.relays relay, relayMapVersion })

def fixtureBootstrapHints (realm : String) : List BootstrapHint :=
  [⟨none, ["https://bootstrap1.example.invalid:8443"],
      .ofList [("source", "authority-cli"), ("priority", "0")]⟩,
    ⟨some (seededKeypair ("authority:" ++ realm)).peerId, ["quic://198.51.100.10:8443"],
      .ofList [("source", "authority-cli"), ("priority", "1"),
        ("protocols", "/quip/control/1,/quip/records/1")]⟩]

def initialState (network realm : String) (bootstrapAddresses : List String) : AuthorityState :=
  let authority := seededKeypair ("authority:" ++ realm)
  let hints := if bootstrapAddresses.isEmpty then fixtureBootstrapHints realm
    else bootstrapHints bootstrapAddresses
  materializeState
    { realm
      authorityPeerId := authority.peerId.toText
      activeSubjectSeed := none
      members := []
      capabilityGrants := []
      revocations := []
      relayMapVersion := 0
      relays := []
      nextCapabilitySequence := 1
      nextRevocationSequence := 1
      bootstrapGeneration := 1
      bootstrapHints := hints
      snapshot :=
        { networkId := .derive network
          enrollmentToken := some (.issue authority (.derive network) 1700000000
            (1700000000 + 3600) realm none ["member"] hints (fixtureNonce "init-enrollment"))
          membership := none
          capabilityGrants := []
          revocations := []
          bootstrapHints := [] } }

end Commands

/-! ## The revocation log of the store -/

/-- The revocations are numbered in order below the counter, and the stored snapshot has
the same ones. -/
structure Numbered (stored : AuthorityState) : Prop where
  inOrder : InOrder RevocationRecord.sequence stored.revocations
  below : ∀ revocation ∈ stored.revocations, revocation.sequence < stored.nextRevocationSequence
  snapshot : stored.snapshot.revocations = stored.revocations

theorem loadState_revocations {stored : AuthorityState} (h : Numbered stored) :
    (loadState stored).revocations = stored.revocations := by
  simp only [loadState, materializeState, h.snapshot, ite_self]

theorem initialState_numbered [Primitives] (network realm : String)
    (bootstrapAddresses : List String) : Numbered (initialState network realm bootstrapAddresses) :=
  ⟨List.Pairwise.nil, by simp [initialState, materializeState], rfl⟩

/-- The sequence of the artifact, if it has one, is the next one of the store. -/
def Fresh (stored : AuthorityState) : IssuedArtifact → Prop
  | .capability value => value.sequence = stored.nextCapabilitySequence
  | .revocation value => value.sequence = stored.nextRevocationSequence
  | _ => True

theorem issuedArtifact_fresh [Primitives] {stored : AuthorityState} {command : ArtifactCommand}
    {artifact : IssuedArtifact} (h : issuedArtifact stored command = some artifact) :
    Fresh stored artifact := by
  cases command with
  | enrollmentToken =>
    cases h
    trivial
  | membership =>
    obtain ⟨subject, -, rfl⟩ := Option.map_eq_some_iff.1 h
    trivial
  | capability =>
    obtain ⟨subject, -, rfl⟩ := Option.map_eq_some_iff.1 h
    rfl
  | revocation =>
    cases h
    rfl

theorem nextSequence_eq_some {sequence next : ℕ} (h : nextSequence sequence = some next) :
    next = sequence + 1 := by
  unfold nextSequence at h
  split_ifs at h
  exact (Option.some.inj h).symm

theorem persistIssuedArtifact_revocation {stored after : AuthorityState} (h : Numbered stored)
    {value : RevocationRecord} (hfresh : Fresh stored (.revocation value))
    (hpersist : persistIssuedArtifact stored (.revocation value) = some after) :
    after = materializeState { stored with
      revocations := stored.revocations ++ [value]
      nextRevocationSequence := stored.nextRevocationSequence + 1 } := by
  obtain ⟨next, hnext, rfl⟩ := Option.map_eq_some_iff.1 hpersist
  have hvalue : value.sequence = stored.nextRevocationSequence := hfresh
  have hcounter := nextSequence_eq_some hnext
  have hnew : ¬ stored.revocations.any (fun existing => sameRevocation existing value) := by
    simp only [List.any_eq_true, sameRevocation, Bool.and_eq_true, decide_eq_true_eq]
    rintro ⟨other, hother, ⟨hsequence, -⟩, -⟩
    have hbelow := h.below other hother
    omega
  have hmax : max stored.nextRevocationSequence next = stored.nextRevocationSequence + 1 := by
    omega
  rw [if_neg hnew, hmax]

theorem persistIssuedArtifact_revocations {stored after : AuthorityState} (h : Numbered stored)
    {artifact : IssuedArtifact} (hfresh : Fresh stored artifact)
    (hpersist : persistIssuedArtifact stored artifact = some after) :
    Numbered after ∧ (after.revocations = stored.revocations ∨
      ∃ revocation, artifact = .revocation revocation ∧
        (∀ other ∈ stored.revocations, other.sequence < revocation.sequence) ∧
        after.revocations = stored.revocations ++ [revocation]) := by
  cases artifact with
  | enrollmentToken value =>
    cases hpersist
    exact ⟨⟨h.inOrder, h.below, rfl⟩, .inl rfl⟩
  | membership subjectSeed active value =>
    cases hpersist
    exact ⟨⟨h.inOrder, h.below, rfl⟩, .inl rfl⟩
  | capability value =>
    obtain ⟨next, -, rfl⟩ := Option.map_eq_some_iff.1 hpersist
    exact ⟨⟨h.inOrder, h.below, rfl⟩, .inl rfl⟩
  | revocation value =>
    have hvalue : value.sequence = stored.nextRevocationSequence := hfresh
    have habove : ∀ other ∈ stored.revocations, other.sequence < value.sequence := by
      intro other hother
      rw [hvalue]
      exact h.below other hother
    obtain rfl := persistIssuedArtifact_revocation h hfresh hpersist
    refine ⟨⟨h.inOrder.concat habove, ?_, rfl⟩, .inr ⟨value, rfl, habove, rfl⟩⟩
    intro other hother
    change other ∈ stored.revocations ++ [value] at hother
    change other.sequence < stored.nextRevocationSequence + 1
    rcases List.mem_append.1 hother with hold | hlast
    · have := h.below other hold
      omega
    · rw [List.mem_singleton.1 hlast]
      omega

theorem issue_revocations [Primitives] {stored after : AuthorityState} (h : Numbered stored)
    {command : ArtifactCommand} (hissue : issue stored command = some after) :
    Numbered after ∧ (after.revocations = stored.revocations ∨
      ∃ revocation, (∀ other ∈ stored.revocations, other.sequence < revocation.sequence) ∧
        after.revocations = stored.revocations ++ [revocation]) := by
  obtain ⟨artifact, hartifact, hpersist⟩ := Option.bind_eq_some_iff.1 hissue
  obtain ⟨hnumbered, hlog⟩ :=
    persistIssuedArtifact_revocations h (issuedArtifact_fresh hartifact) hpersist
  exact ⟨hnumbered, hlog.imp_right fun ⟨revocation, _, hgrown⟩ => ⟨revocation, hgrown⟩⟩

end QuipNet.Authority
