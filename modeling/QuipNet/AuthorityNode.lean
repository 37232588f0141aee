import QuipNet.AuthorityStore
import QuipNet.HttpAuthority
import QuipNet.NodeInterleavings

/-!
# A node and its authority

Commands are run at the authority while a node takes requests and turns its main loop. What the
node hears of the authority comes over HTTP, or from a snapshot that was saved to a file, and
each answer is that of some moment. The revocations of the node are an initial part of those that
the authority issues.
-/

namespace QuipNet.Authority
open QuipNet.Control QuipNet.Library

variable [Primitives]

structure Realm where
  network : String
  realm : String
  bootstrapAddresses : List String
  commands : List StoreCommand

def Realm.storeAt (realm : Realm) (moment : ℕ) : AuthorityState :=
  storeAfter realm.network realm.realm realm.bootstrapAddresses (realm.commands.take moment)

def Realm.log (realm : Realm) : List RevocationRecord :=
  (storeAfter realm.network realm.realm realm.bootstrapAddresses realm.commands).revocations

theorem StoreCommand.revocations_prefix {stored : AuthorityState} (h : Consistent stored)
    (command : StoreCommand) : stored.revocations <+: (command.run stored).revocations := by
  unfold StoreCommand.run
  cases happly : command.apply stored with
  | none => exact List.prefix_rfl
  | some after =>
    cases command with
    | addMember args =>
      obtain ⟨⟨label, peerId⟩, -, rfl⟩ := Option.map_eq_some_iff.mp happly
      dsimp only
      rw [h.loadState_eq]
      exact List.prefix_rfl
    | addBootstrap args =>
      obtain ⟨generation, -, rfl⟩ := Option.map_eq_some_iff.mp happly
      rw [h.loadState_eq]
      exact List.prefix_rfl
    | addRelay args =>
      obtain ⟨relay, rfl⟩ := addRelay_eq_some h happly
      exact List.prefix_rfl
    | issue command =>
      obtain ⟨-, hsame | ⟨revocation, -, hgrown⟩⟩ := issue_revocations h.toNumbered happly
      · exact hsame ▸ List.prefix_rfl
      · exact hgrown ▸ List.prefix_append _ _
    | reload =>
      cases happly
      rw [h.loadState_eq]
      exact List.prefix_rfl

theorem storeAfter_revocations_prefix (network realm : String) (bootstrapAddresses : List String)
    (commands more : List StoreCommand) :
    (storeAfter network realm bootstrapAddresses commands).revocations <+:
      (storeAfter network realm bootstrapAddresses (commands ++ more)).revocations := by
  induction more using List.reverseRecOn with
  | nil => rw [List.append_nil]
  | append_singleton more command ih =>
    refine ih.trans ?_
    have hnext : storeAfter network realm bootstrapAddresses (commands ++ (more ++ [command])) =
        command.run (storeAfter network realm bootstrapAddresses (commands ++ more)) := by
      rw [← List.append_assoc, storeAfter, List.foldl_append]
      rfl
    rw [hnext]
    exact StoreCommand.revocations_prefix (storeAfter_consistent _ _ _ _) command

section Realms
variable {realm : Realm}

theorem Realm.storeAt_consistent (realm : Realm) (moment : ℕ) : Consistent (realm.storeAt moment) :=
  storeAfter_consistent _ _ _ _

theorem Realm.log_inOrder (realm : Realm) : InOrder RevocationRecord.sequence realm.log :=
  (storeAfter_consistent _ _ _ realm.commands).inOrder

theorem Realm.storeAt_prefix {since moment : ℕ} (h : since ≤ moment) :
    (realm.storeAt since).revocations <+: (realm.storeAt moment).revocations := by
  obtain ⟨more, hmore⟩ := List.take_prefix_take_left (l := realm.commands) h
  rw [Realm.storeAt, Realm.storeAt, ← hmore]
  exact storeAfter_revocations_prefix _ _ _ _ _

theorem Realm.storeAt_prefix_log (moment : ℕ) :
    (realm.storeAt moment).revocations <+: realm.log := by
  obtain ⟨more, hmore⟩ := List.take_prefix moment realm.commands
  rw [Realm.log, ← hmore]
  exact storeAfter_revocations_prefix _ _ _ _ _

theorem Realm.projected_revocations {moment : ℕ} {subject : Option String}
    {snapshot : AuthorityArtifactSnapshot}
    (h : projectedSnapshot (loadState (realm.storeAt moment)) subject = some snapshot) :
    snapshot.revocations = (realm.storeAt moment).revocations := by
  rw [(realm.storeAt_consistent moment).loadState_eq] at h
  cases subject with
  | none =>
    cases h
    rfl
  | some seed =>
    obtain ⟨member, -, rfl⟩ := Option.map_eq_some_iff.1 h
    rfl

end Realms

end QuipNet.Authority

namespace QuipNet.Daemon
open QuipNet.Authority QuipNet.Control QuipNet.DaemonApi QuipNet.Fabric QuipNet.Library
open QuipNet.Library.Effect QuipNet.Library.SharedCell QuipNet.Quic QuipNet.Relay

variable {ρ : Type}

/-! ## What the node is fed -/

section Feeding
variable [Primitives] [BodyReader]

/-- The surroundings are those of a node of the realm: what origins answer and what snapshot
files hold is the authority's of a moment that is not before `since`. -/
structure Serves (realm : Realm) (since : ℕ) (surroundings : Surroundings) : Prop where
  origins : ∀ name, ∃ web : Web, web.Sends name ∧ surroundings.originAt name = web.originAt name ∧
    ∀ url, ∃ moment ≥ since, web.stored url = realm.storeAt moment
  files : ∀ path snapshot, surroundings.loadAuthoritySnapshot path = .ok snapshot →
    ∃ moment ≥ since, ∃ subject,
      projectedSnapshot (loadState (realm.storeAt moment)) subject = some snapshot

variable {realm : Realm} {since : ℕ} {surroundings : Surroundings}

/-- The revocations are those of a moment that is not before `since`. -/
def OfMoment (realm : Realm) (since : ℕ) (batch : List RevocationRecord) : Prop :=
  ∃ moment ≥ since, batch = (realm.storeAt moment).revocations

omit [BodyReader] in
theorem OfMoment.covers {batch : List RevocationRecord} (h : OfMoment realm since batch) :
    CoversLog realm.log batch := by
  obtain ⟨moment, -, rfl⟩ := h
  exact .of_initial realm.log_inOrder (Realm.storeAt_prefix_log moment)

omit [BodyReader] in
theorem OfMoment.subset {batch : List RevocationRecord} (h : OfMoment realm since batch) :
    (realm.storeAt since).revocations ⊆ batch := by
  obtain ⟨moment, hsince, rfl⟩ := h
  exact (Realm.storeAt_prefix hsince).subset

omit [BodyReader] in
theorem OfMoment.feeds {batch : List RevocationRecord} (h : OfMoment realm since batch) :
    Feeds (CoversLog realm.log) batch where
  fresh := h.covers
  merged _ hheld := Covers.mergeNew sameRevocation_sequence realm.log_inOrder hheld h.covers

theorem Serves.snapshot_file (h : Serves realm since surroundings) {path : String}
    {snapshot : AuthorityArtifactSnapshot}
    (hloaded : surroundings.loadAuthoritySnapshot path = .ok snapshot) :
    OfMoment realm since snapshot.revocations := by
  obtain ⟨moment, hsince, subject, hprojected⟩ := h.files path snapshot hloaded
  exact ⟨moment, hsince, Realm.projected_revocations hprojected⟩

theorem Serves.snapshot_origin (hread : BodyReader.RoundTrips)
    (h : Serves realm since surroundings) {name : String} {subject : Option String}
    {snapshot : AuthorityArtifactSnapshot}
    (hanswer : (surroundings.originAt name).snapshot subject = .ok snapshot) :
    OfMoment realm since snapshot.revocations := by
  obtain ⟨web, hsends, horigin, hstored⟩ := h.origins name
  rw [horigin] at hanswer
  rcases fetchSnapshot_cases hread hsends subject with ⟨-, detail, hfailed⟩ | ⟨-, hserved⟩
  · rw [show web.fetchSnapshot name subject = _ from hanswer] at hfailed
    cases hfailed
  · rw [show web.fetchSnapshot name subject = _ from hanswer] at hserved
    obtain ⟨moment, hsince, hmoment⟩ := hstored
      (endpointWithSubject (snapshotEndpoint name) subject)
    rw [hmoment] at hserved
    refine ⟨moment, hsince, ?_⟩
    cases hprojected : projectedSnapshot (loadState (realm.storeAt moment))
        (web.askedSubject name subject) with
    | none =>
      rw [hprojected] at hserved
      cases hserved
    | some projected =>
      rw [hprojected] at hserved
      cases hserved
      exact Realm.projected_revocations hprojected

theorem Serves.revocations_origin (hread : BodyReader.RoundTrips)
    (h : Serves realm since surroundings) {name : String} {afterSequence : Option ℕ}
    {batch : List RevocationRecord}
    (hanswer : (surroundings.originAt name).revocations afterSequence = .ok batch) :
    ∃ served, OfMoment realm since served ∧ batch = served.filter fun revocation =>
      (afterSequence.map fun sequence => decide (sequence < revocation.sequence)).getD true := by
  obtain ⟨web, hsends, horigin, hstored⟩ := h.origins name
  rw [horigin] at hanswer
  rcases fetchRevocations_cases hread hsends afterSequence with ⟨-, detail, hfailed⟩ | ⟨-, hserved⟩
  · rw [show web.fetchRevocations name afterSequence = _ from hanswer] at hfailed
    cases hfailed
  · rw [show web.fetchRevocations name afterSequence = _ from hanswer] at hserved
    obtain ⟨moment, hsince, hmoment⟩ := hstored
      (endpointWithAfterSequence (AuthorityEndpoints.fromOrigin name).revocation afterSequence)
    rw [hmoment, serve_revocations (realm.storeAt_consistent moment).toNumbered] at hserved
    cases hserved
    exact ⟨_, ⟨moment, hsince, rfl⟩, rfl⟩

theorem Serves.feed (hread : BodyReader.RoundTrips) (h : Serves realm since surroundings) :
    SurroundingsFeed (CoversLog realm.log) surroundings where
  snapshot path snapshot hloaded := (h.snapshot_file hloaded).feeds
  origin name :=
    { snapshot := fun subject snapshot hanswer => (h.snapshot_origin hread hanswer).feeds
      revocations := by
        intro held batch hheld hanswer
        obtain ⟨served, hserved, rfl⟩ := h.revocations_origin hread hanswer
        exact Covers.mergeAbove sameRevocation_sequence realm.log_inOrder hserved.covers hheld }

/-! ## What the node holds -/

variable [PayloadDecoder] {args : ServerArgs} {config : DaemonConfig}
  {localIdentity : IdentityKeypair}

omit [BodyReader] [PayloadDecoder] in
theorem covers_of_run {file : Option StateFile} (hfile : FileHas (· = []) file)
    {guard : Option StateFile → Option StateFile → Prop} {reached : NodeFile}
    (h : Run (nodeProtocol (CoversLog realm.log) RemovedOrBundle) guard (unread file) reached) :
    FileHas (CoversLog realm.log) reached.content := by
  refine fileHas_of_run ?_ h ?_
  · rintro file (rfl | ⟨error, rfl⟩) state hstate
    · cases hstate
    · cases hstate
  · intro state hstate
    rw [hfile state hstate]
    exact Covers.nil _

theorem run_served (hread : BodyReader.RoundTrips) {steps : List NodeStep}
    (hserves : ∀ step ∈ steps, Serves realm since step.surroundings) (node : Node ρ) :
    Run (nodeProtocol (CoversLog realm.log) RemovedOrBundle) ContinuedBy
      (unread node.world.stateFile)
      (unread (node.run args config localIdentity steps).world.stateFile) :=
  Node.run_interleaves args localIdentity (Covers.nil _)
    (fun step hstep => (hserves step hstep).feed hread) (fun _ _ _ => .inl rfl)
    (fun _ _ _ error => .inr ⟨error, rfl⟩) node

end Feeding

section Closed
attribute [local instance] Primitives.transparent BodyReader.byKind diagnoseDecoder

def revokeRelay : ArtifactCommand :=
  .revocation "mesh" "default" fixtureRelayPeer "retired" none 1720000100

def revokingRealm : Realm := ⟨"mesh", "default", [], [.issue revokeWorker, .issue revokeRelay]⟩

def strandedWeb (stored : AuthorityState) : Web :=
  { authorityWeb stored with target := fun _ => .error "Dns Failed" }

def realmSurroundings (realm : Realm) (moment : ℕ) : Surroundings where
  loadAuthoritySnapshot _ := .error (.io "No such file or directory (os error 2)")
  originAt name :=
    if name = "http://authority/" then (authorityWeb (realm.storeAt moment)).originAt name
    else (strandedWeb (realm.storeAt moment)).originAt name

theorem realmSurroundings_serves (realm : Realm) {since moment : ℕ} (h : since ≤ moment) :
    Serves realm since (realmSurroundings realm moment) where
  origins name := by
    by_cases hname : name = "http://authority/"
    · subst hname
      refine ⟨authorityWeb (realm.storeAt moment), authorityWeb_sends _, ?_, fun _ => ⟨moment, h, rfl⟩⟩
      simp only [realmSurroundings, if_true]
    · refine ⟨strandedWeb (realm.storeAt moment), ⟨?_, ?_⟩, ?_, fun _ => ⟨moment, h, rfl⟩⟩
      · intro text target _ htarget
        cases htarget
      · intro subject target htarget
        cases htarget
      · simp only [realmSurroundings, if_neg hname]
  files path snapshot hloaded := by cases hloaded

end Closed
end QuipNet.Daemon
