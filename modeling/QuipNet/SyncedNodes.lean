import QuipNet.AuthorityNode

/-!
# What a synchronization brings

A request to synchronize that succeeds leaves a node with every revocation of the moment at which
its authority answered. The node refuses the peers that they revoke for as long as its threads
write over no facts that they have not read. When there were new ones among them, its sessions with
those peers are closed.
-/

namespace QuipNet.Daemon
open QuipNet.Authority QuipNet.Control QuipNet.DaemonApi QuipNet.Fabric QuipNet.Library
open QuipNet.Fabric.LocalControlPlane QuipNet.Library.Effect QuipNet.Library.SharedCell
open QuipNet.Quic QuipNet.Transport

variable {ρ : Type}

section Answers
variable {α : Type} {world after : World ρ} {value : α}

theorem orThrow_eq_ok {answer : Except DaemonStateError α}
    (h : orThrow answer world = .ok value after) : answer = .ok value ∧ world = after := by
  cases answer with
  | error error => cases h
  | ok found =>
    cases h
    exact ⟨rfl, rfl⟩

theorem fetched_eq_ok {answer : Except ControlError α}
    (h : fetched answer world = .ok value after) : answer = .ok value ∧ world = after := by
  cases answer with
  | error error => cases h
  | ok found =>
    cases h
    exact ⟨rfl, rfl⟩

theorem decoded_eq_ok {payload : String} {answer : Except String α}
    (h : decoded payload answer world = .ok value after) :
    answer = .ok value ∧ world = after := by
  cases answer with
  | error error => cases h
  | ok found =>
    cases h
    exact ⟨rfl, rfl⟩

end Answers

/-! ## Informed states -/

section States
variable [Primitives] {realm : Realm} {since : ℕ}

structure Informed (realm : Realm) (since : ℕ) (state : DaemonState) : Prop where
  revocations : (realm.storeAt since).revocations ⊆ state.revocations
  denyList : state.DenyListCurrent

theorem Informed.of_same {state after : DaemonState} (h : Informed realm since state)
    (hmembership : after.membership = state.membership)
    (hrevocations : after.revocations = state.revocations)
    (hdenied : after.deniedPeers = state.deniedPeers) : Informed realm since after where
  revocations := by
    rw [hrevocations]
    exact h.revocations
  denyList := by
    rw [DaemonState.DenyListCurrent, hmembership, hrevocations, hdenied]
    exact h.denyList

theorem Informed.continues {state after : DaemonState} (h : Informed realm since state)
    (hafter : state.Continues (fun _ => True) after) : Informed realm since after where
  revocations := List.Subset.trans h.revocations hafter.revocations.subset
  denyList := hafter.denyList h.denyList

theorem Informed.refuses {state : DaemonState} (h : Informed realm since state)
    {revocation : RevocationRecord} (hissued : revocation ∈ (realm.storeAt since).revocations)
    {peer : PeerId} (htarget : revocation.target = .peer peer) (protocol : ProtocolId) :
    (state.explainPolicy peer protocol).allowed = false := by
  have hdenies : state.Denies peer := h.denyList.denies (h.revocations hissued) htarget
  exact hdenies.refuses protocol

def KnowsMoment (realm : Realm) (since : ℕ) (file : Option StateFile) : Prop :=
  ∃ held, file = some (.durable held) ∧ Informed realm since held

theorem KnowsMoment.kept {file later : Option StateFile} (h : KnowsMoment realm since file)
    (hkept : ContinuedBy file later) : KnowsMoment realm since later := by
  obtain ⟨held, hheld, hinformed⟩ := h
  obtain ⟨state, hstate, hcontinues⟩ := hkept held hheld
  exact ⟨state, hstate, hinformed.continues hcontinues⟩

theorem Informed.saved {state : DaemonState} (h : Informed realm since state) :
    KnowsMoment realm since (some state.saved) :=
  ⟨_, rfl, h.of_same rfl rfl rfl⟩

def KeepsFacts (before after : World ρ) : Prop := ContinuedBy before.stateFile after.stateFile

instance (config : DaemonConfig) : Operated config (fun _ => True) (KeepsFacts (ρ := ρ)) where
  nothing := trivial
  refl world := refl (r := ContinuedBy) world.stateFile
  trans _ _ _ h₁ h₂ := IsTrans.trans (r := ContinuedBy) _ _ _ h₁ h₂
  ticked world := refl (r := ContinuedBy) world.stateFile
  created world hnone held hheld := by
    rw [hnone] at hheld
    cases hheld
  saved _ _ hfollows := continuedBy_saved hfollows
  called world _ := refl (r := ContinuedBy) world.stateFile

theorem FileHas.of_file {file : Option StateFile} (h : FileHas (CoversLog realm.log) file) :
    ∀ stored, file = some stored → CoversLog realm.log stored.revocations := by
  rintro stored rfl
  cases stored with
  | durable held => exact h held rfl
  | damaged error => exact Covers.nil _

theorem syncedState_informed {config : DaemonConfig} {file : Option StateFile}
    (hfile : FileHas (CoversLog realm.log) file) {snapshot : AuthorityArtifactSnapshot}
    (hsnapshot : OfMoment realm since snapshot.revocations) {result : DaemonState × StateSyncReport}
    (h : syncedState config file snapshot = .ok result) : Informed realm since result.1 := by
  obtain ⟨-, hbrought⟩ := syncedState_covers realm.log_inOrder hfile.of_file hsnapshot.covers h
  refine ⟨List.Subset.trans hsnapshot.subset hbrought, ?_⟩
  rcases syncedState_eq_ok h with ⟨-, built, hbuilt, rfl⟩ | ⟨-, held, -, -, hsync⟩
  · -- there was no file: the deny list is built with the state
    change built.DenyListCurrent
    exact DaemonState.fromAuthoritySnapshot_denyListCurrent hbuilt
  · exact DaemonState.syncAuthoritySnapshot_denyListCurrent hsync

end States

/-! ## The synchronizations -/

section Syncs
variable [Primitives] [BodyReader] {realm : Realm} {since : ℕ} {surroundings : Surroundings}
  {config : DaemonConfig} {localIdentity : IdentityKeypair} {world after : World ρ}

theorem syncAuthoritySnapshot_informs (hserves : Serves realm since surroundings)
    (hfile : FileHas (CoversLog realm.log) world.stateFile) {path : String}
    {result : DaemonState × StateSyncReport}
    (h : LocalControlPlane.syncAuthoritySnapshot config (surroundings.loadAuthoritySnapshot path)
      world = .ok result after) : KnowsMoment realm since after.stateFile := by
  unfold LocalControlPlane.syncAuthoritySnapshot at h
  obtain ⟨snapshot, between, hloads, h⟩ := bind_eq_ok h
  obtain ⟨hloaded, rfl⟩ := orThrow_eq_ok hloads
  obtain ⟨opened, between, hget, h⟩ := bind_eq_ok h
  cases hget
  obtain ⟨synced, between, hmerges, h⟩ := bind_eq_ok h
  obtain ⟨hsynced, rfl⟩ := orThrow_eq_ok hmerges
  cases h
  exact (syncedState_informed hfile (hserves.snapshot_file hloaded) hsynced).saved

theorem syncAuthorityOrigin_informs (hread : BodyReader.RoundTrips)
    (hserves : Serves realm since surroundings)
    (hfile : FileHas (CoversLog realm.log) world.stateFile) {name : String} {subject : Option String}
    {result : DaemonState × StateSyncReport}
    (h : LocalControlPlane.syncAuthorityOrigin config (surroundings.originAt name) subject
      world = .ok result after) : KnowsMoment realm since after.stateFile := by
  unfold LocalControlPlane.syncAuthorityOrigin at h
  obtain ⟨snapshot, between, hasks, h⟩ := bind_eq_ok h
  obtain ⟨hfetched, rfl⟩ := fetched_eq_ok hasks
  have hanswer := fetchAuthoritySnapshotFor_eq_ok hfetched
  obtain ⟨relayMap, between, hrelays, h⟩ := bind_eq_ok h
  obtain ⟨-, rfl⟩ := fetched_eq_ok hrelays
  obtain ⟨opened, between, hget, h⟩ := bind_eq_ok h
  cases hget
  obtain ⟨synced, between, hmerges, h⟩ := bind_eq_ok h
  obtain ⟨hsynced, rfl⟩ := orThrow_eq_ok hmerges
  have hinformed : Informed realm since synced.1 :=
    syncedState_informed hfile (hserves.snapshot_origin hread hanswer) hsynced
  cases h
  exact (hinformed.continues (DaemonState.applyRelayMap_continues _ relayMap)).saved

theorem revokeState_informs (hread : BodyReader.RoundTrips)
    (hserves : Serves realm since surroundings) {state : DaemonState}
    (hstate : CoversLog realm.log state.revocations) {name : String}
    {adapter changed : QuicTransportAdapter ρ} {written : DaemonState × DaemonState × ℕ}
    (h : revokeState (surroundings.originAt name) state adapter = .ok written changed) :
    Informed realm since written.1 := by
  unfold revokeState at h
  cases hanswer : (surroundings.originAt name).revocations state.maxRevocationSequence with
  | error error =>
    rw [hanswer] at h
    cases h
  | ok batch =>
    rw [hanswer] at h
    cases h
    obtain ⟨served, hserved, rfl⟩ := hserves.revocations_origin hread hanswer
    refine ⟨List.Subset.trans hserved.subset ?_, state.applyRevocations_denyListCurrent _⟩
    exact hstate.subset_mergeAbove sameRevocation_sequence realm.log_inOrder hserved.covers.subset

theorem syncAuthorityRevocationsOrigin_informs (hread : BodyReader.RoundTrips)
    (hserves : Serves realm since surroundings)
    (hfile : FileHas (CoversLog realm.log) world.stateFile) {name : String} {added : DaemonState × ℕ}
    (h : LocalControlPlane.syncAuthorityRevocationsOrigin config (surroundings.originAt name)
      world = .ok added after) : KnowsMoment realm since after.stateFile := by
  obtain ⟨state, opened, hstate, -⟩ := bind_eq_ok h
  -- the cursor is that of the state as it was read, so that the answer starts where it ends
  have hheld : CoversLog realm.log state.revocations := by
    cases hworld : world.stateFile with
    | none =>
      rw [ensureState_of_none hworld] at hstate
      cases hstate
      exact Covers.nil _
    | some file =>
      cases hload : file.load with
      | error error =>
        rw [ensureState_of_damaged hworld hload] at hstate
        cases hstate
      | ok stored =>
        rw [ensureState_of_load hworld hload] at hstate
        cases hstate
        change CoversLog realm.log stored.revocations
        rw [revocations_load hload]
        exact hfile.of_file file hworld
  obtain ⟨written, transport, hwork, rfl⟩ := transaction_ok hstate h
  have hroles : CoversLog realm.log { state with roles := config.roles }.revocations := hheld
  exact (revokeState_informs hread hserves hroles hwork).saved

end Syncs

/-! ## The sessions -/

section Sessions
variable [Primitives] {realm : Realm} {since : ℕ} {config : DaemonConfig}
  {localIdentity : IdentityKeypair} {world after : World ρ}

/-- Every session that has a protocol is with a peer that was not revoked by the moment. -/
def Unrevoked (realm : Realm) (since : ℕ) (adapter : QuicTransportAdapter ρ) : Prop :=
  ∀ session ∈ adapter.activeSessions, session.protocol.isSome = true →
    ∀ revocation ∈ (realm.storeAt since).revocations, revocation.target ≠ .peer session.peer

theorem Unrevoked.of_sessions {before adapter : QuicTransportAdapter ρ}
    (h : Unrevoked realm since before) (hsessions : adapter.activeSessions = before.activeSessions) :
    Unrevoked realm since adapter := by
  intro session hsession
  rw [hsessions] at hsession
  exact h session hsession

theorem KnowsMoment.opens (config : DaemonConfig) (h : KnowsMoment realm since world.stateFile) :
    ∃ state, ensureState config world = .ok state world ∧ Informed realm since state := by
  obtain ⟨held, hheld, hinformed⟩ := h
  exact ⟨_, ensureState_of_load hheld rfl, hinformed.of_same rfl rfl rfl⟩

theorem reevaluation_unrevokes (hknows : KnowsMoment realm since world.stateFile)
    {report : AuthorityReevaluationReport}
    (hrun : reevaluateRuntimeAuthority config localIdentity world = .ok report after) :
    Unrevoked realm since after.transport := by
  obtain ⟨state, hstate, hinformed⟩ := hknows.opens config
  intro session hsession hprotocol revocation hissued htarget
  obtain ⟨protocol, hprotocol⟩ := Option.isSome_iff_exists.1 hprotocol
  have hdenied : state.deniesKey localIdentity.peerId session.key = true :=
    (deniesKey_iff state localIdentity.peerId session.key).2
      ⟨by simp [SessionSnapshot.key, hprotocol],
        .inr ⟨protocol, hprotocol, hinformed.refuses hissued htarget protocol⟩⟩
  rw [allowed_of_reevaluated hstate hrun session hsession] at hdenied
  cases hdenied

theorem recordSync_activeSessions {eventType : String} {source : SyncSource}
    {further : List (String × Json)} {told : Unit}
    (h : recordSync localIdentity eventType source further world = .ok told after) :
    after.transport.activeSessions = world.transport.activeSessions := by
  unfold recordSync recordRuntimeEvent at h
  cases h
  simp only [QuicTransportAdapter.activeSessions, QuicTransportAdapter.emitRuntimeEvent]
  rfl

/-- What a synchronization that is answered has done: it has synchronized, then reevaluated if
that changed anything, and then only read and reported. -/
theorem authoritySync_ok {source : SyncSource} {sync : ControlM ρ (DaemonState × StateSyncReport)}
    {answer : AuthoritySyncResult}
    (h : authoritySync config localIdentity source sync world = .ok answer after) :
    ∃ begun result synced reevaluated swept, begun.stateFile = world.stateFile ∧
      sync begun = .ok result synced ∧
      reevaluateAfterSync config localIdentity source result.2 synced = .ok reevaluated swept ∧
      KeepsFacts swept after ∧
      after.transport.activeSessions = swept.transport.activeSessions ∧
      answer.revocationsAdded = result.2.revocationsAdded := by
  obtain ⟨started, begun, hbegun, h⟩ := bind_eq_ok h
  obtain ⟨outcome, synced, hattempt, h⟩ := bind_eq_ok h
  unfold attempt at hattempt
  cases hrun : sync begun with
  | error error failed =>
    rw [hrun] at hattempt
    cases hattempt
    obtain ⟨-, reported, -, h⟩ := bind_eq_ok h
    cases h
  | ok result taken =>
    rw [hrun] at hattempt
    cases hattempt
    obtain ⟨reevaluated, swept, hreevaluated, h⟩ := bind_eq_ok h
    obtain ⟨health, checked, hhealth, h⟩ := bind_eq_ok h
    obtain ⟨seen, looked, hlooked, h⟩ := bind_eq_ok h
    cases hlooked
    obtain ⟨told, noted, hnoted, h⟩ := bind_eq_ok h
    cases h
    have hkeeps : Operated config (fun _ => True) (KeepsFacts (ρ := ρ)) := inferInstance
    have hread : OnlyRead config swept checked :=
      (onPlane_moves (runtimeHealth_observed (R := OnlyRead config))).of_ok hhealth
    have hchecked : KeepsFacts swept checked :=
      (onPlane_moves (runtimeHealth_observed (R := KeepsFacts))).of_ok hhealth
    have hreported : KeepsFacts checked after :=
      (recordSync_operated (R := KeepsFacts) localIdentity config _ source _).of_ok hnoted
    refine ⟨begun, result, synced, reevaluated, swept, ?_, hrun, hreevaluated,
      hkeeps.trans _ _ _ hchecked hreported, ?_, rfl⟩
    · cases hbegun
      rfl
    · obtain ⟨readings, hreadings⟩ := hread.transport
      rw [recordSync_activeSessions hnoted, hreadings]
      rfl

theorem authoritySync_informs {source : SyncSource}
    {sync : ControlM ρ (DaemonState × StateSyncReport)} {answer : AuthoritySyncResult}
    (hsync : ∀ begun result synced, begun.stateFile = world.stateFile →
      sync begun = .ok result synced → KnowsMoment realm since synced.stateFile)
    (h : authoritySync config localIdentity source sync world = .ok answer after) :
    KnowsMoment realm since after.stateFile := by
  obtain ⟨begun, result, synced, reevaluated, swept, hbegun, hrun, hreevaluated, hkept, -, -⟩ :=
    authoritySync_ok h
  -- the reevaluation calls the adapter, but it keeps what was written
  have hswept : KeepsFacts synced swept :=
    (reevaluateAfterSync_operated (R := KeepsFacts) localIdentity source result.2).of_ok hreevaluated
  exact ((hsync begun result synced hbegun hrun).kept hswept).kept hkept

theorem authoritySync_unrevokes {source : SyncSource}
    {sync : ControlM ρ (DaemonState × StateSyncReport)} {answer : AuthoritySyncResult}
    (hsync : ∀ begun result synced, begun.stateFile = world.stateFile →
      sync begun = .ok result synced → KnowsMoment realm since synced.stateFile)
    (h : authoritySync config localIdentity source sync world = .ok answer after)
    (hnew : 0 < answer.revocationsAdded) : Unrevoked realm since after.transport := by
  obtain ⟨begun, result, synced, reevaluated, swept, hbegun, hrun, hreevaluated, -, hsessions, hadded⟩ :=
    authoritySync_ok h
  have hknows : KnowsMoment realm since synced.stateFile := hsync begun result synced hbegun hrun
  refine Unrevoked.of_sessions ?_ hsessions
  rw [hadded] at hnew
  unfold reevaluateAfterSync at hreevaluated
  rw [if_pos (by simp [stateSyncRequiresReevaluation, hnew])] at hreevaluated
  obtain ⟨tried, reached, htried, hreevaluated⟩ := bind_eq_ok hreevaluated
  unfold attempt at htried
  cases hpass : reevaluateRuntimeAuthority config localIdentity synced with
  | error error stopped =>
    rw [hpass] at htried
    cases htried
    obtain ⟨-, reported, -, hreevaluated⟩ := bind_eq_ok hreevaluated
    cases hreevaluated
  | ok report passed =>
    rw [hpass] at htried
    cases htried
    cases hreevaluated
    exact reevaluation_unrevokes hknows hpass

end Sessions

/-! ## Requests to synchronize -/

section Requests
variable [Primitives] [BodyReader] [PayloadDecoder] {realm : Realm} {since : ℕ} {args : ServerArgs}
  {config : DaemonConfig} {localIdentity : IdentityKeypair}

def Operation.syncs : Operation → Bool
  | .authoritySyncSnapshot | .authoritySyncOrigin | .authoritySyncRevocationsOrigin => true
  | _ => false

theorem Operation.run_synchronizes (hread : BodyReader.RoundTrips)
    {surroundings : ServerSurroundings} (hserves : Serves realm since surroundings.toSurroundings)
    {operation : Operation} (hsyncs : operation.syncs = true) {payload : Json} {world after : World ρ}
    (hfile : FileHas (CoversLog realm.log) world.stateFile) {result : ControlResult}
    (h : operation.run surroundings args config localIdentity payload world = .ok result after) :
    ∃ source sync answer, result = .authoritySync answer ∧
      authoritySync config localIdentity source sync world = .ok answer after ∧
      ∀ begun synced informed, begun.stateFile = world.stateFile →
        sync begun = .ok synced informed → KnowsMoment realm since informed.stateFile := by
  cases operation <;> cases hsyncs
  all_goals
    obtain ⟨request, between, hdecoded, h⟩ := bind_eq_ok h
    obtain ⟨-, rfl⟩ := decoded_eq_ok hdecoded
    obtain ⟨answer, hanswer, rfl⟩ := map_eq_ok h
    refine ⟨_, _, answer, rfl, hanswer, ?_⟩
    intro begun synced informed hbegun hsync
  · exact syncAuthoritySnapshot_informs hserves (hbegun ▸ hfile) hsync
  · exact syncAuthorityOrigin_informs hread hserves (hbegun ▸ hfile) hsync
  · obtain ⟨added, hsync, -⟩ := map_eq_ok hsync
    exact syncAuthorityRevocationsOrigin_informs hread hserves (hbegun ▸ hfile) hsync

def Synchronizes (request : HttpRequest) : Prop := ∃ envelope operation,
  readEnvelope request = .ok envelope ∧ operations.lookup envelope.operation = some operation ∧
    operation.syncs = true

omit [BodyReader] in
theorem Node.step_dispatched {surroundings : ServerSurroundings} {request : HttpRequest}
    {envelope : RequestEnvelope} (henvelope : readEnvelope request = .ok envelope) {node : Node ρ}
    {response : ControlResponse}
    (hresponse : (node.step args config localIdentity (.request surroundings request)).1 =
      some response) (hok : response.body.ok = true) :
    ∃ result, response.body = .success envelope.requestId result ∧
      dispatch surroundings args config localIdentity envelope node.world = .ok result
        (node.step args config localIdentity (.request surroundings request)).2.world := by
  cases hserves : node.running && node.answering with
  | false => simp [Node.step, hserves] at hresponse
  | true =>
    simp only [Node.step, hserves, if_true, routeControlRequest, henvelope] at hresponse ⊢
    cases hrun : dispatch surroundings args config localIdentity envelope node.world with
    | ok result after =>
      rw [hrun] at hresponse
      cases hresponse
      exact ⟨result, rfl, by rw [final_of_ok hrun]⟩
    | error refusal after =>
      rw [hrun] at hresponse
      cases refusal with
      | daemon error =>
        cases hresponse
        cases hok
      | api code message details =>
        cases hresponse
        cases hok
      | panicked => cases hresponse

theorem request_synchronizes (hread : BodyReader.RoundTrips) {surroundings : ServerSurroundings}
    (hserves : Serves realm since surroundings.toSurroundings) {request : HttpRequest}
    (hsync : Synchronizes request) {node : Node ρ}
    (hfile : FileHas (CoversLog realm.log) node.world.stateFile) {response : ControlResponse}
    (hresponse : (node.step args config localIdentity (.request surroundings request)).1 =
      some response) (hok : response.body.ok = true) :
    ∃ requestId source sync answer, response.body = .success requestId (.authoritySync answer) ∧
      authoritySync config localIdentity source sync node.world = .ok answer
        (node.step args config localIdentity (.request surroundings request)).2.world ∧
      ∀ begun synced informed, begun.stateFile = node.world.stateFile →
        sync begun = .ok synced informed → KnowsMoment realm since informed.stateFile := by
  obtain ⟨envelope, operation, henvelope, hoperation, hsyncs⟩ := hsync
  obtain ⟨result, hbody, hrun⟩ := Node.step_dispatched henvelope hresponse hok
  unfold dispatch at hrun
  rw [hoperation] at hrun
  obtain ⟨source, sync, answer, rfl, hanswer, hinforms⟩ :=
    operation.run_synchronizes hread hserves hsyncs hfile hrun
  exact ⟨envelope.requestId, source, sync, answer, hbody, hanswer, hinforms⟩

section Interleaved
variable {file : Option StateFile} {reached later : NodeFile} {node : Node ρ}
  {surroundings : ServerSurroundings} {request : HttpRequest} {response : ControlResponse}

end Interleaved
end Requests

section Closed

def syncBody : List UInt8 := asBytes
  ("\x7b\"request_id\":\"req-2\",\"operation\":\"authority.sync_snapshot\"," ++
    "\"auth\":\x7b\"kind\":\"local_process\"\x7d," ++
    "\"payload\":\x7b\"authority_snapshot\":\"snapshot.json\"\x7d\x7d")

def syncEnvelope : RequestEnvelope :=
  ⟨"req-2", "authority.sync_snapshot", .object [("authority_snapshot", .string "snapshot.json")]⟩

@[reducible] def syncDecoder : PayloadDecoder := decoderOf syncBody syncEnvelope

attribute [local instance] Primitives.transparent BodyReader.byKind syncDecoder

def syncRequest : HttpRequest := ⟨"POST", "/rpc", some 141, .ok syncBody⟩

theorem syncRequest_synchronizes : Synchronizes syncRequest :=
  ⟨syncEnvelope, .authoritySyncSnapshot, readEnvelope_posted (by decide) (if_pos rfl), rfl, rfl⟩

def memberRealm : Realm := ⟨"mesh", "default", [],
  [.addMember ⟨"mesh", "default", some "desk", some fixtureIdentity.peerId, ["member"], 3600, true,
      1720000000⟩,
    .issue (.capability "mesh" "default" none (some fixtureIdentity.peerId) ["control.access"]
      [⟨"/quip/control/1"⟩] [] 3600 1720000000),
    .issue revokeWorker]⟩

def savedSurroundings (realm : Realm) (moment : ℕ) : ServerSurroundings :=
  { fixtureSurroundings with
    loadAuthoritySnapshot := fun path =>
      match projectedSnapshot (loadState (realm.storeAt moment)) none with
      | none => fixtureSurroundings.loadAuthoritySnapshot path
      | some snapshot => .ok snapshot
    originAt := (realmSurroundings realm moment).originAt }

theorem savedSurroundings_serves (realm : Realm) {since moment : ℕ} (h : since ≤ moment) :
    Serves realm since (savedSurroundings realm moment).toSurroundings where
  origins := (realmSurroundings_serves realm h).origins
  files path snapshot hloaded := by
    refine ⟨moment, h, none, ?_⟩
    cases hprojected : projectedSnapshot (loadState (realm.storeAt moment)) none with
    | none =>
      simp only [savedSurroundings, hprojected] at hloaded
      cases hloaded
    | some projected =>
      simp only [savedSurroundings, hprojected] at hloaded
      rw [Except.ok.inj hloaded]

def newRevocations : ControlResult → ℕ
  | .authoritySync answer => answer.revocationsAdded
  | _ => 0

theorem exists_of_newRevocations {result : ControlResult} (h : 0 < newRevocations result) :
    ∃ answer, result = .authoritySync answer ∧ 0 < answer.revocationsAdded := by
  cases result with
  | authoritySync answer => exact ⟨answer, rfl, h⟩
  | _ => exact absurd h (Nat.lt_irrefl 0)

theorem mainLoop_reads : Run (nodeProtocol (CoversLog memberRealm.log) RemovedOrBundle) free
    (unread none) ⟨none, Function.update (fun _ => none) .mainLoop (some none)⟩ :=
  run_reads .refl .mainLoop rfl

theorem worker_revoked : ∃ revocation ∈ (memberRealm.storeAt 3).revocations,
    revocation.target = .peer fixtureWorkerPeer := by
  have hissued : ((memberRealm.storeAt 3).revocations.any fun revocation =>
      revocation.target = .peer fixtureWorkerPeer) = true := by
    decide +kernel
  obtain ⟨revocation, hmem, htarget⟩ := List.any_eq_true.1 hissued
  exact ⟨revocation, hmem, of_decide_eq_true htarget⟩

end Closed

end QuipNet.Daemon
