import QuipNet.Authority
import QuipNet.StateFileRuns

/-!
# Revocations between an authority and a daemon

An authority issues, and the threads of a daemon sync: they fetch the whole snapshot, or
only the revocations after the greatest sequence number they have. A sync asks, is
answered and writes the state file at three different moments, between which the
authority issues and other threads write the file. Every state that the daemon holds
covers the authority's log.
-/

open Std
namespace QuipNet.Fabric
open QuipNet.Authority QuipNet.Control QuipNet.Library QuipNet.Library.Effect QuipNet.Relay
open LocalControlPlane

/-- Where a sync is. With an answer goes what the authority held when it gave it. -/
inductive SyncPhase
  | creating
  | asking (held : DaemonState)
  | answered (snapshot : AuthorityArtifactSnapshot) (known : List RevocationRecord)
  | saving (state : DaemonState) (known : List RevocationRecord)

structure SyncSystem (T : Type) where
  authority : AuthorityState
  stateFile : Option StateFile
  phase : T → Option SyncPhase

/-- The relay map that was fetched with a snapshot, if it came from an origin. -/
def withRelayMap (state : DaemonState) : Option RelayMap → DaemonState
  | some relayMap => (state.applyRelayMap relayMap).1
  | none => state

section Steps
variable {T : Type} [DecidableEq T]

def SyncSystem.enter (s : SyncSystem T) (thread : T) (phase : SyncPhase) : SyncSystem T :=
  { s with phase := Function.update s.phase thread (some phase) }

def SyncSystem.complete (s : SyncSystem T) (thread : T) (state : DaemonState) : SyncSystem T :=
  { s with stateFile := some state.saved, phase := Function.update s.phase thread none }

inductive SyncStep [Primitives] (config : DaemonConfig) : SyncSystem T → SyncSystem T → Prop
  | issue {s : SyncSystem T} {command : ArtifactCommand} {after : AuthorityState}
      (hissue : Authority.issue s.authority command = some after) :
      SyncStep config s { s with authority := after }
  | load {s : SyncSystem T} {thread : T} {file : StateFile} {state : DaemonState}
      (hidle : s.phase thread = none) (hfile : s.stateFile = some file)
      (hload : file.load = .ok state) :
      SyncStep config s (s.enter thread (.asking (prepared config state)))
  | missing {s : SyncSystem T} {thread : T} (hidle : s.phase thread = none)
      (hfile : s.stateFile = none) : SyncStep config s (s.enter thread .creating)
  | create {s : SyncSystem T} {thread : T} (hphase : s.phase thread = some .creating) :
      SyncStep config s ({ s with stateFile := some (createdState config).saved }.enter thread
        (.asking (createdState config)))
  | fetchRevocations {s : SyncSystem T} {thread : T} {held : DaemonState} {now : ℕ}
      {answer : List RevocationRecord} (hphase : s.phase thread = some (.asking held))
      (hanswer : (serve s.authority now).revocations held.maxRevocationSequence = .ok answer) :
      SyncStep config s (s.enter thread
        (.saving ({ held with roles := config.roles }.applyRevocations answer).1
          s.authority.revocations))
  | fetchSnapshot {s : SyncSystem T} {thread : T} {subject : Option String} {now : ℕ}
      {snapshot : AuthorityArtifactSnapshot} (hidle : s.phase thread = none)
      (hanswer : fetchAuthoritySnapshotFor config (serve s.authority now) subject = .ok snapshot) :
      SyncStep config s (s.enter thread (.answered snapshot s.authority.revocations))
  | merge {s : SyncSystem T} {thread : T} {snapshot : AuthorityArtifactSnapshot}
      {known : List RevocationRecord} {state : DaemonState} {report : StateSyncReport}
      (hphase : s.phase thread = some (.answered snapshot known))
      (hmerge : syncedState config s.stateFile snapshot = .ok (state, report))
      (relayMap : Option RelayMap) :
      SyncStep config s (s.enter thread (.saving (withRelayMap state relayMap) known))
  | save {s : SyncSystem T} {thread : T} {state : DaemonState} {known : List RevocationRecord}
      (hphase : s.phase thread = some (.saving state known)) :
      SyncStep config s (s.complete thread state)
  | abandon {s : SyncSystem T} (thread : T) :
      SyncStep config s { s with phase := Function.update s.phase thread none }

/-! ## The invariant -/

def StateFile.revocations : StateFile → List RevocationRecord
  | .durable state => state.revocations
  | .damaged _ => []

def CoversLog (log : List RevocationRecord) (copy : List RevocationRecord) : Prop :=
  Covers RevocationRecord.sequence log copy

def SyncPhase.Sound (log : List RevocationRecord) : SyncPhase → Prop
  | .creating => True
  | .asking held => CoversLog log held.revocations
  | .answered snapshot known => snapshot.revocations = known ∧ CoversLog log known
  | .saving state known => CoversLog log state.revocations ∧ known ⊆ state.revocations

structure SyncSystem.Sound (s : SyncSystem T) : Prop where
  numbered : Numbered s.authority
  file : ∀ file, s.stateFile = some file → CoversLog s.authority.revocations file.revocations
  phase : ∀ thread phase, s.phase thread = some phase → phase.Sound s.authority.revocations

theorem CoversLog.grow {log copy : List RevocationRecord} (h : CoversLog log copy)
    {revocation : RevocationRecord}
    (hnew : ∀ other ∈ log, other.sequence < revocation.sequence) :
    CoversLog (log ++ [revocation]) copy := Covers.concat h hnew

theorem SyncPhase.Sound.grow {log : List RevocationRecord} {phase : SyncPhase}
    (h : phase.Sound log) {revocation : RevocationRecord}
    (hnew : ∀ other ∈ log, other.sequence < revocation.sequence) :
    phase.Sound (log ++ [revocation]) := by
  cases phase with
  | creating => trivial
  | asking held => exact CoversLog.grow h hnew
  | answered snapshot known => exact ⟨h.1, h.2.grow hnew⟩
  | saving state known => exact ⟨h.1.grow hnew, h.2⟩

theorem sameRevocation_sequence (a b : RevocationRecord) (h : sameRevocation a b = true) :
    a.sequence = b.sequence := by
  simp only [sameRevocation, Bool.and_eq_true, decide_eq_true_eq] at h
  exact h.1.1

theorem revocations_load {file : StateFile} {state : DaemonState} (h : file.load = .ok state) :
    state.revocations = file.revocations := by
  cases file with
  | durable durable =>
    cases h
    rfl
  | damaged error => cases h

theorem serve_revocations {stored : AuthorityState} (h : Numbered stored) (now : ℕ)
    (afterSequence : Option ℕ) :
    (serve stored now).revocations afterSequence = .ok (stored.revocations.filter fun revocation =>
      (afterSequence.map fun sequence => decide (sequence < revocation.sequence)).getD true) := by
  simp only [serve, filteredRevocations, loadState_revocations h]

theorem applyRevocations_covers {log : List RevocationRecord}
    (hlog : InOrder RevocationRecord.sequence log) {held : DaemonState}
    (hheld : CoversLog log held.revocations) (config : DaemonConfig) :
    let answer := log.filter fun revocation => (held.maxRevocationSequence.map fun sequence =>
      decide (sequence < revocation.sequence)).getD true
    let written := ({ held with roles := config.roles }.applyRevocations answer).1
    CoversLog log written.revocations ∧ log ⊆ written.revocations := by
  intro answer written
  have hcomplete : log ⊆ written.revocations :=
    Covers.complete sameRevocation_sequence hlog hheld
  refine ⟨Covers.of_subset ?_ hcomplete, hcomplete⟩
  intro revocation hmem
  rcases mem_mergeNew knownRevocation hmem with hold | hnew
  · exact hheld.subset hold
  · exact (List.mem_filter.1 hnew).1

theorem withRelayMap_revocations (state : DaemonState) (relayMap : Option RelayMap) :
    (withRelayMap state relayMap).revocations = state.revocations := by
  cases relayMap with
  | none => rfl
  | some relayMap =>
    unfold withRelayMap DaemonState.applyRelayMap
    dsimp only
    split_ifs <;> rfl

theorem SyncSystem.enter_enter (s : SyncSystem T) (thread : T) (first second : SyncPhase) :
    (s.enter thread first).enter thread second = s.enter thread second := by
  simp [enter]

theorem SyncSystem.complete_enter {s : SyncSystem T} {thread : T} (hidle : s.phase thread = none)
    (phase : SyncPhase) (state : DaemonState) :
    (s.enter thread phase).complete thread state = { s with stateFile := some state.saved } := by
  simp [enter, complete, ← hidle]

theorem sound_update {log : List RevocationRecord} {phases : T → Option SyncPhase}
    (h : ∀ thread phase, phases thread = some phase → phase.Sound log) (thread : T)
    {next : Option SyncPhase} (hnext : ∀ phase ∈ next, phase.Sound log) (other : T)
    (phase : SyncPhase) (hother : Function.update phases thread next other = some phase) :
    phase.Sound log := by
  by_cases hthread : other = thread
  · subst hthread
    rw [Function.update_self] at hother
    exact hnext phase hother
  · rw [Function.update_of_ne hthread] at hother
    exact h other phase hother

theorem SyncSystem.Sound.enter {s : SyncSystem T} (h : s.Sound) (thread : T) {phase : SyncPhase}
    (hphase : phase.Sound s.authority.revocations) : (s.enter thread phase).Sound := by
  refine ⟨h.numbered, h.file, sound_update h.phase thread ?_⟩
  rintro _ ⟨⟩
  exact hphase

variable [Primitives]

theorem fetchAuthoritySnapshotFor_revocations {config : DaemonConfig} {stored : AuthorityState}
    (h : Numbered stored) {now : ℕ} {subject : Option String}
    {snapshot : AuthorityArtifactSnapshot}
    (hanswer : fetchAuthoritySnapshotFor config (serve stored now) subject = .ok snapshot) :
    snapshot.revocations = stored.revocations := by
  have hprojected : ∀ projected, projectedSnapshot (loadState stored) subject = some projected →
      projected.revocations = stored.revocations := by
    intro projected hprojected
    rw [← loadState_revocations h]
    cases subject with
    | none =>
      cases hprojected
      rfl
    | some seed =>
      obtain ⟨member, -, rfl⟩ := Option.map_eq_some_iff.1 hprojected
      rfl
  have hserved := fetchAuthoritySnapshotFor_eq_ok hanswer
  simp only [serve] at hserved
  cases hfound : projectedSnapshot (loadState stored) subject with
  | none => simp [hfound] at hserved
  | some projected =>
    simp only [hfound, Except.ok.injEq] at hserved
    rw [← hserved]
    exact hprojected projected hfound

theorem fromAuthoritySnapshot_revocations {network : String} {roles : List DaemonRole}
    {snapshot : AuthorityArtifactSnapshot} {state : DaemonState}
    (h : DaemonState.fromAuthoritySnapshot network roles snapshot = .ok state) :
    state.revocations = snapshot.revocations := by
  obtain ⟨membership, -, rfl⟩ := DaemonState.fromAuthoritySnapshot_ok h
  rfl

theorem syncedState_covers {config : DaemonConfig} {log : List RevocationRecord}
    (hlog : InOrder RevocationRecord.sequence log) {file : Option StateFile}
    (hfile : ∀ stored, file = some stored → CoversLog log stored.revocations)
    {snapshot : AuthorityArtifactSnapshot} (hsnapshot : CoversLog log snapshot.revocations)
    {state : DaemonState} {report : StateSyncReport}
    (h : syncedState config file snapshot = .ok (state, report)) :
    CoversLog log state.revocations ∧ snapshot.revocations ⊆ state.revocations := by
  rcases syncedState_eq_ok h with ⟨-, built, hbuilt, hresult⟩ |
    ⟨stored, held, hstored, hload, hsync⟩
  · cases hresult
    change CoversLog log built.revocations ∧ snapshot.revocations ⊆ built.revocations
    rw [fromAuthoritySnapshot_revocations hbuilt]
    exact ⟨hsnapshot, List.Subset.refl _⟩
  · have hheld : CoversLog log held.revocations := by
      rw [revocations_load hload]
      exact hfile stored hstored
    obtain ⟨membership, merged, delta, hmerge, -, rfl⟩ := DaemonState.syncAuthoritySnapshot_ok hsync
    obtain ⟨-, -, -, hrevocations⟩ := ControlClient.mergeSnapshot_some hmerge
    change CoversLog log merged.revocations ∧ snapshot.revocations ⊆ merged.revocations
    rw [hrevocations]
    exact ⟨Covers.mergeNew sameRevocation_sequence hlog hheld hsnapshot,
      subset_mergeNew sameRevocation_sequence hlog hheld.subset hsnapshot.subset⟩

theorem SyncStep.sound {config : DaemonConfig} {s s' : SyncSystem T} (h : SyncStep config s s')
    (hs : s.Sound) : s'.Sound := by
  cases h with
  | @issue command after hissue =>
    obtain ⟨hnumbered, hsame | ⟨revocation, hnew, hlog⟩⟩ := issue_revocations hs.numbered hissue
    · refine ⟨hnumbered, ?_, ?_⟩
      · rw [hsame]
        exact hs.file
      · rw [hsame]
        exact hs.phase
    · refine ⟨hnumbered, ?_, ?_⟩
      · intro file hfile
        rw [hlog]
        exact (hs.file file hfile).grow hnew
      · intro thread phase hphase
        rw [hlog]
        exact (hs.phase thread phase hphase).grow hnew
  | @load thread file state hidle hfile hload =>
    apply hs.enter thread
    change CoversLog s.authority.revocations state.revocations
    rw [revocations_load hload]
    exact hs.file file hfile
  | missing hidle hfile => exact hs.enter _ trivial
  | @create thread hphase =>
    have hcreated : CoversLog s.authority.revocations (createdState config).revocations :=
      Covers.nil _
    generalize createdState config = created at hcreated ⊢
    have hfile : SyncSystem.Sound { s with stateFile := some created.saved } := by
      refine ⟨hs.numbered, ?_, hs.phase⟩
      rintro file ⟨⟩
      exact hcreated
    exact hfile.enter thread hcreated
  | @fetchRevocations thread held now answer hphase hanswer =>
    have hheld : CoversLog s.authority.revocations held.revocations :=
      hs.phase thread (.asking held) hphase
    rw [serve_revocations hs.numbered, Except.ok.injEq] at hanswer
    subst hanswer
    exact hs.enter thread (applyRevocations_covers hs.numbered.inOrder hheld config)
  | @fetchSnapshot thread subject now snapshot hidle hanswer =>
    exact hs.enter thread ⟨fetchAuthoritySnapshotFor_revocations hs.numbered hanswer,
      Covers.refl _⟩
  | @merge thread snapshot known state report hphase hmerge relayMap =>
    obtain ⟨rfl, hknown⟩ : snapshot.revocations = known ∧
        CoversLog s.authority.revocations known := hs.phase thread _ hphase
    have hstate := syncedState_covers hs.numbered.inOrder hs.file hknown hmerge
    rw [← withRelayMap_revocations state relayMap] at hstate
    exact hs.enter thread hstate
  | @save thread state known hphase =>
    have hstate : CoversLog s.authority.revocations state.revocations :=
      (hs.phase thread (.saving state known) hphase).1
    refine ⟨hs.numbered, ?_, ?_⟩
    · rintro file ⟨⟩
      exact hstate
    · exact sound_update hs.phase thread (by simp)
  | abandon thread => exact ⟨hs.numbered, hs.file, sound_update hs.phase thread (by simp)⟩

theorem sound_of_run {config : DaemonConfig} {start s : SyncSystem T}
    (hrun : Relation.ReflTransGen (SyncStep config) start s) (hstart : start.Sound) : s.Sound := by
  induction hrun with
  | refl => exact hstart
  | tail _ hstep ih => exact hstep.sound ih

structure SyncSystem.Initial (s : SyncSystem T) : Prop where
  authority : ∃ network realm bootstrapAddresses,
    s.authority = initialState network realm bootstrapAddresses
  file : ∀ file, s.stateFile = some file → file.revocations = []
  phase : ∀ thread, s.phase thread = none

omit [DecidableEq T] in
theorem SyncSystem.Initial.sound {s : SyncSystem T} (h : s.Initial) : s.Sound := by
  obtain ⟨network, realm, bootstrapAddresses, hauthority⟩ := h.authority
  refine ⟨hauthority ▸ initialState_numbered network realm bootstrapAddresses, ?_, ?_⟩
  · intro file hfile
    rw [h.file file hfile]
    exact Covers.nil _
  · intro thread phase hphase
    rw [h.phase thread] at hphase
    cases hphase

/-- Whatever was issued and synced before, and in whatever order the steps of the syncs
came: the state that a sync writes has every revocation that the authority held when it
answered. -/
theorem synced_state_has_answered_revocations {config : DaemonConfig} {start s : SyncSystem T}
    (hstart : start.Initial) (hrun : Relation.ReflTransGen (SyncStep config) start s) {thread : T}
    {state : DaemonState} {known : List RevocationRecord}
    (hphase : s.phase thread = some (.saving state known)) :
    SyncStep config s (s.complete thread state) ∧
      ∀ revocation ∈ known, revocation ∈ revocationsOf (s.complete thread state).stateFile := by
  have hsound := sound_of_run hrun hstart.sound
  have hsaving : SyncPhase.Sound s.authority.revocations (.saving state known) :=
    hsound.phase thread _ hphase
  exact ⟨.save hphase, fun revocation hknown => hsaving.2 hknown⟩

/-! ## The daemon's syncs -/

theorem asking_run {config : DaemonConfig} {s : SyncSystem T} {thread : T}
    (hidle : s.phase thread = none) (now : ℕ) (held : DaemonState) :
    Relation.ReflTransGen (SyncStep config) (s.enter thread (.asking held)) { s with
      stateFile := some ({ held with roles := config.roles }.applyRevocations
        (filteredRevocations (loadState s.authority) held.maxRevocationSequence)).1.saved } := by
  let written := ({ held with roles := config.roles }.applyRevocations
    (filteredRevocations (loadState s.authority) held.maxRevocationSequence)).1
  have hanswer : (serve s.authority now).revocations held.maxRevocationSequence =
    .ok (filteredRevocations (loadState s.authority) held.maxRevocationSequence) := rfl
  have hasking : (s.enter thread (.asking held)).phase thread = some (.asking held) := by
    simp [SyncSystem.enter]
  have hfetch : SyncStep config (s.enter thread (.asking held))
      ((s.enter thread (.asking held)).enter thread (.saving written s.authority.revocations)) :=
    .fetchRevocations hasking hanswer
  rw [SyncSystem.enter_enter] at hfetch
  have hsaving : (s.enter thread (.saving written s.authority.revocations)).phase thread =
      some (.saving written s.authority.revocations) := by
    simp [SyncSystem.enter]
  have hsave : SyncStep config _ _ := .save hsaving
  rw [SyncSystem.complete_enter hidle] at hsave
  exact (Relation.ReflTransGen.single hfetch).tail hsave

theorem syncAuthorityRevocationsOrigin_run {ρ : Type} {config : DaemonConfig} {s : SyncSystem T}
    {thread : T} (hidle : s.phase thread = none) (now : ℕ)
    (transport : Quic.QuicTransportAdapter ρ) :
    Relation.ReflTransGen (SyncStep config) s { s with
      stateFile := (final (LocalControlPlane.syncAuthorityRevocationsOrigin config
        (serve s.authority now)) ⟨s.stateFile, transport⟩).stateFile } := by
  have hwritten : ∀ {held : DaemonState} {opened : World ρ},
      ensureState config ⟨s.stateFile, transport⟩ = .ok held opened →
        (final (LocalControlPlane.syncAuthorityRevocationsOrigin config (serve s.authority now))
          ⟨s.stateFile, transport⟩).stateFile =
            some ({ held with roles := config.roles }.applyRevocations
              (filteredRevocations (loadState s.authority) held.maxRevocationSequence)).1.saved :=
    fun hheld => transaction_stateFile hheld
  cases hfile : s.stateFile with
  | none =>
    rw [← hfile, hwritten (ensureState_of_none hfile)]
    have hmissing : SyncStep config s (s.enter thread .creating) := .missing hidle hfile
    have hcreating : (s.enter thread .creating).phase thread = some .creating := by
      simp [SyncSystem.enter]
    have hcreate : SyncStep config _ _ := .create hcreating
    let created : SyncSystem T := { s with stateFile := some (createdState config).saved }
    have hheld : SyncStep config (s.enter thread .creating)
        (created.enter thread (.asking (createdState config))) := by
      have hsame := SyncSystem.enter_enter created thread .creating (.asking (createdState config))
      rw [← hsame]
      exact hcreate
    exact ((Relation.ReflTransGen.single hmissing).tail hheld).trans
      (asking_run (s := created) hidle now _)
  | some file =>
    cases hload : file.load with
    | error error =>
      have hstate : ensureState config ⟨s.stateFile, transport⟩ = _ :=
        ensureState_of_damaged hfile hload
      have hrun : LocalControlPlane.syncAuthorityRevocationsOrigin config (serve s.authority now)
          ⟨s.stateFile, transport⟩ = .error error ⟨s.stateFile, transport⟩ := bind_of_error hstate
      rw [← hfile, final_of_error hrun]
    | ok state =>
      rw [← hfile, hwritten (ensureState_of_load hfile hload)]
      have hheld : SyncStep config s (s.enter thread (.asking (prepared config state))) :=
        .load hidle hfile hload
      exact (Relation.ReflTransGen.single hheld).trans (asking_run hidle now _)

theorem syncAuthorityOrigin_run {ρ : Type} {config : DaemonConfig} {s : SyncSystem T} {thread : T}
    (hidle : s.phase thread = none) (now : ℕ) (subject : Option String)
    (transport : Quic.QuicTransportAdapter ρ) :
    Relation.ReflTransGen (SyncStep config) s { s with
      stateFile := (final (LocalControlPlane.syncAuthorityOrigin config (serve s.authority now)
        subject) ⟨s.stateFile, transport⟩).stateFile } := by
  cases hanswer : fetchAuthoritySnapshotFor config (serve s.authority now) subject with
  | error error =>
    have hrun : LocalControlPlane.syncAuthorityOrigin config (serve s.authority now) subject
        ⟨s.stateFile, transport⟩ = .error (.control error) ⟨s.stateFile, transport⟩ := by
      simp only [LocalControlPlane.syncAuthorityOrigin, bind_run, hanswer, fetched_error,
        throw_run]
    rw [final_of_error hrun]
  | ok snapshot =>
    let relayMap : RelayMap :=
      ⟨(loadState s.authority).relayMapVersion, now, (loadState s.authority).relays⟩
    have hrelayMap : (serve s.authority now).relayMap = .ok relayMap := rfl
    cases hmerge : syncedState config s.stateFile snapshot with
    | error error =>
      have hrun : LocalControlPlane.syncAuthorityOrigin config (serve s.authority now) subject
          ⟨s.stateFile, transport⟩ = .error error ⟨s.stateFile, transport⟩ := by
        simp only [LocalControlPlane.syncAuthorityOrigin, bind_run, hanswer, hrelayMap, fetched_ok,
          pure_run, get_run, hmerge, orThrow_error, throw_run]
      rw [final_of_error hrun]
    | ok result =>
      obtain ⟨state, report⟩ := result
      have hfile : (final (LocalControlPlane.syncAuthorityOrigin config (serve s.authority now)
          subject) ⟨s.stateFile, transport⟩).stateFile =
            some (withRelayMap state (some relayMap)).saved := by
        simp only [final, LocalControlPlane.syncAuthorityOrigin, bind_run, hanswer, hrelayMap,
          fetched_ok, pure_run, get_run, hmerge, orThrow_ok, save, modify_run]
        rfl
      rw [hfile]
      have hfetch : SyncStep config s (s.enter thread (.answered snapshot s.authority.revocations)) :=
        .fetchSnapshot hidle hanswer
      have hanswered : (s.enter thread (.answered snapshot s.authority.revocations)).phase thread =
          some (.answered snapshot s.authority.revocations) := by
        simp [SyncSystem.enter]
      have hmerged : SyncStep config _ _ := .merge hanswered hmerge (some relayMap)
      rw [SyncSystem.enter_enter] at hmerged
      have hsaving : (s.enter thread (.saving (withRelayMap state (some relayMap))
          s.authority.revocations)).phase thread = some (.saving (withRelayMap state (some relayMap))
            s.authority.revocations) := by
        simp [SyncSystem.enter]
      have hsave : SyncStep config _ _ := .save hsaving
      rw [SyncSystem.complete_enter hidle] at hsave
      exact ((Relation.ReflTransGen.single hfetch).tail hmerged).tail hsave

end Steps

section Closed
attribute [local instance] Primitives.transparent

def revokeWorker : ArtifactCommand :=
  .revocation "mesh" "default" fixtureWorkerPeer "key-compromise" none 1720000000

def syncStart : SyncSystem Unit :=
  ⟨initialState "mesh" "default" [], some (.durable (fixtureDaemonState "mesh")), fun _ => none⟩

theorem syncStart_initial : syncStart.Initial :=
  ⟨⟨_, _, _, rfl⟩, by rintro file ⟨⟩; rfl, fun _ => rfl⟩

theorem sync_after_issue_has_revocation :
    ∃ (s : SyncSystem Unit) (state : DaemonState) (known : List RevocationRecord)
      (revocation : RevocationRecord), Relation.ReflTransGen (SyncStep meshConfig) syncStart s ∧
        s.phase () = some (.saving state known) ∧ revocation ∈ known ∧
        revocation.target = .peer fixtureWorkerPeer ∧
        revocation ∈ revocationsOf (s.complete () state).stateFile := by
  let held := prepared meshConfig { fixtureDaemonState "mesh" with activeSessions := [] }
  let started : SyncSystem Unit := syncStart.enter () (.asking held)
  obtain ⟨after, revocation, hissue, hlog, htarget⟩ : ∃ after revocation,
      Authority.issue (initialState "mesh" "default" []) revokeWorker = some after ∧
        after.revocations = [revocation] ∧ revocation.target = .peer fixtureWorkerPeer :=
    ⟨_, _, rfl, rfl, rfl⟩
  let issued : SyncSystem Unit := { started with authority := after }
  have hload : SyncStep meshConfig syncStart started := .load rfl rfl rfl
  have hrevoke : SyncStep meshConfig started issued := .issue hissue
  have hanswer : (serve after 1720000000).revocations held.maxRevocationSequence =
    .ok (filteredRevocations (loadState after) held.maxRevocationSequence) := rfl
  have hasking : issued.phase () = some (.asking held) := rfl
  have hfetch : SyncStep meshConfig issued _ := .fetchRevocations hasking hanswer
  have hrun := ((Relation.ReflTransGen.single hload).tail hrevoke).tail hfetch
  have hsaving : (issued.enter () (.saving ({ held with roles := meshConfig.roles }.applyRevocations
      (filteredRevocations (loadState after) held.maxRevocationSequence)).1
        issued.authority.revocations)).phase () = some (.saving _ issued.authority.revocations) := rfl
  have hknown : revocation ∈ issued.authority.revocations := by
    change revocation ∈ after.revocations
    rw [hlog]
    exact List.mem_singleton_self revocation
  have hmem := (synced_state_has_answered_revocations syncStart_initial hrun hsaving).2
  exact ⟨_, _, _, revocation, hrun, hsaving, hknown, htarget, hmem revocation hknown⟩

end Closed

end QuipNet.Fabric
