import QuipNet.AuthorityFacts
import QuipNet.ControlPlane
import QuipNet.Library.Loop
import QuipNet.Library.SharedCell

/-!
# The state file between two threads

The main loop and the control server run their operations on one state file and
share no lock: an operation reads the file, or finds none and creates it, and
later writes the whole state it computed from what it read. `FileOp.Publishes`
says what each operation writes, `run_solo` that the operations of the control
plane are of this kind.
-/

open Std
namespace QuipNet.Fabric
open QuipNet.Control QuipNet.Library QuipNet.Library.Effect QuipNet.Library.SharedCell
open QuipNet.Quic QuipNet.Transport
open LocalControlPlane

variable {ρ : Type}

/-! ## Working on the transport changes no durable fact -/

def SameButSessions (state state' : DaemonState) : Prop :=
  ∃ sessions, state' = { state with activeSessions := sessions }

theorem SameButSessions.refl (state : DaemonState) : SameButSessions state state :=
  ⟨state.activeSessions, rfl⟩

theorem SameButSessions.trans {first second third : DaemonState} (h₁ : SameButSessions first second)
    (h₂ : SameButSessions second third) : SameButSessions first third := by
  obtain ⟨_, rfl⟩ := h₁
  obtain ⟨sessions, rfl⟩ := h₂
  exact ⟨sessions, rfl⟩

theorem sameButSessions_withoutSession (state : DaemonState) (sessionId : SessionId) :
    SameButSessions state (state.withoutSession sessionId) := ⟨_, rfl⟩

theorem sameButSessions_withActiveSession (state : DaemonState) (session : SessionSnapshot) :
    SameButSessions state (state.withActiveSession session) := by
  unfold DaemonState.withActiveSession
  split_ifs <;> exact ⟨_, rfl⟩

/-- A computation that hands on the state it was given, up to the sessions. -/
def KeepsState {α : Type} (state : DaemonState) (m : FabricM ρ (DaemonState × α)) : Prop :=
  Returns (fun result => SameButSessions state result.1) m

theorem closeState_keepsState (sessionId : SessionId) (state : DaemonState) :
    KeepsState (ρ := ρ) state (closeState sessionId state) := by
  apply Returns.bind
  intro adapter
  split
  · exact Returns.throw _
  · refine Returns.bind fun _ => Returns.bind fun _ => Returns.bind fun _ => Returns.pure ?_
    exact ⟨_, rfl⟩

section Hashing
variable [Primitives]

theorem reconcileSession_returns (progress : ReconcileProgress) (session : SessionSnapshot) :
    Returns (fun progress' => SameButSessions progress.state progress'.state)
      (reconcileSession progress session : FabricM ρ ReconcileProgress) := by
  have hclosed : ∀ (session : SessionSnapshot) (reason : String), SameButSessions progress.state
      (progress.recordClosed session reason).state :=
    fun session _ => sameButSessions_withoutSession progress.state session.sessionId
  have hfailed : ∀ session closureReason reason,
      Returns (fun progress' => SameButSessions progress.state progress'.state)
        (closeFailed progress session closureReason reason : FabricM ρ ReconcileProgress) :=
    fun session _ reason => Returns.bind fun _ => Returns.pure (hclosed session reason)
  refine Returns.bind fun _ => Returns.bind fun adapter => ?_
  split
  · exact Returns.pure (hclosed session _)
  · rename_i current _
    unfold reconcileRegistered
    split
    · exact hfailed _ _ _
    · dsimp only
      split_ifs
      · unfold reconcileRoute
        split
        · split_ifs
          · exact Returns.bind fun _ => Returns.pure (SameButSessions.refl _)
          · refine Returns.bind fun _ => Returns.bind fun answer => ?_
            cases answer with
            | ok migrated => exact Returns.pure (sameButSessions_withActiveSession _ _)
            | error error => exact hfailed _ _ _
        · exact hfailed _ _ _
        · exact Returns.throw _
      · exact Returns.bind fun _ => Returns.bind fun _ => Returns.pure (hclosed current _)

theorem reconcileState_keepsState (state : DaemonState) :
    KeepsState (ρ := ρ) state (reconcileState state) := by
  refine Returns.bind fun adapter => ?_
  intro s result s'' h
  obtain ⟨progress, s', hfold, hrest⟩ := bind_eq_ok h
  have hprogress := Returns.foldlM (P := fun progress => SameButSessions state progress.state)
    (fun progress session hsame s b s' hturn =>
      hsame.trans (reconcileSession_returns progress session s b s' hturn))
    adapter.activeSessions (SameButSessions.refl state) s progress s' hfold
  obtain ⟨_, _, hget, hpure⟩ := bind_eq_ok hrest
  cases hget
  cases hpure
  exact hprogress.trans ⟨_, rfl⟩

theorem realizeState_keepsState (peer : PeerId) (protocol : ProtocolId)
    (trafficClass : TrafficClass) (state : DaemonState) :
    KeepsState (ρ := ρ) state (realizeState peer protocol trafficClass state) := by
  unfold realizeState
  dsimp only
  split_ifs
  · refine Returns.bind fun _ => Returns.bind fun connection => Returns.bind fun _ => Returns.pure ?_
    exact (sameButSessions_withActiveSession state connection.session).trans ⟨_, rfl⟩
  · exact Returns.throw _

theorem upgradeState_keepsState (sessionId : SessionId) (state : DaemonState) :
    KeepsState (ρ := ρ) state (upgradeState sessionId state) := by
  apply Returns.bind
  intro adapter
  split
  · exact Returns.throw _
  · split
    · exact Returns.throw _
    · unfold upgradeFound
      dsimp only
      split_ifs
      · refine Returns.bind fun _ => Returns.bind fun _ => Returns.bind fun upgraded =>
          Returns.bind fun _ => Returns.pure ?_
        exact (sameButSessions_withActiveSession state upgraded).trans ⟨_, rfl⟩
      · exact Returns.bind fun _ => Returns.throw _

end Hashing

/-! ## What the operations write -/

/-- The operations on the state file that both threads run. -/
inductive FileOp
  | syncAuthorityRevocationsOrigin (origin : AuthorityOrigin)
  | syncAuthoritySnapshot (loaded : Except DaemonStateError AuthorityArtifactSnapshot)
  | reconcileSessions
  | realizeBestPath (peer : PeerId) (protocol : ProtocolId) (trafficClass : TrafficClass)
  | closeSession (sessionId : SessionId)
  | upgradeSession (sessionId : SessionId)
  | reprobeNetworkChange (reason : String)
  | refreshAndPersist

def ignoring {α : Type} (m : ControlM ρ α) : ControlM ρ Unit := m >>= fun _ => pure ()

theorem final_ignoring {α : Type} (m : ControlM ρ α) (world : World ρ) :
    final (ignoring m) world = final m world := by
  unfold final ignoring
  rw [bind_run]
  cases m world <;> rfl

section Operations
variable [Primitives]

def FileOp.run (config : DaemonConfig) : FileOp → ControlM ρ Unit
  | .syncAuthorityRevocationsOrigin origin =>
    ignoring (LocalControlPlane.syncAuthorityRevocationsOrigin config origin)
  | .syncAuthoritySnapshot loaded => ignoring (LocalControlPlane.syncAuthoritySnapshot config loaded)
  | .reconcileSessions => ignoring (LocalControlPlane.reconcileSessions config)
  | .realizeBestPath peer protocol trafficClass =>
    ignoring (LocalControlPlane.realizeBestPath config peer protocol trafficClass)
  | .closeSession sessionId => LocalControlPlane.closeSession config sessionId
  | .upgradeSession sessionId => ignoring (LocalControlPlane.upgradeSession config sessionId)
  | .reprobeNetworkChange reason => ignoring (LocalControlPlane.reprobeNetworkChange config reason)
  | .refreshAndPersist => ignoring (LocalControlPlane.refreshAndPersist config)

inductive FileOp.Publishes (config : DaemonConfig) :
    FileOp → Option DaemonState → DaemonState → Prop
  | revoke {origin : AuthorityOrigin} {held : DaemonState} {revocations : List RevocationRecord}
      (hfetched : origin.revocations held.maxRevocationSequence = .ok revocations) :
      Publishes config (.syncAuthorityRevocationsOrigin origin) (some held)
        ({ held with roles := config.roles }.applyRevocations revocations).1
  | merge {snapshot : AuthorityArtifactSnapshot} {held written : DaemonState}
      {report : StateSyncReport}
      (hmerged : held.syncAuthoritySnapshot (authorityClient config) snapshot =
        .ok (written, report)) :
      Publishes config (.syncAuthoritySnapshot (.ok snapshot)) (some held) written
  | seed {snapshot : AuthorityArtifactSnapshot} {state : DaemonState}
      (hbuilt : DaemonState.fromAuthoritySnapshot config.network config.roles snapshot =
        .ok state) :
      Publishes config (.syncAuthoritySnapshot (.ok snapshot)) none state.withMergedCandidates
  | reconcile {held written : DaemonState} (hsame : SameButSessions held written) :
      Publishes config .reconcileSessions (some held) written
  | realize {peer : PeerId} {protocol : ProtocolId} {trafficClass : TrafficClass}
      {held written : DaemonState} (hsame : SameButSessions held written) :
      Publishes config (.realizeBestPath peer protocol trafficClass) (some held) written
  | close {sessionId : SessionId} {held written : DaemonState}
      (hsame : SameButSessions held written) :
      Publishes config (.closeSession sessionId) (some held) written
  | upgrade {sessionId : SessionId} {held written : DaemonState}
      (hsame : SameButSessions held written) :
      Publishes config (.upgradeSession sessionId) (some held) written
  | reprobe {reason : String} {held : DaemonState} :
      Publishes config (.reprobeNetworkChange reason) (some held) (reprobedState reason held)
  | refresh {held : DaemonState} : Publishes config .refreshAndPersist (some held) held

theorem FileOp.Publishes.extends {config : DaemonConfig} {op : FileOp} {held written : DaemonState}
    (h : op.Publishes config (some held) written) : held.Extends written := by
  have hsessions : ∀ {written : DaemonState}, SameButSessions held written →
      held.Extends written := by
    rintro _ ⟨sessions, rfl⟩
    exact ⟨rfl, le_rfl, List.prefix_rfl⟩
  cases h with
  | @revoke origin _ revocations hfetched =>
    have hextends := DaemonState.applyRevocations_extends { held with roles := config.roles }
      revocations
    exact ⟨hextends.subject, hextends.issuedAt, hextends.revocations⟩
  | merge hmerged => exact DaemonState.syncAuthoritySnapshot_extends hmerged
  | reconcile hsame => exact hsessions hsame
  | realize hsame => exact hsessions hsame
  | close hsame => exact hsessions hsame
  | upgrade hsame => exact hsessions hsame
  | reprobe => exact ⟨rfl, le_rfl, List.prefix_rfl⟩
  | refresh => exact DaemonState.Extends.refl held

/-! ## The protocol on the file -/

inductive Pending
  | creating (op : FileOp)
  | holding (op : FileOp) (held : Option DaemonState)

/-- A sync loads the file itself; the other operations go through `ensureState`. -/
def FileOp.ensuresState : FileOp → Bool
  | .syncAuthoritySnapshot _ => false
  | _ => true

inductive FileReads (config : DaemonConfig) : Option StateFile → Pending → Prop
  | load {op : FileOp} {file : StateFile} {state : DaemonState} (hop : op.ensuresState)
      (hload : file.load = .ok state) :
      FileReads config (some file) (.holding op (some (prepared config state)))
  | absent {op : FileOp} (hop : op.ensuresState) : FileReads config none (.creating op)
  | loadToSync {file : StateFile} {state : DaemonState}
      (loaded : Except DaemonStateError AuthorityArtifactSnapshot) (hload : file.load = .ok state) :
      FileReads config (some file)
        (.holding (.syncAuthoritySnapshot loaded) (some { state with roles := config.roles }))
  | absentToSync (loaded : Except DaemonStateError AuthorityArtifactSnapshot) :
      FileReads config none (.holding (.syncAuthoritySnapshot loaded) none)

inductive FileWrites (config : DaemonConfig) : Pending → Option StateFile → Option Pending → Prop
  | create (op : FileOp) : FileWrites config (.creating op) (some (createdState config).saved)
      (some (.holding op (some (createdState config))))
  | publish {op : FileOp} {held : Option DaemonState} {written : DaemonState}
      (hpublishes : op.Publishes config held written) :
      FileWrites config (.holding op held) (some written.saved) none

def stateFileProtocol (config : DaemonConfig) : Protocol (Option StateFile) Pending :=
  ⟨FileReads config, FileWrites config⟩

/-! ### The operations follow the protocol -/

theorem transaction_solo {α : Type} {config : DaemonConfig} (op : FileOp) (hop : op.ensuresState)
    {work : DaemonState → FabricM ρ (DaemonState × α)}
    (hpublishes : ∀ held adapter result after, work held adapter = .ok result after →
      op.Publishes config (some held) result.1) (world : World ρ) :
    Relation.ReflTransGen (SoloStep (stateFileProtocol config)) (world.stateFile, none)
      ((final (transaction config work) world).stateFile, none) := by
  -- from the moment the operation holds a state it publishes or gives up
  have hends : ∀ {state : DaemonState} {opened : World ρ},
      ensureState config world = .ok state opened →
        SoloStep (stateFileProtocol config) (opened.stateFile, some (.holding op (some state)))
          ((final (transaction config work) world).stateFile, none) := by
    intro state opened hstate
    rw [transaction_stateFile hstate]
    cases hwork : work state world.transport with
    | ok result after => exact .write (.publish (hpublishes _ _ _ _ hwork))
    | error error after => exact .abandon
  cases hfile : world.stateFile with
  | none =>
    have hstate : ensureState config world = _ := ensureState_of_none hfile
    have hread : SoloStep (stateFileProtocol config) (none, none) (none, some (.creating op)) :=
      .read (.absent hop)
    have hcreate : SoloStep (stateFileProtocol config) (none, some (.creating op))
        (some (createdState config).saved, some (.holding op (some (createdState config)))) :=
      .write (.create op)
    exact ((Relation.ReflTransGen.single hread).tail hcreate).tail (hends hstate)
  | some file =>
    cases hload : file.load with
    | error error =>
      have hstate : ensureState config world = _ := ensureState_of_damaged hfile hload
      have hrun : transaction config work world = .error error world := bind_of_error hstate
      rw [final_of_error hrun, hfile]
    | ok state =>
      have hstate : ensureState config world = _ := ensureState_of_load hfile hload
      have hread : SoloStep (stateFileProtocol config) (some file, none)
          (some file, some (.holding op (some (prepared config state)))) := .read (.load hop hload)
      have hlast := hends hstate
      rw [hfile] at hlast
      exact (Relation.ReflTransGen.single hread).tail hlast

theorem syncedState_eq_ok {config : DaemonConfig} {file : Option StateFile}
    {snapshot : AuthorityArtifactSnapshot} {result : DaemonState × StateSyncReport}
    (h : syncedState config file snapshot = .ok result) :
    (file = none ∧ ∃ built,
      DaemonState.fromAuthoritySnapshot config.network config.roles snapshot = .ok built ∧
        result = (built.withMergedCandidates, seededReport built.withMergedCandidates 0)) ∨
    ∃ stored held, file = some stored ∧ stored.load = .ok held ∧
      { held with roles := config.roles }.syncAuthoritySnapshot (authorityClient config) snapshot =
        .ok result := by
  cases file with
  | none =>
    obtain ⟨built, hbuilt, h⟩ := except_bind_eq_ok h
    cases h
    exact .inl ⟨rfl, built, hbuilt, rfl⟩
  | some stored =>
    obtain ⟨held, hload, h⟩ := except_bind_eq_ok h
    exact .inr ⟨stored, held, rfl, hload, h⟩

theorem syncedState_publishes {config : DaemonConfig} {file : Option StateFile}
    {snapshot : AuthorityArtifactSnapshot} {result : DaemonState × StateSyncReport}
    (h : syncedState config file snapshot = .ok result) :
    ∃ pending, FileReads config file pending ∧
      FileWrites config pending (some result.1.saved) none := by
  rcases syncedState_eq_ok h with ⟨rfl, built, hbuilt, rfl⟩ | ⟨stored, held, rfl, hload, hmerge⟩
  · exact ⟨.holding (.syncAuthoritySnapshot (.ok snapshot)) none, .absentToSync _,
      .publish (.seed hbuilt)⟩
  · exact ⟨_, .loadToSync (.ok snapshot) hload, .publish (.merge hmerge)⟩

theorem syncAuthoritySnapshot_solo (config : DaemonConfig)
    (loaded : Except DaemonStateError AuthorityArtifactSnapshot) (world : World ρ) :
    Relation.ReflTransGen (SoloStep (stateFileProtocol config)) (world.stateFile, none)
      ((final (LocalControlPlane.syncAuthoritySnapshot config loaded) world).stateFile, none) := by
  cases loaded with
  | error error => exact .refl
  | ok snapshot =>
    have hfinal : (final (LocalControlPlane.syncAuthoritySnapshot config (.ok snapshot))
        world).stateFile =
          match syncedState config world.stateFile snapshot with
          | .ok (state, _) => some state.saved
          | .error _ => world.stateFile := by
      unfold final LocalControlPlane.syncAuthoritySnapshot
      simp only [bind_run, orThrow, pure_run, get_run]
      cases syncedState config world.stateFile snapshot <;>
        simp only [pure_run, throw_run, save, modify_run]
    rw [hfinal]
    cases hsynced : syncedState config world.stateFile snapshot with
    | error error => exact .refl
    | ok result =>
      obtain ⟨pending, hread, hwrite⟩ := syncedState_publishes hsynced
      exact (Relation.ReflTransGen.single (.read hread)).tail (.write hwrite)

theorem FileOp.run_solo (config : DaemonConfig) (op : FileOp) (world : World ρ) :
    Relation.ReflTransGen (SoloStep (stateFileProtocol config)) (world.stateFile, none)
      ((final (op.run config) world).stateFile, none) := by
  cases op with
  | syncAuthorityRevocationsOrigin origin =>
    rw [FileOp.run, final_ignoring]
    refine transaction_solo (.syncAuthorityRevocationsOrigin origin) rfl ?_ world
    intro held adapter result after h
    unfold revokeState at h
    cases hfetched : origin.revocations held.maxRevocationSequence with
    | error error =>
      have hsame : origin.revocations
          { held with roles := config.roles }.maxRevocationSequence = .error error := hfetched
      simp [hsame] at h
    | ok revocations =>
      have hsame : origin.revocations
          { held with roles := config.roles }.maxRevocationSequence = .ok revocations := hfetched
      simp only [hsame, pure_run, EStateM.Result.ok.injEq] at h
      obtain ⟨rfl, -⟩ := h
      exact .revoke hfetched
  | syncAuthoritySnapshot loaded =>
    rw [FileOp.run, final_ignoring]
    exact syncAuthoritySnapshot_solo config loaded world
  | reconcileSessions =>
    rw [FileOp.run, final_ignoring]
    exact transaction_solo .reconcileSessions rfl (fun held _ _ _ h => .reconcile (reconcileState_keepsState held _ _ _ h))
      world
  | realizeBestPath peer protocol trafficClass =>
    rw [FileOp.run, final_ignoring]
    exact transaction_solo (.realizeBestPath peer protocol trafficClass) rfl (fun held _ _ _ h =>
      .realize (realizeState_keepsState peer protocol trafficClass held _ _ _ h)) world
  | closeSession sessionId =>
    exact transaction_solo (.closeSession sessionId) rfl (fun held _ _ _ h =>
      .close (closeState_keepsState sessionId held _ _ _ h)) world
  | upgradeSession sessionId =>
    rw [FileOp.run, final_ignoring]
    exact transaction_solo (.upgradeSession sessionId) rfl (fun held _ _ _ h =>
      .upgrade (upgradeState_keepsState sessionId held _ _ _ h)) world
  | reprobeNetworkChange reason =>
    rw [FileOp.run, final_ignoring]
    refine transaction_solo (.reprobeNetworkChange reason) rfl ?_ world
    intro held adapter result after h
    cases h
    exact .reprobe
  | refreshAndPersist =>
    rw [FileOp.run, final_ignoring]
    refine transaction_solo .refreshAndPersist rfl ?_ world
    intro held adapter result after h
    cases h
    exact .refresh

/-- An operation that runs without interruption is one interleaving of its thread
with the others. -/
theorem FileOp.run_interleaves {T : Type} [DecidableEq T] (config : DaemonConfig) (op : FileOp)
    (transport : QuicTransportAdapter ρ) (t : T) {s : State T (Option StateFile) Pending}
    (hidle : s.pending t = none) :
    Run (stateFileProtocol config) free s
      ⟨(final (op.run config) ⟨s.content, transport⟩).stateFile, s.pending⟩ := by
  have hsolo := op.run_solo config ⟨s.content, transport⟩
  rw [← hidle] at hsolo
  have hrun := Run.of_solo t hsolo
  rwa [Function.update_eq_self] at hrun

/-! ## Revocations in the file -/

/-- The revocations of a state file; a damaged file has none that can be read. -/
def revocationsOf : Option StateFile → Set RevocationRecord
  | some (.durable state) => {revocation | revocation ∈ state.revocations}
  | _ => ∅

def Pending.revocations : Pending → Set RevocationRecord
  | .holding _ (some held) => {revocation | revocation ∈ held.revocations}
  | _ => ∅

theorem FileWrites.revocations_subset {config : DaemonConfig} {pending : Pending}
    {content : Option StateFile} {next : Option Pending}
    (h : FileWrites config pending content next) :
    pending.revocations ⊆ revocationsOf content := by
  cases h with
  | create op => exact Set.empty_subset _
  | @publish op held written hpublishes =>
    cases held with
    | none => exact Set.empty_subset _
    | some held => exact fun _ hmem => hpublishes.extends.revocations.subset hmem

omit [Primitives] in
theorem FileReads.revocations_subset {config : DaemonConfig} {content : Option StateFile}
    {pending : Pending} (h : FileReads config content pending) :
    revocationsOf content ⊆ pending.revocations := by
  have hload : ∀ {file : StateFile} {state : DaemonState}, file.load = .ok state →
      ∀ op, revocationsOf (some file) ⊆ (Pending.holding op (some state)).revocations := by
    intro file state h op
    cases file with
    | durable durable =>
      cases h
      exact subset_rfl
    | damaged error => exact Set.empty_subset _
  cases h with
  | @load op _ _ hop h => exact hload h op
  | absent hop => exact Set.empty_subset _
  | loadToSync loaded h => exact hload h (.syncAuthoritySnapshot loaded)
  | absentToSync loaded => exact Set.empty_subset _

inductive DaemonThread
  | mainLoop
  | controlServer
deriving DecidableEq, Repr

/-- The daemon's threads interleave, and every write finds in the file only
revocations that its operation has read. -/
theorem revocations_never_lost (config : DaemonConfig)
    {start later : State DaemonThread (Option StateFile) Pending}
    (hrun : Run (stateFileProtocol config) (UpToDate revocationsOf Pending.revocations) start later)
    (revocation : RevocationRecord) (hmem : revocation ∈ revocationsOf start.content) :
    revocation ∈ revocationsOf later.content :=
  hrun.facts_subset (fun _ _ _ hwrite => FileWrites.revocations_subset hwrite) hmem

end Operations

section Closed
attribute [local instance] Primitives.transparent

def revokingOrigin : AuthorityOrigin where
  snapshot _ := .ok emptySnapshot
  relayMap := .error (.transport "no relay map")
  revocations _ := .ok [peerRevocation fixtureWorkerPeer]

def reprobe : FileOp := .reprobeNetworkChange "link up"

theorem reprobe_after_revocation_keeps_it :
    ∃ later : State DaemonThread (Option StateFile) Pending,
      Run (stateFileProtocol meshConfig) (UpToDate revocationsOf Pending.revocations)
        ⟨some (.durable revokedFixture), fun _ => none⟩ later ∧
        later.content = some (reprobedState "link up" (prepared meshConfig revokedFixture)).saved ∧
        peerRevocation fixtureWorkerPeer ∈ revocationsOf later.content := by
  have hread : FileReads meshConfig (some (.durable revokedFixture))
      (.holding reprobe (some (prepared meshConfig revokedFixture))) := .load rfl rfl
  have hwrite : FileWrites meshConfig
      (.holding reprobe (some (prepared meshConfig revokedFixture)))
      (some (reprobedState "link up" (prepared meshConfig revokedFixture)).saved) none :=
    .publish .reprobe
  have hrun : Run (stateFileProtocol meshConfig) (UpToDate revocationsOf Pending.revocations)
      ⟨some (.durable revokedFixture), fun _ => none⟩ _ :=
    (Run.read .refl DaemonThread.mainLoop hread rfl).write .mainLoop hwrite rfl
      hread.revocations_subset
  have hmem : peerRevocation fixtureWorkerPeer ∈ revokedFixture.revocations := by
    decide +kernel
  exact ⟨_, hrun, rfl, revocations_never_lost meshConfig hrun _ hmem⟩

/-- The main loop reads the file for a reprobe, the control server writes a
revocation, and the main loop then writes back what it had read. -/
theorem stale_reprobe_drops_revocation :
    ∃ written later : State DaemonThread (Option StateFile) Pending,
      Run (stateFileProtocol meshConfig) free
        ⟨some (.durable (fixtureDaemonState "mesh")), fun _ => none⟩ written ∧
        peerRevocation fixtureWorkerPeer ∈ revocationsOf written.content ∧
        Run (stateFileProtocol meshConfig) free written later ∧
        peerRevocation fixtureWorkerPeer ∉ revocationsOf later.content := by
  let held := prepared meshConfig (fixtureDaemonState "mesh")
  let revoke : FileOp := .syncAuthorityRevocationsOrigin revokingOrigin
  have hread : FileReads meshConfig (some (.durable (fixtureDaemonState "mesh")))
      (.holding reprobe (some held)) := .load rfl rfl
  have hread' : FileReads meshConfig (some (.durable (fixtureDaemonState "mesh")))
      (.holding revoke (some held)) := .load rfl rfl
  have hrevoke : FileWrites meshConfig (.holding revoke (some held))
      (some ({ held with roles := meshConfig.roles }.applyRevocations
        [peerRevocation fixtureWorkerPeer]).1.saved) none := .publish (.revoke rfl)
  have hreprobe : FileWrites meshConfig (.holding reprobe (some held))
      (some (reprobedState "link up" held).saved) none := .publish .reprobe
  have hrun : Run (stateFileProtocol meshConfig) free
      ⟨some (.durable (fixtureDaemonState "mesh")), fun _ => none⟩ _ :=
    ((Run.read .refl DaemonThread.mainLoop hread rfl).read .controlServer hread' rfl).write
      .controlServer hrevoke rfl trivial
  refine ⟨_, _, hrun, ?_, Run.write .refl .mainLoop hreprobe rfl trivial, ?_⟩
  · change peerRevocation fixtureWorkerPeer ∈ (held.applyRevocations _).1.revocations
    decide +kernel
  · exact List.not_mem_nil

end Closed

end QuipNet.Fabric
