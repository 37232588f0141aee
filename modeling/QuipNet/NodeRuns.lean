import QuipNet.ControlRequests
import QuipNet.StateContinuity
import QuipNet.TransportCalls

/-!
# What the daemon does to its world

A reading operation takes readings of the clock and creates the state file if there is
none; every other operation besides makes calls of the adapter and writes the state file.
A relation on worlds that these steps keep is kept by whole requests and cycles.
-/

open Std
namespace QuipNet.Daemon
open QuipNet.Backup QuipNet.Control QuipNet.DaemonApi QuipNet.Fabric QuipNet.Library
open QuipNet.Library.Effect QuipNet.Quic QuipNet.SessionIds QuipNet.Transport

variable {ρ : Type}

/-- A relation that readings of the clock keep. -/
class Clocked (R : World ρ → World ρ → Prop) : Prop extends IsPreorder (World ρ) R where
  ticked : ∀ world, R world { world with transport := world.transport.ticked }

class Observed [Primitives] (config : DaemonConfig) (R : World ρ → World ρ → Prop) : Prop
    extends Clocked R where
  created : ∀ world, world.stateFile = none →
    R world { world with stateFile := some (LocalControlPlane.createdState config).saved }

def IsDamaged (file : Option StateFile) : Prop := ∃ error, file = some (.damaged error)

theorem not_isDamaged_none : ¬ IsDamaged none := by
  rintro ⟨error, h⟩
  cases h

theorem not_isDamaged_durable (state : DaemonState) : ¬ IsDamaged (some (.durable state)) := by
  rintro ⟨error, h⟩
  cases h

theorem not_isDamaged_of_follows {P : List RevocationRecord → Prop} {state : DaemonState}
    {file : Option StateFile} (h : Follows P state file) : ¬ IsDamaged file := by
  rintro ⟨error, rfl⟩
  exact h

structure SurroundingsFeed (P : List RevocationRecord → Prop) (surroundings : Surroundings) :
    Prop where
  snapshot : ∀ path snapshot, surroundings.loadAuthoritySnapshot path = .ok snapshot →
    Feeds P snapshot.revocations
  origin : ∀ name, OriginFeeds P (surroundings.originAt name)

theorem surroundingsFeed_any (surroundings : Surroundings) :
    SurroundingsFeed (fun _ => True) surroundings :=
  ⟨fun _ snapshot _ => feeds_any snapshot.revocations, fun _ => originFeeds_any _⟩

/-- A relation that every operation keeps but the reset of the state file. What an operation
writes continues what it found in the file, where the authority's answers keep the property. -/
class Operated [Primitives] (config : DaemonConfig)
    (P : outParam (List RevocationRecord → Prop)) (R : World ρ → World ρ → Prop) : Prop
    extends Observed config R where
  nothing : P []
  saved : ∀ world state, Follows P state world.stateFile →
    R world { world with stateFile := some (DaemonState.saved state) }
  called : ∀ world (call : AdapterCall),
    R world { world with transport := call.run world.transport }

/-! ## Reading the clock -/

theorem onPlane_moves {α : Type} {R : World ρ → World ρ → Prop} {m : ControlM ρ α} (hm : Moves R m) :
    Moves R (onPlane m) := hm.mapError _

section Clock
variable {R : World ρ → World ρ → Prop} [Clocked R]

theorem currentUnixSecs_clocked : Moves R (currentUnixSecs : ServerM ρ ℕ) :=
  Moves.modifyGet Clocked.ticked

theorem decoded_clocked {α : Type} (payload : String) (answer : Except String α) :
    Moves R (decoded payload answer : ServerM ρ α) := by
  cases answer with
  | ok value => exact Moves.pure value
  | error error => exact Moves.throw _

theorem parsedSessionId_clocked (value : String) :
    Moves R (parsedSessionId value : ServerM ρ SessionId) := by
  unfold parsedSessionId
  split
  · exact Moves.throw _
  · exact Moves.throw _
  · exact Moves.pure _

theorem read_clocked {α : Type} (answer : World ρ → α) :
    Moves R (do pure (answer (← get)) : ServerM ρ α) := by
  apply Moves.get_bind
  intro world
  exact refl world

theorem orThrow_clocked {α : Type} (answer : Except DaemonStateError α) : Moves R (orThrow answer) := by
  cases answer with
  | ok value => exact Moves.pure value
  | error error => exact Moves.throw error

theorem runtimeSessionEntry_clocked (session : SessionSnapshot) :
    Moves R (runtimeSessionEntry session : ServerM ρ RuntimeSessionEntry) :=
  Moves.bind currentUnixSecs_clocked fun _ => Moves.pure _

theorem runtimeListenerEntry_clocked (listener : RuntimeListenerSnapshot) :
    Moves R (runtimeListenerEntry listener : ServerM ρ RuntimeListenerEntry) :=
  Moves.bind currentUnixSecs_clocked fun _ => Moves.pure _

theorem sessionEntries_clocked (state : DaemonState) : Moves R (do
    (runtimeSessionInventory state (← get).transport).mapM runtimeSessionEntry :
      ServerM ρ (List RuntimeSessionEntry)) := by
  apply Moves.get_bind
  intro world
  exact Moves.mapM (R := R) runtimeSessionEntry_clocked _ world

theorem runtimeEventEntries_clocked (limit : ℕ) :
    Moves R (runtimeEventEntries limit : ServerM ρ (List RuntimeEventEntry)) :=
  read_clocked fun world => (world.transport.recentEvents limit).map runtimeEventEntry

variable (surroundings : ServerSurroundings) (args : ServerArgs)

theorem inspectedStateFile_clocked :
    Moves R (inspectedStateFile surroundings args : ServerM ρ _) := by
  apply Moves.get_bind
  intro world
  cases inspectStateFile surroundings args.statePath world.stateFile <;> exact refl world

theorem stateShowResult_clocked :
    Moves R (stateShowResult surroundings args : ServerM ρ StateShowResult) :=
  Moves.bind (inspectedStateFile_clocked surroundings args) fun _ => Moves.pure _

theorem stateValidateResult_clocked :
    Moves R (stateValidateResult surroundings args : ServerM ρ StateValidateResult) :=
  Moves.bind (inspectedStateFile_clocked surroundings args) fun _ => Moves.pure _

end Clock

/-! ## Reading operations -/

section Reading
variable [Primitives] {config : DaemonConfig} {R : World ρ → World ρ → Prop} [Observed config R]

theorem ensureState_observed :
    Moves R (LocalControlPlane.ensureState config : ControlM ρ DaemonState) := by
  intro world
  cases hfile : world.stateFile with
  | none =>
    rw [final_of_ok (LocalControlPlane.ensureState_of_none hfile)]
    exact Observed.created world hfile
  | some file =>
    cases hload : file.load with
    | ok state =>
      rw [final_of_ok (LocalControlPlane.ensureState_of_load hfile hload)]
      exact refl world
    | error error =>
      rw [final_of_error (LocalControlPlane.ensureState_of_damaged hfile hload)]
      exact refl world

theorem ensured_observed {α : Type} (answer : DaemonState → World ρ → α) :
    Moves R (do
      let state ← LocalControlPlane.ensureState config
      pure (answer state (← get)) : ControlM ρ α) := by
  refine Moves.bind ensureState_observed fun state => ?_
  apply Moves.get_bind
  intro world
  exact refl world

theorem syncRuntimeSessions_observed :
    Moves R (LocalControlPlane.syncRuntimeSessions config : ControlM ρ DaemonState) :=
  ensured_observed fun state world => { state with activeSessions := world.transport.activeSessions }

theorem runtimeListeners_observed : Moves R
    (LocalControlPlane.runtimeListeners config : ControlM ρ (List RuntimeListenerSnapshot)) :=
  ensured_observed fun state world => world.transport.activeListeners.map (reportedListener state)

theorem runtimePaths_observed : Moves R
    (LocalControlPlane.runtimePaths config : ControlM ρ (List RuntimePathSnapshot)) :=
  ensured_observed fun state world => state.runtimePaths world.transport

theorem runtimeHealth_observed :
    Moves R (LocalControlPlane.runtimeHealth config : ControlM ρ RuntimeHealthReport) := by
  refine Moves.bind ensureState_observed fun state => ?_
  apply Moves.get_bind
  intro world
  refine Moves.bind (R := R) runtimeListeners_observed (fun listeners => ?_) world
  refine Moves.bind runtimePaths_observed fun paths => ?_
  exact Moves.pure _

theorem runtimeView_observed : Moves R
    (runtimeView config : ServerM ρ (DaemonState × RuntimeHealthReport × AuthoritySyncStatus)) := by
  refine Moves.bind (onPlane_moves syncRuntimeSessions_observed) fun state => ?_
  refine Moves.bind (onPlane_moves runtimeHealth_observed) fun health => ?_
  exact read_clocked fun world =>
    (state, health, latestAuthorityStatus world.transport state health)

theorem runtimeSessions_observed :
    Moves R (runtimeSessions config : ServerM ρ (List RuntimeSessionEntry)) :=
  Moves.bind (onPlane_moves syncRuntimeSessions_observed) sessionEntries_clocked

theorem runtimeListenerEntries_observed :
    Moves R (runtimeListenerEntries config : ServerM ρ (List RuntimeListenerEntry)) :=
  Moves.bind (onPlane_moves runtimeListeners_observed) fun listeners =>
    Moves.mapM runtimeListenerEntry_clocked listeners

theorem runtimePathEntries_observed :
    Moves R (runtimePathEntries config : ServerM ρ (List RuntimePathEntry)) :=
  Moves.bind (onPlane_moves runtimePaths_observed) fun _ => Moves.pure _

variable (surroundings : ServerSurroundings) (args : ServerArgs) (localIdentity : IdentityKeypair)

theorem runtimeStatusResult_observed :
    Moves R (runtimeStatusResult args config localIdentity : ServerM ρ RuntimeStatusResult) :=
  Moves.bind runtimeView_observed fun _ => Moves.pure _

theorem runtimeHealthResult_observed :
    Moves R (runtimeHealthResult config : ServerM ρ RuntimeHealthResult) :=
  Moves.bind (onPlane_moves runtimeHealth_observed) fun _ => Moves.pure _

theorem authorityShowResult_observed :
    Moves R (authorityShowResult args config : ServerM ρ AuthorityShowResult) :=
  Moves.bind runtimeView_observed fun _ => Moves.pure _

theorem identityVerifyResult_observed :
    Moves R (identityVerifyResult args config localIdentity : ServerM ρ IdentityVerifyResult) :=
  Moves.bind (onPlane_moves ensureState_observed) fun _ => Moves.pure _

theorem loaded_observed {α : Type} (answer : DaemonState → α) : Moves R (do
    let state ← onPlane (LocalControlPlane.ensureState config)
    pure (answer state) : ServerM ρ α) :=
  Moves.bind (onPlane_moves ensureState_observed) fun _ => Moves.pure _

theorem runtimeDiagnoseResult_observed (eventLimit : ℕ) : Moves R
    (runtimeDiagnoseResult surroundings args config localIdentity eventLimit :
      ServerM ρ RuntimeDiagnoseResult) := by
  refine Moves.bind (onPlane_moves syncRuntimeSessions_observed) fun state => ?_
  refine Moves.bind (runtimeStatusResult_observed args localIdentity) fun status => ?_
  refine Moves.bind runtimeHealthResult_observed fun health => ?_
  refine Moves.bind (stateShowResult_clocked surroundings args) fun durableState => ?_
  refine Moves.bind (identityVerifyResult_observed args localIdentity) fun identity => ?_
  refine Moves.bind (authorityShowResult_observed args) fun authorityShow => ?_
  apply Moves.get_bind
  intro world
  refine Moves.bind (R := R) (Moves.mapM runtimeSessionEntry_clocked _) (fun sessions => ?_) world
  refine Moves.bind runtimeListenerEntries_observed fun listeners => ?_
  refine Moves.bind runtimePathEntries_observed fun paths => ?_
  refine Moves.bind (runtimeEventEntries_clocked _) fun events => ?_
  exact Moves.pure _

end Reading

/-! ## Calls of the adapter -/

inductive Reaches [Primitives] : QuicTransportAdapter ρ → QuicTransportAdapter ρ → Prop
  | refl (adapter : QuicTransportAdapter ρ) : Reaches adapter adapter
  | ticked {adapter after : QuicTransportAdapter ρ} (h : Reaches adapter after) :
      Reaches adapter after.ticked
  | called {adapter after : QuicTransportAdapter ρ} (h : Reaches adapter after)
      (call : AdapterCall) : Reaches adapter (call.run after)

section Calls
variable [Primitives]

instance : IsPreorder (QuicTransportAdapter ρ) Reaches where
  refl := .refl
  trans _ _ _ h₁ h₂ := by
    induction h₂ with
    | refl => exact h₁
    | ticked _ ih => exact ih.ticked
    | called _ call ih => exact ih.called call

theorem handle_reaches {β : Type} (c : TransportCall β) : Moves Reaches (c.handle : QuicM ρ β) := by
  intro adapter
  have hcall (call : AdapterCall) : Reaches adapter (call.run adapter) :=
    (Reaches.refl adapter).called call
  cases c with
  | activeSessions => exact .refl adapter
  | sessionSnapshot sessionId => exact .refl adapter
  | activeListeners => exact .refl adapter
  | reconnectSuppressions => exact .refl adapter
  | updateSessionState id state closureReason stateReason =>
    exact hcall (.updateSessionState id state closureReason stateReason)
  | updateListenerState id state stateReason => exact hcall (.updateListenerState id state stateReason)
  | connect route => exact hcall (.connect route)
  | migrate session route => exact hcall (.migrate session route)
  | closeSession session => exact hcall (.closeSession session)
  | suppressReconnect key reason => exact hcall (.suppressReconnect key reason)
  | clearReconnectSuppression key => exact hcall (.clearReconnectSuppression key)
  | emitRuntimeEvent eventType subject details =>
    exact hcall (.recordRuntimeEvent eventType subject details)

theorem carryOut_reaches {α : Type} (p : ControlProgram α) :
    Moves Reaches (Fabric.carryOut p : FabricM ρ α) :=
  Program.moves_exec TransportCall.handle handle_reaches p

theorem closeState_reaches (sessionId : SessionId) (state : DaemonState) :
    Moves Reaches (closeState sessionId state : FabricM ρ _) := by
  rw [← carryOut_closeState]
  exact carryOut_reaches _

theorem upgradeState_reaches (sessionId : SessionId) (state : DaemonState) :
    Moves Reaches (upgradeState sessionId state : FabricM ρ _) := by
  rw [← carryOut_upgradeState]
  exact carryOut_reaches _

theorem reconcileState_reaches (state : DaemonState) :
    Moves Reaches (reconcileState state : FabricM ρ _) := by
  rw [← carryOut_reconcileState]
  exact carryOut_reaches _

theorem realizeState_reaches (peer : PeerId) (protocol : ProtocolId) (trafficClass : TrafficClass)
    (state : DaemonState) :
    Moves Reaches (realizeState peer protocol trafficClass state : FabricM ρ _) := by
  rw [← carryOut_realizeState]
  exact carryOut_reaches _

theorem reevaluateAuthority_reaches (state : DaemonState) (runtimePeerId : PeerId) :
    Moves Reaches (reevaluateAuthority state runtimePeerId : FabricM ρ _) := by
  rw [← carryOut_reevaluateAuthority]
  exact carryOut_reaches _

end Calls

/-! ## Operations -/

section Operating
variable [Primitives] {config : DaemonConfig} {P : List RevocationRecord → Prop}
  {R : World ρ → World ρ → Prop} [Operated config P R]
include P

theorem reaches_operated (config : DaemonConfig) [Operated config P R] {world : World ρ}
    {transport : QuicTransportAdapter ρ} (h : Reaches world.transport transport) :
    R world { world with transport } := by
  induction h with
  | refl => exact refl world
  | @ticked after h ih =>
    exact IsTrans.trans _ _ _ ih (Clocked.ticked (R := R) { world with transport := after })
  | @called after h call ih =>
    exact IsTrans.trans _ _ _ ih
      (Operated.called (R := R) config { world with transport := after } call)

theorem withTransport_operated (config : DaemonConfig) [Operated config P R] {α : Type}
    {m : FabricM ρ α} (hm : Moves Reaches m) : Moves R (withTransport m) := by
  intro world
  rw [withTransport, final_zoom]
  exact reaches_operated config (hm world.transport)

theorem clearReconnectAttempt_operated (config : DaemonConfig) [Operated config P R] (key : SessionKey)
    (outcomeReason : Option String) : Moves R
      (onAdapter (QuicTransportAdapter.clearReconnectAttempt key outcomeReason) : ControlM ρ Unit) :=
  Moves.modify fun world => Operated.called config world (.clearReconnectAttempt key outcomeReason)

theorem emitRuntimeEvent_operated (config : DaemonConfig) [Operated config P R] (eventType : String)
    (subject : RuntimeEventSubject) (details : Json) : Moves R
      (onAdapter (QuicTransportAdapter.emitRuntimeEvent eventType subject details) : ControlM ρ Unit) :=
  Moves.modify fun world =>
    Operated.called config world (.recordRuntimeEvent eventType subject details)

/-! ## Saving the state -/

theorem save_operated (config : DaemonConfig) [Operated config P R] {α : Type} {world : World ρ}
    {state : DaemonState} (h : Follows P state world.stateFile) (answer : α) :
    R world (final (do save state; pure answer : ControlM ρ α) world) :=
  Operated.saved config world state h

theorem transaction_operated {α : Type} {work : DaemonState → FabricM ρ (DaemonState × α)}
    (hwork : ∀ state, Moves Reaches (work state)) (hkeeps : ∀ state, Continuing P state (work state)) :
    Moves R (LocalControlPlane.transaction config work) := by
  intro world
  cases hstate : LocalControlPlane.ensureState config world with
  | error error after =>
    rw [LocalControlPlane.transaction, final_of_error (bind_of_error hstate)]
    exact ensureState_observed.of_error hstate
  | ok state opened =>
    have hopened : Follows P state opened.stateFile := follows_of_ensureState hstate
    have hworked := withTransport_operated (R := R) config (hwork state) opened
    refine IsTrans.trans _ opened _ (ensureState_observed.of_ok hstate) ?_
    rw [LocalControlPlane.transaction, final_bind_of_ok hstate]
    cases hresult : withTransport (work state) opened with
    | error error after =>
      rw [final_of_error hresult] at hworked
      rwa [final_of_error (bind_of_error hresult)]
    | ok result worked =>
      have hfile : worked.stateFile = opened.stateFile := by
        rw [← final_of_ok hresult, withTransport, final_zoom]
      rw [final_of_ok hresult] at hworked
      rw [final_bind_of_ok hresult]
      refine IsTrans.trans _ worked _ hworked ?_
      have hcontinues := (hkeeps state).zoom _ _ _ _ _ hresult
      exact save_operated config (hfile ▸ hopened.trans hcontinues) result.2

theorem ensureStateForLocalIdentity_operated (localIdentity : IdentityKeypair) :
    Moves R (LocalControlPlane.ensureStateForLocalIdentity config localIdentity :
      ControlM ρ DaemonState) := by
  apply Moves.get_bind
  intro world
  cases hfile : world.stateFile with
  | some file => exact @ensureState_observed ρ _ config R _ world
  | none => exact save_operated config (hfile ▸ Operated.nothing config R) _

theorem refreshAndPersistForLocalIdentity_operated (localIdentity : IdentityKeypair) :
    Moves R (LocalControlPlane.refreshAndPersistForLocalIdentity config localIdentity :
      ControlM ρ DaemonState) := by
  intro world
  have hensured : R world
      (final (LocalControlPlane.ensureStateForLocalIdentity config localIdentity) world) :=
    ensureStateForLocalIdentity_operated localIdentity world
  cases hstate : LocalControlPlane.ensureStateForLocalIdentity config localIdentity world with
  | error error after =>
    rw [final_of_error hstate] at hensured
    rwa [LocalControlPlane.refreshAndPersistForLocalIdentity, final_of_error (bind_of_error hstate)]
  | ok state opened =>
    rw [final_of_ok hstate] at hensured
    rw [LocalControlPlane.refreshAndPersistForLocalIdentity, final_bind_of_ok hstate]
    refine IsTrans.trans _ opened _ hensured ?_
    refine save_operated config (show Follows P state opened.stateFile from ?_) state
    cases hfile : world.stateFile with
    | none =>
      simp only [LocalControlPlane.ensureStateForLocalIdentity, bind_run, get_run, hfile, save,
        modify_run, pure_run, EStateM.Result.ok.injEq] at hstate
      obtain ⟨rfl, rfl⟩ := hstate
      exact .of_same rfl rfl rfl rfl
    | some file =>
      have hensure : LocalControlPlane.ensureState config world = .ok state opened := by
        simpa only [LocalControlPlane.ensureStateForLocalIdentity, bind_run, get_run, hfile]
          using hstate
      exact follows_of_ensureState hensure

theorem saveSynced_operated (config : DaemonConfig) [Operated config P R] {α : Type}
    {snapshot : AuthorityArtifactSnapshot} (hfeeds : Feeds P snapshot.revocations)
    (state : DaemonState × StateSyncReport → DaemonState)
    (hstate : ∀ result, DaemonState.Continues P result.1 (state result))
    (answer : DaemonState × StateSyncReport → α) :
    Moves R (do
      let result ← orThrow (LocalControlPlane.syncedState config (← get).stateFile snapshot)
      save (state result)
      pure (answer result) : ControlM ρ α) := by
  apply Moves.get_bind
  intro world
  cases hsynced : LocalControlPlane.syncedState config world.stateFile snapshot with
  | error error => exact refl world
  | ok result =>
    exact save_operated config ((follows_of_syncedState hfeeds hsynced).trans (hstate result)) _

/-! ## Operations of the control plane -/

theorem ensureIdentityBoundState_operated (localIdentity : IdentityKeypair) :
    Moves R (LocalControlPlane.ensureIdentityBoundState config localIdentity :
      ControlM ρ DaemonState) := by
  refine Moves.bind (ensureStateForLocalIdentity_operated localIdentity) fun state => ?_
  dsimp only
  split_ifs
  · exact Moves.throw _
  · exact Moves.throw _
  · exact Moves.pure _

theorem syncAuthoritySnapshot_operated
    {loaded : Except DaemonStateError AuthorityArtifactSnapshot}
    (hloaded : ∀ snapshot, loaded = .ok snapshot → Feeds P snapshot.revocations) :
    Moves R (LocalControlPlane.syncAuthoritySnapshot config loaded : ControlM ρ _) := by
  cases loaded with
  | error error => exact Moves.throw error
  | ok snapshot =>
    exact saveSynced_operated config (hloaded snapshot rfl) Prod.fst
      (fun result => .refl result.1) id

theorem syncAuthorityOrigin_operated {origin : AuthorityOrigin} (hfeeds : OriginFeeds P origin)
    (subject : Option String) :
    Moves R (LocalControlPlane.syncAuthorityOrigin config origin subject : ControlM ρ _) := by
  unfold LocalControlPlane.syncAuthorityOrigin
  cases hfetched : LocalControlPlane.fetchAuthoritySnapshotFor config origin subject with
  | error error => exact Moves.throw _
  | ok snapshot =>
    have hsnapshot := hfeeds.snapshot subject snapshot
      (LocalControlPlane.fetchAuthoritySnapshotFor_eq_ok hfetched)
    simp only [fetched_ok, pure_bind]
    refine Moves.bind (orThrow_clocked _) fun relayMap => ?_
    exact saveSynced_operated (R := R) config hsnapshot
      (fun result => (result.1.applyRelayMap relayMap).1)
      (fun result => result.1.applyRelayMap_continues relayMap) fun result =>
        ((result.1.applyRelayMap relayMap).1,
          { result.2 with relayAnnouncementsAdded := (result.1.applyRelayMap relayMap).2 })

theorem syncAuthorityRevocationsOrigin_operated {origin : AuthorityOrigin}
    (hfeeds : OriginFeeds P origin) :
    Moves R (LocalControlPlane.syncAuthorityRevocationsOrigin config origin : ControlM ρ _) := by
  refine transaction_operated (fun state => ?_)
    fun state => (revokeState_continuing hfeeds _).after (.of_same rfl rfl rfl rfl)
  unfold LocalControlPlane.revokeState
  split
  · exact Moves.throw _
  · exact Moves.pure _

theorem reprobeNetworkChange_operated (reason : String) :
    Moves R (LocalControlPlane.reprobeNetworkChange config reason : ControlM ρ _) :=
  transaction_operated (fun _ => Moves.pure _)
    fun state => Returns.pure (reprobedState_continues reason state)

theorem reevaluateRuntimeAuthority_operated (localIdentity : IdentityKeypair) :
    Moves R (LocalControlPlane.reevaluateRuntimeAuthority config localIdentity : ControlM ρ _) := by
  refine Moves.bind ensureState_observed fun state => ?_
  exact withTransport_operated config (reevaluateAuthority_reaches state localIdentity.peerId)

theorem realizeBestPath_operated (peer : PeerId) (protocol : ProtocolId)
    (trafficClass : TrafficClass) : Moves R
      (LocalControlPlane.realizeBestPath config peer protocol trafficClass : ControlM ρ _) :=
  transaction_operated (realizeState_reaches peer protocol trafficClass)
    fun state => (realizeState_keepsState peer protocol trafficClass state).continuing

/-! ## A cycle -/

variable {surroundings : Surroundings} (hfeed : SurroundingsFeed P surroundings)
  (localIdentity : IdentityKeypair) (args : Args)
include hfeed

theorem refreshState_operated :
    Moves R (refreshState surroundings config localIdentity args : ControlM ρ DaemonState) := by
  refine Moves.bind ?_ fun state => ?_
  · unfold syncOrRefresh
    split
    · exact (syncAuthoritySnapshot_operated (hfeed.snapshot _)).map _
    · exact (syncAuthorityOrigin_operated (hfeed.origin _) _).map _
    · exact refreshAndPersistForLocalIdentity_operated localIdentity
  · unfold syncRevocations
    split
    · split
      · exact (syncAuthorityRevocationsOrigin_operated (hfeed.origin _)).map _
      · exact Moves.pure _
    · exact Moves.pure _

theorem prepareStateForTrigger_operated (trigger : CycleTrigger) : Moves R
    (prepareStateForTrigger surroundings config localIdentity args trigger : ControlM ρ _) := by
  cases trigger with
  | stateChanged => exact Moves.bind ensureState_observed fun _ => Moves.pure _
  | authoritySnapshotChanged =>
    refine Moves.bind ?_ fun _ => Moves.pure _
    unfold syncChangedSnapshot
    split
    · exact (syncAuthoritySnapshot_operated (hfeed.snapshot _)).map _
    · exact ensureState_observed
  | networkChangeRequested =>
    refine Moves.bind (reprobeNetworkChange_operated _) fun report => ?_
    exact Moves.bind ensureState_observed fun _ => Moves.pure _
  | startup =>
    exact Moves.bind (refreshState_operated hfeed localIdentity args) fun _ => Moves.pure _
  | intervalElapsed =>
    exact Moves.bind (refreshState_operated hfeed localIdentity args) fun _ => Moves.pure _

omit hfeed in
theorem attemptTarget_operated (key : SessionKey) (protocol : ProtocolId) (now : ℕ) :
    Moves R (attemptTarget config key protocol now : ControlM ρ TargetSessionOutcome) := by
  refine Moves.bind (emitRuntimeEvent_operated config _ _ _) fun _ => ?_
  refine Moves.bind (realizeBestPath_operated _ _ _).attempt fun outcome => ?_
  cases outcome with
  | ok session =>
    refine Moves.bind (clearReconnectAttempt_operated config _ _) fun _ => ?_
    exact Moves.pure _
  | error error =>
    refine Moves.bind (Moves.modifyGet fun world => ?_) fun _ => Moves.pure _
    exact Operated.called config world (.scheduleReconnect _ _ _ _ _)

omit hfeed in
theorem reconnectTarget_operated (key : SessionKey) (protocol : ProtocolId) :
    Moves R (reconnectTarget config key protocol : ControlM ρ TargetSessionOutcome) := by
  apply Moves.get_bind
  intro world
  cases world.transport.findReconnectSuppression key with
  | some suppression =>
    refine Moves.bind (R := R) (clearReconnectAttempt_operated config _ _)
      (fun _ => ?_) world
    exact Moves.pure _
  | none =>
    refine Moves.bind (R := R) (Moves.modifyGet Clocked.ticked) (fun now => ?_) world
    apply Moves.get_bind
    intro world
    cases findReconnectAttempt world.transport key with
    | none => exact attemptTarget_operated (R := R) key protocol now world
    | some attempt =>
      dsimp only
      split
      · exact Moves.pure (R := R) _ world
      · split_ifs
        · exact Moves.pure (R := R) _ world
        · exact attemptTarget_operated (R := R) key protocol now world

omit hfeed in
theorem ensureTargetSession_operated (state : DaemonState) (protocol : String) :
    Moves R (ensureTargetSession config args state protocol : ControlM ρ TargetSessionOutcome) := by
  apply Moves.get_bind
  intro world
  split
  · refine Moves.bind (R := R) (clearReconnectAttempt_operated config _ _)
      (fun _ => ?_) world
    exact Moves.pure _
  · split
    · exact Moves.throw (R := R) _ world
    · split
      · exact Moves.throw (R := R) _ world
      · exact reconnectTarget_operated (R := R) _ _ world

omit hfeed in
theorem connectForCycle_operated (state : DaemonState) :
    Moves R (connectForCycle config args state : ControlM ρ _) := by
  unfold connectForCycle
  split
  · exact Moves.pure _
  · refine Moves.bind (ensureTargetSession_operated args state _).attempt fun outcome => ?_
    split
    · exact Moves.bind ensureState_observed fun _ => Moves.pure _
    all_goals exact Moves.pure _

theorem runCycle_operated (trigger : CycleTrigger) :
    Moves R (runCycle surroundings config localIdentity args trigger : ControlM ρ _) := by
  refine Moves.bind (prepareStateForTrigger_operated hfeed localIdentity args trigger)
    fun prepared => ?_
  refine Moves.bind syncRuntimeSessions_observed fun _ => ?_
  refine Moves.bind ?_ fun reevaluation => ?_
  · unfold reevaluateForTrigger
    split_ifs
    · exact (reevaluateRuntimeAuthority_operated localIdentity).map _
    · exact Moves.pure _
  refine Moves.bind syncRuntimeSessions_observed fun state => ?_
  refine Moves.bind ?_ fun reconciled => ?_
  · unfold reconcileForCycle
    split_ifs
    · exact Moves.pure _
    · exact Moves.pure _
    · refine Moves.bind (transaction_operated reconcileState_reaches
      fun state => (reconcileState_keepsState state).continuing) fun report => ?_
      exact Moves.bind ensureState_observed fun _ => Moves.pure _
  refine Moves.bind (connectForCycle_operated args reconciled.1) fun _ => ?_
  exact Moves.pure _

omit hfeed

/-! ## Requests -/

theorem recordSync_operated (config : DaemonConfig) [Operated config P R] (eventType : String)
    (source : SyncSource) (further : List (String × Json)) :
    Moves R (recordSync localIdentity eventType source further : ServerM ρ Unit) :=
  Moves.modify fun world => Operated.called config world (.recordRuntimeEvent eventType
    (authoritySubject localIdentity.peerId) (source.details further))

theorem reevaluateAfterSync_operated (source : SyncSource) (report : StateSyncReport) :
    Moves R (reevaluateAfterSync config localIdentity source report : ServerM ρ Bool) := by
  unfold reevaluateAfterSync
  split_ifs
  · refine Moves.bind (reevaluateRuntimeAuthority_operated localIdentity).attempt fun outcome => ?_
    cases outcome with
    | ok report => exact Moves.pure _
    | error error =>
      refine Moves.bind (recordSync_operated localIdentity config _ source _) fun _ => ?_
      exact Moves.throw _
  · exact Moves.pure _

theorem completeSync_operated {α : Type} (source : SyncSource) (state : DaemonState)
    (report : StateSyncReport) (answer : AuthoritySyncStatus → α) :
    Moves R (do
      let reevaluated ← reevaluateAfterSync config localIdentity source report
      let health ← onPlane (LocalControlPlane.runtimeHealth config)
      let authority := latestAuthorityStatus (← get).transport state health
      recordSync localIdentity "authority.sync_completed" source (completedDetails report reevaluated)
      pure (answer authority) : ServerM ρ α) := by
  refine Moves.bind (reevaluateAfterSync_operated localIdentity source report) fun reevaluated => ?_
  refine Moves.bind (onPlane_moves runtimeHealth_observed) fun health => ?_
  apply Moves.get_bind
  intro world
  refine Moves.bind (R := R) (recordSync_operated localIdentity config _ source _)
    (fun _ => ?_) world
  exact Moves.pure _

theorem authoritySync_operated (source : SyncSource)
    {sync : ControlM ρ (DaemonState × StateSyncReport)} (hsync : Moves R sync) :
    Moves R (authoritySync config localIdentity source sync) := by
  refine Moves.bind (recordSync_operated localIdentity config _ source _) fun _ => ?_
  refine Moves.bind hsync.attempt fun outcome => ?_
  cases outcome with
  | error error =>
    refine Moves.bind (recordSync_operated localIdentity config _ source _) fun _ => ?_
    exact Moves.throw _
  | ok synced => exact completeSync_operated localIdentity source synced.1 synced.2 _

theorem sessionConnect_operated (payload : SessionConnectPayload) :
    Moves R (sessionConnect config localIdentity payload : ServerM ρ SessionConnectSummary) := by
  refine Moves.bind (onPlane_moves (ensureIdentityBoundState_operated localIdentity)) fun _ => ?_
  split
  · exact Moves.throw _
  · split
    · exact Moves.throw _
    · refine Moves.bind (onPlane_moves (realizeBestPath_operated _ _ _)) fun session => ?_
      exact Moves.pure _

theorem sessionClose_operated (payload : SessionClosePayload) :
    Moves R (sessionClose config payload : ServerM ρ SessionCloseResult) := by
  refine Moves.bind (parsedSessionId_clocked _) fun sessionId => ?_
  refine Moves.bind (onPlane_moves (transaction_operated (closeState_reaches _)
    fun state => (closeState_keepsState _ state).continuing)) fun _ => ?_
  exact read_clocked _

theorem sessionUpgrade_operated (payload : SessionUpgradePayload) :
    Moves R (sessionUpgrade config payload : ServerM ρ SessionUpgradeResult) := by
  refine Moves.bind (parsedSessionId_clocked _) fun sessionId => ?_
  refine Moves.bind (onPlane_moves syncRuntimeSessions_observed) fun priorState => ?_
  split
  · exact Moves.throw _
  · refine Moves.bind (onPlane_moves (transaction_operated (upgradeState_reaches _)
      fun state => (upgradeState_keepsState _ state).continuing))
      fun session => ?_
    exact Moves.pure _

theorem sessionReconcile_operated :
    Moves R (sessionReconcile config : ServerM ρ SessionReconcileResult) := by
  refine Moves.bind (onPlane_moves (transaction_operated reconcileState_reaches
      fun state => (reconcileState_keepsState state).continuing)) fun report => ?_
  exact Moves.pure _

end Operating

/-! ## Dispatch -/

def Operation.reads : Operation → Bool
  | .stateExport | .stateReset | .authoritySyncSnapshot | .authoritySyncOrigin
  | .authoritySyncRevocationsOrigin | .sessionConnect | .sessionClose | .sessionUpgrade | .sessionReconcile => false
  | _ => true

section Dispatch
variable [Primitives] [PayloadDecoder] (surroundings : ServerSurroundings) (args : ServerArgs)
  {config : DaemonConfig} (localIdentity : IdentityKeypair) {P : List RevocationRecord → Prop}
  {R : World ρ → World ρ → Prop}

theorem Operation.run_observed [Observed config R] {operation : Operation}
    (h : operation.reads = true) (payload : Json) : Moves R
      (operation.run surroundings args config localIdentity payload : ServerM ρ ControlResult) := by
  cases operation with
  | runtimeStatus => exact (runtimeStatusResult_observed args localIdentity).map _
  | runtimeSessionsList => exact runtimeSessions_observed.map _
  | runtimeDiagnose =>
    refine Moves.bind (decoded_clocked _ _) fun request => ?_
    exact (runtimeDiagnoseResult_observed surroundings args localIdentity _).map _
  | runtimeListenersList => exact runtimeListenerEntries_observed.map _
  | runtimePathsList => exact runtimePathEntries_observed.map _
  | runtimeHealth => exact runtimeHealthResult_observed.map _
  | runtimeEventsList => exact (runtimeEventEntries_clocked _).map _
  | authorityShow => exact (authorityShowResult_observed args).map _
  | authorityMembership => exact (loaded_observed _).map _
  | authorityCapabilities => exact (loaded_observed _).map _
  | authorityRevocations => exact (loaded_observed _).map _
  | identityShow => exact (loaded_observed _).map _
  | identityVerify => exact (identityVerifyResult_observed args localIdentity).map _
  | stateShow => exact (stateShowResult_clocked surroundings args).map _
  | stateValidate => exact (stateValidateResult_clocked surroundings args).map _
  | _ => cases h

theorem Operation.run_operated [Operated config P R]
    (hfeed : SurroundingsFeed P surroundings.toSurroundings) {operation : Operation}
    (hreset : operation ≠ .stateReset) (hexport : operation ≠ .stateExport) (payload : Json) : Moves R
      (operation.run surroundings args config localIdentity payload : ServerM ρ ControlResult) := by
  cases hreads : operation.reads with
  | true => exact Operation.run_observed surroundings args localIdentity hreads payload
  | false =>
    cases operation with
    | stateReset => exact absurd rfl hreset
    | stateExport => exact absurd rfl hexport
    | authoritySyncSnapshot =>
      refine Moves.bind (decoded_clocked _ _) fun request => ?_
      exact (authoritySync_operated localIdentity _
        (syncAuthoritySnapshot_operated (hfeed.snapshot _))).map _
    | authoritySyncOrigin =>
      refine Moves.bind (decoded_clocked _ _) fun request => ?_
      exact (authoritySync_operated localIdentity _
        (syncAuthorityOrigin_operated (hfeed.origin _) _)).map _
    | authoritySyncRevocationsOrigin =>
      refine Moves.bind (decoded_clocked _ _) fun request => ?_
      exact (authoritySync_operated localIdentity _
        ((syncAuthorityRevocationsOrigin_operated (hfeed.origin _)).map _)).map _
    | sessionConnect =>
      refine Moves.bind (decoded_clocked _ _) fun request => ?_
      exact (sessionConnect_operated localIdentity request).map _
    | sessionClose =>
      refine Moves.bind (decoded_clocked _ _) fun request => ?_
      exact (sessionClose_operated request).map _
    | sessionUpgrade =>
      refine Moves.bind (decoded_clocked _ _) fun request => ?_
      exact (sessionUpgrade_operated request).map _
    | sessionReconcile =>
      refine Moves.bind (decoded_clocked _ _) fun request => ?_
      exact sessionReconcile_operated.map _
    | _ => cases hreads

omit [Primitives] [PayloadDecoder] in
/-- An export writes over the state file only where its output path leads there. -/
theorem final_exportBackup (surroundings : ExportSurroundings) (request : DurableBackupExportRequest)
    (world : World ρ) : final (exportBackup surroundings request) world = world ∨
      surroundings.leadsToState request request.outputPath = true ∧ ∃ error,
        final (exportBackup surroundings request) world =
          { world with stateFile := some (.damaged error) } := by
  rw [exportBackup, final_mapError, final_zoom]
  unfold ExportSurroundings.stateFileOf
  by_cases hleads : surroundings.leadsToState request request.outputPath = true
  · rcases @final_exportBackupBundle surroundings.codec surroundings.machine request
      (surroundings.filesWith request world.stateFile) with hsame | ⟨bytes, hwritten⟩
    · left
      rw [if_neg]
      simp [hsame, ExportSurroundings.filesWith, hleads]
    · rw [hwritten, Function.update_self]
      split_ifs
      · exact .inr ⟨hleads, _, rfl⟩
      · exact .inl rfl
  · exact .inl (by rw [if_neg (fun h => hleads h.1)])

omit [Primitives] [PayloadDecoder] in
theorem stateExport_moves [IsPreorder (World ρ) R] (payload : StateExportPayload)
    (h : surroundings.exports.leadsToState (exportRequest args payload) payload.outputPath = true →
      ∀ (world : World ρ) error, R world { world with stateFile := some (.damaged error) }) :
    Moves R (stateExport surroundings args payload : ServerM ρ StateExportResult) := by
  refine Moves.bind (fun world => ?_) fun report => Moves.pure _
  rcases final_exportBackup surroundings.exports (exportRequest args payload) world with
    hsame | ⟨hleads, error, hdamaged⟩
  · rw [hsame]
    exact refl world
  · rw [hdamaged]
    exact h hleads world error

omit [Primitives] [PayloadDecoder] in
theorem stateReset_moves [IsPreorder (World ρ) R] (payload : StateResetPayload)
    (h : payload.scope = "network_state_only" →
      payload.confirmation = "preserve-identity-reset-network-state" →
        ∀ world : World ρ, R world { world with stateFile := none }) :
    Moves R (stateReset payload : ServerM ρ StateResetResult) := by
  unfold stateReset
  split_ifs with hscope hconfirmed
  · exact Moves.throw _
  · exact Moves.throw _
  · exact Moves.bind (onPlane_moves (Moves.modifyGet (h (not_not.1 hscope) (not_not.1 hconfirmed))))
      fun _ => Moves.pure _

end Dispatch

end QuipNet.Daemon
