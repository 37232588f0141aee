import QuipNet.Coherence
import QuipNet.DegradedSessions
import QuipNet.Reconnects
import QuipNet.TargetSession
import QuipNet.TransportCalls

/-!
# Reevaluation and reconciliation within one cycle

One cycle of the daemon reevaluates the registered sessions and then reconciles them,
on the same state. A session that the first loop keeps in `degraded` is stranded for
the second: it is closed, or moved to the path that the first loop did not move it to.
It stays on its path through a completed cycle exactly when reconciliation is off.
The session that the cycle connects for itself at its end does not come into it, unless
its id is that of the degraded session.
-/

open Std
namespace QuipNet.Daemon
open QuipNet.Fabric QuipNet.Library.Effect QuipNet.Quic QuipNet.Transport
open QuicTransportAdapter

variable {ρ : Type}

/-! ## The runtime behind the registry -/

structure SameRuntime (before after : QuicTransportAdapter ρ) : Prop where
  runtime : after.runtimeInstanceId = before.runtimeInstanceId

instance : Bookkeeping (ρ := ρ) SameRuntime where
  refl _ := ⟨rfl⟩
  trans _ _ _ h₁ h₂ := ⟨h₂.runtime.trans h₁.runtime⟩
  host _ _ _ := ⟨rfl⟩
  relays _ _ := ⟨rfl⟩
  events _ _ := ⟨rfl⟩
  registries _ _ _ _ := ⟨rfl⟩
  listeners _ _ := ⟨rfl⟩

structure SameRegistry (before after : QuicTransportAdapter ρ) : Prop where
  sessions : after.runtimeSessions = before.runtimeSessions
  runtime : after.runtimeInstanceId = before.runtimeInstanceId

instance : Background (ρ := ρ) SameRegistry where
  refl _ := ⟨rfl, rfl⟩
  trans _ _ _ h₁ h₂ := ⟨h₂.sessions.trans h₁.sessions, h₂.runtime.trans h₁.runtime⟩
  host _ _ _ := ⟨rfl, rfl⟩
  relays _ _ := ⟨rfl, rfl⟩
  events _ _ := ⟨rfl, rfl⟩

theorem clearReconnectAttempt_sameRegistry (key : SessionKey) (reason : Option String)
    (adapter : QuicTransportAdapter ρ) :
    SameRegistry adapter (adapter.clearReconnectAttempt key reason) := by
  unfold clearReconnectAttempt
  split
  · exact ⟨rfl, rfl⟩
  · have hcleared : SameRegistry adapter { adapter with
        reconnectAttempts := adapter.reconnectAttempts.filter (·.key ≠ key) } := ⟨rfl, rfl⟩
    exact IsTrans.trans _ _ _ hcleared (emitRuntimeEvent_background _ _ _ _)

theorem scheduleReconnect_sameRegistry (key : SessionKey) (reason : String) (maxAttempts : UInt32)
    (baseBackoffSecs maxBackoffSecs : ℕ) (adapter : QuicTransportAdapter ρ) :
    SameRegistry adapter
      (adapter.scheduleReconnect key reason maxAttempts baseBackoffSecs maxBackoffSecs).2 := by
  have hwritten : SameRegistry adapter { adapter.ticked with reconnectAttempts :=
      (upsertAttempt adapter.reconnectAttempts key reason maxAttempts baseBackoffSecs
        maxBackoffSecs adapter.currentUnixSecs).2 } := ⟨rfl, rfl⟩
  unfold scheduleReconnect
  dsimp only
  split_ifs
  · exact IsTrans.trans _ _ _ hwritten (IsTrans.trans _ _ _
      (emitRuntimeEvent_background _ _ _ _) (emitRuntimeEvent_background _ _ _ _))
  · exact IsTrans.trans _ _ _ hwritten (emitRuntimeEvent_background _ _ _ _)

theorem existingTargetSession_of_onPath {args : Args} {state : DaemonState}
    {session : SessionSnapshot} {adapter : QuicTransportAdapter ρ}
    (honPath : OnPath session adapter) (hsessions : state.activeSessions = adapter.activeSessions)
    {target : PeerId} {text : String} (htarget : targetPeer args state = some target)
    (hkey : session.key = ⟨target, some ⟨text⟩, parseClass args.connectClass⟩) :
    existingTargetSession args state adapter text ≠ none := by
  obtain ⟨record, hfind, hsame, -⟩ := honPath
  rw [hkey, SessionSnapshot.key, SessionKey.mk.injEq] at hsame
  obtain ⟨hpeer, hprotocol, hclass⟩ := hsame
  have hmem : record.snapshot ∈ adapter.activeSessions :=
    SessionRegistry.mem_snapshots.2 ⟨record, by rw [SessionRegistry.sessionId_of_find hfind, hfind], rfl⟩
  intro hnone
  unfold existingTargetSession at hnone
  rw [htarget] at hnone
  have htest := List.find?_eq_none.1 hnone record.snapshot (hsessions ▸ hmem)
  apply htest
  have hregistered : (adapter.runtimeSessions.find record.snapshot.sessionId).isSome = true := by
    rw [SessionRegistry.sessionId_of_find hfind, hfind]
    rfl
  simp [hpeer, hclass, hprotocol, hregistered]

theorem protocol_of_key {session : SessionSnapshot} {target : PeerId} {text : String} {trafficClass : TrafficClass}
    {protocol : ProtocolId} (hprotocol : session.protocol = some protocol)
    (hkey : (⟨target, some ⟨text⟩, trafficClass⟩ : SessionKey) = session.key) :
    target = session.peer ∧ protocol = ⟨text⟩ ∧ trafficClass = session.trafficClass := by
  simp only [SessionSnapshot.key, SessionKey.mk.injEq, hprotocol, Option.some.injEq] at hkey
  exact ⟨hkey.1, hkey.2.1.symm, hkey.2.2⟩

section Hashing
variable [Primitives]

/-! ## The state that every step of the cycle loads -/

variable {config : DaemonConfig}

theorem ensureState_again {world opened between : World ρ} {state state' : DaemonState}
    (h : LocalControlPlane.ensureState config world = .ok state opened)
    (h' : LocalControlPlane.ensureState config opened = .ok state' between) :
    between = opened ∧ ∃ loaded, state' = LocalControlPlane.prepared config loaded := by
  have hfile : ∃ file, opened.stateFile = some file := by
    cases hstored : world.stateFile with
    | none =>
      rw [LocalControlPlane.ensureState_of_none hstored] at h
      cases h
      exact ⟨_, rfl⟩
    | some file =>
      cases hload : file.load with
      | error error =>
        rw [LocalControlPlane.ensureState_of_damaged hstored hload] at h
        cases h
      | ok loaded =>
        rw [LocalControlPlane.ensureState_of_load hstored hload] at h
        cases h
        exact ⟨file, hstored⟩
  obtain ⟨file, hfile⟩ := hfile
  cases hload : file.load with
  | error error =>
    rw [LocalControlPlane.ensureState_of_damaged hfile hload] at h'
    cases h'
  | ok loaded =>
    rw [LocalControlPlane.ensureState_of_load hfile hload] at h'
    cases h'
    exact ⟨rfl, loaded, rfl⟩

theorem prepared_saved (loaded : DaemonState) (activeSessions : List SessionSnapshot)
    {world : World ρ} (hfile : world.stateFile = some
      { LocalControlPlane.prepared config loaded with activeSessions }.saved) :
    ∃ state, LocalControlPlane.ensureState config world = .ok state world ∧
      state.peers = (LocalControlPlane.prepared config loaded).peers ∧
      (∀ peer protocol, state.explainPolicy peer protocol =
        (LocalControlPlane.prepared config loaded).explainPolicy peer protocol) ∧
      ∀ peer protocol trafficClass, state.routePlan peer protocol trafficClass =
        (LocalControlPlane.prepared config loaded).routePlan peer protocol trafficClass := by
  refine ⟨_, LocalControlPlane.ensureState_of_load hfile rfl, rfl, fun _ _ => rfl, ?_⟩
  intro peer protocol trafficClass
  have hcandidates : mergedPathCandidates
      { LocalControlPlane.prepared config loaded with
        schemaVersion := daemonStateSchemaVersion
        activeSessions := []
        roles := config.roles } = (LocalControlPlane.prepared config loaded).pathCandidates :=
    mergedPathCandidates_congr (filter_observed_merged { loaded with roles := config.roles })
      rfl rfl rfl rfl
  unfold DaemonState.routePlan DaemonState.bestPath DaemonState.pathCandidatesFor
  have hsame : (LocalControlPlane.prepared config
      { LocalControlPlane.prepared config loaded with
        schemaVersion := daemonStateSchemaVersion
        activeSessions := [] }).pathCandidates =
      (LocalControlPlane.prepared config loaded).pathCandidates := hcandidates
  rw [hsame]
  rfl

/-! ## The session that the cycle connects -/

variable {args : Args} {state : DaemonState}

theorem connectForCycle_transport (protocol : String) (hprotocol : args.connectProtocol = some protocol)
    (world : World ρ) :
    (final (connectForCycle config args state) world).transport =
      (final (ensureTargetSession config args state protocol) world).transport := by
  unfold connectForCycle
  rw [hprotocol]
  dsimp only
  cases hrun : ensureTargetSession config args state protocol world with
  | error error left =>
    rw [final_bind_of_ok (attempt_of_error hrun), final_of_error hrun]
    rfl
  | ok outcome left =>
    rw [final_bind_of_ok (attempt_of_ok hrun), final_of_ok hrun]
    cases outcome with
    | active session =>
      dsimp only
      cases hstate : LocalControlPlane.ensureState config left with
      | ok loaded opened =>
        rw [final_bind_of_ok hstate]
        exact (LocalControlPlane.ensureState_ok hstate left.transport).2
      | error error opened =>
        rw [final_of_error (bind_of_error hstate), ensureState_error hstate]
    | _ => rfl

section Keeps
variable {P : QuicTransportAdapter ρ → Prop}

theorem realizeState_keeps {peer : PeerId} {protocol : ProtocolId} {trafficClass : TrafficClass}
    {adapter : QuicTransportAdapter ρ} (h : P adapter)
    (hconnect : ∀ route, state.routePlan peer (some protocol) trafficClass = .ok route →
      P (final (connect route) adapter)) :
    P (final (realizeState peer protocol trafficClass state) adapter) := by
  unfold realizeState
  dsimp only
  split_ifs
  · cases hplan : state.routePlan peer (some protocol) trafficClass with
    | error error =>
      simpa only [planRoute, hplan, final, bind_run, throw_run] using h
    | ok route =>
      have hconnected := hconnect route hplan
      simp only [planRoute, hplan]
      rw [final_bind_of_ok (pure_run route adapter)]
      cases hrun : connect route adapter with
      | ok connection after =>
        have hok : onTransport (connect route) adapter = .ok connection after :=
          mapError_of_ok _ hrun
        rw [final_of_ok hrun] at hconnected
        rw [final_bind_of_ok hok]
        exact hconnected
      | error error after =>
        have herror : onTransport (connect route) adapter = .error (.transport error) after :=
          mapError_of_error _ hrun
        rw [final_of_error hrun] at hconnected
        rwa [final_of_error (bind_of_error herror)]
  · exact h

theorem attemptTarget_keeps {key : SessionKey} {protocol : ProtocolId} {world opened : World ρ}
    {loaded : DaemonState}
    (hquiet : ∀ {before after : QuicTransportAdapter ρ}, SameRegistry before after →
      P before → P after)
    (hstate : LocalControlPlane.ensureState config world = .ok loaded opened)
    (hconnect : ∀ route adapter,
      loaded.routePlan key.peer (some protocol) key.trafficClass = .ok route →
      P adapter → P (final (connect route) adapter))
    (now : ℕ) (h : P world.transport) :
    P (final (attemptTarget config key protocol now) world).transport := by
  have hannounced : P (announced key protocol world).transport :=
    hquiet (emitRuntimeEvent_background _ _ _ _) h
  have hloaded : LocalControlPlane.ensureState config (announced key protocol world) =
      .ok loaded { opened with transport := (announced key protocol world).transport } :=
    (LocalControlPlane.ensureState_ok hstate _).1
  have hrealized : P (final (LocalControlPlane.realizeBestPath config key.peer protocol
      key.trafficClass) (announced key protocol world)).transport := by
    rw [LocalControlPlane.realizeBestPath, transaction_final hloaded]
    apply realizeState_keeps hannounced
    intro route hroute
    exact hconnect route _ hroute hannounced
  rw [final, attemptTarget_run]
  cases hrun : LocalControlPlane.realizeBestPath config key.peer protocol key.trafficClass
      (announced key protocol world) with
  | ok session after =>
    rw [final_of_ok hrun] at hrealized
    exact hquiet (clearReconnectAttempt_sameRegistry key (some "reconnect succeeded")
      after.transport) hrealized
  | error error after =>
    rw [final_of_error hrun] at hrealized
    exact hquiet (scheduleReconnect_sameRegistry key error.text reconnectMaxAttempts
      reconnectBaseBackoffSecs reconnectMaxBackoffSecs after.transport) hrealized

/-- What the end of a cycle keeps: it writes the registry only by connecting along the
route that the state plans for the target, and only if it found no session to reuse. -/
theorem connectForCycle_keeps {world opened : World ρ} {loaded : DaemonState}
    (hquiet : ∀ {before after : QuicTransportAdapter ρ}, SameRegistry before after →
      P before → P after)
    (hstate : LocalControlPlane.ensureState config world = .ok loaded opened)
    (hconnect : ∀ text target route adapter, args.connectProtocol = some text →
      targetPeer args state = some target →
      existingTargetSession args state world.transport text = none →
      loaded.routePlan target (some ⟨text⟩) (parseClass args.connectClass) = .ok route →
      P adapter → P (final (connect route) adapter))
    (h : P world.transport) :
    P (final (connectForCycle config args state) world).transport := by
  cases hprotocol : args.connectProtocol with
  | none =>
    unfold connectForCycle
    rw [hprotocol]
    exact h
  | some text =>
    rw [connectForCycle_transport text hprotocol]
    unfold ensureTargetSession
    rw [final_bind_of_ok (get_run world)]
    cases hexisting : existingTargetSession args state world.transport text with
    | some session =>
      exact hquiet (clearReconnectAttempt_sameRegistry session.key (some "session already active")
        world.transport) h
    | none =>
      dsimp only
      cases htarget : targetPeer args state with
      | none => exact h
      | some target =>
        cases hid : ProtocolId.new text with
        | error error => exact h
        | ok protocol =>
          cases protocolId_new hid
          dsimp only
          let key : SessionKey := ⟨target, some ⟨text⟩, parseClass args.connectClass⟩
          rw [final, reconnectTarget_run]
          cases keyVerdict world.transport ⟨target, some ⟨text⟩, parseClass args.connectClass⟩ with
          | reuse session =>
            exact hquiet (clearReconnectAttempt_sameRegistry key (some "session already active")
              world.transport) h
          | invalid error => exact h
          | suppressed suppression =>
            exact hquiet (clearReconnectAttempt_sameRegistry key
              (some "reconnect suppressed by policy") world.transport) h
          | failed attempt => exact hquiet (ticked_background _) h
          | backingOff attempt => exact hquiet (ticked_background _) h
          | attempt =>
            have hticked : LocalControlPlane.ensureState config (onTransportOf world ticked) =
                .ok loaded { opened with transport := world.transport.ticked } :=
              (LocalControlPlane.ensureState_ok hstate world.transport.ticked).1
            refine attemptTarget_keeps hquiet hticked ?_ _ (hquiet (ticked_background _) h)
            intro route adapter hroute
            exact hconnect text target route adapter hprotocol htarget hexisting hroute

end Keeps

/-! ## Connecting and the degraded session -/

variable {session : SessionSnapshot}

/-- The session that the cycle connects for itself has the key of the given one, or
another id. -/
def ConnectsApart (args : Args) (state : DaemonState) (runtimeInstanceId : String)
    (session : SessionSnapshot) : Prop :=
  ∀ text target route, args.connectProtocol = some text → targetPeer args state = some target →
    state.routePlan target (some ⟨text⟩) (parseClass args.connectClass) = .ok route →
      route.key = session.key ∨ logicalSessionId runtimeInstanceId route ≠ session.sessionId

theorem connect_find (adapter : QuicTransportAdapter ρ) (route : RoutePlan) (id : SessionId) :
    (final (connect route) adapter).runtimeSessions.find id = adapter.runtimeSessions.find id ∨
      ∃ opened between alpn, sessionSnapshotForRoute route adapter = .ok opened between ∧
        (final (connect route) adapter).runtimeSessions.find id = some ⟨opened, alpn⟩ := by
  by_cases hid : id = logicalSessionId adapter.runtimeInstanceId route
  · by_cases hsuppressed : adapter.Suppressed route.key
    · left
      obtain ⟨reason, after, hrun, hsessions⟩ := refusesConnect_of_suppressed hsuppressed
      rw [final_of_error hrun, hsessions]
    · rw [final, connect_run hsuppressed, ← final]
      cases hopen : sessionSnapshotForRoute route adapter with
      | error error between =>
        left
        rw [final_of_error (bind_of_error hopen)]
        rw [((sessionSnapshotForRoute_quiet route).of_error hopen).sessions]
      | ok opened between =>
        right
        refine ⟨opened, between, route.protocol.map ProtocolId.text, rfl, ?_⟩
        let record : RuntimeSessionRecord := ⟨opened, route.protocol.map ProtocolId.text⟩
        have hstored := upsertRuntimeSession_find record between
        rw [final_bind_of_ok hopen, hid, ← (opened_of_open_ok hopen).1, ← hstored]
        cases hupsert : upsertRuntimeSession record between with
        | ok _ after => rw [final_bind_of_ok hupsert, final_of_ok hupsert]; rfl
        | error error after => rw [final_of_error (bind_of_error hupsert), final_of_error hupsert]
  · exact .inl (connect_sessions adapter route hid)

theorem connect_not_onPath {protocol : ProtocolId} (hstrands : state.Strands session protocol)
    (hendpoints : ∀ route, state.routePlan session.peer (some protocol) session.trafficClass =
      .ok route → route.remoteEndpoints ≠ [])
    {route : RoutePlan} (hplan : state.routePlan session.peer (some protocol)
      session.trafficClass = .ok route)
    {adapter : QuicTransportAdapter ρ} (h : ¬ OnPath session adapter) :
    ¬ OnPath session (final (connect route) adapter) := by
  have hmatches : sessionMatchesRoute session route = false := by
    rcases hstrands.plan with ⟨peer, hnone⟩ | ⟨planned, hplanned, hdiffers⟩
    · rw [hplan] at hnone
      cases hnone
    · rw [hplan] at hplanned
      cases hplanned
      exact hdiffers
  rcases connect_find adapter route session.sessionId with
    hsame | ⟨opened, between, alpn, hopen, hstored⟩
  · rwa [onPath_congr hsame]
  · have helsewhere := opened_elsewhere hplan (hendpoints route hplan) hmatches hopen
    rintro ⟨record, hfind, hkey, hpath⟩
    rw [hstored] at hfind
    cases hfind
    exact helsewhere ⟨hkey, hpath⟩

/-! ## The cycle -/

variable {surroundings : Surroundings} {localIdentity : IdentityKeypair} {trigger : CycleTrigger}

/-- `begun` is the world in which the cycle comes to its reevaluation. -/
def Begins (surroundings : Surroundings) (config : DaemonConfig) (localIdentity : IdentityKeypair)
    (args : Args) (trigger : CycleTrigger) (world begun : World ρ) : Prop :=
  ∃ prepared between synced,
    prepareStateForTrigger surroundings config localIdentity args trigger world =
      .ok prepared between ∧
    LocalControlPlane.syncRuntimeSessions config between = .ok synced begun

theorem syncRuntimeSessions_run {world opened : World ρ}
    (h : LocalControlPlane.ensureState config world = .ok state opened) :
    LocalControlPlane.syncRuntimeSessions config world =
      .ok { state with activeSessions := opened.transport.activeSessions } opened := by
  rw [LocalControlPlane.syncRuntimeSessions, bind_of_ok h]
  rfl

theorem Begins.loads {world begun opened : World ρ}
    (h : Begins surroundings config localIdentity args trigger world begun)
    (hstate : LocalControlPlane.ensureState config begun = .ok state opened) :
    opened = begun ∧ ∃ loaded, state = LocalControlPlane.prepared config loaded := by
  obtain ⟨prepared, between, synced, -, hsync⟩ := h
  cases hload : LocalControlPlane.ensureState config between with
  | error error stopped =>
    rw [LocalControlPlane.syncRuntimeSessions, bind_of_error hload] at hsync
    cases hsync
  | ok first opened' =>
    rw [syncRuntimeSessions_run hload] at hsync
    cases hsync
    exact ensureState_again hload hstate

theorem runCycle_begun {world begun : World ρ}
    (h : Begins surroundings config localIdentity args trigger world begun) :
    ∃ finish : Option AuthorityReevaluationReport → DaemonState × Option SessionReconcileReport →
        DaemonState × Option SessionSnapshot × String → DaemonCycleReport,
      runCycle surroundings config localIdentity args trigger world = (do
        let reevaluation ← reevaluateForTrigger config localIdentity trigger
        let state ← LocalControlPlane.syncRuntimeSessions config
        let reconciled ← reconcileForCycle config args state
        let connected ← connectForCycle config args reconciled.1
        pure (finish reevaluation reconciled connected) : ControlM ρ DaemonCycleReport) begun := by
  obtain ⟨⟨preparation, reprobeReport, refreshed⟩, between, synced, hprepare, hsync⟩ := h
  refine ⟨fun authorityReevaluationReport reconciled connected =>
    { trigger, preparation, reprobeReport, state := connected.1, authorityReevaluationReport,
      reconcileReport := reconciled.2, activeSession := connected.2.1,
      connectStatus := connected.2.2 }, ?_⟩
  exact (bind_of_ok hprepare).trans (bind_of_ok hsync)

theorem reevaluateForTrigger_run (htrigger : reevaluates trigger = true) {begun : World ρ}
    (hstate : LocalControlPlane.ensureState config begun = .ok state begun) :
    reevaluateForTrigger config localIdentity trigger begun =
      match reevaluateAuthority state localIdentity.peerId begun.transport with
      | .ok report transport => .ok (some report) { begun with transport }
      | .error error transport => .error error { begun with transport } := by
  have hrun : LocalControlPlane.reevaluateRuntimeAuthority config localIdentity begun =
      withTransport (reevaluateAuthority state localIdentity.peerId) begun := bind_of_ok hstate
  rw [reevaluateForTrigger, if_pos htrigger, map_run, hrun, withTransport, zoom]
  cases reevaluateAuthority state localIdentity.peerId begun.transport <;> rfl

theorem transaction_ok {α : Type} {work : DaemonState → FabricM ρ (DaemonState × α)}
    {world opened after : World ρ} {value : α}
    (hstate : LocalControlPlane.ensureState config world = .ok state opened)
    (h : LocalControlPlane.transaction config work world = .ok value after) :
    ∃ written transport, work state world.transport = .ok (written, value) transport ∧
      after = ⟨some written.saved, transport⟩ := by
  have hopened := (LocalControlPlane.ensureState_ok hstate world.transport).2
  rw [LocalControlPlane.transaction_run hstate] at h
  obtain ⟨⟨written, value'⟩, between, hwork, h⟩ := bind_eq_ok h
  rw [withTransport, zoom, hopened] at hwork
  cases hrun : work state world.transport with
  | error error transport => simp [hrun] at hwork
  | ok result transport =>
    simp only [hrun, EStateM.Result.ok.injEq] at hwork
    obtain ⟨rfl, rfl⟩ := hwork
    cases h
    exact ⟨written, transport, rfl, rfl⟩

theorem reconcileState_ok {adapter after : QuicTransportAdapter ρ} {written : DaemonState}
    {report : SessionReconcileReport}
    (h : reconcileState state adapter = .ok (written, report) after) :
    ∃ progress, adapter.activeSessions.foldlM reconcileSession { state } adapter =
        .ok progress after ∧ report = progress.report ∧
      ∃ activeSessions, written = { state with activeSessions } := by
  obtain ⟨_, _, hget, h⟩ := bind_eq_ok h
  cases hget
  obtain ⟨progress, swept, hsweep, h⟩ := bind_eq_ok h
  obtain ⟨_, _, hget', h⟩ := bind_eq_ok h
  cases hget'
  cases h
  refine ⟨progress, hsweep, rfl, after.activeSessions, ?_⟩
  have hon : progress.On state := by
    refine Returns.foldlM (P := ReconcileProgress.On state) ?_ _
      (ReconcileProgress.on_start state) adapter progress after hsweep
    exact fun progress session hon => reconcileSession_on hon session
  obtain ⟨activeSessions, hprogress⟩ := hon
  rw [hprogress]

theorem reconcileForCycle_on (hreconcile : args.disableReconcile = false) {begun after : World ρ}
    {loaded : DaemonState}
    (hloaded : state = LocalControlPlane.prepared config loaded)
    (hstate : LocalControlPlane.ensureState config begun = .ok state begun)
    {synced : DaemonState} (hsessions : synced.activeSessions ≠ [])
    {result : DaemonState × Option SessionReconcileReport}
    (h : reconcileForCycle config args synced begun = .ok result after) :
    (∃ progress, begun.transport.activeSessions.foldlM reconcileSession { state }
        begun.transport = .ok progress after.transport) ∧
      LocalControlPlane.ensureState config after = .ok result.1 after ∧
      result.1.peers = state.peers ∧
      ∀ peer protocol trafficClass, result.1.routePlan peer protocol trafficClass =
        state.routePlan peer protocol trafficClass := by
  subst hloaded
  rw [reconcileForCycle, if_neg (by simp [hreconcile]),
    if_neg (by simpa [List.isEmpty_iff] using hsessions)] at h
  obtain ⟨report, reconciled, hreconciled, h⟩ := bind_eq_ok h
  obtain ⟨written, transport, hwork, rfl⟩ := transaction_ok hstate hreconciled
  obtain ⟨progress, hsweep, -, activeSessions, rfl⟩ := reconcileState_ok hwork
  let saved : World ρ :=
    ⟨some { LocalControlPlane.prepared config loaded with activeSessions }.saved, transport⟩
  have hfile : saved.stateFile =
    some { LocalControlPlane.prepared config loaded with activeSessions }.saved := rfl
  obtain ⟨reloaded, hreload, hpeers, -, hroutes⟩ := prepared_saved loaded activeSessions hfile
  rw [bind_of_ok hreload, pure_run, EStateM.Result.ok.injEq] at h
  obtain ⟨hresult, hafter⟩ := h
  rw [← hresult, ← hafter]
  exact ⟨⟨progress, hsweep⟩, hreload, hpeers, hroutes⟩

theorem onPath_of_disabled (hreconcile : args.disableReconcile = true) {begun : World ρ}
    (hstate : LocalControlPlane.ensureState config begun = .ok state begun)
    (hapart : ConnectsApart args state begun.transport.runtimeInstanceId session)
    (honPath : OnPath session begun.transport)
    (finish : DaemonState × Option SessionReconcileReport →
      DaemonState × Option SessionSnapshot × String → DaemonCycleReport) :
    OnPath session (final (do
      let state ← LocalControlPlane.syncRuntimeSessions config
      let reconciled ← reconcileForCycle config args state
      let connected ← connectForCycle config args reconciled.1
      pure (finish reconciled connected) : ControlM ρ DaemonCycleReport) begun).transport := by
  let synced : DaemonState := { state with activeSessions := begun.transport.activeSessions }
  have hsynced : synced.activeSessions = begun.transport.activeSessions := rfl
  have hreconciled : reconcileForCycle config args synced begun = .ok (synced, none) begun := by
    rw [reconcileForCycle, if_pos hreconcile]
    rfl
  have hconnected : OnPath session
        (final (connectForCycle config args synced) begun).transport ∧
      (final (connectForCycle config args synced) begun).transport.runtimeInstanceId =
        begun.transport.runtimeInstanceId := by
    refine connectForCycle_keeps (P := fun adapter => OnPath session adapter ∧
      adapter.runtimeInstanceId = begun.transport.runtimeInstanceId) ?_ hstate ?_ ⟨honPath, rfl⟩
    · rintro before after hsame ⟨hbefore, hruntime⟩
      exact ⟨(onPath_congr (by rw [hsame.sessions])).2 hbefore, hsame.runtime.trans hruntime⟩
    · rintro text target route adapter hprotocol htarget hnone hroute ⟨hadapter, hruntime⟩
      have hkey : route.key = ⟨target, some ⟨text⟩, parseClass args.connectClass⟩ :=
        DaemonState.routePlan_key hroute
      have hid : logicalSessionId adapter.runtimeInstanceId route ≠ session.sessionId := by
        rw [hruntime]
        refine (hapart text target route hprotocol htarget hroute).resolve_left ?_
        intro hsame
        exact existingTargetSession_of_onPath honPath hsynced htarget
          (hsame.symm.trans hkey) hnone
      refine ⟨(onPath_congr (connect_sessions adapter route hid.symm)).2 hadapter, ?_⟩
      exact (handle_bookkeeping (R := SameRuntime) (.connect route) adapter).runtime.trans hruntime
  rw [final_bind_of_ok (syncRuntimeSessions_run hstate), final_bind_of_ok hreconciled]
  cases hrun : connectForCycle config args synced begun with
  | ok connected after =>
    rw [final_of_ok hrun] at hconnected
    rw [final_bind_of_ok hrun]
    exact hconnected.1
  | error error after =>
    rw [final_of_error hrun] at hconnected
    rw [final_of_error (bind_of_error hrun)]
    exact hconnected.1

theorem reconciled_sameRuntime (sessions : List SessionSnapshot) (progress : ReconcileProgress) :
    Moves SameRuntime (sessions.foldlM reconcileSession progress : FabricM ρ ReconcileProgress) := by
  apply Moves.foldlM_mem
  intro progress session _
  rw [← carryOut_reconcileSession]
  exact carryOut_bookkeeping _

/-- With reconciliation on, a cycle that comes to its end leaves the session off its path. -/
theorem not_onPath_of_enabled (hreconcile : args.disableReconcile = false)
    {begun after : World ρ} {loaded : DaemonState}
    (hloaded : state = LocalControlPlane.prepared config loaded)
    (hstate : LocalControlPlane.ensureState config begun = .ok state begun)
    {protocol : ProtocolId} (hstrands : state.Strands session protocol)
    (hendpoints : ∀ route, state.routePlan session.peer (some protocol) session.trafficClass =
      .ok route → route.remoteEndpoints ≠ [])
    (hapart : ConnectsApart args state begun.transport.runtimeInstanceId session)
    (honPath : OnPath session begun.transport)
    {finish : DaemonState × Option SessionReconcileReport →
      DaemonState × Option SessionSnapshot × String → DaemonCycleReport}
    {report : DaemonCycleReport}
    (h : (do
      let state ← LocalControlPlane.syncRuntimeSessions config
      let reconciled ← reconcileForCycle config args state
      let connected ← connectForCycle config args reconciled.1
      pure (finish reconciled connected) : ControlM ρ DaemonCycleReport) begun =
        .ok report after) :
    ¬ OnPath session after.transport := by
  obtain ⟨record, hfind, hkey, hpath⟩ := honPath
  have hid : record.snapshot.sessionId = session.sessionId :=
    SessionRegistry.sessionId_of_find hfind
  have hmem : record.snapshot ∈ begun.transport.activeSessions :=
    SessionRegistry.mem_snapshots.2 ⟨record, by rw [hid, hfind], rfl⟩
  rw [bind_of_ok (syncRuntimeSessions_run hstate)] at h
  obtain ⟨⟨resumed, reconcileReport⟩, reconciled, hreconciled, h⟩ := bind_eq_ok h
  obtain ⟨connected, ended, hconnected, h⟩ := bind_eq_ok h
  cases h
  obtain ⟨⟨progress, hsweep⟩, hreload, hpeers, hroutes⟩ :=
    reconcileForCycle_on hreconcile hloaded hstate (List.ne_nil_of_mem hmem) hreconciled
  have hleft : ¬ OnPath session reconciled.transport :=
    reconcile_leaves hstrands hendpoints hid hkey hpath hmem (ReconcileProgress.on_start _)
      (listed_activeSessions begun.transport) hsweep
  have hruntime : reconciled.transport.runtimeInstanceId = begun.transport.runtimeInstanceId :=
    ((reconciled_sameRuntime _ _).of_ok hsweep).runtime
  have hend : ¬ OnPath session (final (connectForCycle config args resumed) reconciled).transport ∧
      (final (connectForCycle config args resumed) reconciled).transport.runtimeInstanceId =
        begun.transport.runtimeInstanceId := by
    refine connectForCycle_keeps (P := fun adapter => ¬ OnPath session adapter ∧
      adapter.runtimeInstanceId = begun.transport.runtimeInstanceId) ?_ hreload ?_ ⟨hleft, hruntime⟩
    · rintro before after hsame ⟨hbefore, hruntime⟩
      exact ⟨(onPath_congr (by rw [hsame.sessions])).not.2 hbefore, hsame.runtime.trans hruntime⟩
    · rintro text target route adapter htext htarget - hroute ⟨hadapter, hruntime⟩
      rw [hroutes] at hroute
      have htarget' : targetPeer args state = some target := by
        rw [← htarget, targetPeer, targetPeer, hpeers]
      refine ⟨?_, (handle_bookkeeping (R := SameRuntime) (.connect route) adapter).runtime.trans hruntime⟩
      rcases hapart text target route htext htarget' hroute with hsame | hother
      · -- the target is the session's own: its planned route leads elsewhere
        have hkey : route.key = ⟨target, some ⟨text⟩, parseClass args.connectClass⟩ :=
          DaemonState.routePlan_key hroute
        rw [hkey] at hsame
        obtain ⟨rfl, rfl, hclass⟩ := protocol_of_key hstrands.protocol_eq hsame
        rw [hclass] at hroute
        exact connect_not_onPath hstrands hendpoints hroute hadapter
      · rw [← hruntime] at hother
        exact (onPath_congr (connect_sessions adapter route hother.symm)).not.2 hadapter
  rw [final_of_ok hconnected] at hend
  exact hend.1

/-- A session that the cycle's reevaluation degrades stays on its path through the cycle
if reconciliation is off, and through a cycle that completes only then. -/
theorem degraded_session_kept_iff (htrigger : reevaluates trigger = true)
    {world begun opened : World ρ}
    (hbegins : Begins surroundings config localIdentity args trigger world begun)
    (hstate : LocalControlPlane.ensureState config begun = .ok state opened)
    (hsession : session ∈ begun.transport.activeSessions)
    (hdegrades : state.degrades localIdentity.peerId session = true)
    (hapart : ConnectsApart args state begun.transport.runtimeInstanceId session) :
    (args.disableReconcile = true → OnPath session
      (final (runCycle surroundings config localIdentity args trigger) world).transport) ∧
    ∀ report after,
      runCycle surroundings config localIdentity args trigger world = .ok report after →
      (∀ route, state.routePlan session.peer session.protocol session.trafficClass = .ok route →
        route.remoteEndpoints ≠ []) →
      (OnPath session after.transport ↔ args.disableReconcile = true) := by
  obtain ⟨rfl, loaded, hloaded⟩ := hbegins.loads hstate
  obtain ⟨finish, hcycle⟩ := runCycle_begun hbegins
  obtain ⟨honPath, hdegraded⟩ := reevaluateAuthority_degrades hsession hdegrades
  have hreevaluated : reevaluateForTrigger config localIdentity trigger opened = _ :=
    reevaluateForTrigger_run htrigger hstate
  have hruntime : SameRuntime opened.transport
      (final (reevaluateAuthority state localIdentity.peerId) opened.transport) := by
    rw [← carryOut_reevaluateAuthority]
    exact carryOut_bookkeeping _ _
  cases hrun : reevaluateAuthority state localIdentity.peerId opened.transport with
  | error error stopped =>
    rw [hrun] at hreevaluated
    rw [bind_of_error hreevaluated] at hcycle
    rw [final_of_error hrun] at honPath
    refine ⟨fun _ => ?_, ?_⟩
    · rwa [final_of_error hcycle]
    · intro report after hok
      rw [hcycle] at hok
      cases hok
  | ok reevaluation transport =>
    rw [hrun] at hreevaluated
    rw [bind_of_ok hreevaluated] at hcycle
    rw [final_of_ok hrun] at hruntime
    have hloads : LocalControlPlane.ensureState config { opened with transport } =
        .ok state { opened with transport } :=
      (LocalControlPlane.ensureState_ok hstate transport).1
    have hapart' : ConnectsApart args state transport.runtimeInstanceId session := by
      rwa [hruntime.runtime]
    have hkept : OnPath session transport := (hdegraded reevaluation transport hrun).onPath
    have hdisabled : args.disableReconcile = true → OnPath session
        (final (runCycle surroundings config localIdentity args trigger) world).transport := by
      intro hdisabled
      rw [final, hcycle, ← final]
      exact onPath_of_disabled hdisabled hloads hapart' hkept _
    refine ⟨hdisabled, ?_⟩
    intro report after hok hendpoints
    constructor
    · intro honPath'
      by_contra henabled
      obtain ⟨protocol, hstrands⟩ := strands_of_degrades hdegrades
      rw [hstrands.protocol_eq] at hendpoints
      rw [hcycle] at hok
      exact not_onPath_of_enabled (Bool.eq_false_iff.2 henabled) hloaded hloads hstrands
        hendpoints hapart' hkept hok honPath'
    · intro henabled
      have hend := hdisabled henabled
      rwa [final_of_ok hok] at hend

end Hashing

section Closed
attribute [local instance] Primitives.transparent

def pinnedSession : SessionSnapshot :=
  { meshSession 1 .directUdp fixtureWorkerPeer with migrationCapable := false }

def pinnedWorld : World Unit := meshWorld LocalControlPlane.grantedFixture [pinnedSession] []

def unreconciledArgs : Args := { disableReconcile := true }

theorem pinned_session_kept : ∃ report after,
    runCycle unattended meshConfig fixtureIdentity unreconciledArgs .stateChanged pinnedWorld =
        .ok report after ∧
      OnPath pinnedSession after.transport := by
  let state := LocalControlPlane.prepared meshConfig LocalControlPlane.grantedFixture
  have hstate : LocalControlPlane.ensureState meshConfig pinnedWorld = .ok state pinnedWorld := rfl
  have hbegins : Begins unattended meshConfig fixtureIdentity unreconciledArgs .stateChanged
      pinnedWorld pinnedWorld := ⟨_, pinnedWorld, _, rfl, rfl⟩
  have hsession : pinnedSession ∈ pinnedWorld.transport.activeSessions := by decide +kernel
  have hdegrades : state.degrades fixtureIdentity.peerId pinnedSession = true := by decide +kernel
  have hapart : ConnectsApart unreconciledArgs state pinnedWorld.transport.runtimeInstanceId
      pinnedSession := by
    intro text target route htext
    cases htext
  have hkept := (degraded_session_kept_iff rfl hbegins hstate hsession hdegrades hapart).1 rfl
  have hcompletes : okWith (fun _ _ => true)
      (runCycle unattended meshConfig fixtureIdentity unreconciledArgs .stateChanged
        pinnedWorld) = true := by
    decide +kernel
  obtain ⟨report, after, hrun, -⟩ := exists_of_okWith hcompletes
  rw [final_of_ok hrun] at hkept
  exact ⟨report, after, hrun, hkept⟩

/-- The cycle reconciles by default: the session that its reevaluation degrades is
closed before the cycle ends. -/
theorem degraded_session_dropped :
    (∃ report after, LocalControlPlane.reevaluateRuntimeAuthority meshConfig fixtureIdentity
        pinnedWorld = .ok report after ∧
      report.degradedSessions = 1 ∧ Degraded pinnedSession after.transport) ∧
    ∃ report after,
      runCycle unattended meshConfig fixtureIdentity {} .stateChanged pinnedWorld =
          .ok report after ∧
        ¬ OnPath pinnedSession after.transport ∧ after.transport.activeSessions = [] := by
  have hreevaluated : okWith (fun report after => report.degradedSessions = 1 ∧
      Degraded pinnedSession after.transport)
      (LocalControlPlane.reevaluateRuntimeAuthority meshConfig fixtureIdentity
        pinnedWorld) = true := by
    decide +kernel
  have hcycle : okWith (fun _ after => ¬ OnPath pinnedSession after.transport ∧
      after.transport.activeSessions = [])
      (runCycle unattended meshConfig fixtureIdentity {} .stateChanged pinnedWorld) = true := by
    decide +kernel
  obtain ⟨reevaluation, degraded, hrun, hdegraded⟩ := exists_of_okWith hreevaluated
  obtain ⟨report, after, hrun', hdropped⟩ := exists_of_okWith hcycle
  exact ⟨⟨reevaluation, degraded, hrun, of_decide_eq_true hdegraded⟩,
    report, after, hrun', of_decide_eq_true hdropped⟩

end Closed

end QuipNet.Daemon
