import QuipNet.MigrationCalls
import QuipNet.RelayFailures

/-!
# Failed and closing sessions

The lifecycle ends with `failed` and `closing`: a session in one of these states is
closed and removed, and nothing leads back. `update_session_state` accepts every
transition, so this holds as long as no operation picks up a session in such a state
and moves it on. Closing and denied upgrades never do. An allowed upgrade, a
reconciliation and a reevaluation that would migrate or degrade the session do.

Runs are followed down to the single writes of the registry: the bodies of `migrate`
and `close_session` are taken apart into their steps.
-/

open Std
namespace QuipNet.Fabric
open QuipNet.Library QuipNet.Library.Effect QuipNet.Quic QuipNet.Transport
open QuicTransportAdapter

variable {ρ : Type}

/-! ## The steps of the transport's calls -/

abbrev StepProgram (ρ : Type) := Program (QuicM ρ) TransportError TransportError

def perform {β : Type} (m : QuicM ρ β) : QuicM ρ β := m

def step {β : Type} (m : QuicM ρ β) : StepProgram ρ β := Program.ask id m

def readSnapshot (sessionId : SessionId) : QuicM ρ (Option SessionSnapshot) :=
  modifyGet fun adapter => (adapter.sessionSnapshot sessionId, adapter)

def closeSteps (session : SessionSnapshot) : StepProgram ρ Unit := do
  let existing ← step (readSnapshot session.sessionId)
  step (moveSession session.sessionId .closing
    ((existing.bind SessionSnapshot.closureReason).or session.closureReason)
    ((existing.bind SessionSnapshot.stateReason).or session.stateReason))
  let removed ← step (removeRuntimeSession session.sessionId)
  step (finishClose removed)

theorem exec_step {β : Type} (m : QuicM ρ β) : (step m).exec perform = m :=
  Program.exec_ask_id perform m

theorem exec_closeSteps (session : SessionSnapshot) :
    (closeSteps session : StepProgram ρ Unit).exec perform = closeSession session := by
  simp only [closeSteps, Program.exec_bind, exec_step]
  rfl

/-! ## Ended sessions -/

def ended (id : SessionId) (adapter : QuicTransportAdapter ρ) : Bool :=
  (adapter.runtimeSessions.find id).all fun record => isFinal record.snapshot.state

def KeepsEnded (id : SessionId) (before after : QuicTransportAdapter ρ) : Prop :=
  ended id before = true → ended id after = true

instance (id : SessionId) : IsPreorder (QuicTransportAdapter ρ) (KeepsEnded id) where
  refl _ := fun h => h
  trans _ _ _ h₁ h₂ := fun h => h₂ (h₁ h)

theorem keepsEnded_of_find {id : SessionId} {before after : QuicTransportAdapter ρ}
    (h : after.runtimeSessions.find id = before.runtimeSessions.find id) :
    KeepsEnded id before after := by
  unfold KeepsEnded ended
  rw [h]
  exact fun hended => hended

theorem keepsEnded_of_quiet {before after : QuicTransportAdapter ρ} (h : Quiet before after)
    (id : SessionId) : KeepsEnded id before after :=
  keepsEnded_of_find (by rw [h.sessions])

theorem keepsEnded_of_touches {id other : SessionId} {before after : QuicTransportAdapter ρ}
    (h : TouchesSession other before after) (hid : other ≠ id) : KeepsEnded id before after :=
  keepsEnded_of_find (h.sessions id hid.symm)

/-- The session under this id, if there is one, has not ended. -/
def Live (id : SessionId) (adapter : QuicTransportAdapter ρ) : Prop :=
  ∀ record, adapter.runtimeSessions.find id = some record → isFinal record.snapshot.state = false

theorem live_moved {state : RuntimeSessionState} (hstate : isFinal state = false)
    (id : SessionId) (closureReason : Option SessionClosureReason) (stateReason : Option String)
    (adapter : QuicTransportAdapter ρ) :
    Live id (adapter.updateSessionState id state closureReason stateReason).2 := by
  intro record hrecord
  rw [find_updateSessionState] at hrecord
  obtain ⟨previous, -, rfl⟩ := Option.map_eq_some_iff.1 hrecord
  exact hstate

theorem keepsEnded_moved {id : SessionId} {state : RuntimeSessionState}
    {adapter : QuicTransportAdapter ρ} (h : isFinal state = true ∨ Live id adapter)
    (closureReason : Option SessionClosureReason) (stateReason : Option String) :
    KeepsEnded id adapter
      (adapter.updateSessionState id state closureReason stateReason).2 := by
  unfold KeepsEnded ended
  rw [find_updateSessionState]
  cases hfind : adapter.runtimeSessions.find id with
  | none => simp
  | some record =>
    intro hended
    rcases h with hfinal | hlive
    · rw [Option.map_some, Option.all_some]
      exact hfinal
    · rw [Option.all_some, hlive record hfind] at hended
      cases hended

theorem live_of_registered {id : SessionId} {session : SessionSnapshot}
    {adapter : QuicTransportAdapter ρ} (hregistered : Registered session adapter)
    (hid : session.sessionId = id) (hstate : isFinal session.state = false) : Live id adapter := by
  obtain ⟨alpn, hfind⟩ := hregistered
  intro record hrecord
  rw [← hid, hfind] at hrecord
  cases hrecord
  exact hstate

theorem Live.of_quiet {id : SessionId} {before after : QuicTransportAdapter ρ}
    (hlive : Live id before) (hquiet : Quiet before after) : Live id after := by
  intro record hrecord
  rw [hquiet.sessions] at hrecord
  exact hlive record hrecord

abbrev StepsKeep {ε α : Type} (id : SessionId) (p : Program (QuicM ρ) TransportError ε α)
    (adapter : QuicTransportAdapter ρ) : Prop :=
  p.Along perform (fun event => KeepsEnded id event.before event.after) adapter

theorem stepsKeep_quiet {β : Type} {m : QuicM ρ β} (h : Moves Quiet m) (id : SessionId)
    (adapter : QuicTransportAdapter ρ) : StepsKeep id (step m) adapter :=
  Program.along_ask (keepsEnded_of_quiet (h adapter) id)

theorem stepsKeep_read (sessionId id : SessionId) (adapter : QuicTransportAdapter ρ) :
    StepsKeep id (step (readSnapshot sessionId)) adapter :=
  stepsKeep_quiet (Moves.modifyGet fun adapter => refl adapter) id adapter

theorem stepsKeep_move {id other : SessionId} {state : RuntimeSessionState}
    {adapter : QuicTransportAdapter ρ} (h : other = id → isFinal state = true ∨ Live id adapter)
    (closureReason : Option SessionClosureReason) (stateReason : Option String) :
    StepsKeep id (step (moveSession other state closureReason stateReason)) adapter := by
  apply Program.along_ask
  by_cases hid : other = id
  · subst hid
    exact keepsEnded_moved (h rfl) closureReason stateReason
  · exact keepsEnded_of_touches (moveSession_touches other _ _ _ adapter) hid

theorem stepsKeep_remove (sessionId id : SessionId) (adapter : QuicTransportAdapter ρ) :
    StepsKeep id (step (removeRuntimeSession sessionId)) adapter := by
  apply Program.along_ask
  change KeepsEnded id adapter
    { adapter with runtimeSessions := adapter.runtimeSessions.remove sessionId }
  unfold KeepsEnded ended
  intro hended
  dsimp only
  rw [SessionRegistry.find_remove]
  split_ifs
  · rfl
  · exact hended

theorem stepsKeep_closeSteps (session : SessionSnapshot) (id : SessionId)
    (adapter : QuicTransportAdapter ρ) : StepsKeep id (closeSteps session) adapter := by
  apply Program.along_bind (stepsKeep_read session.sessionId id adapter)
  intro existing s₁ _
  apply Program.along_bind (stepsKeep_move (fun _ => .inl rfl) _ _)
  intro _ s₂ _
  apply Program.along_bind (stepsKeep_remove session.sessionId id s₂)
  intro removed s₃ _
  exact stepsKeep_quiet (finishClose_quiet removed) id s₃

theorem stepsKeep_upsert {record : RuntimeSessionRecord} {id : SessionId}
    {adapter : QuicTransportAdapter ρ}
    (h : record.snapshot.sessionId = id → ended id adapter = false) :
    StepsKeep id (step (upsertRuntimeSession record)) adapter := by
  apply Program.along_ask
  by_cases hid : record.snapshot.sessionId = id
  · intro hended
    rw [h hid] at hended
    cases hended
  · exact keepsEnded_of_touches (upsertRuntimeSession_touches rfl adapter) hid

theorem ended_of_live {id : SessionId} {adapter : QuicTransportAdapter ρ} (hlive : Live id adapter)
    {session : SessionSnapshot} (hfound : adapter.sessionSnapshot id = some session) :
    ended id adapter = false := by
  obtain ⟨record, hrecord, -⟩ := Option.map_eq_some_iff.1 hfound
  rw [ended, hrecord, Option.all_some, hlive record hrecord]

section Hashing
variable [Primitives]

def migrateSteps (session : SessionSnapshot) (route : RoutePlan) : StepProgram ρ SessionSnapshot := do
  step (moveSession session.sessionId .migrating none (some "daemon requested path migration"))
  match ← step (readSnapshot session.sessionId) with
  | none => throw (.invalidRoute "session is not active in runtime registry")
  | some existing =>
    let opened ← step (sessionSnapshotForRoute route)
    let now ← step unixSecs
    let migrated := migratedSnapshot existing opened now
    step (closeLeftRelaySession existing migrated)
    step (upsertRuntimeSession ⟨migrated, route.protocol.map ProtocolId.text⟩)
    step (modify (emitRuntimeEvent "path.migration_completed" (sessionSubject migrated.sessionId)
      (.object [("peer_id", .string migrated.peer.toText),
        ("prior_path_class", .string (pathClassLabel existing.pathKind)),
        ("next_path_class", .string (pathClassLabel migrated.pathKind))])))
    pure migrated

def TransportCall.steps : {β : Type} → TransportCall β → StepProgram ρ β
  | _, .migrate session route => migrateSteps session route
  | _, .closeSession session => closeSteps session
  | _, c => step c.handle

theorem exec_migrateSteps (session : SessionSnapshot) (route : RoutePlan) :
    (migrateSteps session route : StepProgram ρ SessionSnapshot).exec perform =
      migrate session route := by
  funext adapter
  simp only [migrateSteps, Program.exec_bind, exec_step]
  unfold migrate
  rw [bind_run, bind_run]
  dsimp only [moveSession, modify_run]
  rw [bind_run, bind_run]
  dsimp only [readSnapshot, modifyGet_run, get_run]
  cases QuicTransportAdapter.sessionSnapshot _ session.sessionId with
  | none => rfl
  | some existing =>
    simp only [Program.exec_bind, exec_step]
    rfl

theorem exec_steps {β : Type} (c : TransportCall β) :
    (c.steps : StepProgram ρ β).exec perform = c.handle := by
  cases c with
  | migrate session route => exact exec_migrateSteps session route
  | closeSession session => exact exec_closeSteps session
  | _ => exact exec_step _

theorem carryOut_steps {α : Type} (p : ControlProgram α) :
    (p.expand TransportCall.steps).exec perform = (carryOut p : FabricM ρ α) :=
  Program.exec_expand exec_steps p

/-- What a call must not do in order to keep the session under `id` ended. -/
def TransportCall.Harmless (id : SessionId) (adapter : QuicTransportAdapter ρ) :
    {β : Type} → TransportCall β → Prop
  | _, .updateSessionState other state _ _ => other = id → isFinal state = true ∨ Live id adapter
  | _, .migrate session _ => session.sessionId = id → Live id adapter
  | _, .connect route => logicalSessionId adapter.runtimeInstanceId route ≠ id
  | _, _ => True

theorem stepsKeep_migrateSteps {session : SessionSnapshot} (route : RoutePlan) {id : SessionId}
    {adapter : QuicTransportAdapter ρ} (hlive : session.sessionId = id → Live id adapter) :
    StepsKeep id (migrateSteps session route) adapter := by
  apply Program.along_bind (stepsKeep_move (fun hid => .inr (hlive hid)) _ _)
  intro _ marked hmarked
  rw [exec_step] at hmarked
  have hmigrating : session.sessionId = id → Live id marked := by
    intro hid
    cases hmarked
    rw [← hid]
    exact live_moved rfl session.sessionId _ _ adapter
  apply Program.along_bind (stepsKeep_read session.sessionId id marked)
  intro found read hread
  rw [exec_step] at hread
  cases hread
  cases hfound : marked.sessionSnapshot session.sessionId with
  | none => exact Program.along_error _ marked
  | some existing =>
    -- the registry is not written again until the migrated session is stored
    have hexisting : existing.sessionId = session.sessionId := sessionId_of_sessionSnapshot hfound
    have hopen : existing.sessionId = id → ended id marked = false := by
      intro hid
      have hsession := hexisting.symm.trans hid
      rw [hsession] at hfound
      exact ended_of_live (hmigrating hsession) hfound
    have hsame : ∀ {now : QuicTransportAdapter ρ}, Quiet marked now →
        existing.sessionId = id → ended id now = false := by
      intro now hquiet hid
      rw [ended, hquiet.sessions]
      exact hopen hid
    apply Program.along_bind (stepsKeep_quiet (sessionSnapshotForRoute_quiet route) id marked)
    intro opened s₁ h₁
    rw [exec_step] at h₁
    have hquiet₁ := (sessionSnapshotForRoute_quiet route).of_ok h₁
    apply Program.along_bind (stepsKeep_quiet unixSecs_background id s₁)
    intro now s₂ h₂
    rw [exec_step] at h₂
    have hquiet₂ := (unixSecs_background (R := Quiet)).of_ok h₂
    apply Program.along_bind (stepsKeep_quiet (closeLeftRelaySession_quiet _ _) id s₂)
    intro _ s₃ h₃
    rw [exec_step] at h₃
    have hquiet₃ := (closeLeftRelaySession_quiet _ _).of_ok h₃
    have hquiet := IsTrans.trans _ _ _ hquiet₁ (IsTrans.trans _ _ _ hquiet₂ hquiet₃)
    apply Program.along_bind (stepsKeep_upsert (hsame hquiet))
    intro _ s₄ _
    apply Program.along_bind (stepsKeep_quiet (emit_background _ _ _) id s₄)
    intro _ s₅ _
    exact Program.along_value _ s₅

theorem stepsKeep_steps {β : Type} {c : TransportCall β} {id : SessionId}
    {adapter : QuicTransportAdapter ρ} (h : c.Harmless id adapter) :
    StepsKeep id c.steps adapter := by
  cases c with
  | updateSessionState other state closureReason stateReason =>
    exact stepsKeep_move h closureReason stateReason
  | migrate session route => exact stepsKeep_migrateSteps route h
  | closeSession session => exact stepsKeep_closeSteps session id adapter
  | connect route =>
    exact Program.along_ask (keepsEnded_of_find (connect_sessions adapter route (Ne.symm h)))
  | suppressReconnect key reason =>
    exact Program.along_ask (keepsEnded_of_find
      (congrArg (fun sessions : SessionRegistry => sessions.find id)
        (suppressReconnect_sessions key reason adapter)))
  | clearReconnectSuppression key =>
    exact Program.along_ask (keepsEnded_of_find
      (congrArg (fun sessions : SessionRegistry => sessions.find id)
        (clearReconnectSuppression_sessions key adapter)))
  | emitRuntimeEvent eventType subject details =>
    exact stepsKeep_quiet (emit_background eventType subject details) id adapter
  | _ => exact Program.along_ask (keepsEnded_of_find rfl)

/-! ## Harmless programs -/

abbrev CallsHarmless {α : Type} (id : SessionId) (p : ControlProgram α)
    (adapter : QuicTransportAdapter ρ) : Prop :=
  p.Along TransportCall.handle (fun event => event.call.Harmless id event.before) adapter

theorem harmless_of_settling {β : Type} {c : TransportCall β} (h : c.Settling) (id : SessionId)
    (adapter : QuicTransportAdapter ρ) : c.Harmless id adapter := by
  cases c with
  | updateSessionState other state closureReason stateReason => exact fun _ => .inl h
  | migrate session route => exact h.elim
  | connect route => exact h.elim
  | _ => trivial

theorem Settles.callsHarmless {α : Type} {p : ControlProgram α} (h : Settles p) (id : SessionId)
    (adapter : QuicTransportAdapter ρ) : CallsHarmless id p adapter := by
  refine Program.along_of_only ?_ h adapter
  intro now β c hc
  exact harmless_of_settling hc id now

theorem callsHarmless_ask {β : Type} {c : TransportCall β} {id : SessionId}
    {adapter : QuicTransportAdapter ρ} (h : c.Harmless id adapter) :
    CallsHarmless id (ask c) adapter := Program.along_ask h

theorem ask_ok {β : Type} {c : TransportCall β} {b : β} {before after : QuicTransportAdapter ρ}
    (h : (ask c).exec TransportCall.handle before = .ok b after) :
    onTransport c.handle before = .ok b after :=
  (congrFun (carryOut_ask c) before).symm.trans h

theorem callsHarmless_move {id sessionId : SessionId} {state : RuntimeSessionState}
    {adapter : QuicTransportAdapter ρ} (hlive : sessionId = id → Live id adapter)
    (closureReason : Option SessionClosureReason) (stateReason : Option String) :
    CallsHarmless id (ask (.updateSessionState sessionId state closureReason stateReason))
      adapter := callsHarmless_ask fun hid => .inr (hlive hid)

theorem live_of_moved {id sessionId : SessionId} {state : RuntimeSessionState}
    (hstate : isFinal state = false) {closureReason : Option SessionClosureReason}
    {stateReason : Option String} {before after : QuicTransportAdapter ρ}
    (h : (ask (.updateSessionState sessionId state closureReason stateReason)).exec
      TransportCall.handle before = .ok () after) (hid : sessionId = id) : Live id after := by
  cases ask_ok h
  rw [← hid]
  exact live_moved hstate sessionId closureReason stateReason before

theorem callsHarmless_migrate {id : SessionId} {session : SessionSnapshot}
    {adapter : QuicTransportAdapter ρ} (hlive : session.sessionId = id → Live id adapter)
    (route : RoutePlan) : CallsHarmless id (Program.attempt (.migrate session route)) adapter :=
  Program.along_attempt hlive

theorem ask_quiet {β : Type} {c : TransportCall β} (hc : Moves Quiet (c.handle : QuicM ρ β)) {b : β}
    {before after : QuicTransportAdapter ρ}
    (h : (ask c).exec TransportCall.handle before = .ok b after) : Quiet before after :=
  (hc.mapError _).of_ok (ask_ok h)

theorem callsHarmless_degradeSession {id : SessionId} {session : SessionSnapshot}
    {adapter : QuicTransportAdapter ρ} (hlive : session.sessionId = id → Live id adapter)
    (protocol : ProtocolId) (reason : String) :
    CallsHarmless id (Calls.degradeSession session protocol reason) adapter := by
  apply Program.along_bind (callsHarmless_move hlive none (some reason))
  intro _ marked _
  exact callsHarmless_ask trivial

theorem callsHarmless_migrateSession {id : SessionId} {session : SessionSnapshot}
    {adapter : QuicTransportAdapter ρ} (hlive : session.sessionId = id → Live id adapter)
    (protocol : ProtocolId) (route : RoutePlan) (report : AuthorityReevaluationReport) :
    CallsHarmless id (Calls.migrateSession session protocol route report) adapter := by
  apply Program.along_bind (callsHarmless_ask (by trivial))
  intro _ announced hannounced
  have hquiet := ask_quiet (emit_background _ _ _) hannounced
  have hstill : session.sessionId = id → Live id announced := fun hid => (hlive hid).of_quiet hquiet
  apply Program.along_bind (callsHarmless_move hstill none (some migrationReason))
  intro _ marked hmarked
  apply Program.along_bind (callsHarmless_migrate (live_of_moved rfl hmarked) route)
  intro answer migrated _
  exact (settles_finishMigration session protocol report answer).callsHarmless id migrated

/-- Reevaluation would migrate or degrade this session. -/
def DaemonState.repositions (state : DaemonState) (runtimePeerId : PeerId)
    (session : SessionSnapshot) : Bool :=
  match session.protocol with
  | none => false
  | some protocol =>
    match state.authorityEnforcement runtimePeerId session.peer protocol with
    | some _ => false
    | none =>
      match state.routePlan session.peer (some protocol) session.trafficClass with
      | .ok route => !sessionMatchesRoute session route
      | .error (.noRoute _) => true
      | .error _ => false

def Leaves (session : SessionSnapshot) : Except DaemonStateError RoutePlan → Prop
  | .ok route => sessionMatchesRoute session route = true
  | .error (.noRoute _) => False
  | .error _ => True

theorem callsHarmless_followRoute {id : SessionId} {session : SessionSnapshot}
    {adapter : QuicTransportAdapter ρ} (hregistered : Registered session adapter)
    {plan : Except DaemonStateError RoutePlan}
    (hplan : session.sessionId = id → isFinal session.state = true → Leaves session plan)
    (protocol : ProtocolId) (report : AuthorityReevaluationReport) :
    CallsHarmless id (Calls.followRoute session protocol report plan) adapter := by
  have hlive : ¬ Leaves session plan → session.sessionId = id → Live id adapter := by
    intro hmoves hid
    apply live_of_registered hregistered hid
    cases hstate : isFinal session.state with
    | false => rfl
    | true => exact absurd (hplan hid hstate) hmoves
  cases plan with
  | ok route =>
    simp only [Calls.followRoute]
    split_ifs with hmatches hcapable
    · unfold Calls.restorePosture
      split_ifs with hdegraded
      · have hlive' : session.sessionId = id → Live id adapter := fun hid =>
          live_of_registered hregistered hid (by rw [hdegraded]; rfl)
        apply Program.along_bind (callsHarmless_move hlive' none _)
        intro _ restored _
        exact Program.along_value _ restored
      · exact Program.along_bind (Program.along_value _ adapter) fun _ after _ =>
          Program.along_value _ after
    · exact callsHarmless_migrateSession (hlive hmatches) protocol route report
    · apply Program.along_bind (callsHarmless_degradeSession (hlive hmatches) protocol _)
      intro _ degraded _
      exact Program.along_value _ degraded
  | error error =>
    cases error with
    | noRoute peer =>
      apply Program.along_bind (callsHarmless_degradeSession (hlive fun h => h) protocol _)
      intro _ degraded _
      exact Program.along_value _ degraded
    | _ => exact Program.along_error _ adapter

theorem callsHarmless_reevaluateSession {id : SessionId} {session : SessionSnapshot}
    {adapter : QuicTransportAdapter ρ} (hregistered : Registered session adapter)
    {state : DaemonState} {runtimePeerId : PeerId}
    (hleft : session.sessionId = id → isFinal session.state = true →
      state.repositions runtimePeerId session = false)
    (report : AuthorityReevaluationReport) :
    CallsHarmless id (Calls.reevaluateSession state runtimePeerId report session) adapter := by
  unfold Calls.reevaluateSession
  cases hprotocol : session.protocol with
  | none => exact Program.along_value _ adapter
  | some protocol =>
    dsimp only
    cases henforced : state.authorityEnforcement runtimePeerId session.peer protocol with
    | some enforced =>
      exact (settles_enforceSession enforced session protocol _).callsHarmless id adapter
    | none =>
      apply Program.along_bind (callsHarmless_ask (by trivial))
      intro suppressions s₁ h₁
      cases ask_ok h₁
      apply Program.along_bind (callsHarmless_ask (by trivial))
      intro _ s₂ h₂
      cases ask_ok h₂
      have hstill := hregistered.clearReconnectSuppression
        ⟨session.peer, some protocol, session.trafficClass⟩
      apply callsHarmless_followRoute hstill
      intro hid hfinal
      have hkept := hleft hid hfinal
      simp only [DaemonState.repositions, hprotocol, henforced] at hkept
      cases hplan : state.routePlan session.peer (some protocol) session.trafficClass with
      | ok route => simpa [hplan, Leaves] using hkept
      | error error =>
        cases error with
        | noRoute peer => simp [hplan] at hkept
        | _ => trivial

theorem callsHarmless_reevaluateAuthority {id : SessionId} {adapter : QuicTransportAdapter ρ}
    {state : DaemonState} {runtimePeerId : PeerId}
    (hleft : ∀ session, adapter.sessionSnapshot id = some session →
      isFinal session.state = true → state.repositions runtimePeerId session = false) :
    CallsHarmless id (Calls.reevaluateAuthority state runtimePeerId) adapter := by
  apply Program.along_bind ((settles_startReevaluation state runtimePeerId).callsHarmless id adapter)
  intro _ started hstarted
  apply Program.along_bind (callsHarmless_ask (by trivial))
  intro sessions listed hlisted
  cases ask_ok hlisted
  have hquiet : Quiet adapter started := by
    have hstart : Moves Quiet (carryOut (Calls.startReevaluation state runtimePeerId) :
        FabricM ρ Unit) := by
      have hread : Moves Quiet (TransportCall.activeSessions.handle : QuicM ρ _) :=
        fun adapter => refl adapter
      simp only [Calls.startReevaluation, carryOut_bind, carryOut_ask]
      refine Moves.bind (hread.mapError DaemonStateError.transport) ?_
      intro _
      exact (emit_background _ _ _).mapError _
    exact hstart.of_ok hstarted
  have hregistry : ∀ session ∈ started.activeSessions, session.sessionId = id →
      isFinal session.state = true → state.repositions runtimePeerId session = false := by
    intro session hsession hid
    obtain ⟨record, hrecord, rfl⟩ := SessionRegistry.mem_snapshots.1 hsession
    apply hleft
    rw [← hid, sessionSnapshot, ← hquiet.sessions, hrecord]
    rfl
  have hsweep : CallsHarmless id (started.activeSessions.foldlM
      (Calls.reevaluateSession state runtimePeerId) (.start state runtimePeerId)) started := by
    refine Program.along_foldlM (I := fun _ rest now => Listed rest now ∧ ∀ session ∈ rest,
      session.sessionId = id → isFinal session.state = true →
        state.repositions runtimePeerId session = false) ?_
      ⟨listed_activeSessions started, hregistry⟩
    rintro report session rest now ⟨hrest, hleftRest⟩
    refine ⟨callsHarmless_reevaluateSession (hrest.registered session List.mem_cons_self)
      (hleftRest session List.mem_cons_self) report, ?_⟩
    intro report' now' hrun
    have hturn : reevaluateSession state runtimePeerId report session now = .ok report' now' :=
      (congrFun (carryOut_reevaluateSession _ _ _ _) now).symm.trans hrun
    refine ⟨hrest.tail ((reevaluateSession_frame state runtimePeerId report session).of_ok hturn), ?_⟩
    exact fun other hother => hleftRest other (List.mem_cons_of_mem _ hother)
  apply Program.along_bind hsweep
  intro report swept _
  exact (settles_reevaluateListeners state runtimePeerId report).callsHarmless id swept

theorem callsHarmless_reconcileRegistered {id : SessionId} {session : SessionSnapshot}
    {adapter : QuicTransportAdapter ρ} (hlive : session.sessionId = id → Live id adapter)
    (progress : ReconcileProgress) :
    CallsHarmless id (Calls.reconcileRegistered progress session) adapter := by
  unfold Calls.reconcileRegistered
  cases session.protocol with
  | none => exact (settles_closeFailed progress session _ _).callsHarmless id adapter
  | some protocol =>
    dsimp only
    split_ifs
    · cases progress.state.routePlan session.peer (some protocol) session.trafficClass with
      | ok route =>
        simp only [Calls.reconcileRoute]
        split_ifs
        · apply Program.along_bind (callsHarmless_move hlive none _)
          intro _ marked _
          exact Program.along_value _ marked
        · apply Program.along_bind (callsHarmless_move hlive none _)
          intro _ marked hmarked
          apply Program.along_bind (callsHarmless_migrate (live_of_moved rfl hmarked) route)
          intro answer migrated _
          exact (settles_finishUpgrade progress session _ answer).callsHarmless id migrated
      | error error =>
        cases error with
        | noRoute peer => exact (settles_closeFailed progress session _ _).callsHarmless id adapter
        | _ => exact Program.along_error _ adapter
    · exact (settles_closeDenied progress session _).callsHarmless id adapter

theorem callsHarmless_reconcileSession {id : SessionId} {session : SessionSnapshot}
    {adapter : QuicTransportAdapter ρ} (hlive : session.sessionId = id → Live id adapter)
    (progress : ReconcileProgress) :
    CallsHarmless id (Calls.reconcileSession progress session) adapter := by
  apply Program.along_bind (callsHarmless_move hlive none _)
  intro _ marked hmarked
  apply Program.along_bind (callsHarmless_ask (by trivial))
  intro found read hread
  cases ask_ok hread
  cases hfound : marked.sessionSnapshot session.sessionId with
  | none => exact Program.along_value _ marked
  | some current =>
    have hid := sessionId_of_sessionSnapshot hfound
    apply callsHarmless_reconcileRegistered
    intro hcurrent
    exact live_of_moved rfl hmarked (hid.symm.trans hcurrent)

theorem callsHarmless_reconcileState {id : SessionId} {adapter : QuicTransportAdapter ρ}
    (hlive : Live id adapter) (state : DaemonState) :
    CallsHarmless id (Calls.reconcileState state) adapter := by
  apply Program.along_bind (callsHarmless_ask (by trivial))
  intro sessions listed hlisted
  cases ask_ok hlisted
  have hsweep : CallsHarmless id (adapter.activeSessions.foldlM Calls.reconcileSession { state })
      adapter := by
    -- the session under the id is live until its own turn, whatever the turns before do
    refine Program.along_foldlM (I := fun _ rest now => Listed rest now ∧
      ∀ session ∈ rest, session.sessionId = id → Live id now) ?_
      ⟨listed_activeSessions adapter, fun _ _ _ => hlive⟩
    rintro progress session rest now ⟨hrest, hliveRest⟩
    refine ⟨callsHarmless_reconcileSession (hliveRest session List.mem_cons_self) progress, ?_⟩
    intro progress' now' hrun
    have hturn : reconcileSession progress session now = .ok progress' now' :=
      (congrFun (carryOut_reconcileSession progress session) now).symm.trans hrun
    have htouches := (reconcileSession_touches progress session).of_ok hturn
    refine ⟨hrest.tail_of_touches htouches, ?_⟩
    intro other hother hid record hrecord
    have hne : session.sessionId ≠ other.sessionId :=
      (List.pairwise_cons.1 hrest.distinct).1 other hother
    rw [htouches.sessions id (hid ▸ hne.symm)] at hrecord
    exact hliveRest other (List.mem_cons_of_mem _ hother) hid record hrecord
  apply Program.along_bind hsweep
  intro progress swept _
  apply Program.along_bind (callsHarmless_ask (by trivial))
  intro activeSessions read _
  exact Program.along_value _ read

theorem callsHarmless_upgradeState {id sessionId : SessionId} {adapter : QuicTransportAdapter ρ}
    {state : DaemonState}
    (hdenied : sessionId = id → ∀ session protocol, adapter.sessionSnapshot id = some session →
      isFinal session.state = true → session.protocol = some protocol →
        (state.explainPolicy session.peer protocol).allowed = false) :
    CallsHarmless id (Calls.upgradeState sessionId state) adapter := by
  apply Program.along_bind (callsHarmless_ask (by trivial))
  intro found read hread
  cases ask_ok hread
  cases hfound : adapter.sessionSnapshot sessionId with
  | none => exact Program.along_error _ adapter
  | some session =>
    have hsession : session.sessionId = sessionId := sessionId_of_sessionSnapshot hfound
    cases hprotocol : session.protocol with
    | none =>
      simp only [hprotocol]
      exact Program.along_error _ adapter
    | some protocol =>
      simp only [hprotocol, Calls.upgradeFound]
      split_ifs with hallowed
      · have hlive : session.sessionId = id → Live id adapter := by
          intro hid record hrecord
          have hsame := hsession.symm.trans hid
          obtain ⟨record', hrecord', hsnapshot⟩ := Option.map_eq_some_iff.1 hfound
          rw [hsame, hrecord] at hrecord'
          cases hrecord'
          rw [hsnapshot]
          cases hfinal : isFinal session.state with
          | false => rfl
          | true =>
            rw [hsame] at hfound
            rw [hdenied hsame session protocol hfound hfinal hprotocol] at hallowed
            cases hallowed
        apply Program.along_bind (callsHarmless_move hlive none _)
        intro _ marked hmarked
        apply Program.along_bind ((settles_planRoute _ _ _ _).callsHarmless id marked)
        intro route planned hplanned
        obtain ⟨-, rfl⟩ := planRoute_ok
          ((congrFun (carryOut_planRoute _ _ _ _) marked).symm.trans hplanned)
        have hmigrate : CallsHarmless id (ask (.migrate session route)) planned :=
          Program.along_ask (live_of_moved rfl hmarked)
        apply Program.along_bind hmigrate
        intro upgraded migrated _
        apply Program.along_bind (callsHarmless_ask (by trivial))
        intro activeSessions after _
        exact Program.along_value _ after
      · apply Program.along_bind (callsHarmless_ask fun _ => .inl rfl)
        intro _ marked _
        exact Program.along_error _ marked

/-! ## Runs -/

/-- What keeps a request from picking up an ended session under `id`. -/
def ControlRequest.LeavesEnded (id : SessionId) (request : ControlRequest)
    (adapter : QuicTransportAdapter ρ) : Prop :=
  match request.operation with
  | .upgradeSession sessionId => sessionId = id → ∀ session protocol,
      adapter.sessionSnapshot id = some session → isFinal session.state = true →
        session.protocol = some protocol →
          (request.state.explainPolicy session.peer protocol).allowed = false
  | .closeSession _ => True
  | .reconcileSessions => ∀ session, adapter.sessionSnapshot id = some session →
      isFinal session.state = false
  | .reevaluateRuntimeAuthority runtimeIdentity => ∀ session,
      adapter.sessionSnapshot id = some session → isFinal session.state = true →
        request.state.repositions runtimeIdentity.peerId session = false
  | .realizeBestPath peer protocol trafficClass => ∀ route,
      (request.state.explainPolicy peer protocol).allowed = true →
        request.state.routePlan peer (some protocol) trafficClass = .ok route →
          logicalSessionId adapter.runtimeInstanceId route ≠ id

theorem callsHarmless_request {id : SessionId} {request : ControlRequest}
    {adapter : QuicTransportAdapter ρ} (h : request.LeavesEnded id adapter) :
    CallsHarmless id request.program adapter := by
  obtain ⟨operation, state⟩ := request
  have hdone : ∀ {α : Type} {p : ControlProgram α}, CallsHarmless id p adapter →
      CallsHarmless id (p >>= fun _ => pure ()) adapter := by
    intro α p hp
    exact Program.along_bind hp fun _ after _ => Program.along_value () after
  cases operation with
  | upgradeSession sessionId => exact hdone (callsHarmless_upgradeState h)
  | closeSession sessionId =>
    exact hdone ((settles_closeState sessionId state).callsHarmless id adapter)
  | reconcileSessions =>
    refine hdone (callsHarmless_reconcileState ?_ state)
    intro record hrecord
    exact h record.snapshot (by rw [sessionSnapshot, hrecord]; rfl)
  | reevaluateRuntimeAuthority runtimeIdentity => exact hdone (callsHarmless_reevaluateAuthority h)
  | realizeBestPath peer protocol trafficClass =>
    apply hdone
    unfold Calls.realizeState
    dsimp only
    split_ifs with hallowed
    · apply Program.along_bind ((settles_planRoute _ _ _ _).callsHarmless id adapter)
      intro route planned hplanned
      obtain ⟨hroute, rfl⟩ := planRoute_ok
        ((congrFun (carryOut_planRoute _ _ _ _) adapter).symm.trans hplanned)
      have hconnect : CallsHarmless id (ask (.connect route)) planned :=
        Program.along_ask (h route hallowed hroute)
      apply Program.along_bind hconnect
      intro connection connected _
      apply Program.along_bind (callsHarmless_ask (by trivial))
      intro activeSessions read _
      exact Program.along_value _ read
    · exact Program.along_error _ adapter

/-- In a run of requests that leave the ended session under `id` alone, down to the
single writes of the registry: once that session is failed or closing, every later
state has it failed, closing or removed. -/
theorem ended_session_stays_ended (id : SessionId) (requests : List ControlRequest)
    (adapter : QuicTransportAdapter ρ)
    (h : Program.Meets TransportCall.handle ControlRequest.program (ControlRequest.LeavesEnded id)
      requests adapter) :
    (((Program.inTurn ControlRequest.program requests).expand TransportCall.steps).states perform
      adapter).Pairwise fun earlier later =>
        (∃ record, earlier.runtimeSessions.find id = some record ∧
          isFinal record.snapshot.state = true) →
        ∀ record, later.runtimeSessions.find id = some record →
          isFinal record.snapshot.state = true := by
  have hcalls : CallsHarmless id (Program.inTurn ControlRequest.program requests) adapter :=
    Program.along_inTurn (fun _ _ hleaves => callsHarmless_request hleaves) h
  have hsteps : StepsKeep id
      ((Program.inTurn ControlRequest.program requests).expand TransportCall.steps) adapter :=
    Program.along_expand exec_steps (fun _ hharmless => stepsKeep_steps hharmless) hcalls
  refine (Program.pairwise_states hsteps).imp ?_
  rintro earlier later hkeeps ⟨record, hrecord, hfinal⟩ last hlast
  have hended : ended id earlier = true := by
    rw [ended, hrecord, Option.all_some]
    exact hfinal
  have hlater := hkeeps hended
  rwa [ended, hlast, Option.all_some] at hlater

end Hashing

section Closed
attribute [local instance] Primitives.transparent

def ungrantedState : DaemonState := LocalControlPlane.prepared meshConfig (fixtureDaemonState "mesh")

def upgradeRequest (state : DaemonState) : ControlRequest :=
  ⟨.upgradeSession workerSessionId, state⟩

theorem failed_session_closed :
    (((Program.inTurn ControlRequest.program [upgradeRequest ungrantedState,
        ⟨.reevaluateRuntimeAuthority fixtureIdentity, ungrantedState⟩]).expand
      TransportCall.steps).states perform connectedNode).Pairwise fun earlier later =>
        (∃ record, earlier.runtimeSessions.find workerSessionId = some record ∧
          isFinal record.snapshot.state = true) →
        ∀ record, later.runtimeSessions.find workerSessionId = some record →
          isFinal record.snapshot.state = true := by
  have hdenied : (connectedNode.sessionSnapshot workerSessionId).all (fun session =>
      session.protocol.all fun protocol =>
        !(ungrantedState.explainPolicy session.peer protocol).allowed) = true := by
    decide +kernel
  have hleft : ((final ((upgradeRequest ungrantedState).program.exec TransportCall.handle)
      connectedNode).sessionSnapshot workerSessionId).all (fun session =>
        !ungrantedState.repositions fixtureIdentity.peerId session) = true := by
    decide +kernel
  refine ended_session_stays_ended workerSessionId _ connectedNode ⟨?_, ?_, trivial⟩
  · intro _ session protocol hsession _ hprotocol
    have htest := (Option.all_eq_true _ _).1 hdenied session hsession
    rw [hprotocol, Option.all_some, Bool.not_eq_true'] at htest
    exact htest
  · intro session hsession _
    have htest := (Option.all_eq_true _ _).1 hleft session hsession
    rw [Bool.not_eq_true'] at htest
    exact htest

theorem failed_session_revived :
    ¬ (((Program.inTurn ControlRequest.program [connectRequest edgeState,
        upgradeRequest ungrantedState, ⟨.reconcileSessions, edgeState⟩]).expand
      TransportCall.steps).states perform edgeNode).Pairwise fun earlier later =>
        (∃ record, earlier.runtimeSessions.find workerSessionId = some record ∧
          isFinal record.snapshot.state = true) →
        ∀ record, later.runtimeSessions.find workerSessionId = some record →
          isFinal record.snapshot.state = true := by
  have htest : ¬ (((Program.inTurn ControlRequest.program [connectRequest edgeState,
      upgradeRequest ungrantedState, ⟨.reconcileSessions, edgeState⟩]).expand
        TransportCall.steps).states perform edgeNode).Pairwise fun earlier later =>
          (earlier.runtimeSessions.find workerSessionId).any (fun record =>
            isFinal record.snapshot.state) = true → ended workerSessionId later = true := by
    decide +kernel
  intro hpairwise
  refine htest (hpairwise.imp ?_)
  intro earlier later hkeeps hany
  obtain ⟨record, hrecord, hfinal⟩ := (Option.any_eq_true _ _).1 hany
  exact (Option.all_eq_true _ _).2 (hkeeps ⟨record, hrecord, hfinal⟩)

end Closed

end QuipNet.Fabric
