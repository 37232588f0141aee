import QuipNet.AdapterHistory

/-!
# What the adapter's calls announce and close

The events of a call and the session it closes, told from its arguments, the registries
before it and its result. A connect announces the session it returns, as a new one or as
a change of the one it replaces; a migration that fails and a close that fails announce the
state they set before; a session is closed when `close_session` returns for a registered
one. The event buffer and the ledger of closed sessions hold the last of these.
-/

open Std
namespace QuipNet.Quic
open QuipNet.Library QuipNet.Library.Effect QuipNet.Transport
open QuicTransportAdapter

variable {ρ : Type}

abbrev Announcement := String × RuntimeEventSubject

def announcement (event : RuntimeEvent) : Announcement := (event.eventType, event.subject)

namespace QuicTransportAdapter

def announcements (adapter : QuicTransportAdapter ρ) : List Announcement :=
  adapter.runtimeEvents.map announcement

def movedAnnounced (id : SessionId) (state : RuntimeSessionState) (adapter : QuicTransportAdapter ρ) :
    List Announcement :=
  if (adapter.runtimeSessions.find id).isSome then
    [(runtimeEventTypeForState state, sessionSubject id)]
  else []

theorem movedAnnounced_length_le (id : SessionId) (state : RuntimeSessionState)
    (adapter : QuicTransportAdapter ρ) : (adapter.movedAnnounced id state).length ≤ 1 := by
  unfold movedAnnounced
  split_ifs <;> simp

def storedAnnounced (id : SessionId) (adapter : QuicTransportAdapter ρ) : List Announcement :=
  if (adapter.runtimeSessions.find id).isSome then [("session.state_changed", sessionSubject id)]
  else [("session.created", sessionSubject id), ("path.selected", sessionSubject id)]

end QuicTransportAdapter

def attemptOutcomeEventType : Option String → String
  | some reason =>
    if contains reason "succeeded" || contains reason "active" then "reconnect.succeeded"
    else "reconnect.cleared"
  | none => "reconnect.cleared"

/-- The session that a close which returns has closed: a registered one. -/
def closedBy (session : SessionSnapshot) (adapter : QuicTransportAdapter ρ) : List SessionId :=
  match closeSession session adapter with
  | .ok _ _ =>
    if (adapter.runtimeSessions.find session.sessionId).isSome then [session.sessionId] else []
  | .error _ _ => []

variable {adapter : QuicTransportAdapter ρ}

/-! ## Buffers -/

theorem Logs.answer {α : Type} {k c : ℕ} {m : QuicM ρ α} (h : Logs k c m)
    (adapter : QuicTransportAdapter ρ) (buffered : List RuntimeEvent)
    (ledger : List RuntimeSessionRecord) : ∃ answer own other,
      m adapter = answered answer own ∧ m (adapter.withBuffers buffered ledger) =
        answered answer other := by
  obtain ⟨events, closed, after, answer, -, -, -, -, hrun⟩ := h adapter
  exact ⟨answer, _, _, hrun adapter.runtimeEvents adapter.terminalSessions, hrun buffered ledger⟩

theorem Logs.events {α : Type} {c : ℕ} {m : QuicM ρ α} (h : Logs 0 c m)
    (adapter : QuicTransportAdapter ρ) :
    (final m adapter).runtimeEvents = adapter.runtimeEvents := by
  obtain ⟨events, closed, after, answer, hevents, -, -, -, hrun⟩ := h adapter
  have hfinal : final m adapter = _ :=
    final_of_answered (hrun adapter.runtimeEvents adapter.terminalSessions)
  obtain rfl : events = [] := List.length_eq_zero_iff.mp (Nat.le_zero.mp hevents)
  rw [hfinal]
  rfl

theorem announcements_congr {after : QuicTransportAdapter ρ}
    (h : after.runtimeEvents = adapter.runtimeEvents) :
    after.announcements = adapter.announcements :=
  congrArg (List.map announcement) h

theorem announcements_eq_nil (h : adapter.runtimeEvents = []) : adapter.announcements = [] := by
  simp [announcements, h]

theorem emitRuntimeEvent_announcements (eventType : String) (subject : RuntimeEventSubject)
    (details : Json) {adapter : QuicTransportAdapter ρ}
    (hroom : adapter.announcements.length < maxRuntimeEvents) :
    (adapter.emitRuntimeEvent eventType subject details).announcements =
      adapter.announcements ++ [(eventType, subject)] := by
  have hshort : (adapter.runtimeEvents ++ [emittedEvent eventType subject details adapter]).length ≤
      maxRuntimeEvents := by
    simpa [announcements] using hroom
  have hevents : (adapter.emitRuntimeEvent eventType subject details).runtimeEvents =
      adapter.runtimeEvents ++ [emittedEvent eventType subject details adapter] := by
    have hlogged := emitRuntimeEvent_withBuffers eventType subject details adapter
      adapter.runtimeEvents adapter.terminalSessions
    have hself : adapter.withBuffers adapter.runtimeEvents adapter.terminalSessions = adapter := rfl
    rw [hself, logged_withBuffers] at hlogged
    rw [hlogged, List.foldl_cons, List.foldl_nil]
    simp only [withBuffers, push]
    exact rtake_of_length_le hshort
  simp only [announcements, hevents, List.map_append, List.map_singleton, announcement, emittedEvent]

theorem emitRuntimeEvent_ledger (eventType : String) (subject : RuntimeEventSubject) (details : Json)
    (adapter : QuicTransportAdapter ρ) :
    (adapter.emitRuntimeEvent eventType subject details).terminalSessions =
      adapter.terminalSessions := by
  simp only [emitRuntimeEvent, ticked]

def Announces (before : QuicTransportAdapter ρ) (announced : List Announcement)
    (after : QuicTransportAdapter ρ) : Prop :=
  after.announcements = before.announcements ++ announced ∧
    after.terminalSessions = before.terminalSessions

theorem Announces.silent {written : QuicTransportAdapter ρ}
    (hevents : written.runtimeEvents = adapter.runtimeEvents)
    (hledger : written.terminalSessions = adapter.terminalSessions) :
    Announces adapter [] written :=
  ⟨(announcements_congr hevents).trans (List.append_nil _).symm, hledger⟩

theorem Announces.emit {written : QuicTransportAdapter ρ} {announced : List Announcement}
    (h : Announces adapter announced written) (eventType : String) (subject : RuntimeEventSubject)
    (details : Json) (hroom : adapter.announcements.length + announced.length < maxRuntimeEvents) :
    Announces adapter (announced ++ [(eventType, subject)])
      (written.emitRuntimeEvent eventType subject details) := by
  refine ⟨?_, (emitRuntimeEvent_ledger _ _ _ written).trans h.2⟩
  rw [emitRuntimeEvent_announcements, h.1, List.append_assoc]
  rw [h.1, List.length_append]
  exact hroom

/-! ## Reconnects -/

theorem suppressReconnect_announces (key : SessionKey) (reason : String)
    (hroom : adapter.announcements.length < maxRuntimeEvents) :
    Announces adapter [("reconnect.suppressed", peerSubject key.peer)]
      (adapter.suppressReconnect key reason) := by
  unfold suppressReconnect
  refine (Announces.silent ?_ ?_).emit _ _ _ hroom
  · rfl
  · rfl

theorem clearReconnectSuppression_announces (key : SessionKey)
    (hroom : adapter.announcements.length < maxRuntimeEvents) :
    Announces adapter
      (if (adapter.findReconnectSuppression key).isSome then
        [("reconnect.unsuppressed", peerSubject key.peer)] else [])
      (adapter.clearReconnectSuppression key) := by
  unfold clearReconnectSuppression
  cases hfind : adapter.findReconnectSuppression key with
  | none => exact .silent rfl rfl
  | some removed => exact (Announces.silent rfl rfl).emit _ _ _ hroom

theorem clearReconnectAttempt_announces (key : SessionKey) (outcomeReason : Option String)
    (hroom : adapter.announcements.length < maxRuntimeEvents) :
    Announces adapter
      (if (adapter.reconnectAttempts.find? fun attempt => attempt.key = key).isSome then
        [(attemptOutcomeEventType outcomeReason, peerSubject key.peer)] else [])
      (adapter.clearReconnectAttempt key outcomeReason) := by
  unfold clearReconnectAttempt
  cases hfind : adapter.reconnectAttempts.find? fun attempt => attempt.key = key with
  | none => exact .silent rfl rfl
  | some attempt => exact (Announces.silent rfl rfl).emit _ _ _ hroom

theorem scheduleReconnect_returns (key : SessionKey) (reason : String) (maxAttempts : UInt32)
    (baseBackoffSecs maxBackoffSecs : ℕ) (adapter : QuicTransportAdapter ρ) :
    (adapter.scheduleReconnect key reason maxAttempts baseBackoffSecs maxBackoffSecs).1 =
      (upsertAttempt adapter.reconnectAttempts key reason maxAttempts baseBackoffSecs maxBackoffSecs
        adapter.currentUnixSecs).1 := by
  unfold scheduleReconnect
  dsimp only
  split_ifs <;> rfl

theorem scheduleReconnect_announces (key : SessionKey) (reason : String) (maxAttempts : UInt32)
    (baseBackoffSecs maxBackoffSecs : ℕ)
    (hroom : adapter.announcements.length + 1 < maxRuntimeEvents) :
    Announces adapter
      (if (adapter.scheduleReconnect key reason maxAttempts baseBackoffSecs maxBackoffSecs).1.state =
          .failed then
        [("reconnect.failed", peerSubject key.peer), ("path.failed", peerSubject key.peer)]
      else [("reconnect.retry_scheduled", peerSubject key.peer)])
      (adapter.scheduleReconnect key reason maxAttempts baseBackoffSecs maxBackoffSecs).2 := by
  let upserted := upsertAttempt adapter.reconnectAttempts key reason maxAttempts baseBackoffSecs
    maxBackoffSecs adapter.currentUnixSecs
  let written := { adapter.ticked with reconnectAttempts := upserted.2 }
  have hwritten : Announces adapter [] written := .silent rfl rfl
  rw [scheduleReconnect_returns]
  by_cases hfailed : upserted.1.state = .failed
  · simp only [scheduleReconnect]
    rw [if_pos hfailed, if_pos hfailed, if_pos hfailed]
    exact (hwritten.emit _ _ _ (Nat.lt_of_succ_lt hroom)).emit _ _ _ hroom
  · simp only [scheduleReconnect]
    rw [if_neg hfailed, if_neg hfailed, if_neg hfailed]
    exact hwritten.emit _ _ _ (Nat.lt_of_succ_lt hroom)

/-! ## Sessions -/

theorem updateSessionState_announcements (id : SessionId) (state : RuntimeSessionState)
    (closureReason : Option SessionClosureReason) (stateReason : Option String)
    {adapter : QuicTransportAdapter ρ} (hroom : adapter.announcements.length < maxRuntimeEvents) :
    (adapter.updateSessionState id state closureReason stateReason).2.announcements =
      adapter.announcements ++ adapter.movedAnnounced id state := by
  cases hfind : adapter.runtimeSessions.find id with
  | none => simp [updateSessionState, sessionSnapshot, movedAnnounced, hfind]
  | some record =>
    have hid := SessionRegistry.sessionId_of_find hfind
    simp only [updateSessionState, sessionSnapshot, movedAnnounced, hfind, Option.map_some,
      Option.isSome_some, if_true]
    rw [emitRuntimeEvent_announcements]
    · rw [show (moved record.snapshot state closureReason stateReason _).sessionId = id from hid]
      rfl
    · exact hroom

theorem closeLeftRelaySession_announcements (previous next : SessionSnapshot)
    (adapter : QuicTransportAdapter ρ) :
    (final (closeLeftRelaySession previous next) adapter).announcements = adapter.announcements :=
  announcements_congr ((closeLeftRelaySession_logs previous next).events adapter)

theorem upsertRuntimeSession_announcements {record : RuntimeSessionRecord}
    {after : QuicTransportAdapter ρ} (hroom : adapter.announcements.length + 1 < maxRuntimeEvents)
    (h : upsertRuntimeSession record adapter = .ok () after) :
    after.announcements =
      adapter.announcements ++ adapter.storedAnnounced record.snapshot.sessionId := by
  let stored := { adapter with runtimeSessions := adapter.runtimeSessions.insert record }
  cases hfind : adapter.runtimeSessions.find record.snapshot.sessionId with
  | none =>
    simp only [upsertRuntimeSession, bind_run, modifyGet_run, hfind, announceSession, modify_run,
      EStateM.Result.ok.injEq, true_and] at h
    simp only [storedAnnounced, hfind, Option.isSome_none, Bool.false_eq_true, if_false, ← h]
    rw [emitRuntimeEvent_announcements, emitRuntimeEvent_announcements]
    · simp [announcements]
    · exact Nat.lt_of_succ_lt hroom
    · rw [emitRuntimeEvent_announcements]
      · simpa [announcements] using hroom
      · exact Nat.lt_of_succ_lt hroom
  | some previous =>
    simp only [upsertRuntimeSession, bind_run, modifyGet_run, hfind, announceSession] at h
    obtain ⟨_, closed, hclosed, hemitted⟩ := bind_eq_ok h
    have hsame := closeLeftRelaySession_announcements previous.snapshot record.snapshot stored
    rw [final_of_ok hclosed, show stored.announcements = adapter.announcements from rfl] at hsame
    simp only [modify_run, EStateM.Result.ok.injEq, true_and] at hemitted
    simp only [storedAnnounced, hfind, Option.isSome_some, if_true, ← hemitted]
    rw [emitRuntimeEvent_announcements, hsame]
    rw [hsame]
    exact Nat.lt_of_succ_lt hroom

theorem upsertRuntimeSession_unannounced {record : RuntimeSessionRecord} {error : TransportError}
    {after : QuicTransportAdapter ρ} (h : upsertRuntimeSession record adapter = .error error after) :
    after.announcements = adapter.announcements := by
  let stored := { adapter with runtimeSessions := adapter.runtimeSessions.insert record }
  cases hfind : adapter.runtimeSessions.find record.snapshot.sessionId with
  | none =>
    simp only [upsertRuntimeSession, bind_run, modifyGet_run, hfind, announceSession, modify_run,
      reduceCtorEq] at h
  | some previous =>
    have hsame := closeLeftRelaySession_announcements previous.snapshot record.snapshot stored
    simp only [upsertRuntimeSession, bind_run, modifyGet_run, hfind, announceSession, modify_run] at h
    rcases hrun : closeLeftRelaySession previous.snapshot record.snapshot stored with
      ⟨_, closed⟩ | ⟨_, closed⟩
    · rw [hrun] at h
      cases h
    · rw [final_of_error hrun] at hsame
      rw [hrun] at h
      cases h
      exact hsame

theorem finishClose_outcome (active : RuntimeSessionRecord)
    (hroom : adapter.announcements.length < maxRuntimeEvents) (hledger : adapter.terminalSessions = []) :
    (∃ after, finishClose (some active) adapter = .ok () after ∧
        after.announcements = adapter.announcements ++
          [("session.closed", sessionSubject active.snapshot.sessionId)] ∧
        after.terminalSessions.map closedId = [active.snapshot.sessionId]) ∨
      ∃ error after, finishClose (some active) adapter = .error error after ∧
        after.announcements = adapter.announcements ∧ after.terminalSessions = [] := by
  have hrelay : Logs 0 0 (closeOwnRelaySession active.snapshot : QuicM ρ Unit) :=
    Logs.ite (closeRelayTransportSession_logs _ _) (Logs.pure ())
  have hevents := hrelay.events adapter
  have hkept := hrelay.ledger adapter
  rcases hclosed : closeOwnRelaySession active.snapshot adapter with ⟨_, closed⟩ | ⟨error, closed⟩
  · rw [final_of_ok hclosed] at hevents hkept
    have hsame : closed.announcements = adapter.announcements := announcements_congr hevents
    let terminal := { active.snapshot with
      state := RuntimeSessionState.closed, lastActivityUnixSecs := closed.currentUnixSecs }
    let recorded := closed.ticked.recordTerminalSession ⟨terminal, active.alpnProtocol⟩
    have hrecorded : recorded.terminalSessions = [⟨terminal, active.alpnProtocol⟩] := by
      simp only [recorded, recordTerminalSession, ticked, hkept, hledger, List.filter_nil,
        List.nil_append]
      rfl
    refine .inl ⟨_, bind_of_ok hclosed, ?_, ?_⟩
    · have hroom' : recorded.announcements.length < maxRuntimeEvents := by
        rw [show recorded.announcements = _ from hsame]
        exact hroom
      exact (emitRuntimeEvent_announcements _ _ _ hroom').trans (congrArg (· ++ _) hsame)
    · change recorded.terminalSessions.map closedId = _
      rw [hrecorded]
      rfl
  · rw [final_of_error hclosed] at hevents hkept
    exact .inr ⟨error, closed, bind_of_error hclosed, announcements_congr hevents,
      hkept.trans hledger⟩

theorem closeSession_outcome (session : SessionSnapshot) (hempty : adapter.runtimeEvents = [])
    (hledger : adapter.terminalSessions = []) :
    (final (closeSession session) adapter).announcements =
        adapter.movedAnnounced session.sessionId .closing ++
          (closedBy session adapter).map (fun id => ("session.closed", sessionSubject id)) ∧
      (final (closeSession session) adapter).terminalSessions.map closedId =
        closedBy session adapter := by
  have hnone := announcements_eq_nil hempty
  obtain ⟨closureReason, stateReason, closing, hclosing, htake⟩ := takeForClose_eq session adapter
  let taken := { closing with runtimeSessions := closing.runtimeSessions.remove session.sessionId }
  have hrun : closeSession session adapter =
      finishClose (closing.runtimeSessions.find session.sessionId) taken := bind_of_ok htake
  have htaken : taken.announcements = adapter.movedAnnounced session.sessionId .closing := by
    change closing.announcements = _
    rw [hclosing, updateSessionState_announcements, hnone, List.nil_append]
    rw [hnone]
    decide
  have hkept : taken.terminalSessions = [] := by
    change closing.terminalSessions = []
    rw [hclosing]
    exact ((moveSession_logs session.sessionId .closing closureReason stateReason).ledger
      adapter).trans hledger
  have hroom : taken.announcements.length < maxRuntimeEvents := by
    rw [htaken]
    exact (movedAnnounced_length_le _ _ adapter).trans_lt (by decide)
  have hfound := find_updateSessionState session.sessionId .closing closureReason stateReason adapter
  rw [← hclosing] at hfound
  cases hfind : adapter.runtimeSessions.find session.sessionId with
  | none =>
    rw [hfind, Option.map_none] at hfound
    have hdone : closeSession session adapter = .ok () taken := by
      rw [hrun, hfound]
      rfl
    rw [final_of_ok hdone, closedBy, hdone, htaken, hkept, hfind]
    simp
  | some record =>
    rw [hfind, Option.map_some] at hfound
    rw [hfound] at hrun
    rcases finishClose_outcome _ hroom hkept with
      ⟨after, hclosed, hannounced, hids⟩ | ⟨error, after, hclosed, hannounced, hids⟩
    · have hid : record.snapshot.sessionId = session.sessionId :=
        SessionRegistry.sessionId_of_find hfind
      rw [final_of_ok (hrun.trans hclosed), closedBy, hrun.trans hclosed, hannounced, htaken, hids,
        hfind, show (moved record.snapshot .closing _ _ _).sessionId = _ from hid]
      exact ⟨rfl, rfl⟩
    · rw [final_of_error (hrun.trans hclosed), closedBy, hrun.trans hclosed, hannounced, htaken,
        hids]
      simp

section Calls
variable [Primitives]

def connectAnnounced (route : RoutePlan) (adapter : QuicTransportAdapter ρ) : List Announcement :=
  if (adapter.findReconnectSuppression route.key).isSome then
    [("reconnect.suppressed", peerSubject route.peer)]
  else
    match connect route adapter with
    | .ok handle _ => adapter.storedAnnounced handle.session.sessionId
    | .error _ _ => []

def migrateAnnounced (session : SessionSnapshot) (route : RoutePlan)
    (adapter : QuicTransportAdapter ρ) : List Announcement :=
  adapter.movedAnnounced session.sessionId .migrating ++
    match migrate session route adapter with
    | .ok _ _ => [("session.state_changed", sessionSubject session.sessionId),
        ("path.migration_completed", sessionSubject session.sessionId)]
    | .error _ _ => []

theorem sessionSnapshotForRoute_unlogged (route : RoutePlan) (adapter : QuicTransportAdapter ρ) :
    (final (sessionSnapshotForRoute route) adapter).runtimeEvents = adapter.runtimeEvents ∧
      (final (sessionSnapshotForRoute route) adapter).runtimeSessions = adapter.runtimeSessions :=
  ⟨(sessionSnapshotForRoute_logs route).events adapter,
    (sessionSnapshotForRoute_quiet route adapter).sessions⟩

theorem connect_announcements (route : RoutePlan) (hempty : adapter.runtimeEvents = []) :
    (final (connect route) adapter).announcements = connectAnnounced route adapter := by
  have hnone := announcements_eq_nil hempty
  cases hfind : adapter.findReconnectSuppression route.key with
  | some suppression =>
    simp only [connectAnnounced, hfind, Option.isSome_some, if_true, final, connect, bind_run, get_run,
      modify_run, throw_run]
    rw [emitRuntimeEvent_announcements, hnone, List.nil_append]
    rw [hnone]
    decide
  | none =>
    obtain ⟨hevents, hsessions⟩ := sessionSnapshotForRoute_unlogged route adapter
    have hconnect : connect route adapter = (sessionSnapshotForRoute route >>= fun session =>
        upsertRuntimeSession ⟨session, route.protocol.map ProtocolId.text⟩ >>= fun _ =>
          pure ⟨session, route.protocol.map ProtocolId.text⟩ : QuicM ρ QuicConnectionHandle)
        adapter := by
      simp only [connect, bind_run, get_run, hfind]
    unfold connectAnnounced
    rw [hfind, Option.isSome_none, if_neg Bool.false_ne_true]
    rcases hopened : sessionSnapshotForRoute route adapter with
      ⟨session, opened⟩ | ⟨error, opened⟩
    · rw [final_of_ok hopened] at hevents hsessions
      have hopenedNone := announcements_eq_nil (hevents.trans hempty)
      rw [bind_of_ok hopened] at hconnect
      rcases hstored : upsertRuntimeSession ⟨session, route.protocol.map ProtocolId.text⟩ opened with
        ⟨_, stored⟩ | ⟨error, stored⟩
      · rw [bind_of_ok hstored, pure_run] at hconnect
        have hannounced := upsertRuntimeSession_announcements
          (by rw [hopenedNone]; decide) hstored
        rw [final_of_ok hconnect, hconnect, hannounced, hopenedNone, List.nil_append]
        unfold storedAnnounced
        rw [hsessions]
      · rw [bind_of_error hstored] at hconnect
        rw [final_of_error hconnect, hconnect, upsertRuntimeSession_unannounced hstored, hopenedNone]
    · rw [final_of_error hopened] at hevents
      rw [bind_of_error hopened] at hconnect
      rw [final_of_error hconnect, hconnect]
      exact announcements_eq_nil (hevents.trans hempty)

/-- A migration that fails has announced nothing since it marked the session. -/
theorem migrateExisting_announcements {existing : SessionSnapshot} (route : RoutePlan)
    {id : SessionId} {record : RuntimeSessionRecord} (hid : existing.sessionId = id)
    (hfind : adapter.runtimeSessions.find id = some record)
    (hroom : adapter.announcements.length + 2 < maxRuntimeEvents) :
    (∃ migrated after, migrateExisting existing route adapter = .ok migrated after ∧
        after.announcements = adapter.announcements ++
          [("session.state_changed", sessionSubject id),
            ("path.migration_completed", sessionSubject id)]) ∨
      ∃ error after, migrateExisting existing route adapter = .error error after ∧
        after.announcements = adapter.announcements := by
  subst hid
  obtain ⟨hevents, hsessions⟩ := sessionSnapshotForRoute_unlogged route adapter
  rcases hopened : sessionSnapshotForRoute route adapter with ⟨opened, s₁⟩ | ⟨error, s₁⟩
  · rw [final_of_ok hopened] at hevents hsessions
    let migrated := migratedSnapshot existing opened s₁.currentUnixSecs
    have hleft := closeLeftRelaySession_announcements existing migrated s₁.ticked
    have hticked : s₁.ticked.announcements = adapter.announcements :=
      announcements_congr hevents
    have hquiet := closeLeftRelaySession_quiet existing migrated s₁.ticked
    rcases hclosed : closeLeftRelaySession existing migrated s₁.ticked with ⟨_, s₂⟩ | ⟨error, s₂⟩
    · rw [final_of_ok hclosed] at hleft hquiet
      have hfound : s₂.runtimeSessions.find migrated.sessionId = some record := by
        rw [hquiet.sessions]
        change s₁.runtimeSessions.find existing.sessionId = some record
        rw [hsessions, hfind]
      let upserted : RuntimeSessionRecord := ⟨migrated, route.protocol.map ProtocolId.text⟩
      rcases hstored : upsertRuntimeSession upserted s₂ with ⟨_, s₃⟩ | ⟨error, s₃⟩
      · have hannounced := upsertRuntimeSession_announcements
          (by rw [hleft, hticked]; exact Nat.lt_of_succ_lt hroom) hstored
        simp only [storedAnnounced, upserted, hfound, Option.isSome_some, if_true, hleft,
          hticked] at hannounced
        have hlast : s₃.announcements.length < maxRuntimeEvents := by
          rw [hannounced, List.length_append]
          exact Nat.lt_of_succ_lt hroom
        have hemitted := emitRuntimeEvent_announcements "path.migration_completed"
          (sessionSubject existing.sessionId) (.object [("peer_id", .string migrated.peer.toText),
            ("prior_path_class", .string (pathClassLabel existing.pathKind)),
            ("next_path_class", .string (pathClassLabel migrated.pathKind))]) hlast
        rw [hannounced, List.append_assoc] at hemitted
        refine .inl ⟨migrated, _, ?_, hemitted⟩
        rw [migrateExisting, bind_of_ok hopened, bind_of_ok (show unixSecs s₁ = _ from rfl),
          bind_of_ok hclosed, bind_of_ok hstored]
        rfl
      · refine .inr ⟨error, s₃, ?_, ?_⟩
        · rw [migrateExisting, bind_of_ok hopened, bind_of_ok (show unixSecs s₁ = _ from rfl),
            bind_of_ok hclosed, bind_of_error hstored]
        · rw [upsertRuntimeSession_unannounced hstored, hleft, hticked]
    · rw [final_of_error hclosed] at hleft
      refine .inr ⟨error, s₂, ?_, hleft.trans hticked⟩
      rw [migrateExisting, bind_of_ok hopened, bind_of_ok (show unixSecs s₁ = _ from rfl),
        bind_of_error hclosed]
  · rw [final_of_error hopened] at hevents
    refine .inr ⟨error, s₁, ?_, announcements_congr hevents⟩
    rw [migrateExisting, bind_of_error hopened]

theorem migrate_announcements (session : SessionSnapshot) (route : RoutePlan)
    (hempty : adapter.runtimeEvents = []) :
    (final (migrate session route) adapter).announcements =
      migrateAnnounced session route adapter := by
  have hnone := announcements_eq_nil hempty
  let marked := (adapter.updateSessionState session.sessionId .migrating none
    (some "daemon requested path migration")).2
  have hmarked : marked.announcements = adapter.movedAnnounced session.sessionId .migrating := by
    rw [updateSessionState_announcements, hnone, List.nil_append]
    rw [hnone]
    decide
  have hmoved := find_updateSessionState session.sessionId .migrating none
    (some "daemon requested path migration") adapter
  cases hfind : adapter.runtimeSessions.find session.sessionId with
  | none =>
    rw [hfind, Option.map_none] at hmoved
    have hrun : migrate session route adapter =
        .error (.invalidRoute "session is not active in runtime registry") marked := by
      simp only [migrate, moveSession, bind_run, modify_run, get_run, sessionSnapshot, hmoved,
        Option.map_none, throw_run, marked]
    rw [final_of_error hrun, hmarked, migrateAnnounced, hrun, List.append_nil]
  | some record =>
    rw [hfind, Option.map_some] at hmoved
    let existing := moved record.snapshot .migrating none
      (some "daemon requested path migration") adapter.currentUnixSecs
    have hid : existing.sessionId = session.sessionId := SessionRegistry.sessionId_of_find hfind
    have hrun : migrate session route adapter = migrateExisting existing route marked := by
      simp only [migrate, moveSession, bind_run, modify_run, get_run, sessionSnapshot, hmoved,
        Option.map_some, marked, existing]
    have hroom : marked.announcements.length + 2 < maxRuntimeEvents := by
      rw [hmarked]
      exact (Nat.add_le_add_right (movedAnnounced_length_le _ _ adapter) 2).trans_lt (by decide)
    rw [migrateAnnounced, hrun]
    rcases migrateExisting_announcements route hid hmoved hroom with
      ⟨migrated, after, hmigrated, hannounced⟩ | ⟨error, after, hmigrated, hannounced⟩
    · rw [final_of_ok (hrun.trans hmigrated), hmigrated, hannounced, hmarked]
    · rw [final_of_error (hrun.trans hmigrated), hmigrated, hannounced, hmarked, List.append_nil]

/-! ## Calls -/

def AdapterCall.announced : AdapterCall → QuicTransportAdapter ρ → List Announcement
  | .connect route, adapter => connectAnnounced route adapter
  | .listen _, _ => []
  | .updateSessionState id state _ _, adapter => adapter.movedAnnounced id state
  | .suppressReconnect key _, _ => [("reconnect.suppressed", peerSubject key.peer)]
  | .clearReconnectSuppression key, adapter =>
    if (adapter.findReconnectSuppression key).isSome then
      [("reconnect.unsuppressed", peerSubject key.peer)]
    else []
  | .updateListenerState _ _ _, _ => []
  | .scheduleReconnect key reason maxAttempts baseBackoffSecs maxBackoffSecs, adapter =>
    if (adapter.scheduleReconnect key reason maxAttempts baseBackoffSecs maxBackoffSecs).1.state =
        .failed then
      [("reconnect.failed", peerSubject key.peer), ("path.failed", peerSubject key.peer)]
    else [("reconnect.retry_scheduled", peerSubject key.peer)]
  | .clearReconnectAttempt key outcomeReason, adapter =>
    if (adapter.reconnectAttempts.find? fun attempt => attempt.key = key).isSome then
      [(attemptOutcomeEventType outcomeReason, peerSubject key.peer)]
    else []
  | .recordRuntimeEvent eventType subject _, _ => [(eventType, subject)]
  | .migrate session route, adapter => migrateAnnounced session route adapter
  | .closeSession session, adapter =>
    adapter.movedAnnounced session.sessionId .closing ++
      (closedBy session adapter).map fun id => ("session.closed", sessionSubject id)

def AdapterCall.closes : AdapterCall → QuicTransportAdapter ρ → List SessionId
  | .closeSession session, adapter => closedBy session adapter
  | _, _ => []

theorem AdapterCall.announced_withBuffers (call : AdapterCall) (adapter : QuicTransportAdapter ρ)
    (buffered : List RuntimeEvent) (ledger : List RuntimeSessionRecord) :
    call.announced (adapter.withBuffers buffered ledger) = call.announced adapter ∧
      call.closes (adapter.withBuffers buffered ledger) = call.closes adapter := by
  cases call with
  | connect route =>
    obtain ⟨answer, own, other, hown, hother⟩ := (connect_logs route).answer adapter buffered ledger
    refine ⟨?_, rfl⟩
    simp only [announced, connectAnnounced, hown, hother]
    cases answer <;> rfl
  | migrate session route =>
    obtain ⟨answer, own, other, hown, hother⟩ :=
      (migrate_logs session route).answer adapter buffered ledger
    refine ⟨?_, rfl⟩
    simp only [announced, migrateAnnounced, hown, hother]
    cases answer <;> rfl
  | closeSession session =>
    obtain ⟨answer, own, other, hown, hother⟩ :=
      (closeSession_logs session).answer adapter buffered ledger
    have hcloses : closedBy session (adapter.withBuffers buffered ledger) =
        closedBy session adapter := by
      simp only [closedBy, hown, hother]
      cases answer <;> rfl
    refine ⟨?_, hcloses⟩
    simp only [announced, hcloses]
    rfl
  | listen bind => exact ⟨rfl, rfl⟩
  | updateSessionState id state closureReason stateReason => exact ⟨rfl, rfl⟩
  | suppressReconnect key reason => exact ⟨rfl, rfl⟩
  | clearReconnectSuppression key => exact ⟨rfl, rfl⟩
  | updateListenerState id state stateReason => exact ⟨rfl, rfl⟩
  | scheduleReconnect key reason maxAttempts baseBackoffSecs maxBackoffSecs =>
    refine ⟨?_, rfl⟩
    simp only [announced, scheduleReconnect_returns]
    rfl
  | clearReconnectAttempt key outcomeReason => exact ⟨rfl, rfl⟩
  | recordRuntimeEvent eventType subject details => exact ⟨rfl, rfl⟩

theorem AdapterCall.run_outcome (call : AdapterCall) (hempty : adapter.runtimeEvents = [])
    (hledger : adapter.terminalSessions = []) :
    (call.run adapter).announcements = call.announced adapter ∧
      (call.run adapter).terminalSessions.map closedId = call.closes adapter := by
  have hnone := announcements_eq_nil hempty
  have hroom : adapter.announcements.length + 1 < maxRuntimeEvents := by
    rw [hnone]
    decide
  have houtcome : ∀ {after : QuicTransportAdapter ρ} {announced : List Announcement},
      Announces adapter announced after →
        after.announcements = announced ∧ after.terminalSessions.map closedId = [] := by
    intro after announced h
    rw [h.1, h.2, hnone, hledger]
    exact ⟨rfl, rfl⟩
  cases call with
  | connect route =>
    refine ⟨connect_announcements route hempty, ?_⟩
    exact congrArg (List.map closedId) (((connect_logs route).ledger adapter).trans hledger)
  | migrate session route =>
    refine ⟨migrate_announcements session route hempty, ?_⟩
    exact congrArg (List.map closedId) (((migrate_logs session route).ledger adapter).trans hledger)
  | closeSession session => exact closeSession_outcome session hempty hledger
  | listen bind => exact houtcome (.silent rfl rfl)
  | updateSessionState id state closureReason stateReason =>
    exact houtcome ⟨updateSessionState_announcements id state closureReason stateReason
      (Nat.lt_of_succ_lt hroom), (moveSession_logs id state closureReason stateReason).ledger adapter⟩
  | suppressReconnect key reason =>
    exact houtcome (suppressReconnect_announces key reason (Nat.lt_of_succ_lt hroom))
  | clearReconnectSuppression key =>
    exact houtcome (clearReconnectSuppression_announces key (Nat.lt_of_succ_lt hroom))
  | updateListenerState id state stateReason => exact houtcome (.silent rfl rfl)
  | scheduleReconnect key reason maxAttempts baseBackoffSecs maxBackoffSecs =>
    exact houtcome (scheduleReconnect_announces key reason maxAttempts baseBackoffSecs
      maxBackoffSecs hroom)
  | clearReconnectAttempt key outcomeReason =>
    exact houtcome (clearReconnectAttempt_announces key outcomeReason (Nat.lt_of_succ_lt hroom))
  | recordRuntimeEvent eventType subject details =>
    exact houtcome ⟨emitRuntimeEvent_announcements eventType subject details
      (Nat.lt_of_succ_lt hroom), emitRuntimeEvent_ledger _ _ _ adapter⟩

/-! ## Runs -/

def announcedHistory : QuicTransportAdapter ρ → List AdapterCall → List Announcement
  | _, [] => []
  | adapter, call :: calls => call.announced adapter ++ announcedHistory (call.run adapter) calls

def closedHistory : QuicTransportAdapter ρ → List AdapterCall → List SessionId
  | _, [] => []
  | adapter, call :: calls => call.closes adapter ++ closedHistory (call.run adapter) calls

/-- The events and the closes that a run leaves in its buffers are those told of its calls. -/
theorem histories_told (calls : List AdapterCall) (adapter : QuicTransportAdapter ρ) :
    (eventHistory adapter calls).map announcement = announcedHistory adapter calls ∧
      (closeHistory adapter calls).map closedId = closedHistory adapter calls := by
  induction calls generalizing adapter with
  | nil => exact ⟨rfl, rfl⟩
  | cons call calls ih =>
    obtain ⟨hlaterEvents, hlaterCloses⟩ := ih (call.run adapter)
    obtain ⟨hevents, hcloses⟩ := call.run_outcome (show (adapter.withBuffers [] []).runtimeEvents = []
      from rfl) rfl
    obtain ⟨hannounced, hclosed⟩ := call.announced_withBuffers adapter [] []
    rw [eventHistory, closeHistory, announcedHistory, closedHistory, List.map_append,
      List.map_append, hlaterEvents, hlaterCloses, ← hannounced, ← hclosed, ← hevents, ← hcloses]
    exact ⟨rfl, rfl⟩

/-- The registries are keyed; the ledger is the most recent closes, and the event buffer the
most recent events, of the histories told of the calls. -/
theorem adapter_registries (adapter : QuicTransportAdapter ρ) (calls : List AdapterCall) :
    let after := runAdapterCalls calls adapter.unused
    let events := eventHistory adapter.unused calls
    let closes := closeHistory adapter.unused calls
    let lastCloses := lastForKey closedId closes
    events.map announcement = announcedHistory adapter.unused calls ∧
      closes.map closedId = closedHistory adapter.unused calls ∧
      (∀ id record, after.runtimeSessions.find id = some record → record.snapshot.sessionId = id) ∧
      (after.reconnectSuppressions.map ReconnectSuppression.key).Nodup ∧
      (after.reconnectAttempts.map RuntimeReconnectAttempt.key).Nodup ∧
      after.terminalSessions.length ≤ 32 ∧
      (after.terminalSessions.map closedId).Nodup ∧
      (∀ record ∈ after.terminalSessions, record.snapshot.state = .closed) ∧
      after.terminalSessions <:+ lastCloses ∧
      after.terminalSessions.length = min 32 lastCloses.length ∧
      after.runtimeEvents <:+ events ∧
      after.runtimeEvents.length = min 256 events.length := by
  intro after events closes lastCloses
  have hunused : Keyed adapter.unused := ⟨List.nodup_nil, List.nodup_nil⟩
  have hkeyed : Keyed after := runAdapterCalls_keyed hunused calls
  have hevents : after.runtimeEvents = events.rtake maxRuntimeEvents :=
    (runAdapterCalls_events calls adapter.unused).trans (foldl_push maxRuntimeEvents [] events)
  have hterminal : after.terminalSessions = lastCloses.rtake maxTerminalSessions :=
    (runAdapterCalls_terminal calls adapter.unused).trans
      (foldl_pushKeyed maxTerminalSessions closedId [] closes)
  have hsuffix : after.terminalSessions <:+ lastCloses := by
    rw [hterminal]
    exact rtake_suffix _ _
  have hlength : after.terminalSessions.length = min 32 lastCloses.length := by
    rw [hterminal]
    exact length_rtake _ _
  obtain ⟨htold, hclosed⟩ := histories_told calls adapter.unused
  refine ⟨htold, hclosed, fun id record => after.runtimeSessions.keyed id record, hkeyed.suppressions,
    hkeyed.attempts, ?_, ?_, ?_, hsuffix, hlength, ?_, ?_⟩
  · rw [hlength]
    exact min_le_left _ _
  · exact (nodup_lastForKey _ _).sublist (hsuffix.sublist.map _)
  · intro record hrecord
    exact closeHistory_closed calls adapter.unused record
      (List.pwFilter_subset _ (hsuffix.subset hrecord))
  · rw [hevents]
    exact rtake_suffix _ _
  · rw [hevents]
    exact length_rtake _ _

end Calls

end QuipNet.Quic
