import QuipNet.Library.Recent
import QuipNet.SuppressionRuns

/-!
# The adapter's registries over its history

No call reads the event buffer or the ledger of closed sessions; a call only appends to
them. `Logs` says so for a computation on the adapter, with bounds on what it appends,
and that it leaves the reconnect registries alone. What a call emits and closes is what it
leaves in empty buffers, and the buffers of a run are then the last items of its history.
-/

open Std
namespace QuipNet.Quic
open QuipNet.Library QuipNet.Library.Effect QuipNet.Relay QuipNet.Transport
open QuicTransportAdapter

variable {ρ : Type}

def closedId (record : RuntimeSessionRecord) : SessionId := record.snapshot.sessionId

namespace QuicTransportAdapter

def withBuffers (events : List RuntimeEvent) (closed : List RuntimeSessionRecord)
    (adapter : QuicTransportAdapter ρ) : QuicTransportAdapter ρ :=
  { adapter with runtimeEvents := events, terminalSessions := closed }

def logged (events : List RuntimeEvent) (closed : List RuntimeSessionRecord)
    (adapter : QuicTransportAdapter ρ) : QuicTransportAdapter ρ :=
  adapter.withBuffers (events.foldl (push maxRuntimeEvents) adapter.runtimeEvents)
    (closed.foldl (pushKeyed maxTerminalSessions closedId) adapter.terminalSessions)

theorem logged_withBuffers (events buffered : List RuntimeEvent)
    (closed ledger : List RuntimeSessionRecord) (adapter : QuicTransportAdapter ρ) :
    (adapter.withBuffers buffered ledger).logged events closed =
      adapter.withBuffers (events.foldl (push maxRuntimeEvents) buffered)
        (closed.foldl (pushKeyed maxTerminalSessions closedId) ledger) := rfl

theorem withBuffers_reconnectAttempts (buffered : List RuntimeEvent)
    (ledger : List RuntimeSessionRecord) (adapter : QuicTransportAdapter ρ) :
    (adapter.withBuffers buffered ledger).reconnectAttempts = adapter.reconnectAttempts := rfl

theorem withBuffers_currentUnixSecs (buffered : List RuntimeEvent)
    (ledger : List RuntimeSessionRecord) (adapter : QuicTransportAdapter ρ) :
    (adapter.withBuffers buffered ledger).currentUnixSecs = adapter.currentUnixSecs := rfl

end QuicTransportAdapter

def SameReconnects (before after : QuicTransportAdapter ρ) : Prop :=
  after.reconnectSuppressions = before.reconnectSuppressions ∧
    after.reconnectAttempts = before.reconnectAttempts

def answered {α : Type} (answer : Except TransportError α) (adapter : QuicTransportAdapter ρ) :
    EStateM.Result TransportError (QuicTransportAdapter ρ) α :=
  match answer with
  | .ok value => .ok value adapter
  | .error error => .error error adapter

/-- Whatever is in the buffers, `m` appends the same at most `k` events and at most `c` closed
sessions to them. -/
def Logs {α : Type} (k c : ℕ) (m : QuicM ρ α) : Prop :=
  ∀ adapter, ∃ events closed after answer, events.length ≤ k ∧ closed.length ≤ c ∧
    (∀ record ∈ closed, record.snapshot.state = .closed) ∧ SameReconnects adapter after ∧
      ∀ buffered ledger, m (adapter.withBuffers buffered ledger) =
        answered answer ((after.withBuffers buffered ledger).logged events closed)

namespace Logs

variable {α β : Type} {k k' c c' : ℕ}

theorem of_result {m : QuicM ρ α}
    (h : ∀ adapter, ∃ after answer, SameReconnects adapter after ∧
      ∀ buffered ledger, m (adapter.withBuffers buffered ledger) =
        answered answer (after.withBuffers buffered ledger)) : Logs k c m := by
  intro adapter
  obtain ⟨after, answer, hsame, hm⟩ := h adapter
  exact ⟨[], [], after, answer, Nat.zero_le k, Nat.zero_le c, by simp, hsame, hm⟩

theorem pure (value : α) : Logs k c (pure value : QuicM ρ α) :=
  of_result fun adapter => ⟨adapter, .ok value, ⟨rfl, rfl⟩, fun _ _ => rfl⟩

theorem throw (error : TransportError) : Logs k c (throw error : QuicM ρ α) :=
  of_result fun adapter => ⟨adapter, .error error, ⟨rfl, rfl⟩, fun _ _ => rfl⟩

theorem bind {m : QuicM ρ α} {f : α → QuicM ρ β} (hm : Logs k c m) (hf : ∀ value, Logs k' c' (f value)) :
    Logs (k + k') (c + c') (m >>= f) := by
  intro adapter
  obtain ⟨events, closed, after, answer, hevents, hclosed, hstate, hsame, hrun⟩ := hm adapter
  cases answer with
  | error error =>
    refine ⟨events, closed, after, .error error, by omega, by omega, hstate, hsame, ?_⟩
    intro buffered ledger
    exact bind_of_error (hrun buffered ledger)
  | ok value =>
    obtain ⟨events', closed', after', answer', hevents', hclosed', hstate', hsame', hrun'⟩ :=
      hf value after
    refine ⟨events ++ events', closed ++ closed', after', answer', ?_, ?_, ?_, ?_, ?_⟩
    · rw [List.length_append]
      omega
    · rw [List.length_append]
      omega
    · intro record hrecord
      rcases List.mem_append.mp hrecord with hold | hnew
      · exact hstate record hold
      · exact hstate' record hnew
    · exact ⟨hsame'.1.trans hsame.1, hsame'.2.trans hsame.2⟩
    · intro buffered ledger
      rw [bind_of_ok (hrun buffered ledger)]
      simp only [logged, withBuffers, List.foldl_append] at hrun' ⊢
      exact hrun' _ _

theorem silent_bind {m : QuicM ρ α} {f : α → QuicM ρ β} (hm : Logs 0 0 m)
    (hf : ∀ value, Logs k c (f value)) : Logs k c (m >>= f) := by
  have h := hm.bind hf
  rwa [Nat.zero_add, Nat.zero_add] at h

theorem bind_silent {m : QuicM ρ α} {f : α → QuicM ρ β} (hm : Logs k c m)
    (hf : ∀ value, Logs 0 0 (f value)) : Logs k c (m >>= f) := hm.bind hf

theorem get_bind {f : QuicTransportAdapter ρ → QuicM ρ α}
    (hbuffers : ∀ adapter buffered ledger, f (adapter.withBuffers buffered ledger) = f adapter)
    (hf : ∀ adapter, Logs k c (f adapter)) : Logs k c (get >>= f) := by
  intro adapter
  obtain ⟨events, closed, after, answer, hevents, hclosed, hstate, hsame, hrun⟩ := hf adapter adapter
  refine ⟨events, closed, after, answer, hevents, hclosed, hstate, hsame, ?_⟩
  intro buffered ledger
  rw [← hrun buffered ledger, ← hbuffers adapter buffered ledger]
  rfl

theorem modifyGet {g : QuicTransportAdapter ρ → α × QuicTransportAdapter ρ}
    (hsame : ∀ adapter, SameReconnects adapter (g adapter).2)
    (hbuffers : ∀ adapter buffered ledger, g (adapter.withBuffers buffered ledger) =
      ((g adapter).1, (g adapter).2.withBuffers buffered ledger)) :
    Logs k c (modifyGet g : QuicM ρ α) := by
  refine of_result fun adapter => ⟨(g adapter).2, .ok (g adapter).1, hsame adapter, ?_⟩
  intro buffered ledger
  change EStateM.Result.ok _ _ = _
  rw [hbuffers]
  rfl

theorem ite {p : Prop} [Decidable p] {m n : QuicM ρ α} (hm : Logs k c m) (hn : Logs k c n) :
    Logs k c (if p then m else n) := by
  split_ifs
  · exact hm
  · exact hn

theorem mono {m : QuicM ρ α} (hm : Logs k c m) (hk : k ≤ k') (hc : c ≤ c') : Logs k' c' m := by
  intro adapter
  obtain ⟨events, closed, after, answer, hevents, hclosed, hrest⟩ := hm adapter
  exact ⟨events, closed, after, answer, hevents.trans hk, hclosed.trans hc, hrest⟩

end Logs

/-! ## The operations -/

def emittedEvent (eventType : String) (subject : RuntimeEventSubject) (details : Json)
    (adapter : QuicTransportAdapter ρ) : RuntimeEvent where
  eventId := "evt-" ++ Nat.repr adapter.currentUnixNanos
  eventType := eventType
  emittedAt := Calendar.iso8601Seconds adapter.ticked.currentUnixSecs ++ "Z"
  truthKind := "runtime"
  subject := subject
  details := details

theorem lastOf_eq_rtake {α : Type} (max : ℕ) (items : List α) : lastOf max items = items.rtake max :=
  rfl

theorem emitRuntimeEvent_withBuffers (eventType : String) (subject : RuntimeEventSubject)
    (details : Json) (adapter : QuicTransportAdapter ρ) (buffered : List RuntimeEvent)
    (ledger : List RuntimeSessionRecord) :
    (adapter.withBuffers buffered ledger).emitRuntimeEvent eventType subject details =
      (adapter.ticked.ticked.withBuffers buffered ledger).logged
        [emittedEvent eventType subject details adapter] [] := by
  simp only [emitRuntimeEvent, lastOf_eq_rtake, logged, withBuffers, List.foldl_cons, List.foldl_nil,
    push, emittedEvent, ticked, currentUnixNanos, currentUnixSecs]

theorem emitRuntimeEvent_sameReconnects (eventType : String) (subject : RuntimeEventSubject)
    (details : Json) (adapter : QuicTransportAdapter ρ) :
    SameReconnects adapter (adapter.emitRuntimeEvent eventType subject details) := by
  constructor <;> simp only [emitRuntimeEvent, ticked]

theorem emit_logs (eventType : String) (subject : RuntimeEventSubject) (details : Json) :
    Logs 1 0 (modify (emitRuntimeEvent eventType subject details) : QuicM ρ Unit) := by
  intro adapter
  refine ⟨[emittedEvent eventType subject details adapter], [], adapter.ticked.ticked, .ok (), le_rfl,
    le_rfl, by simp, ⟨rfl, rfl⟩, ?_⟩
  intro buffered ledger
  rw [modify_run, emitRuntimeEvent_withBuffers]
  rfl

theorem recordTerminalSession_logs {record : RuntimeSessionRecord}
    (h : record.snapshot.state = .closed) :
    Logs 0 1 (modify (recordTerminalSession record) : QuicM ρ Unit) := by
  intro adapter
  refine ⟨[], [record], adapter, .ok (), le_rfl, le_rfl, ?_, ⟨rfl, rfl⟩, ?_⟩
  · intro other hother
    rwa [List.mem_singleton.mp hother]
  · intro buffered ledger
    simp only [modify_run, recordTerminalSession, lastOf_eq_rtake, answered, logged, withBuffers,
      List.foldl_cons, List.foldl_nil, pushKeyed, push, closedId]
    rfl

theorem fillBytes_logs (n : ℕ) : Logs 0 0 (fillBytes n : QuicM ρ _) :=
  Logs.modifyGet (fun _ => ⟨rfl, rfl⟩) fun _ _ _ => rfl

theorem unixSecs_logs : Logs 0 0 (unixSecs : QuicM ρ ℕ) :=
  Logs.modifyGet (fun _ => ⟨rfl, rfl⟩) fun _ _ _ => rfl

theorem openRelaySession_logs (endpoint : String) (request : RelayOpenRequest) :
    Logs 0 0 (openRelaySession endpoint request : QuicM ρ RelaySessionAccepted) := by
  refine Logs.of_result fun adapter => ?_
  rcases hanswer : adapter.relayControl.openSession endpoint request adapter.relays
    with ⟨error | accepted, relays⟩
  · refine ⟨{ adapter with relays }, .error (.relayRejected error.text), ⟨rfl, rfl⟩, ?_⟩
    intro buffered ledger
    simp only [openRelaySession, withBuffers, hanswer, answered]
  · refine ⟨{ adapter with relays }, .ok accepted, ⟨rfl, rfl⟩, ?_⟩
    intro buffered ledger
    simp only [openRelaySession, withBuffers, hanswer, answered]

theorem closeRelayTransportSession_logs (endpoint : Option String) (id : SessionId) :
    Logs 0 0 (closeRelayTransportSession endpoint id : QuicM ρ Unit) := by
  cases endpoint with
  | none => exact Logs.throw _
  | some endpoint =>
    refine Logs.of_result fun adapter => ?_
    rcases hanswer : adapter.relayControl.closeSession endpoint id "path migrated" adapter.relays
      with ⟨error | closed, relays⟩
    · refine ⟨{ adapter with relays }, .error (.relayRejected error.text), ⟨rfl, rfl⟩, ?_⟩
      intro buffered ledger
      simp only [closeRelayTransportSession, withBuffers, hanswer, answered]
    · refine ⟨{ adapter with relays }, .ok (), ⟨rfl, rfl⟩, ?_⟩
      intro buffered ledger
      simp only [closeRelayTransportSession, withBuffers, hanswer, answered]

theorem closeLeftRelaySession_logs (previous next : SessionSnapshot) :
    Logs 0 0 (closeLeftRelaySession previous next : QuicM ρ Unit) :=
  Logs.ite (closeRelayTransportSession_logs _ _) (Logs.pure ())

theorem announceSession_logs (snapshot : SessionSnapshot) (previous : Option RuntimeSessionRecord) :
    Logs 2 0 (announceSession snapshot previous : QuicM ρ Unit) := by
  cases previous with
  | none => exact (emit_logs _ _ _).bind fun _ => emit_logs _ _ _
  | some previous =>
    exact (closeLeftRelaySession_logs _ _).silent_bind fun _ => (emit_logs _ _ _).mono (by omega) le_rfl

theorem upsertRuntimeSession_logs (record : RuntimeSessionRecord) :
    Logs 2 0 (upsertRuntimeSession record : QuicM ρ Unit) := by
  have hinsert : Logs 0 0 (modifyGet fun adapter : QuicTransportAdapter ρ =>
      (adapter.runtimeSessions.find record.snapshot.sessionId,
        { adapter with runtimeSessions := adapter.runtimeSessions.insert record }) : QuicM ρ _) :=
    Logs.modifyGet (fun _ => ⟨rfl, rfl⟩) fun _ _ _ => rfl
  exact hinsert.silent_bind fun previous => announceSession_logs record.snapshot previous

theorem removeRuntimeSession_logs (id : SessionId) :
    Logs 0 0 (removeRuntimeSession id : QuicM ρ (Option RuntimeSessionRecord)) :=
  Logs.modifyGet (fun _ => ⟨rfl, rfl⟩) fun _ _ _ => rfl

theorem moveSession_logs (id : SessionId) (state : RuntimeSessionState)
    (closureReason : Option SessionClosureReason) (stateReason : Option String) :
    Logs 1 0 (moveSession id state closureReason stateReason : QuicM ρ Unit) := by
  intro adapter
  cases hprior : adapter.sessionSnapshot id with
  | none =>
    refine ⟨[], [], adapter, .ok (), by simp, le_rfl, by simp, ⟨rfl, rfl⟩, ?_⟩
    intro buffered ledger
    have hprior' : (adapter.withBuffers buffered ledger).sessionSnapshot id = none := hprior
    simp only [moveSession, modify_run, updateSessionState, hprior']
    rfl
  | some prior =>
    let written := { adapter.ticked with
      runtimeSessions := adapter.runtimeSessions.move id state closureReason stateReason
        adapter.currentUnixSecs }
    let details : Json := .object [("peer_id", .string prior.peer.toText),
      ("prior_state", .string prior.state.label), ("next_state", .string state.label),
      ("closure_reason", Json.option (fun reason => .string reason.label) closureReason),
      ("reason", Json.option .string stateReason)]
    let eventType := runtimeEventTypeForState state
    let subject := sessionSubject prior.sessionId
    have hupdate : ∀ buffered ledger, ((adapter.withBuffers buffered ledger).updateSessionState id
        state closureReason stateReason).2 =
          (written.withBuffers buffered ledger).emitRuntimeEvent eventType subject details := by
      intro buffered ledger
      have hprior' : (adapter.withBuffers buffered ledger).sessionSnapshot id = some prior := hprior
      rw [updateSessionState, hprior']
      rfl
    refine ⟨[emittedEvent eventType subject details written], [], written.ticked.ticked, .ok (), le_rfl,
      le_rfl, by simp, ⟨rfl, rfl⟩, ?_⟩
    intro buffered ledger
    rw [moveSession, modify_run, hupdate, emitRuntimeEvent_withBuffers]
    rfl

theorem takeForClose_logs (session : SessionSnapshot) :
    Logs 1 0 (takeForClose session : QuicM ρ (Option RuntimeSessionRecord)) := by
  refine Logs.get_bind (fun _ _ _ => rfl) fun adapter => ?_
  exact (moveSession_logs _ _ _ _).bind fun _ => removeRuntimeSession_logs _

theorem finishClose_logs (taken : Option RuntimeSessionRecord) :
    Logs 1 1 (finishClose taken : QuicM ρ Unit) := by
  cases taken with
  | none => exact Logs.pure ()
  | some active =>
    have hrelay : Logs 0 0 (closeOwnRelaySession active.snapshot : QuicM ρ Unit) :=
      Logs.ite (closeRelayTransportSession_logs _ _) (Logs.pure ())
    refine hrelay.silent_bind fun _ => unixSecs_logs.silent_bind fun _ => ?_
    exact (recordTerminalSession_logs rfl).bind fun _ => emit_logs _ _ _

theorem closeSession_logs (session : SessionSnapshot) :
    Logs 2 1 (closeSession session : QuicM ρ Unit) :=
  (takeForClose_logs session).bind fun taken => finishClose_logs taken

section Sessions
variable [Primitives]

theorem directSessionSnapshot_logs (route : RoutePlan) :
    Logs 0 0 (directSessionSnapshot route : QuicM ρ SessionSnapshot) := by
  refine Logs.get_bind (fun _ _ _ => rfl) fun adapter => ?_
  split
  · exact Logs.throw _
  · refine Logs.ite (Logs.throw _) ?_
    split
    · exact Logs.throw _
    · exact unixSecs_logs.silent_bind fun _ => Logs.pure _

theorem issueCredential_logs (networkId : NetworkId) (localIdentity : IdentityKeypair)
    (protocol : Option ProtocolId) :
    Logs 0 0 (issueCredential networkId localIdentity protocol : QuicM ρ SessionCredential) :=
  (fillBytes_logs 32).silent_bind fun _ => unixSecs_logs.silent_bind fun _ =>
    (fillBytes_logs 16).silent_bind fun _ => Logs.pure _

theorem relaySessionSnapshot_logs (route : RoutePlan) (relay : RelayPlan) :
    Logs 0 0 (relaySessionSnapshot route relay : QuicM ρ SessionSnapshot) := by
  refine Logs.get_bind (fun _ _ _ => rfl) fun adapter => ?_
  split
  · exact Logs.throw _
  · split
    · exact Logs.throw _
    · refine Logs.ite (Logs.throw _) ?_
      refine (issueCredential_logs _ _ _).silent_bind fun _ => ?_
      refine (fillBytes_logs 16).silent_bind fun _ => ?_
      split
      · exact Logs.throw _
      · refine (openRelaySession_logs _ _).silent_bind fun _ => ?_
        exact unixSecs_logs.silent_bind fun _ => Logs.pure _

theorem sessionSnapshotForRoute_logs (route : RoutePlan) :
    Logs 0 0 (sessionSnapshotForRoute route : QuicM ρ SessionSnapshot) := by
  unfold sessionSnapshotForRoute
  split
  · exact relaySessionSnapshot_logs route _
  · exact directSessionSnapshot_logs route

theorem connect_logs (route : RoutePlan) :
    Logs 2 0 (connect route : QuicM ρ QuicConnectionHandle) := by
  refine Logs.get_bind (fun _ _ _ => rfl) fun adapter => ?_
  split
  · exact ((emit_logs _ _ _).mono (by omega) le_rfl).bind_silent fun _ => Logs.throw _
  · refine (sessionSnapshotForRoute_logs route).silent_bind fun _ => ?_
    exact (upsertRuntimeSession_logs _).bind_silent fun _ => Logs.pure _

theorem migrateExisting_logs (existing : SessionSnapshot) (route : RoutePlan) :
    Logs 3 0 (migrateExisting existing route : QuicM ρ SessionSnapshot) := by
  refine (sessionSnapshotForRoute_logs route).silent_bind fun _ => ?_
  refine unixSecs_logs.silent_bind fun _ => ?_
  refine (closeLeftRelaySession_logs _ _).silent_bind fun _ => ?_
  refine Logs.mono ((upsertRuntimeSession_logs _).bind fun _ => ?_) (k := 2 + 1) (c := 0 + 0) le_rfl
    le_rfl
  exact (emit_logs _ _ _).bind_silent fun _ => Logs.pure _

theorem migrate_logs (session : SessionSnapshot) (route : RoutePlan) :
    Logs 4 0 (migrate session route : QuicM ρ SessionSnapshot) := by
  refine Logs.mono ((moveSession_logs _ _ _ _).bind fun _ => ?_) (k := 1 + 3) (c := 0 + 0) le_rfl
    le_rfl
  refine Logs.get_bind (fun _ _ _ => rfl) fun adapter => ?_
  split
  · exact Logs.throw _
  · exact migrateExisting_logs _ route

end Sessions

/-! ## Reconnect registries -/

/-- Suppressions and attempts are keyed by peer, protocol and class. -/
structure Keyed (adapter : QuicTransportAdapter ρ) : Prop where
  suppressions : (adapter.reconnectSuppressions.map ReconnectSuppression.key).Nodup
  attempts : (adapter.reconnectAttempts.map RuntimeReconnectAttempt.key).Nodup

theorem SameReconnects.keyed {before after : QuicTransportAdapter ρ} (h : SameReconnects before after)
    (hbefore : Keyed before) : Keyed after := by
  refine ⟨?_, ?_⟩
  · rw [h.1]
    exact hbefore.suppressions
  · rw [h.2]
    exact hbefore.attempts

theorem suppressReconnect_keyed {adapter : QuicTransportAdapter ρ} (h : Keyed adapter)
    (key : SessionKey) (reason : String) : Keyed (adapter.suppressReconnect key reason) := by
  refine ⟨?_, ?_⟩
  · rw [suppressReconnect_suppressions]
    exact nodup_map_upsert (fun _ => decide_eq_true_iff) h.suppressions
  · unfold suppressReconnect
    rw [(emitRuntimeEvent_sameReconnects _ _ _ _).2]
    exact h.attempts

theorem clearReconnectSuppression_keyed {adapter : QuicTransportAdapter ρ} (h : Keyed adapter)
    (key : SessionKey) : Keyed (adapter.clearReconnectSuppression key) := by
  have hcleared : Keyed { adapter with reconnectSuppressions :=
      adapter.reconnectSuppressions.filter fun entry => entry.key ≠ key } :=
    ⟨h.suppressions.sublist (List.filter_sublist.map _), h.attempts⟩
  unfold clearReconnectSuppression
  split
  · exact hcleared
  · exact (emitRuntimeEvent_sameReconnects _ _ _ _).keyed hcleared

theorem nodup_upsertAttempt {attempts : List RuntimeReconnectAttempt}
    (h : (attempts.map RuntimeReconnectAttempt.key).Nodup) (key : SessionKey) (reason : String)
    (maxAttempts : UInt32) (baseBackoffSecs maxBackoffSecs now : ℕ) :
    ((upsertAttempt attempts key reason maxAttempts baseBackoffSecs maxBackoffSecs now).2.map
      RuntimeReconnectAttempt.key).Nodup := by
  rw [upsertAttempt_snd]
  apply nodup_map_upsert _ h
  intro attempt
  rw [key_upsertAttempt, decide_eq_true_iff]

theorem scheduleReconnect_keyed {adapter : QuicTransportAdapter ρ} (h : Keyed adapter)
    (key : SessionKey) (reason : String) (maxAttempts : UInt32)
    (baseBackoffSecs maxBackoffSecs : ℕ) :
    Keyed (adapter.scheduleReconnect key reason maxAttempts baseBackoffSecs maxBackoffSecs).2 := by
  have hupserted : Keyed { adapter.ticked with
      reconnectAttempts := (upsertAttempt adapter.reconnectAttempts key reason maxAttempts
        baseBackoffSecs maxBackoffSecs adapter.currentUnixSecs).2 } :=
    ⟨h.suppressions, nodup_upsertAttempt h.attempts _ _ _ _ _ _⟩
  unfold scheduleReconnect
  dsimp only
  split_ifs
  · refine (emitRuntimeEvent_sameReconnects _ _ _ _).keyed ?_
    exact (emitRuntimeEvent_sameReconnects _ _ _ _).keyed hupserted
  · exact (emitRuntimeEvent_sameReconnects _ _ _ _).keyed hupserted

theorem clearReconnectAttempt_keyed {adapter : QuicTransportAdapter ρ} (h : Keyed adapter)
    (key : SessionKey) (outcomeReason : Option String) :
    Keyed (adapter.clearReconnectAttempt key outcomeReason) := by
  have hcleared : Keyed { adapter with
      reconnectAttempts := adapter.reconnectAttempts.filter (fun attempt => attempt.key ≠ key) } :=
    ⟨h.suppressions, h.attempts.sublist (List.filter_sublist.map _)⟩
  unfold clearReconnectAttempt
  split
  · exact hcleared
  · exact (emitRuntimeEvent_sameReconnects _ _ _ _).keyed hcleared

/-! ## Calls -/

/-- On this adapter, `f` only appends to the buffers: at most one closed session, and no more
events than the buffer holds. -/
def AppendsAt (f : QuicTransportAdapter ρ → QuicTransportAdapter ρ)
    (adapter : QuicTransportAdapter ρ) : Prop :=
  ∃ (events : List RuntimeEvent) (closed : List RuntimeSessionRecord)
    (after : QuicTransportAdapter ρ), events.length ≤ maxRuntimeEvents ∧ closed.length ≤ 1 ∧
      (∀ record ∈ closed, record.snapshot.state = .closed) ∧
      ∀ buffered ledger, f (adapter.withBuffers buffered ledger) =
        (after.withBuffers buffered ledger).logged events closed

theorem final_of_answered {α : Type} {m : QuicM ρ α} {answer : Except TransportError α}
    {adapter after : QuicTransportAdapter ρ} (h : m adapter = answered answer after) :
    final m adapter = after := by
  cases answer with
  | ok value => exact final_of_ok h
  | error error => exact final_of_error h

theorem Logs.appendsAt {α : Type} {k c : ℕ} {m : QuicM ρ α} (h : Logs k c m)
    (hk : k ≤ maxRuntimeEvents) (hc : c ≤ 1) (adapter : QuicTransportAdapter ρ) :
    AppendsAt (final m) adapter := by
  obtain ⟨events, closed, after, answer, hevents, hclosed, hstate, -, hrun⟩ := h adapter
  refine ⟨events, closed, after, hevents.trans hk, hclosed.trans hc, hstate, ?_⟩
  intro buffered ledger
  exact final_of_answered (hrun buffered ledger)

theorem Logs.sameReconnects {α : Type} {k c : ℕ} {m : QuicM ρ α} (h : Logs k c m)
    (adapter : QuicTransportAdapter ρ) : SameReconnects adapter (final m adapter) := by
  obtain ⟨events, closed, after, answer, -, -, -, hsame, hrun⟩ := h adapter
  have hfinal : final m adapter = _ :=
    final_of_answered (hrun adapter.runtimeEvents adapter.terminalSessions)
  rw [hfinal]
  exact hsame

theorem Logs.ledger {α : Type} {k : ℕ} {m : QuicM ρ α} (h : Logs k 0 m)
    (adapter : QuicTransportAdapter ρ) :
    (final m adapter).terminalSessions = adapter.terminalSessions := by
  obtain ⟨events, closed, after, answer, -, hclosed, -, -, hrun⟩ := h adapter
  have hfinal : final m adapter = _ :=
    final_of_answered (hrun adapter.runtimeEvents adapter.terminalSessions)
  rw [hfinal, List.length_eq_zero_iff.1 (Nat.le_zero.1 hclosed)]
  rfl

theorem appendsAt_of_silent {f : QuicTransportAdapter ρ → QuicTransportAdapter ρ}
    {adapter : QuicTransportAdapter ρ} (written : QuicTransportAdapter ρ)
    (h : ∀ buffered ledger, f (adapter.withBuffers buffered ledger) =
      written.withBuffers buffered ledger) : AppendsAt f adapter :=
  ⟨[], [], written, Nat.zero_le _, Nat.zero_le _, by simp, h⟩

theorem appendsAt_of_emit {f : QuicTransportAdapter ρ → QuicTransportAdapter ρ}
    {adapter : QuicTransportAdapter ρ} (written : QuicTransportAdapter ρ) {eventType : String}
    {subject : RuntimeEventSubject} {details : Json}
    (h : ∀ buffered ledger, f (adapter.withBuffers buffered ledger) =
      (written.withBuffers buffered ledger).emitRuntimeEvent eventType subject details) :
    AppendsAt f adapter := by
  refine ⟨[emittedEvent eventType subject details written], [], written.ticked.ticked, ?_,
    Nat.zero_le _, by simp, ?_⟩
  · exact Nat.le_of_ble_eq_true rfl
  · intro buffered ledger
    rw [h, emitRuntimeEvent_withBuffers]

theorem appendsAt_of_emit_emit {f : QuicTransportAdapter ρ → QuicTransportAdapter ρ}
    {adapter : QuicTransportAdapter ρ} (written : QuicTransportAdapter ρ) {eventType eventType' : String}
    {subject subject' : RuntimeEventSubject} {details details' : Json}
    (h : ∀ buffered ledger, f (adapter.withBuffers buffered ledger) =
      ((written.withBuffers buffered ledger).emitRuntimeEvent eventType subject details).emitRuntimeEvent
        eventType' subject' details') :
    AppendsAt f adapter := by
  let emitted := emittedEvent eventType subject details written
  let after := written.ticked.ticked
  refine ⟨[emitted, emittedEvent eventType' subject' details' after], [], after.ticked.ticked, ?_,
    Nat.zero_le _, by simp, ?_⟩
  · exact Nat.le_of_ble_eq_true rfl
  · intro buffered ledger
    rw [h, emitRuntimeEvent_withBuffers, logged_withBuffers, emitRuntimeEvent_withBuffers,
      logged_withBuffers, logged_withBuffers]
    simp only [List.foldl_cons, List.foldl_nil, emitted, after]

theorem suppressReconnect_appendsAt (key : SessionKey) (reason : String)
    (adapter : QuicTransportAdapter ρ) : AppendsAt (suppressReconnect key reason) adapter :=
  appendsAt_of_emit { adapter.ticked with
    reconnectSuppressions := (adapter.suppressReconnect key reason).reconnectSuppressions }
      fun _ _ => rfl

theorem clearReconnectSuppression_appendsAt (key : SessionKey) (adapter : QuicTransportAdapter ρ) :
    AppendsAt (clearReconnectSuppression key) adapter := by
  let cleared := { adapter with reconnectSuppressions :=
    adapter.reconnectSuppressions.filter fun entry => entry.key ≠ key }
  cases hfound : adapter.findReconnectSuppression key with
  | none =>
    refine appendsAt_of_silent cleared fun buffered ledger => ?_
    have hfound' : (adapter.withBuffers buffered ledger).findReconnectSuppression key = none := hfound
    rw [clearReconnectSuppression, hfound']
    rfl
  | some removed =>
    apply appendsAt_of_emit cleared
    intro buffered ledger
    have hfound' : (adapter.withBuffers buffered ledger).findReconnectSuppression key =
      some removed := hfound
    rw [clearReconnectSuppression, hfound']
    rfl

theorem scheduleReconnect_appendsAt (key : SessionKey) (reason : String) (maxAttempts : UInt32)
    (baseBackoffSecs maxBackoffSecs : ℕ) (adapter : QuicTransportAdapter ρ) :
    AppendsAt (fun adapter => (adapter.scheduleReconnect key reason maxAttempts baseBackoffSecs
      maxBackoffSecs).2) adapter := by
  obtain ⟨upserted, hupserted⟩ : ∃ upserted, upsertAttempt adapter.reconnectAttempts key reason
    maxAttempts baseBackoffSecs maxBackoffSecs adapter.currentUnixSecs = upserted := ⟨_, rfl⟩
  let written := { adapter.ticked with reconnectAttempts := upserted.2 }
  by_cases hfailed : upserted.1.state = .failed
  · apply appendsAt_of_emit_emit written
    intro buffered ledger
    simp only [scheduleReconnect, withBuffers_reconnectAttempts, withBuffers_currentUnixSecs,
      hupserted]
    rw [if_pos hfailed]
    rfl
  · apply appendsAt_of_emit written
    intro buffered ledger
    simp only [scheduleReconnect, withBuffers_reconnectAttempts, withBuffers_currentUnixSecs,
      hupserted]
    rw [if_neg hfailed]
    rfl

theorem clearReconnectAttempt_appendsAt (key : SessionKey) (outcomeReason : Option String)
    (adapter : QuicTransportAdapter ρ) :
    AppendsAt (clearReconnectAttempt key outcomeReason) adapter := by
  let cleared := { adapter with reconnectAttempts :=
    adapter.reconnectAttempts.filter fun attempt => attempt.key ≠ key }
  cases hfound : adapter.reconnectAttempts.find? fun attempt => attempt.key = key with
  | none =>
    refine appendsAt_of_silent cleared fun buffered ledger => ?_
    unfold clearReconnectAttempt
    rw [withBuffers_reconnectAttempts, hfound]
    rfl
  | some snapshot =>
    apply appendsAt_of_emit cleared
    intro buffered ledger
    unfold clearReconnectAttempt
    rw [withBuffers_reconnectAttempts, hfound]
    rfl

theorem foldl_pushKeyed_of_length_le_one {closed : List RuntimeSessionRecord}
    (h : closed.length ≤ 1) : closed.foldl (pushKeyed maxTerminalSessions closedId) [] = closed := by
  cases closed with
  | nil => rfl
  | cons record rest =>
    obtain rfl : rest = [] := by simpa using h
    rw [List.foldl_cons, List.foldl_nil, pushKeyed, push, List.filter_nil, List.nil_append]
    exact rtake_of_length_le (by simp [maxTerminalSessions])

section Sessions
variable [Primitives]

theorem AdapterCall.appendsAt (call : AdapterCall) (adapter : QuicTransportAdapter ρ) :
    AppendsAt call.run adapter := by
  have hbound : ∀ k ≤ 4, k ≤ maxRuntimeEvents := fun k hk => hk.trans (Nat.le_of_ble_eq_true rfl)
  cases call with
  | connect route => exact (connect_logs route).appendsAt (hbound 2 (by decide)) (by decide) adapter
  | listen bind =>
    exact appendsAt_of_silent (adapter.listen bind) fun _ _ => rfl
  | updateSessionState id state closureReason stateReason =>
    exact (moveSession_logs id state closureReason stateReason).appendsAt (hbound 1 (by decide))
      (by decide) adapter
  | suppressReconnect key reason => exact suppressReconnect_appendsAt key reason adapter
  | clearReconnectSuppression key => exact clearReconnectSuppression_appendsAt key adapter
  | updateListenerState id state stateReason =>
    exact appendsAt_of_silent (adapter.updateListenerState id state stateReason) fun _ _ => rfl
  | scheduleReconnect key reason maxAttempts baseBackoffSecs maxBackoffSecs =>
    exact scheduleReconnect_appendsAt key reason maxAttempts baseBackoffSecs maxBackoffSecs adapter
  | clearReconnectAttempt key outcomeReason =>
    exact clearReconnectAttempt_appendsAt key outcomeReason adapter
  | recordRuntimeEvent eventType subject details =>
    exact appendsAt_of_emit adapter fun _ _ => rfl
  | migrate session route =>
    exact (migrate_logs session route).appendsAt (hbound 4 le_rfl) (by decide) adapter
  | closeSession session =>
    exact (closeSession_logs session).appendsAt (hbound 2 (by decide)) le_rfl adapter

def AdapterCall.emitted (call : AdapterCall) (adapter : QuicTransportAdapter ρ) :
    List RuntimeEvent :=
  (call.run (adapter.withBuffers [] [])).runtimeEvents

def AdapterCall.closed (call : AdapterCall) (adapter : QuicTransportAdapter ρ) :
    List RuntimeSessionRecord :=
  (call.run (adapter.withBuffers [] [])).terminalSessions

theorem AdapterCall.run_buffers (call : AdapterCall) (adapter : QuicTransportAdapter ρ) :
    (call.run adapter).runtimeEvents =
        (call.emitted adapter).foldl (push maxRuntimeEvents) adapter.runtimeEvents ∧
      (call.run adapter).terminalSessions =
        (call.closed adapter).foldl (pushKeyed maxTerminalSessions closedId)
          adapter.terminalSessions ∧
      ∀ record ∈ call.closed adapter, record.snapshot.state = .closed := by
  obtain ⟨events, closed, after, hevents, hclosed, hstate, hrun⟩ := call.appendsAt adapter
  have hempty := hrun [] []
  have hemitted : call.emitted adapter = events := by
    have hpushed := foldl_push maxRuntimeEvents [] events
    rw [List.rtake_nil, List.nil_append, rtake_of_length_le hevents] at hpushed
    unfold AdapterCall.emitted
    rw [hempty]
    exact hpushed
  have hclosed' : call.closed adapter = closed := by
    unfold AdapterCall.closed
    rw [hempty]
    exact foldl_pushKeyed_of_length_le_one hclosed
  have hself : adapter.withBuffers adapter.runtimeEvents adapter.terminalSessions = adapter := rfl
  have hown := hrun adapter.runtimeEvents adapter.terminalSessions
  rw [hself, logged_withBuffers] at hown
  rw [hemitted, hclosed', hown]
  exact ⟨rfl, rfl, hstate⟩

/-! ## Runs -/

def runAdapterCalls (calls : List AdapterCall) (adapter : QuicTransportAdapter ρ) :
    QuicTransportAdapter ρ :=
  calls.foldl (fun adapter call => call.run adapter) adapter

def eventHistory : QuicTransportAdapter ρ → List AdapterCall → List RuntimeEvent
  | _, [] => []
  | adapter, call :: calls => call.emitted adapter ++ eventHistory (call.run adapter) calls

def closeHistory : QuicTransportAdapter ρ → List AdapterCall → List RuntimeSessionRecord
  | _, [] => []
  | adapter, call :: calls => call.closed adapter ++ closeHistory (call.run adapter) calls

theorem runAdapterCalls_events (calls : List AdapterCall) (adapter : QuicTransportAdapter ρ) :
    (runAdapterCalls calls adapter).runtimeEvents =
      (eventHistory adapter calls).foldl (push maxRuntimeEvents) adapter.runtimeEvents := by
  induction calls generalizing adapter with
  | nil => rfl
  | cons call calls ih =>
    rw [eventHistory, List.foldl_append, ← (call.run_buffers adapter).1]
    exact ih (call.run adapter)

theorem runAdapterCalls_terminal (calls : List AdapterCall) (adapter : QuicTransportAdapter ρ) :
    (runAdapterCalls calls adapter).terminalSessions =
      (closeHistory adapter calls).foldl (pushKeyed maxTerminalSessions closedId)
        adapter.terminalSessions := by
  induction calls generalizing adapter with
  | nil => rfl
  | cons call calls ih =>
    rw [closeHistory, List.foldl_append, ← (call.run_buffers adapter).2.1]
    exact ih (call.run adapter)

theorem closeHistory_closed (calls : List AdapterCall) (adapter : QuicTransportAdapter ρ) :
    ∀ record ∈ closeHistory adapter calls, record.snapshot.state = .closed := by
  induction calls generalizing adapter with
  | nil => simp [closeHistory]
  | cons call calls ih =>
    intro record hrecord
    rcases List.mem_append.mp hrecord with hfirst | hlater
    · exact (call.run_buffers adapter).2.2 record hfirst
    · exact ih (call.run adapter) record hlater

theorem AdapterCall.run_keyed {adapter : QuicTransportAdapter ρ} (h : Keyed adapter)
    (call : AdapterCall) : Keyed (call.run adapter) := by
  cases call with
  | connect route => exact ((connect_logs route).sameReconnects adapter).keyed h
  | listen bind => exact ⟨h.suppressions, h.attempts⟩
  | updateSessionState id state closureReason stateReason =>
    exact ((moveSession_logs id state closureReason stateReason).sameReconnects adapter).keyed h
  | suppressReconnect key reason => exact suppressReconnect_keyed h key reason
  | clearReconnectSuppression key => exact clearReconnectSuppression_keyed h key
  | updateListenerState id state stateReason => exact ⟨h.suppressions, h.attempts⟩
  | scheduleReconnect key reason maxAttempts baseBackoffSecs maxBackoffSecs =>
    exact scheduleReconnect_keyed h key reason maxAttempts baseBackoffSecs maxBackoffSecs
  | clearReconnectAttempt key outcomeReason => exact clearReconnectAttempt_keyed h key outcomeReason
  | recordRuntimeEvent eventType subject details =>
    exact (emitRuntimeEvent_sameReconnects _ _ _ adapter).keyed h
  | migrate session route => exact ((migrate_logs session route).sameReconnects adapter).keyed h
  | closeSession session => exact ((closeSession_logs session).sameReconnects adapter).keyed h

theorem runAdapterCalls_keyed {adapter : QuicTransportAdapter ρ} (h : Keyed adapter)
    (calls : List AdapterCall) : Keyed (runAdapterCalls calls adapter) := by
  induction calls generalizing adapter with
  | nil => exact h
  | cons call calls ih => exact ih (call.run_keyed h)

def QuicTransportAdapter.unused (adapter : QuicTransportAdapter ρ) : QuicTransportAdapter ρ :=
  { adapter with
    runtimeSessions := {}
    terminalSessions := []
    runtimeListeners := ∅
    runtimeEvents := []
    reconnectSuppressions := []
    reconnectAttempts := [] }

end Sessions

end QuipNet.Quic
