import QuipNet.CycleAgreement
import QuipNet.RuntimeHealth

/-!
# Live and terminal sessions

The id of a session is derived from its key, so a session that is opened again for the
key of a closed one has the same id. `connect` stores it in the registry and leaves the end
of the closed one on the terminal ledger.
-/

open Std
namespace QuipNet.Quic
open QuipNet.Library QuipNet.Library.Effect QuipNet.Relay QuipNet.Transport
open QuicTransportAdapter

variable {ρ : Type}

namespace QuicTransportAdapter

def terminalSessionSnapshot (adapter : QuicTransportAdapter ρ) (sessionId : SessionId) :
    Option SessionSnapshot :=
  (adapter.terminalSessions.find? fun record => record.snapshot.sessionId = sessionId).map
    RuntimeSessionRecord.snapshot

/-- No id is both in the registry and on the terminal ledger. -/
def LiveOrTerminal (adapter : QuicTransportAdapter ρ) : Prop :=
  ∀ record ∈ adapter.terminalSessions, adapter.runtimeSessions.find (closedId record) = none

end QuicTransportAdapter

/-! ## What a call does to the ids -/

structure SameSessions (before after : QuicTransportAdapter ρ) : Prop where
  sessions : after.runtimeSessions = before.runtimeSessions
  ledger : after.terminalSessions = before.terminalSessions

instance : Background (ρ := ρ) SameSessions where
  refl _ := ⟨rfl, rfl⟩
  trans _ _ _ h₁ h₂ := ⟨h₂.sessions.trans h₁.sessions, h₂.ledger.trans h₁.ledger⟩
  host _ _ _ := ⟨rfl, rfl⟩
  relays _ _ := ⟨rfl, rfl⟩
  events _ _ := ⟨rfl, rfl⟩

structure LedgerOf (id : SessionId) (before after : QuicTransportAdapter ρ) : Prop where
  ledger : ∀ record ∈ after.terminalSessions,
    record ∈ before.terminalSessions ∨ closedId record = id

instance (id : SessionId) : Background (ρ := ρ) (LedgerOf id) where
  refl _ := ⟨fun _ hrecord => .inl hrecord⟩
  trans _ _ _ h₁ h₂ := ⟨fun record hrecord => (h₂.ledger record hrecord).elim
    (h₁.ledger record) .inr⟩
  host _ _ _ := ⟨fun _ hrecord => .inl hrecord⟩
  relays _ _ := ⟨fun _ hrecord => .inl hrecord⟩
  events _ _ := ⟨fun _ hrecord => .inl hrecord⟩

section Calls
variable {adapter : QuicTransportAdapter ρ}

theorem SameSessions.liveOrTerminal {after : QuicTransportAdapter ρ}
    (h : SameSessions adapter after) (happart : adapter.LiveOrTerminal) : after.LiveOrTerminal := by
  intro record hrecord
  rw [h.ledger] at hrecord
  rw [h.sessions]
  exact happart record hrecord

theorem SameSessions.emit {written : QuicTransportAdapter ρ} (h : SameSessions adapter written)
    (eventType : String) (subject : RuntimeEventSubject) (details : Json) :
    SameSessions adapter (written.emitRuntimeEvent eventType subject details) :=
  IsTrans.trans _ _ _ h (emitRuntimeEvent_background eventType subject details written)

theorem suppressReconnect_sameSessions (key : SessionKey) (reason : String)
    (adapter : QuicTransportAdapter ρ) :
    SameSessions adapter (adapter.suppressReconnect key reason) := by
  refine SameSessions.emit ?_ _ _ _
  exact ⟨rfl, rfl⟩

theorem clearReconnectSuppression_sameSessions (key : SessionKey)
    (adapter : QuicTransportAdapter ρ) :
    SameSessions adapter (adapter.clearReconnectSuppression key) := by
  unfold clearReconnectSuppression
  split
  · exact ⟨rfl, rfl⟩
  · refine SameSessions.emit ?_ _ _ _
    exact ⟨rfl, rfl⟩

theorem scheduleReconnect_sameSessions (key : SessionKey) (reason : String) (maxAttempts : UInt32)
    (baseBackoffSecs maxBackoffSecs : ℕ) (adapter : QuicTransportAdapter ρ) :
    SameSessions adapter
      (adapter.scheduleReconnect key reason maxAttempts baseBackoffSecs maxBackoffSecs).2 := by
  have hwritten : SameSessions adapter { adapter.ticked with reconnectAttempts :=
      (upsertAttempt adapter.reconnectAttempts key reason maxAttempts baseBackoffSecs
        maxBackoffSecs adapter.currentUnixSecs).2 } := ⟨rfl, rfl⟩
  unfold scheduleReconnect
  dsimp only
  split_ifs
  · exact (hwritten.emit _ _ _).emit _ _ _
  · exact hwritten.emit _ _ _

theorem clearReconnectAttempt_sameSessions (key : SessionKey) (outcomeReason : Option String)
    (adapter : QuicTransportAdapter ρ) :
    SameSessions adapter (adapter.clearReconnectAttempt key outcomeReason) := by
  unfold clearReconnectAttempt
  split
  · exact ⟨rfl, rfl⟩
  · refine SameSessions.emit ?_ _ _ _
    exact ⟨rfl, rfl⟩

theorem find_move_of_none {id : SessionId} (hnone : adapter.runtimeSessions.find id = none)
    (moved : SessionId) (state : RuntimeSessionState) (closureReason : Option SessionClosureReason)
    (stateReason : Option String) :
    (adapter.updateSessionState moved state closureReason stateReason).2.runtimeSessions.find id =
      none := by
  by_cases hid : id = moved
  · subst hid
    rw [find_updateSessionState, hnone, Option.map_none]
  · rw [(updateSessionState_touches moved state closureReason stateReason adapter).sessions id hid]
    exact hnone

theorem finishClose_ledger (active : RuntimeSessionRecord) :
    Moves (LedgerOf (closedId active)) (finishClose (some active) : QuicM ρ Unit) := by
  refine Moves.bind (closeOwnRelaySession_background _) ?_
  intro _
  refine Moves.bind unixSecs_background ?_
  intro now
  refine Moves.bind (Moves.modify fun adapter => ⟨?_⟩) fun _ => emit_background _ _ _
  intro record hrecord
  have hmem := List.mem_of_mem_drop hrecord
  rcases List.mem_append.1 hmem with hkept | hnew
  · exact .inl (List.mem_of_mem_filter hkept)
  · right
    rw [List.mem_singleton.1 hnew]
    rfl

theorem closeSession_ledger (session : SessionSnapshot) (adapter : QuicTransportAdapter ρ) :
    LedgerOf session.sessionId adapter (final (closeSession session) adapter) := by
  obtain ⟨closureReason, stateReason, closing, hclosing, hrun⟩ := takeForClose_eq session adapter
  have hledger : closing.terminalSessions = adapter.terminalSessions := by
    rw [hclosing]
    exact (moveSession_logs session.sessionId .closing closureReason stateReason).ledger adapter
  have htaken : LedgerOf session.sessionId adapter
      { closing with runtimeSessions := closing.runtimeSessions.remove session.sessionId } := by
    refine ⟨fun record hrecord => .inl ?_⟩
    rwa [hledger] at hrecord
  rw [final, closeSession, bind_of_ok hrun]
  cases hfind : closing.runtimeSessions.find session.sessionId with
  | none => exact htaken
  | some active =>
    have hid : closedId active = session.sessionId := SessionRegistry.sessionId_of_find hfind
    refine IsTrans.trans _ _ _ htaken ?_
    rw [← hid]
    exact finishClose_ledger active _

variable [Primitives]

theorem find_migrate_of_none {id : SessionId} (hnone : adapter.runtimeSessions.find id = none)
    (session : SessionSnapshot) (route : RoutePlan) :
    (final (migrate session route) adapter).runtimeSessions.find id = none := by
  by_cases hid : id = session.sessionId
  · let migrating := (adapter.updateSessionState session.sessionId .migrating none
      (some "daemon requested path migration")).2
    have hmoved : migrating.runtimeSessions.find session.sessionId = none := by
      rw [← hid]
      exact find_move_of_none hnone _ _ _ _
    have hunknown : migrating.sessionSnapshot session.sessionId = none := by
      rw [sessionSnapshot, hmoved, Option.map_none]
    have hrun : migrate session route adapter =
        .error (.invalidRoute "session is not active in runtime registry") migrating := by
      simp only [migrate, moveSession, bind_run, modify_run, get_run]
      rw [hunknown]
      rfl
    rw [final_of_error hrun, hid]
    exact hmoved
  · rw [(migrate_touches session route adapter).sessions id hid]
    exact hnone

end Calls

/-! ## Runs -/

section Runs
variable [Primitives]

/-- A connect that is not suppressed, for a route whose session id is on the ledger. -/
def AdapterCall.Reopens (adapter : QuicTransportAdapter ρ) : AdapterCall → Prop
  | .connect route => ¬ adapter.Suppressed route.key ∧ ∃ record ∈ adapter.terminalSessions,
      closedId record = logicalSessionId adapter.runtimeInstanceId route
  | _ => False

def NeverReopens : QuicTransportAdapter ρ → List AdapterCall → Prop
  | _, [] => True
  | adapter, call :: calls => ¬ call.Reopens adapter ∧ NeverReopens (call.run adapter) calls

theorem connect_liveOrTerminal {adapter : QuicTransportAdapter ρ} {route : RoutePlan}
    (hcall : ¬ (AdapterCall.connect route).Reopens adapter) (h : adapter.LiveOrTerminal) :
    (final (connect route) adapter).LiveOrTerminal := by
  intro record hrecord
  rw [(connect_logs route).ledger] at hrecord
  by_cases hid : closedId record = logicalSessionId adapter.runtimeInstanceId route
  · have hsuppressed : adapter.Suppressed route.key := by
      by_contra hfree
      exact hcall ⟨hfree, record, hrecord, hid⟩
    obtain ⟨reason, after, hrun, hsessions⟩ := refusesConnect_of_suppressed hsuppressed
    rw [final_of_error hrun, hsessions]
    exact h record hrecord
  · rw [connect_sessions adapter route hid]
    exact h record hrecord

theorem AdapterCall.run_liveOrTerminal {call : AdapterCall} {adapter : QuicTransportAdapter ρ}
    (hcall : ¬ call.Reopens adapter) (h : adapter.LiveOrTerminal) :
    (call.run adapter).LiveOrTerminal := by
  cases call with
  | connect route => exact connect_liveOrTerminal hcall h
  | listen bind => exact h
  | updateSessionState id state closureReason stateReason =>
    intro record hrecord
    have hledger := (moveSession_logs id state closureReason stateReason).ledger adapter
    exact find_move_of_none (h record (hledger ▸ hrecord)) _ _ _ _
  | suppressReconnect key reason =>
    exact (suppressReconnect_sameSessions key reason adapter).liveOrTerminal h
  | clearReconnectSuppression key =>
    exact (clearReconnectSuppression_sameSessions key adapter).liveOrTerminal h
  | updateListenerState id state stateReason => exact h
  | scheduleReconnect key reason maxAttempts baseBackoffSecs maxBackoffSecs =>
    exact (scheduleReconnect_sameSessions key reason maxAttempts baseBackoffSecs maxBackoffSecs
      adapter).liveOrTerminal h
  | clearReconnectAttempt key outcomeReason =>
    exact (clearReconnectAttempt_sameSessions key outcomeReason adapter).liveOrTerminal h
  | recordRuntimeEvent eventType subject details =>
    have hsame : SameSessions adapter (adapter.emitRuntimeEvent eventType subject details) :=
      emitRuntimeEvent_background eventType subject details adapter
    exact hsame.liveOrTerminal h
  | migrate session route =>
    intro record hrecord
    have hledger := (migrate_logs session route).ledger adapter
    exact find_migrate_of_none (h record (hledger ▸ hrecord)) session route
  | closeSession session =>
    intro record hrecord
    by_cases hid : closedId record = session.sessionId
    · rw [hid]
      exact closeSession_find session adapter
    · have hold := ((closeSession_ledger session adapter).ledger record hrecord).resolve_right hid
      change (final (Quic.closeSession session) adapter).runtimeSessions.find _ = none
      rw [(closeSession_touches session adapter).sessions _ hid]
      exact h record hold

theorem runAdapterCalls_liveOrTerminal {calls : List AdapterCall}
    {adapter : QuicTransportAdapter ρ} (hcalls : NeverReopens adapter calls)
    (h : adapter.LiveOrTerminal) : (runAdapterCalls calls adapter).LiveOrTerminal := by
  induction calls generalizing adapter with
  | nil => exact h
  | cons call calls ih => exact ih hcalls.2 (call.run_liveOrTerminal hcalls.1 h)

theorem NeverReopens.of_prefix {done calls : List AdapterCall} (hdone : done <+: calls)
    {adapter : QuicTransportAdapter ρ} (h : NeverReopens adapter calls) :
    NeverReopens adapter done := by
  induction done generalizing adapter calls with
  | nil => trivial
  | cons call done ih =>
    obtain ⟨rest, rfl⟩ := hdone
    exact ⟨h.1, ih (List.prefix_append done rest) h.2⟩

theorem nodup_terminal (adapter : QuicTransportAdapter ρ) (calls : List AdapterCall) :
    ((runAdapterCalls calls adapter.unused).terminalSessions.map closedId).Nodup := by
  have hterminal : (runAdapterCalls calls adapter.unused).terminalSessions =
      (lastForKey closedId (closeHistory adapter.unused calls)).rtake maxTerminalSessions :=
    (runAdapterCalls_terminal calls adapter.unused).trans
      (foldl_pushKeyed maxTerminalSessions closedId [] (closeHistory adapter.unused calls))
  rw [hterminal]
  exact (nodup_lastForKey _ _).sublist ((rtake_suffix _ _).sublist.map _)

end Runs

theorem terminalSessionSnapshot_of_live {adapter : QuicTransportAdapter ρ} {id : SessionId}
    (h : adapter.LiveOrTerminal) (hlive : (adapter.runtimeSessions.find id).isSome) :
    adapter.terminalSessionSnapshot id = none := by
  have hnone : (adapter.terminalSessions.find? fun record => record.snapshot.sessionId = id) =
      none := by
    rw [List.find?_eq_none]
    intro record hrecord hid
    have hfree := h record hrecord
    rw [decide_eq_true_eq] at hid
    rw [closedId, hid] at hfree
    simp [hfree] at hlive
  rw [terminalSessionSnapshot, hnone, Option.map_none]

end QuipNet.Quic

namespace QuipNet.Daemon
open QuipNet.Fabric QuipNet.Library QuipNet.Library.Effect QuipNet.Quic QuipNet.Transport
open QuicTransportAdapter

variable {ρ : Type}

def sessionInventoryOrder (left right : SessionSnapshot) : Ordering :=
  (compare right.lastActivityUnixSecs left.lastActivityUnixSecs).then
    (compare left.peer.toText right.peer.toText)

def runtimeSessionInventory (state : DaemonState) (transport : QuicTransportAdapter ρ) :
    List SessionSnapshot :=
  (state.activeSessions ++ transport.recentTerminalSessions 16).insertionSort fun left right =>
    (sessionInventoryOrder left right).isLE

theorem nodup_inventory {state : DaemonState} {adapter : QuicTransportAdapter ρ}
    (hstate : state.activeSessions = adapter.activeSessions) (h : adapter.LiveOrTerminal)
    (hledger : (adapter.terminalSessions.map closedId).Nodup) :
    ((runtimeSessionInventory state adapter).map SessionSnapshot.sessionId).Nodup := by
  have hlive : (adapter.activeSessions.map SessionSnapshot.sessionId).Nodup := by
    rw [List.Nodup, List.pairwise_map]
    exact adapter.runtimeSessions.snapshots_pairwise
  have hterminal : ((adapter.recentTerminalSessions 16).map SessionSnapshot.sessionId).Nodup := by
    have hsublist : (adapter.terminalSessions.reverse.take 16).Sublist
        adapter.terminalSessions.reverse := List.take_sublist _ _
    rw [recentTerminalSessions, List.map_map]
    refine List.Nodup.sublist (hsublist.map closedId) ?_
    rw [List.map_reverse, List.nodup_reverse]
    exact hledger
  have hperm : (runtimeSessionInventory state adapter).Perm
      (adapter.activeSessions ++ adapter.recentTerminalSessions 16) := by
    rw [runtimeSessionInventory, hstate]
    exact List.perm_insertionSort _ _
  rw [(hperm.map SessionSnapshot.sessionId).nodup_iff, List.map_append]
  refine hlive.append hterminal ?_
  intro id hid hclosed
  obtain ⟨session, hsession, rfl⟩ := List.mem_map.1 hid
  obtain ⟨record, hrecord, rfl⟩ := SessionRegistry.mem_snapshots.1 hsession
  obtain ⟨ended, hended, hsame⟩ := List.mem_map.1 hclosed
  obtain ⟨entry, hentry, rfl⟩ := List.mem_map.1 hended
  have hfree := h entry (List.mem_reverse.1 (List.mem_of_mem_take hentry))
  rw [closedId, hsame, hrecord] at hfree
  cases hfree

section Hashing
variable [Primitives]

/-- Along every run of calls of which no connect reopens an id of the ledger, an id is live
or terminal. -/
theorem session_live_or_terminal (adapter : QuicTransportAdapter ρ) {calls : List AdapterCall}
    (h : NeverReopens adapter.unused calls) {done : List AdapterCall} (hdone : done <+: calls) :
    let reached := runAdapterCalls done adapter.unused
    (∀ record ∈ reached.terminalSessions, reached.runtimeSessions.find (closedId record) = none) ∧
      (∀ id, (reached.runtimeSessions.find id).isSome → reached.terminalSessionSnapshot id = none) ∧
      ∀ config file state opened,
        LocalControlPlane.syncRuntimeSessions config ⟨file, reached⟩ = .ok state opened →
          ((runtimeSessionInventory state reached).map SessionSnapshot.sessionId).Nodup := by
  intro reached
  have hunused : adapter.unused.LiveOrTerminal := by
    intro record hrecord
    cases hrecord
  have happart : reached.LiveOrTerminal :=
    runAdapterCalls_liveOrTerminal (h.of_prefix hdone) hunused
  refine ⟨happart, fun id => terminalSessionSnapshot_of_live happart, ?_⟩
  intro config file state opened hsync
  obtain ⟨loaded, between, hload, hstate⟩ := bind_eq_ok hsync
  have hbetween := (LocalControlPlane.ensureState_ok hload reached).2
  cases hstate
  refine nodup_inventory ?_ happart (nodup_terminal adapter done)
  rw [hbetween]

end Hashing

section Closed
attribute [local instance] Primitives.transparent

def directSession : SessionSnapshot :=
  { edgeSession with sessionId := logicalSessionId "rt-1" directRoute }

theorem closed_session_only_terminal :
    let reached := runAdapterCalls [.connect directRoute, .closeSession directSession]
      (edgeAdapter fun _ => true).unused
    reached.terminalSessions.map closedId = [directSession.sessionId] ∧
      reached.runtimeSessions.find directSession.sessionId = none := by
  intro reached
  have hledger : reached.terminalSessions.map closedId = [directSession.sessionId] := by
    decide +kernel
  have hnever : NeverReopens (edgeAdapter fun _ => true).unused
      [.connect directRoute, .closeSession directSession] := by
    simp [NeverReopens, AdapterCall.Reopens, QuicTransportAdapter.unused]
  have happart := (session_live_or_terminal (edgeAdapter fun _ => true) hnever
    (List.prefix_refl _)).1
  refine ⟨hledger, ?_⟩
  have hmem : directSession.sessionId ∈ reached.terminalSessions.map closedId := by
    rw [hledger]
    exact List.mem_singleton_self _
  obtain ⟨record, hrecord, hid⟩ := List.mem_map.1 hmem
  rw [← hid]
  exact happart record hrecord

theorem reopened_session_live_and_terminal :
    let reached := runAdapterCalls
      [.connect directRoute, .closeSession directSession, .connect directRoute]
      (edgeAdapter fun _ => true).unused
    (∃ record ∈ reached.terminalSessions,
        (reached.runtimeSessions.find (closedId record)).isSome = true) ∧
      (reached.terminalSessionSnapshot directSession.sessionId).isSome = true ∧
      (runtimeSessionInventory { fixtureDaemonState "mesh" with
        activeSessions := reached.activeSessions } reached).map
          (fun session => (session.sessionId, session.state)) =
        [(directSession.sessionId, .active), (directSession.sessionId, .closed)] := by
  decide +kernel

end Closed

end QuipNet.Daemon
