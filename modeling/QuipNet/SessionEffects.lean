import QuipNet.Library.Upsert
import QuipNet.Quic

/-!
# What the adapter's operations touch

Three relations between the adapter before and after an operation: `Quiet` (no
session and no suppression changed), `TouchesSession id` (only the record of one
session id) and `Frame id key` (only that record and the suppressions of one
key). None of them is affected by an error on the way. After them, what happens
to the touched record itself.
-/

open Std
namespace QuipNet.Quic
open QuipNet.Library QuipNet.Library.Effect QuipNet.Relay QuipNet.Transport

variable {ρ : Type}

namespace QuicTransportAdapter

def Suppressed (adapter : QuicTransportAdapter ρ) (key : SessionKey) : Prop :=
  ∃ entry ∈ adapter.reconnectSuppressions, entry.key = key

structure Quiet (before after : QuicTransportAdapter ρ) : Prop where
  sessions : after.runtimeSessions = before.runtimeSessions
  suppressions : after.reconnectSuppressions = before.reconnectSuppressions
  relayControl : after.relayControl = before.relayControl

structure TouchesSession (id : SessionId) (before after : QuicTransportAdapter ρ) : Prop where
  sessions : ∀ other, other ≠ id →
    after.runtimeSessions.find other = before.runtimeSessions.find other
  suppressions : after.reconnectSuppressions = before.reconnectSuppressions
  relayControl : after.relayControl = before.relayControl

structure Frame (id : SessionId) (key : SessionKey) (before after : QuicTransportAdapter ρ) :
    Prop where
  sessions : ∀ other, other ≠ id →
    after.runtimeSessions.find other = before.runtimeSessions.find other
  suppressions : ∀ other, other ≠ key → (after.Suppressed other ↔ before.Suppressed other)
  relayControl : after.relayControl = before.relayControl

instance : IsPreorder (QuicTransportAdapter ρ) Quiet where
  refl _ := ⟨rfl, rfl, rfl⟩
  trans _ _ _ h₁ h₂ := ⟨h₂.sessions.trans h₁.sessions, h₂.suppressions.trans h₁.suppressions,
    h₂.relayControl.trans h₁.relayControl⟩

instance (id : SessionId) : IsPreorder (QuicTransportAdapter ρ) (TouchesSession id) where
  refl _ := ⟨fun _ _ => rfl, rfl, rfl⟩
  trans _ _ _ h₁ h₂ := ⟨fun other hother => (h₂.sessions other hother).trans
    (h₁.sessions other hother), h₂.suppressions.trans h₁.suppressions,
    h₂.relayControl.trans h₁.relayControl⟩

instance (id : SessionId) (key : SessionKey) : IsPreorder (QuicTransportAdapter ρ) (Frame id key) where
  refl _ := ⟨fun _ _ => rfl, fun _ _ => Iff.rfl, rfl⟩
  trans _ _ _ h₁ h₂ := ⟨fun other hother => (h₂.sessions other hother).trans
    (h₁.sessions other hother), fun other hother => (h₂.suppressions other hother).trans
    (h₁.suppressions other hother), h₂.relayControl.trans h₁.relayControl⟩

theorem Quiet.touchesSession {before after : QuicTransportAdapter ρ} (h : Quiet before after)
    (id : SessionId) : TouchesSession id before after :=
  ⟨fun _ _ => by rw [h.sessions], h.suppressions, h.relayControl⟩

theorem TouchesSession.frame {id : SessionId} {before after : QuicTransportAdapter ρ}
    (h : TouchesSession id before after) (key : SessionKey) : Frame id key before after :=
  ⟨h.sessions, fun _ _ => by rw [Suppressed, h.suppressions, Suppressed], h.relayControl⟩

theorem Quiet.suppressed_iff {before after : QuicTransportAdapter ρ} (h : Quiet before after)
    (key : SessionKey) : after.Suppressed key ↔ before.Suppressed key := by
  rw [Suppressed, h.suppressions, Suppressed]

theorem TouchesSession.suppressed_iff {id : SessionId} {before after : QuicTransportAdapter ρ}
    (h : TouchesSession id before after) (key : SessionKey) :
    after.Suppressed key ↔ before.Suppressed key := by
  rw [Suppressed, h.suppressions, Suppressed]

/-! ## Operations that cannot fail -/

theorem emitRuntimeEvent_quiet (eventType : String) (subject : RuntimeEventSubject) (details : Json)
    (adapter : QuicTransportAdapter ρ) :
    Quiet adapter (adapter.emitRuntimeEvent eventType subject details) := by
  constructor <;> simp only [emitRuntimeEvent, ticked]

theorem updateSessionState_touches (id : SessionId) (state : RuntimeSessionState)
    (closureReason : Option SessionClosureReason) (stateReason : Option String)
    (adapter : QuicTransportAdapter ρ) :
    TouchesSession id adapter (adapter.updateSessionState id state closureReason stateReason).2 := by
  unfold updateSessionState
  split
  · exact refl adapter
  · refine ⟨?_, rfl, rfl⟩
    intro other hother
    change (adapter.runtimeSessions.move id state closureReason stateReason _).find other = _
    rw [SessionRegistry.find_move, if_neg hother.symm]

theorem find_updateSessionState (id : SessionId) (state : RuntimeSessionState)
    (closureReason : Option SessionClosureReason) (stateReason : Option String)
    (adapter : QuicTransportAdapter ρ) :
    (adapter.updateSessionState id state closureReason stateReason).2.runtimeSessions.find id =
      (adapter.runtimeSessions.find id).map fun record => { record with
        snapshot := moved record.snapshot state closureReason stateReason adapter.currentUnixSecs } := by
  unfold updateSessionState sessionSnapshot
  cases hfind : adapter.runtimeSessions.find id with
  | none => simp [hfind]
  | some record =>
    change (adapter.runtimeSessions.move id state closureReason stateReason _).find id = _
    rw [SessionRegistry.find_move, if_pos rfl, hfind]

theorem findReconnectSuppression_isSome_iff (adapter : QuicTransportAdapter ρ) (key : SessionKey) :
    (adapter.findReconnectSuppression key).isSome ↔ adapter.Suppressed key := by
  simp only [findReconnectSuppression, List.find?_isSome, decide_eq_true_eq, Suppressed]

theorem suppressReconnect_suppressions (key : SessionKey) (reason : String)
    (adapter : QuicTransportAdapter ρ) :
    (adapter.suppressReconnect key reason).reconnectSuppressions =
      upsert (fun entry => entry.key = key)
        ⟨key.peer, key.protocol, key.trafficClass, reason, adapter.currentUnixSecs⟩
        adapter.reconnectSuppressions := by
  have hrewritten : (fun entry : ReconnectSuppression => if entry.key = key then
        some { entry with reason, imposedAtUnixSecs := adapter.currentUnixSecs } else none) =
      fun entry => if decide (entry.key = key) = true then
        some ⟨key.peer, key.protocol, key.trafficClass, reason, adapter.currentUnixSecs⟩
      else none := by
    funext entry
    by_cases hentry : entry.key = key
    · subst hentry
      rw [if_pos rfl, if_pos (decide_eq_true rfl)]
      rfl
    · rw [if_neg hentry, if_neg (by simpa using hentry)]
  unfold suppressReconnect upsert
  rw [(emitRuntimeEvent_quiet _ _ _ _).suppressions, hrewritten]

theorem suppressed_suppressReconnect (key : SessionKey) (reason : String)
    (adapter : QuicTransportAdapter ρ) (other : SessionKey) :
    (adapter.suppressReconnect key reason).Suppressed other ↔
      other = key ∨ adapter.Suppressed other := by
  rw [Suppressed, suppressReconnect_suppressions]
  constructor
  · rintro ⟨entry, hentry, rfl⟩
    rcases mem_upsert hentry with rfl | hheld
    · exact .inl rfl
    · exact .inr ⟨entry, hheld, rfl⟩
  · intro h
    by_cases hother : other = key
    · exact ⟨_, mem_upsert_self _ _ _, hother.symm⟩
    · obtain ⟨entry, hentry, rfl⟩ := h.resolve_left hother
      exact ⟨entry, mem_upsert_of_mem _ hentry (by simpa using hother), rfl⟩

theorem key_upsertAttempt (attempts : List RuntimeReconnectAttempt) (key : SessionKey)
    (reason : String) (maxAttempts : UInt32) (baseBackoffSecs maxBackoffSecs now : ℕ) :
    (upsertAttempt attempts key reason maxAttempts baseBackoffSecs maxBackoffSecs now).1.key =
      key := by
  unfold upsertAttempt
  split
  · rename_i existing hfind
    have hkey : existing.key = key := by simpa using List.find?_some hfind
    exact hkey
  · rfl

theorem upsertAttempt_snd (attempts : List RuntimeReconnectAttempt) (key : SessionKey)
    (reason : String) (maxAttempts : UInt32) (baseBackoffSecs maxBackoffSecs now : ℕ) :
    (upsertAttempt attempts key reason maxAttempts baseBackoffSecs maxBackoffSecs now).2 =
      upsert (fun attempt => attempt.key = key)
        (upsertAttempt attempts key reason maxAttempts baseBackoffSecs maxBackoffSecs now).1
        attempts := by
  have hany : (attempts.any fun attempt => attempt.key = key) =
      (attempts.find? fun attempt => attempt.key = key).isSome := List.isSome_find?.symm
  rw [upsert, hany]
  unfold upsertAttempt
  cases attempts.find? fun attempt => attempt.key = key with
  | none => rfl
  | some existing => simp only [Option.isSome_some, if_pos, decide_eq_true_eq]

theorem suppressed_clearReconnectSuppression (key : SessionKey) (adapter : QuicTransportAdapter ρ)
    (other : SessionKey) :
    (adapter.clearReconnectSuppression key).Suppressed other ↔
      other ≠ key ∧ adapter.Suppressed other := by
  have hfilter : (∃ entry ∈ adapter.reconnectSuppressions.filter fun entry => entry.key ≠ key,
      entry.key = other) ↔ other ≠ key ∧ adapter.Suppressed other := by
    simp only [List.mem_filter, decide_eq_true_eq, Suppressed]
    constructor
    · rintro ⟨entry, ⟨hmem, hkey⟩, rfl⟩
      exact ⟨hkey, entry, hmem, rfl⟩
    · rintro ⟨hkey, entry, hmem, rfl⟩
      exact ⟨entry, ⟨hmem, hkey⟩, rfl⟩
  unfold clearReconnectSuppression
  split
  · exact hfilter
  · rw [(emitRuntimeEvent_quiet _ _ _ _).suppressed_iff]
    exact hfilter

theorem suppressReconnect_sessions (key : SessionKey) (reason : String)
    (adapter : QuicTransportAdapter ρ) :
    (adapter.suppressReconnect key reason).runtimeSessions = adapter.runtimeSessions := by
  unfold suppressReconnect
  rw [(emitRuntimeEvent_quiet _ _ _ _).sessions]
  rfl

theorem clearReconnectSuppression_sessions (key : SessionKey) (adapter : QuicTransportAdapter ρ) :
    (adapter.clearReconnectSuppression key).runtimeSessions = adapter.runtimeSessions := by
  unfold clearReconnectSuppression
  split
  · rfl
  · rw [(emitRuntimeEvent_quiet _ _ _ _).sessions]

theorem suppressReconnect_frame (id : SessionId) (key : SessionKey) (reason : String)
    (adapter : QuicTransportAdapter ρ) : Frame id key adapter (adapter.suppressReconnect key reason) := by
  refine ⟨?_, ?_, ?_⟩
  · intro other _
    rw [suppressReconnect_sessions]
  · intro other hother
    rw [suppressed_suppressReconnect]
    exact or_iff_right hother
  · unfold suppressReconnect
    rw [(emitRuntimeEvent_quiet _ _ _ _).relayControl]
    rfl

theorem clearReconnectSuppression_frame (id : SessionId) (key : SessionKey)
    (adapter : QuicTransportAdapter ρ) : Frame id key adapter (adapter.clearReconnectSuppression key) := by
  refine ⟨?_, ?_, ?_⟩
  · intro other _
    rw [clearReconnectSuppression_sessions]
  · intro other hother
    rw [suppressed_clearReconnectSuppression]
    exact and_iff_right hother
  · unfold clearReconnectSuppression
    split
    · rfl
    · rw [(emitRuntimeEvent_quiet _ _ _ _).relayControl]

end QuicTransportAdapter

open QuicTransportAdapter

/-! ## Relay calls and readings -/

/-- A preorder that the background work of a call keeps: reading the clock, drawing
random bytes, calling a relay and recording events. -/
class Background (R : QuicTransportAdapter ρ → QuicTransportAdapter ρ → Prop) : Prop
    extends IsPreorder (QuicTransportAdapter ρ) R where
  host : ∀ (adapter : QuicTransportAdapter ρ) (readings drawn : ℕ),
    R adapter { adapter with host := { adapter.host with readings, drawn } }
  relays : ∀ (adapter : QuicTransportAdapter ρ) (relays : ρ), R adapter { adapter with relays }
  events : ∀ (adapter : QuicTransportAdapter ρ) (runtimeEvents : List RuntimeEvent),
    R adapter { adapter with runtimeEvents }

instance : Background (ρ := ρ) Quiet where
  host _ _ _ := ⟨rfl, rfl, rfl⟩
  relays _ _ := ⟨rfl, rfl, rfl⟩
  events _ _ := ⟨rfl, rfl, rfl⟩

section Background
variable {R : QuicTransportAdapter ρ → QuicTransportAdapter ρ → Prop} [Background R]

theorem ticked_background (adapter : QuicTransportAdapter ρ) : R adapter adapter.ticked :=
  Background.host adapter _ _

theorem emitRuntimeEvent_background (eventType : String) (subject : RuntimeEventSubject)
    (details : Json) (adapter : QuicTransportAdapter ρ) :
    R adapter (adapter.emitRuntimeEvent eventType subject details) :=
  IsTrans.trans _ _ _ (Background.host adapter _ _) (Background.events _ _)

theorem fillBytes_background (n : ℕ) : Moves R (fillBytes n : QuicM ρ _) :=
  Moves.modifyGet fun adapter => Background.host adapter _ _

theorem unixSecs_background : Moves R (unixSecs : QuicM ρ ℕ) :=
  Moves.modifyGet fun adapter => ticked_background adapter

theorem openRelaySession_background (endpoint : String) (request : RelayOpenRequest) :
    Moves R (openRelaySession endpoint request : QuicM ρ _) := by
  intro adapter
  unfold final openRelaySession
  rcases adapter.relayControl.openSession endpoint request adapter.relays with ⟨answer, relays⟩
  cases answer <;> exact Background.relays adapter relays

theorem closeRelayTransportSession_background (endpoint : Option String) (id : SessionId) :
    Moves R (closeRelayTransportSession endpoint id : QuicM ρ Unit) := by
  intro adapter
  unfold final closeRelayTransportSession
  cases endpoint with
  | none => exact refl adapter
  | some endpoint =>
    dsimp only
    rcases adapter.relayControl.closeSession endpoint id "path migrated" adapter.relays
      with ⟨answer, relays⟩
    cases answer <;> exact Background.relays adapter relays

theorem emit_background (eventType : String) (subject : RuntimeEventSubject) (details : Json) :
    Moves R (modify (emitRuntimeEvent eventType subject details) : QuicM ρ Unit) :=
  Moves.modify (emitRuntimeEvent_background eventType subject details)

theorem closeLeftRelaySession_background (previous next : SessionSnapshot) :
    Moves R (closeLeftRelaySession previous next : QuicM ρ Unit) := by
  unfold closeLeftRelaySession
  split_ifs
  · exact closeRelayTransportSession_background _ _
  · exact Moves.pure _

theorem announceSession_background (snapshot : SessionSnapshot)
    (previous : Option RuntimeSessionRecord) :
    Moves R (announceSession snapshot previous : QuicM ρ Unit) := by
  cases previous with
  | none => exact Moves.bind (emit_background _ _ _) fun _ => emit_background _ _ _
  | some previous =>
    exact Moves.bind (closeLeftRelaySession_background _ _) fun _ => emit_background _ _ _

theorem closeOwnRelaySession_background (session : SessionSnapshot) :
    Moves R (closeOwnRelaySession session : QuicM ρ Unit) := by
  unfold closeOwnRelaySession
  split_ifs
  · exact closeRelayTransportSession_background _ _
  · exact Moves.pure _

variable [Primitives]

theorem directSessionSnapshot_background (route : RoutePlan) :
    Moves R (directSessionSnapshot route : QuicM ρ SessionSnapshot) := by
  apply Moves.get_bind
  intro adapter
  split
  · exact refl adapter
  · split_ifs
    · exact refl adapter
    · split
      · exact refl adapter
      · exact Moves.bind unixSecs_background (fun _ => Moves.pure _) adapter

theorem issueCredential_background (networkId : NetworkId) (localIdentity : IdentityKeypair)
    (protocol : Option ProtocolId) :
    Moves R (issueCredential networkId localIdentity protocol : QuicM ρ _) := by
  refine Moves.bind (fillBytes_background 32) fun _ => ?_
  refine Moves.bind unixSecs_background fun _ => ?_
  exact Moves.bind (fillBytes_background 16) fun _ => Moves.pure _

theorem relaySessionSnapshot_background (route : RoutePlan) (relay : RelayPlan) :
    Moves R (relaySessionSnapshot route relay : QuicM ρ SessionSnapshot) := by
  apply Moves.get_bind
  intro adapter
  split
  · exact refl adapter
  · split
    · exact refl adapter
    · split_ifs
      · exact refl adapter
      · refine Moves.bind (issueCredential_background _ _ _) (fun _ => ?_) adapter
        refine Moves.bind (fillBytes_background 16) fun _ => ?_
        split
        · exact Moves.throw _
        · refine Moves.bind (openRelaySession_background _ _) fun _ => ?_
          exact Moves.bind unixSecs_background fun _ => Moves.pure _

theorem sessionSnapshotForRoute_background (route : RoutePlan) :
    Moves R (sessionSnapshotForRoute route : QuicM ρ SessionSnapshot) := by
  unfold sessionSnapshotForRoute
  split
  · exact relaySessionSnapshot_background route _
  · exact directSessionSnapshot_background route

theorem connect_background
    (hstore : ∀ (adapter : QuicTransportAdapter ρ) (runtimeSessions : SessionRegistry),
      R adapter { adapter with runtimeSessions }) (route : RoutePlan) :
    Moves R (connect route : QuicM ρ QuicConnectionHandle) := by
  apply Moves.get_bind
  intro adapter
  split
  · exact Moves.bind (emit_background _ _ _) (fun _ => Moves.throw _) adapter
  · refine Moves.bind (sessionSnapshotForRoute_background route) (fun session => ?_) adapter
    refine Moves.bind ?_ fun _ => Moves.pure _
    exact Moves.bind (Moves.modifyGet fun _ => hstore _ _) fun _ => announceSession_background _ _

end Background

theorem closeRelayTransportSession_quiet (endpoint : Option String) (id : SessionId) :
    Moves Quiet (closeRelayTransportSession endpoint id : QuicM ρ Unit) :=
  closeRelayTransportSession_background endpoint id

theorem closeLeftRelaySession_quiet (previous next : SessionSnapshot) :
    Moves Quiet (closeLeftRelaySession previous next : QuicM ρ Unit) :=
  closeLeftRelaySession_background previous next

theorem sessionSnapshotForRoute_quiet [Primitives] (route : RoutePlan) :
    Moves Quiet (sessionSnapshotForRoute route : QuicM ρ SessionSnapshot) :=
  sessionSnapshotForRoute_background route

/-! ## Storing and replacing a session -/

theorem upsertRuntimeSession_final (record : RuntimeSessionRecord)
    (adapter : QuicTransportAdapter ρ) :
    Quiet { adapter with runtimeSessions := adapter.runtimeSessions.insert record }
      (final (upsertRuntimeSession record) adapter) :=
  announceSession_background record.snapshot _ _

theorem upsertRuntimeSession_touches {record : RuntimeSessionRecord} {id : SessionId}
    (hid : record.snapshot.sessionId = id) :
    Moves (TouchesSession id) (upsertRuntimeSession record : QuicM ρ Unit) := by
  subst hid
  intro adapter
  have hquiet := upsertRuntimeSession_final record adapter
  refine ⟨?_, hquiet.suppressions, hquiet.relayControl⟩
  intro other hother
  rw [hquiet.sessions, SessionRegistry.find_insert, if_neg hother.symm]

theorem upsertRuntimeSession_find (record : RuntimeSessionRecord) (adapter : QuicTransportAdapter ρ) :
    (final (upsertRuntimeSession record) adapter).runtimeSessions.find record.snapshot.sessionId =
      some record := by
  rw [(upsertRuntimeSession_final record adapter).sessions, SessionRegistry.find_insert, if_pos rfl]

theorem moveSession_touches (id : SessionId) (state : RuntimeSessionState)
    (closureReason : Option SessionClosureReason) (stateReason : Option String) :
    Moves (TouchesSession id) (moveSession id state closureReason stateReason : QuicM ρ Unit) :=
  Moves.modify (updateSessionState_touches id state closureReason stateReason)

theorem sessionId_of_sessionSnapshot {adapter : QuicTransportAdapter ρ} {id : SessionId}
    {snapshot : SessionSnapshot} (h : adapter.sessionSnapshot id = some snapshot) :
    snapshot.sessionId = id := by
  obtain ⟨record, hrecord, rfl⟩ := Option.map_eq_some_iff.1 h
  exact SessionRegistry.sessionId_of_find hrecord

/-! ## Closing a session -/

theorem finishClose_quiet (removed : Option RuntimeSessionRecord) :
    Moves Quiet (finishClose removed : QuicM ρ Unit) := by
  cases removed with
  | none => exact Moves.pure _
  | some active =>
    refine Moves.bind (closeOwnRelaySession_background _) fun _ => ?_
    refine Moves.bind unixSecs_background fun _ => ?_
    exact Moves.bind (Moves.modify fun _ => ⟨rfl, rfl, rfl⟩) fun _ => emit_background _ _ _

theorem takeForClose_eq (session : SessionSnapshot) (adapter : QuicTransportAdapter ρ) :
    ∃ closureReason stateReason closing,
      closing =
        (adapter.updateSessionState session.sessionId .closing closureReason stateReason).2 ∧
      takeForClose session adapter = .ok (closing.runtimeSessions.find session.sessionId)
        { closing with
          runtimeSessions := closing.runtimeSessions.remove session.sessionId } :=
  ⟨_, _, _, rfl, rfl⟩

theorem takeForClose_run (session : SessionSnapshot) (adapter : QuicTransportAdapter ρ) :
    ∃ removed after, takeForClose session adapter = .ok removed after ∧
      TouchesSession session.sessionId adapter after ∧
      after.runtimeSessions.find session.sessionId = none ∧
      removed.map (fun record => record.snapshot.pathKind) =
        (adapter.runtimeSessions.find session.sessionId).map fun record => record.snapshot.pathKind := by
  obtain ⟨closureReason, stateReason, closing, rfl, hrun⟩ := takeForClose_eq session adapter
  refine ⟨_, _, hrun, ?_, ?_, ?_⟩
  · have hmove := updateSessionState_touches session.sessionId .closing closureReason stateReason
      adapter
    refine ⟨?_, hmove.suppressions, hmove.relayControl⟩
    intro other hother
    rw [← hmove.sessions other hother]
    change (SessionRegistry.remove _ session.sessionId).find other = _
    rw [SessionRegistry.find_remove, if_neg hother.symm]
  · change (SessionRegistry.remove _ session.sessionId).find session.sessionId = none
    rw [SessionRegistry.find_remove, if_pos rfl]
  · rw [find_updateSessionState, Option.map_map]
    rfl

theorem closeSession_touches (session : SessionSnapshot) :
    Moves (TouchesSession session.sessionId) (closeSession session : QuicM ρ Unit) := by
  intro adapter
  obtain ⟨removed, after, hrun, htouches, -, -⟩ := takeForClose_run session adapter
  have hfinal : final (closeSession session) adapter = final (finishClose removed) after := by
    unfold final closeSession
    rw [bind_of_ok hrun]
  rw [hfinal]
  exact IsTrans.trans _ _ _ htouches ((finishClose_quiet removed after).touchesSession _)

theorem closeSession_find (session : SessionSnapshot) (adapter : QuicTransportAdapter ρ) :
    (final (closeSession session) adapter).runtimeSessions.find session.sessionId = none := by
  obtain ⟨removed, after, hrun, -, hfind, -⟩ := takeForClose_run session adapter
  have hfinal : final (closeSession session) adapter = final (finishClose removed) after := by
    unfold final closeSession
    rw [bind_of_ok hrun]
  rw [hfinal, (finishClose_quiet removed after).sessions, hfind]

section Sessions
variable [Primitives]

/-! ## Sessions for a route -/

/-- A session is opened for the key and on the kind of path that the route names. -/
def OpenedFor (route : RoutePlan) (opened : SessionSnapshot) : Prop :=
  opened.key = route.key ∧ opened.pathKind = route.pathKind

theorem directSessionSnapshot_returns (route : RoutePlan) :
    Returns (OpenedFor route) (directSessionSnapshot route : QuicM ρ SessionSnapshot) := by
  apply Returns.bind
  intro adapter
  split
  · exact Returns.throw _
  · split_ifs
    · exact Returns.throw _
    · split
      · exact Returns.throw _
      · exact Returns.bind fun _ => Returns.pure ⟨rfl, rfl⟩

theorem relaySessionSnapshot_returns (route : RoutePlan) (relay : RelayPlan) :
    Returns (OpenedFor route) (relaySessionSnapshot route relay : QuicM ρ SessionSnapshot) := by
  apply Returns.bind
  intro adapter
  split
  · exact Returns.throw _
  · split
    · exact Returns.throw _
    · split_ifs
      · exact Returns.throw _
      · refine Returns.bind fun _ => Returns.bind fun _ => ?_
        split
        · exact Returns.throw _
        · exact Returns.bind fun _ => Returns.bind fun _ => Returns.pure ⟨rfl, rfl⟩

theorem sessionSnapshotForRoute_returns (route : RoutePlan) :
    Returns (OpenedFor route) (sessionSnapshotForRoute route : QuicM ρ SessionSnapshot) := by
  unfold sessionSnapshotForRoute
  split
  · exact relaySessionSnapshot_returns route _
  · exact directSessionSnapshot_returns route

theorem migrateExisting_touches (existing : SessionSnapshot) (route : RoutePlan) :
    Moves (TouchesSession existing.sessionId)
      (migrateExisting existing route : QuicM ρ SessionSnapshot) := by
  have hquiet : ∀ {α : Type} {m : QuicM ρ α}, Moves Quiet m →
      Moves (TouchesSession existing.sessionId) m :=
    Moves.mono fun _ _ h => h.touchesSession _
  apply Moves.bind (hquiet (sessionSnapshotForRoute_quiet route))
  intro opened
  apply Moves.bind (hquiet unixSecs_background)
  intro now
  apply Moves.bind (hquiet (closeLeftRelaySession_quiet _ _))
  intro _
  have hid : (migratedSnapshot existing opened now).sessionId = existing.sessionId := rfl
  refine Moves.bind (upsertRuntimeSession_touches hid) ?_
  intro _
  exact Moves.bind (hquiet (emit_background _ _ _)) fun _ => Moves.pure _

theorem migrate_touches (session : SessionSnapshot) (route : RoutePlan) :
    Moves (TouchesSession session.sessionId) (migrate session route : QuicM ρ SessionSnapshot) := by
  apply Moves.bind (moveSession_touches _ _ _ _)
  intro _
  apply Moves.get_bind
  intro adapter
  split
  · exact refl adapter
  · rename_i existing hexisting
    have hid := sessionId_of_sessionSnapshot hexisting
    rw [← hid]
    exact migrateExisting_touches existing route adapter

end Sessions

end QuipNet.Quic
