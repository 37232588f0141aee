import QuipNet.SessionEffects

/-!
# Suppressions along runs of the adapter

The calls that change an adapter, and runs of them. A suppressed key stays
suppressed until it is cleared, and `connect` refuses it all that time.
-/

open Std
namespace QuipNet.Quic
open QuipNet.Library.Effect QuipNet.Transport
open QuicTransportAdapter

variable {ρ : Type}

inductive AdapterCall
  | connect (route : RoutePlan)
  | listen (bind : BindSpec)
  | updateSessionState (sessionId : SessionId) (state : RuntimeSessionState)
      (closureReason : Option SessionClosureReason) (stateReason : Option String)
  | suppressReconnect (key : SessionKey) (reason : String)
  | clearReconnectSuppression (key : SessionKey)
  | updateListenerState (listenerId : String) (state : RuntimeListenerState)
      (stateReason : Option String)
  | scheduleReconnect (key : SessionKey) (reason : String) (maxAttempts : UInt32)
      (baseBackoffSecs maxBackoffSecs : ℕ)
  | clearReconnectAttempt (key : SessionKey) (outcomeReason : Option String)
  | recordRuntimeEvent (eventType : String) (subject : RuntimeEventSubject) (details : Json)
  | migrate (session : SessionSnapshot) (route : RoutePlan)
  | closeSession (session : SessionSnapshot)

def SameSuppressions (before after : QuicTransportAdapter ρ) : Prop :=
  after.reconnectSuppressions = before.reconnectSuppressions

instance : Background (ρ := ρ) SameSuppressions where
  refl _ := rfl
  trans _ _ _ h₁ h₂ := h₂.trans h₁
  host _ _ _ := rfl
  relays _ _ := rfl
  events _ _ := rfl

theorem SameSuppressions.suppressed {before after : QuicTransportAdapter ρ}
    (h : SameSuppressions before after) {key : SessionKey} (hkey : before.Suppressed key) :
    after.Suppressed key := by
  obtain ⟨entry, hentry, hsame⟩ := hkey
  exact ⟨entry, h ▸ hentry, hsame⟩

theorem scheduleReconnect_suppressions (key : SessionKey) (reason : String) (maxAttempts : UInt32)
    (baseBackoffSecs maxBackoffSecs : ℕ) (adapter : QuicTransportAdapter ρ) :
    SameSuppressions adapter
      (adapter.scheduleReconnect key reason maxAttempts baseBackoffSecs maxBackoffSecs).2 := by
  unfold SameSuppressions scheduleReconnect
  dsimp only
  split_ifs
  · rw [(emitRuntimeEvent_quiet _ _ _ _).suppressions, (emitRuntimeEvent_quiet _ _ _ _).suppressions]
    rfl
  · rw [(emitRuntimeEvent_quiet _ _ _ _).suppressions]
    rfl

theorem clearReconnectAttempt_suppressions (key : SessionKey) (outcomeReason : Option String)
    (adapter : QuicTransportAdapter ρ) :
    SameSuppressions adapter (adapter.clearReconnectAttempt key outcomeReason) := by
  unfold SameSuppressions clearReconnectAttempt
  split
  · rfl
  · rw [(emitRuntimeEvent_quiet _ _ _ _).suppressions]

section Calls
variable [Primitives]

theorem connect_suppressions (route : RoutePlan) :
    Moves SameSuppressions (connect route : QuicM ρ QuicConnectionHandle) :=
  connect_background (fun _ _ => rfl) route

def AdapterCall.run : AdapterCall → QuicTransportAdapter ρ → QuicTransportAdapter ρ
  | .connect route => final (Quic.connect route)
  | .listen bind => QuicTransportAdapter.listen bind
  | .updateSessionState id state closureReason stateReason => fun adapter =>
    (adapter.updateSessionState id state closureReason stateReason).2
  | .suppressReconnect key reason => QuicTransportAdapter.suppressReconnect key reason
  | .clearReconnectSuppression key => QuicTransportAdapter.clearReconnectSuppression key
  | .updateListenerState id state stateReason =>
    QuicTransportAdapter.updateListenerState id state stateReason
  | .scheduleReconnect key reason maxAttempts baseBackoffSecs maxBackoffSecs => fun adapter =>
    (adapter.scheduleReconnect key reason maxAttempts baseBackoffSecs maxBackoffSecs).2
  | .clearReconnectAttempt key outcomeReason =>
    QuicTransportAdapter.clearReconnectAttempt key outcomeReason
  | .recordRuntimeEvent eventType subject details => emitRuntimeEvent eventType subject details
  | .migrate session route => final (Quic.migrate session route)
  | .closeSession session => final (Quic.closeSession session)

theorem AdapterCall.run_suppressed {call : AdapterCall} {key : SessionKey}
    (hcall : call ≠ .clearReconnectSuppression key) {adapter : QuicTransportAdapter ρ}
    (h : adapter.Suppressed key) : (call.run adapter).Suppressed key := by
  cases call with
  | connect route => exact SameSuppressions.suppressed (connect_suppressions route adapter) h
  | listen bind => exact h
  | updateSessionState id state closureReason stateReason =>
    exact ((updateSessionState_touches _ _ _ _ adapter).suppressed_iff key).2 h
  | suppressReconnect other reason =>
    exact (suppressed_suppressReconnect other reason adapter key).2 (.inr h)
  | clearReconnectSuppression other =>
    refine (suppressed_clearReconnectSuppression other adapter key).2 ⟨?_, h⟩
    rintro rfl
    exact hcall rfl
  | updateListenerState id state stateReason => exact h
  | scheduleReconnect other reason maxAttempts baseBackoffSecs maxBackoffSecs =>
    exact (scheduleReconnect_suppressions _ _ _ _ _ adapter).suppressed h
  | clearReconnectAttempt other outcomeReason =>
    exact (clearReconnectAttempt_suppressions _ _ adapter).suppressed h
  | recordRuntimeEvent eventType subject details =>
    exact ((emitRuntimeEvent_quiet _ _ _ adapter).suppressed_iff key).2 h
  | migrate session route => exact ((migrate_touches session route adapter).suppressed_iff key).2 h
  | closeSession session => exact ((closeSession_touches session adapter).suppressed_iff key).2 h

theorem suppressed_after_calls {calls : List AdapterCall} {key : SessionKey}
    (hcalls : ∀ call ∈ calls, call ≠ .clearReconnectSuppression key)
    {adapter : QuicTransportAdapter ρ} (h : adapter.Suppressed key) :
    (calls.foldl (fun adapter call => call.run adapter) adapter).Suppressed key := by
  induction calls generalizing adapter with
  | nil => exact h
  | cons call rest ih =>
    have hfirst := AdapterCall.run_suppressed (hcalls call List.mem_cons_self) h
    exact ih (fun later hlater => hcalls later (List.mem_cons_of_mem _ hlater)) hfirst

def RefusesConnect (adapter : QuicTransportAdapter ρ) (route : RoutePlan) : Prop :=
  ∃ reason after, connect route adapter = .error (.policyDenied reason) after ∧
    after.runtimeSessions = adapter.runtimeSessions

theorem refusesConnect_of_suppressed {adapter : QuicTransportAdapter ρ} {route : RoutePlan}
    (h : adapter.Suppressed route.key) : RefusesConnect adapter route := by
  have hfound := (findReconnectSuppression_isSome_iff adapter route.key).2 h
  obtain ⟨suppression, hsuppression⟩ := Option.isSome_iff_exists.1 hfound
  simp only [RefusesConnect, connect, bind_run, get_run, hsuppression, modify_run, throw_run]
  exact ⟨_, _, rfl, (emitRuntimeEvent_quiet _ _ _ adapter).sessions⟩

end Calls

end QuipNet.Quic
