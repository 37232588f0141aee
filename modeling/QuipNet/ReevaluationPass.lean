import QuipNet.Library.Loop
import QuipNet.ReevaluationTurns

/-!
# The whole reevaluation pass

The turns of the pass work on different session ids, so what a turn did to its
session is still so at the end. A pass that stops has a turn that stopped it: the
sessions before it have had their turn and those after it are as they were.
-/

open Std
namespace QuipNet.Fabric
open QuipNet.Library.Effect QuipNet.Quic QuipNet.Transport
open QuicTransportAdapter

variable {ρ : Type}

/-! ## Listed sessions -/

theorem Registered.of_frame {session other : SessionSnapshot} {key : SessionKey}
    {before after : QuicTransportAdapter ρ} (h : Registered session before)
    (hframe : Frame other.sessionId key before after)
    (hid : other.sessionId ≠ session.sessionId) : Registered session after := by
  obtain ⟨alpn, hfind⟩ := h
  exact ⟨alpn, by rw [hframe.sessions _ hid.symm, hfind]⟩

variable {sessions : List SessionSnapshot}

structure Listed (sessions : List SessionSnapshot) (adapter : QuicTransportAdapter ρ) : Prop where
  distinct : sessions.Pairwise fun s t => s.sessionId ≠ t.sessionId
  registered : ∀ session ∈ sessions, Registered session adapter

theorem listed_activeSessions (adapter : QuicTransportAdapter ρ) :
    Listed adapter.activeSessions adapter :=
  ⟨SessionRegistry.snapshots_pairwise _, fun _ => registered_of_mem_activeSessions⟩

theorem Listed.of_quiet {before after : QuicTransportAdapter ρ} (h : Listed sessions before)
    (hquiet : Quiet before after) : Listed sessions after := by
  refine ⟨h.distinct, ?_⟩
  intro session hsession
  obtain ⟨alpn, hfind⟩ := h.registered session hsession
  exact ⟨alpn, by rw [hquiet.sessions, hfind]⟩

theorem Listed.tail {session : SessionSnapshot} {before after : QuicTransportAdapter ρ}
    (h : Listed (session :: sessions) before) {key : SessionKey}
    (hframe : Frame session.sessionId key before after) : Listed sessions after := by
  obtain ⟨hfirst, hrest⟩ := List.pairwise_cons.1 h.distinct
  refine ⟨hrest, ?_⟩
  intro other hother
  exact (h.registered other (List.mem_cons_of_mem _ hother)).of_frame hframe (hfirst other hother)

/-! ## The listeners -/

def SameClosures (report report' : AuthorityReevaluationReport) : Prop :=
  report'.closedSessions = report.closedSessions ∧ report'.policyClosures = report.policyClosures

theorem updateListenerState_quiet (listenerId : String) (listenerState : RuntimeListenerState)
    (stateReason : Option String) (adapter : QuicTransportAdapter ρ) :
    Quiet adapter (adapter.updateListenerState listenerId listenerState stateReason) :=
  ⟨rfl, rfl, rfl⟩

theorem suppressListener_run (listener : RuntimeListenerSnapshot) (reason : String)
    (report : AuthorityReevaluationReport) (adapter : QuicTransportAdapter ρ) :
    ∃ report' after, suppressListener listener reason report adapter = .ok report' after ∧
      Quiet adapter after ∧ SameClosures report report' := by
  have hlistener := updateListenerState_quiet listener.listenerId .suppressed (some reason) adapter
  simp only [suppressListener, bind_run, modify_run]
  split_ifs
  · exact ⟨report, _, rfl, hlistener, rfl, rfl⟩
  · exact ⟨_, _, rfl, IsTrans.trans _ _ _ hlistener (emitRuntimeEvent_quiet _ _ _ _), rfl, rfl⟩

section Pass
variable [Primitives]

theorem reevaluateListener_run (state : DaemonState) (runtimePeerId : PeerId)
    (report : AuthorityReevaluationReport) (listener : RuntimeListenerSnapshot)
    (adapter : QuicTransportAdapter ρ) :
    ∃ report' after,
      reevaluateListener state runtimePeerId report listener adapter = .ok report' after ∧
        Quiet adapter after ∧ SameClosures report report' := by
  by_cases hfailed : listener.state = .failed
  · simp only [reevaluateListener, hfailed, if_true, pure_run]
    exact ⟨_, adapter, rfl, refl adapter, rfl, rfl⟩
  · cases hreason : listenerEnforcement state runtimePeerId listener with
    | some reason =>
      simp only [reevaluateListener, hfailed, if_false, hreason]
      exact suppressListener_run listener reason
        { report with reevaluatedListeners := report.reevaluatedListeners + 1 } adapter
    | none =>
      simp only [reevaluateListener, hfailed, if_false, hreason]
      split_ifs
      · exact ⟨_, _, rfl, updateListenerState_quiet _ _ _ adapter, rfl, rfl⟩
      · exact ⟨_, adapter, rfl, refl adapter, rfl, rfl⟩

theorem reevaluateListeners_run (state : DaemonState) (runtimePeerId : PeerId)
    (report : AuthorityReevaluationReport) (adapter : QuicTransportAdapter ρ) :
    ∃ report' after, reevaluateListeners state runtimePeerId report adapter = .ok report' after ∧
      Quiet adapter after ∧ SameClosures report report' := by
  have hfold : ∀ (listeners : List RuntimeListenerSnapshot) (report : AuthorityReevaluationReport)
      (adapter : QuicTransportAdapter ρ), ∃ report' after,
        listeners.foldlM (reevaluateListener state runtimePeerId) report adapter =
            .ok report' after ∧ Quiet adapter after ∧ SameClosures report report' := by
    intro listeners
    induction listeners with
    | nil => exact fun report adapter => ⟨report, adapter, rfl, refl adapter, rfl, rfl⟩
    | cons listener rest ih =>
      intro report adapter
      obtain ⟨report₁, s₁, hfirst, hquiet₁, hclosed₁, hpolicy₁⟩ :=
        reevaluateListener_run state runtimePeerId report listener adapter
      obtain ⟨report₂, s₂, hrest, hquiet₂, hclosed₂, hpolicy₂⟩ := ih report₁ s₁
      exact ⟨report₂, s₂, (bind_of_ok hfirst).trans hrest, IsTrans.trans _ _ _ hquiet₁ hquiet₂,
        hclosed₂.trans hclosed₁, hpolicy₂.trans hpolicy₁⟩
  obtain ⟨report', after, hrun, hquiet, hsame⟩ := hfold adapter.activeListeners report adapter
  refine ⟨report', _, (bind_of_ok (get_run _)).trans <| (bind_of_ok hrun).trans <|
    bind_of_ok (modify_run _ _), ?_, hsame⟩
  exact IsTrans.trans _ _ _ hquiet (emitRuntimeEvent_quiet _ _ _ _)

/-! ## The sessions -/

variable {state : DaemonState} {runtimePeerId : PeerId} {adapter : QuicTransportAdapter ρ}

def Pass.sweep (state : DaemonState) (runtimePeerId : PeerId) (sessions : List SessionSnapshot) :
    FabricM ρ AuthorityReevaluationReport :=
  sessions.foldlM (reevaluateSession state runtimePeerId) (.start state runtimePeerId)

theorem reevaluateAuthority_run (state : DaemonState) (runtimePeerId : PeerId)
    (adapter : QuicTransportAdapter ρ) :
    ∃ started, Quiet adapter started ∧
      Quiet (final (Pass.sweep state runtimePeerId adapter.activeSessions) started)
        (final (reevaluateAuthority state runtimePeerId) adapter) ∧
      ∀ report after, reevaluateAuthority state runtimePeerId adapter = .ok report after →
        ∃ report' swept, SameClosures report' report ∧
          Pass.sweep state runtimePeerId adapter.activeSessions started = .ok report' swept := by
  have hquiet : Quiet adapter (startReevaluation state runtimePeerId adapter) :=
    emitRuntimeEvent_quiet _ _ _ _
  have hsessions : (startReevaluation state runtimePeerId adapter).activeSessions =
      adapter.activeSessions := by
    rw [activeSessions, hquiet.sessions, activeSessions]
  have hrun : reevaluateAuthority state runtimePeerId adapter =
      (Pass.sweep state runtimePeerId adapter.activeSessions >>=
        reevaluateListeners state runtimePeerId) (startReevaluation state runtimePeerId adapter) := by
    rw [← hsessions]
    exact (bind_of_ok (modify_run _ _)).trans (bind_of_ok (get_run _))
  refine ⟨_, hquiet, ?_⟩
  cases hsweep : Pass.sweep state runtimePeerId adapter.activeSessions
      (startReevaluation state runtimePeerId adapter) with
  | ok report' swept =>
    obtain ⟨report'', last, hlisteners, hlast, hsame⟩ :=
      reevaluateListeners_run state runtimePeerId report' swept
    have hpass := hrun.trans ((bind_of_ok hsweep).trans hlisteners)
    rw [final_of_ok hsweep, final_of_ok hpass]
    refine ⟨hlast, ?_⟩
    intro report after hok
    cases hpass.symm.trans hok
    exact ⟨report', swept, hsame, rfl⟩
  | error error stopped =>
    have hpass := hrun.trans (bind_of_error hsweep)
    rw [final_of_error hsweep, final_of_error hpass]
    refine ⟨refl stopped, ?_⟩
    intro report after hok
    cases hpass.symm.trans hok

theorem sweep_find (state : DaemonState) (runtimePeerId : PeerId)
    (report : AuthorityReevaluationReport) (adapter : QuicTransportAdapter ρ) {id : SessionId}
    (hid : ∀ session ∈ sessions, session.sessionId ≠ id) :
    (final (sessions.foldlM (reevaluateSession state runtimePeerId) report)
      adapter).runtimeSessions.find id = adapter.runtimeSessions.find id := by
  refine foldlM_keeps (P := fun now : QuicTransportAdapter ρ =>
    now.runtimeSessions.find id = adapter.runtimeSessions.find id) ?_ report rfl
  intro report session hsession now hnow
  have hframe := reevaluateSession_frame state runtimePeerId report session now
  rw [hframe.sessions id (hid session hsession).symm, hnow]

/-- Whatever is still registered under the session's id has its key, and policy
allows that key. -/
def Settled (state : DaemonState) (runtimePeerId : PeerId) (session : SessionSnapshot)
    (adapter : QuicTransportAdapter ρ) : Prop :=
  ∀ record, adapter.runtimeSessions.find session.sessionId = some record →
    record.snapshot.key = session.key ∧ state.deniesKey runtimePeerId session.key = false

theorem Settled.of_frame {session other : SessionSnapshot} {key : SessionKey}
    {before after : QuicTransportAdapter ρ} (h : Settled state runtimePeerId session before)
    (hframe : Frame other.sessionId key before after)
    (hid : other.sessionId ≠ session.sessionId) : Settled state runtimePeerId session after := by
  intro record hfind
  rw [hframe.sessions _ hid.symm] at hfind
  exact h record hfind

theorem settled_of_gone {session : SessionSnapshot} (h : Gone session adapter) :
    Settled state runtimePeerId session adapter := by
  intro record hfind
  rw [h] at hfind
  cases hfind

theorem settled_of_keptKey {session : SessionSnapshot} (h : KeptKey session adapter)
    (hallowed : state.deniesKey runtimePeerId session.key = false) :
    Settled state runtimePeerId session adapter := by
  obtain ⟨kept, hkept, hkey⟩ := h
  intro record hfind
  rw [hkept] at hfind
  cases hfind
  exact ⟨hkey, hallowed⟩

theorem reevaluateSession_settled (state : DaemonState) (runtimePeerId : PeerId)
    (report : AuthorityReevaluationReport) {session : SessionSnapshot}
    (hregistered : Registered session adapter) :
    Settled state runtimePeerId session
      (final (reevaluateSession state runtimePeerId report session) adapter) := by
  have hturn := reevaluateSession_turn state runtimePeerId report hregistered
  generalize hresult : reevaluateSession state runtimePeerId report session adapter = result at hturn
  cases hturn with
  | skipped hprotocol =>
    obtain ⟨alpn, hfind⟩ := hregistered
    rw [final_of_ok hresult]
    refine settled_of_keptKey ⟨_, hfind, rfl⟩ ?_
    simp [DaemonState.deniesKey, SessionSnapshot.key, hprotocol]
  | enforced hdenied hgone => exact final_of_ok hresult ▸ settled_of_gone hgone
  | kept hallowed hprotocol hkept => exact final_of_ok hresult ▸ settled_of_keptKey hkept hallowed
  | migrationFailed hallowed hgone => exact final_of_ok hresult ▸ settled_of_gone hgone
  | refused hdenied hgone => exact final_of_error hresult ▸ settled_of_gone hgone
  | stopped hallowed hleft =>
    rw [final_of_error hresult]
    rcases hleft with ⟨hgone, -⟩ | hkept
    · exact settled_of_gone hgone
    · exact settled_of_keptKey hkept hallowed

theorem mayStop_of_error {session : SessionSnapshot} (hregistered : Registered session adapter)
    {report : AuthorityReevaluationReport} {error : DaemonStateError}
    {after : QuicTransportAdapter ρ}
    (h : reevaluateSession state runtimePeerId report session adapter = .error error after) :
    state.mayStop runtimePeerId session = true := by
  have hturn := reevaluateSession_turn state runtimePeerId report hregistered
  rw [h] at hturn
  cases hturn with
  | refused _ _ hstop => exact hstop
  | stopped _ _ hstop => exact hstop

/-! ## How a sweep ends -/

/-- Either every session is settled, or the pass stopped at one: that one and those
before it are settled, and those after it are registered as they were. -/
theorem sweep_cases (state : DaemonState) (runtimePeerId : PeerId)
    (report : AuthorityReevaluationReport) (hlisted : Listed sessions adapter) :
    (∃ report' after,
      sessions.foldlM (reevaluateSession state runtimePeerId) report adapter = .ok report' after ∧
        ∀ session ∈ sessions, Settled state runtimePeerId session after) ∨
    ∃ done stopper rest error after, sessions = done ++ stopper :: rest ∧
      sessions.foldlM (reevaluateSession state runtimePeerId) report adapter =
        .error error after ∧
      (∀ session ∈ done ++ [stopper], Settled state runtimePeerId session after) ∧
      (∀ session ∈ rest, Registered session after) ∧
      state.mayStop runtimePeerId stopper = true := by
  have hsettles : ∀ (session : SessionSnapshot) report now report' now', Registered session now →
      reevaluateSession state runtimePeerId report session now = .ok report' now' →
        Settled (ρ := ρ) state runtimePeerId session now' := by
    intro session report now report' now' hready hrun
    have hsettled := reevaluateSession_settled state runtimePeerId report hready
    rwa [final_of_ok hrun] at hsettled
  have hready : ∀ session other : SessionSnapshot, session.sessionId ≠ other.sessionId →
      ∀ report now, Registered other now → Registered (ρ := ρ) other
        (final (reevaluateSession state runtimePeerId report session) now) :=
    fun session other hid report now h =>
      h.of_frame (reevaluateSession_frame state runtimePeerId report session now) hid
  have hkept : ∀ session other : SessionSnapshot, session.sessionId ≠ other.sessionId →
      ∀ report now, Settled state runtimePeerId session now →
        Settled (ρ := ρ) state runtimePeerId session
          (final (reevaluateSession state runtimePeerId report other) now) :=
    fun session other hid report now h =>
      h.of_frame (reevaluateSession_frame state runtimePeerId report other now) hid.symm
  rcases foldlM_cases hsettles hready hkept hlisted.distinct report adapter hlisted.registered with
    hok | ⟨done, stopper, rest, error, after, hsplit, herror, hdone, hrest, report₁, now, hbefore, hfailed⟩
  · exact .inl hok
  · refine .inr ⟨done, stopper, rest, error, after, hsplit, herror, ?_, hrest,
      mayStop_of_error hbefore hfailed⟩
    have hstopper := reevaluateSession_settled state runtimePeerId report₁ hbefore
    rw [final_of_error hfailed] at hstopper
    intro session hsession
    rcases List.mem_append.1 hsession with hdone' | hlast
    · exact hdone session hdone'
    · rw [List.mem_singleton.1 hlast]
      exact hstopper

theorem sweep_refused (hlisted : Listed sessions adapter) (hrefuses : adapter.relayControl.Refuses)
    (hstop : ∃ session ∈ sessions, state.mayStop runtimePeerId session = true)
    (report : AuthorityReevaluationReport) :
    ∃ error after, sessions.foldlM (reevaluateSession state runtimePeerId) report adapter =
      .error error after := by
  induction sessions generalizing adapter report with
  | nil => simp at hstop
  | cons session rest ih =>
    have hregistered := hlisted.registered session List.mem_cons_self
    cases hrun : reevaluateSession state runtimePeerId report session adapter with
    | error error after => exact ⟨error, after, bind_of_error hrun⟩
    | ok report' after =>
      have hframe := (reevaluateSession_frame state runtimePeerId report session).of_ok hrun
      have hlater : ∃ later ∈ rest, state.mayStop runtimePeerId later = true := by
        obtain ⟨later, hmem, hlater⟩ := hstop
        rcases List.mem_cons.1 hmem with rfl | hmem
        · obtain ⟨error, stopped, hfails⟩ :=
            reevaluateSession_refused report hregistered hrefuses hlater
          rw [hfails] at hrun
          cases hrun
        · exact ⟨later, hmem, hlater⟩
      obtain ⟨error, stopped, hfails⟩ :=
        ih (hlisted.tail hframe) (hframe.relayControl ▸ hrefuses) hlater report'
      exact ⟨error, stopped, (bind_of_ok hrun).trans hfails⟩

end Pass

end QuipNet.Fabric
