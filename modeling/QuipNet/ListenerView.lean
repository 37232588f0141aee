import QuipNet.ReevaluationCounts
import QuipNet.SuppressionRuns

/-!
# The reported listeners

`runtime_listeners` recomputes for every listener what the reevaluation pass enforces. The
pass decides by the runtime identity, the report by the local peer of the state; where the
two are one peer, the report after a pass is the registry.
-/

open Std
namespace QuipNet.Quic
open QuipNet.Library.Effect QuipNet.Transport
open QuicTransportAdapter

variable {ρ : Type}

/-! ## The registry of listeners -/

/-- Every listener is registered under its own id. -/
def ListenersKeyed (adapter : QuicTransportAdapter ρ) : Prop :=
  ∀ (id : String) (listener : RuntimeListenerSnapshot),
    adapter.runtimeListeners[id]? = some listener → listener.listenerId = id

theorem getElem?_updateListenerState (listenerId : String) (state : RuntimeListenerState)
    (stateReason : Option String) (adapter : QuicTransportAdapter ρ) (id : String) :
    (adapter.updateListenerState listenerId state stateReason).runtimeListeners[id]? =
      if listenerId = id then adapter.runtimeListeners[id]?.map fun listener =>
        { listener with state, stateReason }
      else adapter.runtimeListeners[id]? := by
  simp only [updateListenerState, TreeMap.getElem?_modify, Std.compare_eq_iff_eq]
  split_ifs with hid
  · rw [hid]
  · rfl

theorem mem_activeListeners {adapter : QuicTransportAdapter ρ} {listener : RuntimeListenerSnapshot} :
    listener ∈ adapter.activeListeners ↔
      ∃ id : String, adapter.runtimeListeners[id]? = some listener := by
  simp only [activeListeners, List.mem_map, Prod.exists, TreeMap.mem_toList_iff_getElem?_eq_some,
    exists_eq_right]

theorem ListenersKeyed.distinct {adapter : QuicTransportAdapter ρ} (h : ListenersKeyed adapter) :
    adapter.activeListeners.Pairwise fun a b => a.listenerId ≠ b.listenerId := by
  rw [activeListeners, List.pairwise_map]
  refine (TreeMap.distinct_keys_toList (t := adapter.runtimeListeners)).imp_of_mem ?_
  intro a b ha hb hne heq
  rw [TreeMap.mem_toList_iff_getElem?_eq_some] at ha hb
  rw [h _ _ ha, h _ _ hb] at heq
  rw [heq] at hne
  exact hne Std.compare_self

end QuipNet.Quic

namespace QuipNet.Fabric
open QuipNet.Library QuipNet.Library.Effect QuipNet.Quic QuipNet.Transport
open QuicTransportAdapter

variable {ρ : Type}

theorem emitRuntimeEvent_listeners (eventType : String) (subject : RuntimeEventSubject)
    (details : Json) (adapter : QuicTransportAdapter ρ) :
    (adapter.emitRuntimeEvent eventType subject details).runtimeListeners =
      adapter.runtimeListeners := by
  have hsame : SameListeners adapter (adapter.emitRuntimeEvent eventType subject details) :=
    emitRuntimeEvent_background eventType subject details adapter
  exact hsame.runtimeListeners

theorem SameListeners.keyed {before after : QuicTransportAdapter ρ} (h : SameListeners before after)
    (hkeyed : ListenersKeyed before) : ListenersKeyed after := by
  intro id listener hfind
  rw [h.runtimeListeners] at hfind
  exact hkeyed id listener hfind

section Hashing
variable [Primitives]

theorem run_listenersKeyed (call : AdapterCall) {adapter : QuicTransportAdapter ρ}
    (h : ListenersKeyed adapter) : ListenersKeyed (call.run adapter) := by
  cases call with
  | connect route =>
    have hsame : Moves SameListeners (connect route : QuicM ρ QuicConnectionHandle) :=
      connect_background (fun _ _ => SessionBookkeeping.registries _ _ _ _) route
    exact (hsame adapter).keyed h
  | listen bind =>
    intro id listener hfind
    let started := runtimeListenerId adapter.runtimeInstanceId bind adapter.currentUnixNanos
    simp only [AdapterCall.run, QuicTransportAdapter.listen, TreeMap.getElem?_insert,
      Std.compare_eq_iff_eq] at hfind
    by_cases hid : started = id
    · rw [if_pos hid] at hfind
      cases hfind
      exact hid
    · rw [if_neg hid] at hfind
      exact h id listener hfind
  | updateSessionState id state closureReason stateReason =>
    have hsame : SameListeners adapter
        (adapter.updateSessionState id state closureReason stateReason).2 :=
      moveSession_bookkeeping id state closureReason stateReason adapter
    exact hsame.keyed h
  | suppressReconnect key reason =>
    have hsame : SameListeners adapter (adapter.suppressReconnect key reason) :=
      suppressReconnect_bookkeeping key reason adapter
    exact hsame.keyed h
  | clearReconnectSuppression key =>
    have hsame : SameListeners adapter (adapter.clearReconnectSuppression key) :=
      clearReconnectSuppression_bookkeeping key adapter
    exact hsame.keyed h
  | updateListenerState listenerId state stateReason =>
    intro id listener hfind
    change (adapter.updateListenerState listenerId state stateReason).runtimeListeners[id]? =
      some listener at hfind
    rw [getElem?_updateListenerState] at hfind
    split_ifs at hfind with hid
    · obtain ⟨before, hbefore, rfl⟩ := Option.map_eq_some_iff.1 hfind
      exact h id before hbefore
    · exact h id listener hfind
  | scheduleReconnect key reason maxAttempts baseBackoffSecs maxBackoffSecs =>
    refine SameListeners.keyed ⟨?_⟩ h
    dsimp only [AdapterCall.run, scheduleReconnect]
    split_ifs
    · rw [emitRuntimeEvent_listeners, emitRuntimeEvent_listeners]
      rfl
    · rw [emitRuntimeEvent_listeners]
      rfl
  | clearReconnectAttempt key outcomeReason =>
    refine SameListeners.keyed ⟨?_⟩ h
    dsimp only [AdapterCall.run, clearReconnectAttempt]
    split
    · rfl
    · rw [emitRuntimeEvent_listeners]
  | recordRuntimeEvent eventType subject details =>
    have hsame : SameListeners adapter (adapter.emitRuntimeEvent eventType subject details) :=
      emitRuntimeEvent_background eventType subject details adapter
    exact hsame.keyed h
  | migrate session route =>
    have hsame : Moves SameListeners (migrate session route : QuicM ρ SessionSnapshot) :=
      migrate_bookkeeping session route
    exact (hsame adapter).keyed h
  | closeSession session =>
    have hsame : Moves SameListeners (Quic.closeSession session : QuicM ρ Unit) :=
      closeSession_bookkeeping session
    exact (hsame adapter).keyed h

/-! ## The report -/

def reportedListener (state : DaemonState) (listener : RuntimeListenerSnapshot) :
    RuntimeListenerSnapshot :=
  if listener.state = .failed then listener
  else
    match state.localPolicyReason state.localPeerId with
    | some reason => { listener with state := .suppressed, stateReason := some reason }
    | none =>
      let decision := state.explainLocalProtocolPolicy listener.protocol
      if !decision.allowed then
        { listener with state := .suppressed, stateReason := some decision.reason }
      else if listener.state = .suppressed then
        { listener with state := .active, stateReason := none }
      else listener

def LocalControlPlane.runtimeListeners (config : DaemonConfig) :
    ControlM ρ (List RuntimeListenerSnapshot) := do
  let state ← ensureState config
  let listeners := (← get).transport.activeListeners
  pure (listeners.map (reportedListener state))

/-! ## What the pass leaves of a listener -/

variable {state : DaemonState} {runtimePeerId : PeerId}

def enforcedListener (state : DaemonState) (runtimePeerId : PeerId)
    (listener : RuntimeListenerSnapshot) : RuntimeListenerSnapshot :=
  if listener.state = .failed then listener
  else
    match listenerEnforcement state runtimePeerId listener with
    | some reason => { listener with state := .suppressed, stateReason := some reason }
    | none =>
      if listener.state = .suppressed then { listener with state := .active, stateReason := none }
      else listener

theorem reportedListener_enforced (state : DaemonState) (listener : RuntimeListenerSnapshot) :
    reportedListener state (enforcedListener state state.localPeerId listener) =
      enforcedListener state state.localPeerId listener := by
  unfold enforcedListener
  by_cases hfailed : listener.state = .failed
  · simp [reportedListener, hfailed]
  · rw [if_neg hfailed]
    unfold listenerEnforcement
    cases hlocal : state.localPolicyReason state.localPeerId with
    | some reason => simp [reportedListener, hlocal]
    | none =>
      cases hallowed : (state.explainLocalProtocolPolicy listener.protocol).allowed with
      | false => simp [reportedListener, hlocal, hallowed]
      | true =>
        by_cases hsuppressed : listener.state = .suppressed
        · simp [reportedListener, hlocal, hallowed, hsuppressed]
        · simp [reportedListener, hlocal, hallowed, hsuppressed]

theorem reevaluateListener_entry {report report' : AuthorityReevaluationReport}
    {listener : RuntimeListenerSnapshot} {adapter after : QuicTransportAdapter ρ}
    (hlistener : adapter.runtimeListeners[listener.listenerId]? = some listener)
    (h : reevaluateListener state runtimePeerId report listener adapter = .ok report' after)
    (id : String) : after.runtimeListeners[id]? =
      if listener.listenerId = id then some (enforcedListener state runtimePeerId listener)
      else adapter.runtimeListeners[id]? := by
  have hwrites : ∀ listenerState stateReason,
      (adapter.updateListenerState listener.listenerId listenerState stateReason).runtimeListeners[id]? =
        if listener.listenerId = id then
          some { listener with state := listenerState, stateReason := stateReason }
        else adapter.runtimeListeners[id]? := by
    intro listenerState stateReason
    rw [getElem?_updateListenerState]
    split_ifs with hid
    · rw [← hid, hlistener, Option.map_some]
    · rfl
  have hkeeps : adapter.runtimeListeners[id]? =
      if listener.listenerId = id then some listener else adapter.runtimeListeners[id]? := by
    split_ifs with hid
    · rw [← hid, hlistener]
    · rfl
  unfold enforcedListener
  by_cases hfailed : listener.state = .failed
  · simp only [reevaluateListener, hfailed, if_true] at h
    cases h
    rw [if_pos hfailed]
    exact hkeeps
  · rw [if_neg hfailed]
    cases hreason : listenerEnforcement state runtimePeerId listener with
    | some reason =>
      simp only [reevaluateListener, hfailed, if_false, hreason, suppressListener, bind_run,
        modify_run] at h
      split_ifs at h
      · cases h
        exact hwrites _ _
      · cases h
        rw [emitRuntimeEvent_listeners]
        exact hwrites _ _
    | none =>
      simp only [reevaluateListener, hfailed, if_false, hreason] at h
      split_ifs at h with hsuppressed
      · cases h
        simp only [if_pos hsuppressed]
        exact hwrites _ _
      · cases h
        simp only [if_neg hsuppressed]
        exact hkeeps

theorem listeners_enforced {listeners : List RuntimeListenerSnapshot}
    {report report' : AuthorityReevaluationReport} {adapter after : QuicTransportAdapter ρ}
    (hdistinct : listeners.Pairwise fun a b => a.listenerId ≠ b.listenerId)
    (hlisted : ∀ listener ∈ listeners,
      adapter.runtimeListeners[listener.listenerId]? = some listener)
    (h : listeners.foldlM (reevaluateListener state runtimePeerId) report adapter =
      .ok report' after) (id : String) :
    after.runtimeListeners[id]? =
      match listeners.find? fun listener => listener.listenerId = id with
      | some listener => some (enforcedListener state runtimePeerId listener)
      | none => adapter.runtimeListeners[id]? := by
  induction listeners generalizing report adapter with
  | nil =>
    cases h
    rfl
  | cons first rest ih =>
    obtain ⟨report₁, between, hfirst, hrest⟩ := bind_eq_ok h
    have hentry := reevaluateListener_entry (hlisted first List.mem_cons_self) hfirst
    obtain ⟨hothers, hdistinct'⟩ := List.pairwise_cons.1 hdistinct
    have hlater := ih hdistinct' (fun listener hlistener => by
      rw [hentry, if_neg (hothers listener hlistener)]
      exact hlisted listener (List.mem_cons_of_mem _ hlistener)) hrest
    rw [hlater, List.find?_cons]
    by_cases hid : first.listenerId = id
    · -- the id of the first listener is not among the later ones
      have hnone : (rest.find? fun listener => listener.listenerId = id) = none := by
        rw [List.find?_eq_none]
        intro listener hlistener
        rw [decide_eq_true_eq, ← hid]
        exact (hothers listener hlistener).symm
      simp only [hnone, hid, decide_true, hentry, if_true]
    · simp only [hid, decide_false, hentry, if_false]

theorem reevaluateAuthority_listeners {report : AuthorityReevaluationReport}
    {adapter after : QuicTransportAdapter ρ} (hkeyed : ListenersKeyed adapter)
    (h : reevaluateAuthority state runtimePeerId adapter = .ok report after)
    {listener : RuntimeListenerSnapshot} (hmem : listener ∈ after.activeListeners) :
    ∃ before ∈ adapter.activeListeners, listener = enforcedListener state runtimePeerId before := by
  obtain ⟨started, report', swept, -, -, hswept, hrest, -⟩ := reevaluateAuthority_ok h
  obtain ⟨left, hloop, -, hleft⟩ := reevaluateListeners_ok hrest
  have hsame : SameListeners adapter swept := ⟨hswept⟩
  have hkeyed' := hsame.keyed hkeyed
  have hlisted : ∀ listed ∈ swept.activeListeners,
      swept.runtimeListeners[listed.listenerId]? = some listed := by
    intro listed hlisted
    obtain ⟨id, hfind⟩ := mem_activeListeners.1 hlisted
    rwa [hkeyed' id listed hfind]
  obtain ⟨id, hfind⟩ := mem_activeListeners.1 hmem
  rw [hleft, listeners_enforced hkeyed'.distinct hlisted hloop] at hfind
  cases hfound : swept.activeListeners.find? fun listed => listed.listenerId = id with
  | some before =>
    rw [hfound] at hfind
    cases hfind
    have hbefore := List.mem_of_find?_eq_some hfound
    rw [activeListeners, hswept, ← activeListeners] at hbefore
    exact ⟨before, hbefore, rfl⟩
  | none =>
    rw [hfound] at hfind
    have hunlisted := List.find?_eq_none.1 hfound listener (mem_activeListeners.2 ⟨id, hfind⟩)
    rw [decide_eq_true_eq] at hunlisted
    exact absurd (hkeyed' id listener hfind) hunlisted

/-- Right after a reevaluation by the identity that the durable state names, the report of
the listeners is the registry of the listeners. -/
theorem listener_report_is_registry {config : DaemonConfig} {identity : IdentityKeypair}
    {world after : World ρ} {file : StateFile} {loaded : DaemonState}
    {report : AuthorityReevaluationReport} (hfile : world.stateFile = some file)
    (hload : file.load = .ok loaded) (hlocal : loaded.localPeerId = identity.peerId)
    (hkeyed : ListenersKeyed world.transport)
    (h : LocalControlPlane.reevaluateRuntimeAuthority config identity world = .ok report after) :
    LocalControlPlane.runtimeListeners config after = .ok after.transport.activeListeners after := by
  obtain ⟨state, opened, hstate, hpass, hafter⟩ := reevaluateRuntimeAuthority_ok h
  rw [LocalControlPlane.ensureState_of_load hfile hload] at hstate
  cases hstate
  have hagain : LocalControlPlane.ensureState config after =
      .ok (LocalControlPlane.prepared config loaded) after :=
    LocalControlPlane.ensureState_of_load (hafter.trans hfile) hload
  have hsame : after.transport.activeListeners.map
      (reportedListener (LocalControlPlane.prepared config loaded)) =
        after.transport.activeListeners := by
    refine (List.map_congr_left ?_).trans (List.map_id _)
    intro listener hmem
    obtain ⟨before, -, rfl⟩ := reevaluateAuthority_listeners hkeyed hpass hmem
    rw [← hlocal]
    exact reportedListener_enforced (LocalControlPlane.prepared config loaded) before
  rw [LocalControlPlane.runtimeListeners, bind_of_ok hagain, bind_of_ok (get_run _), pure_run, hsame]

end Hashing

section Closed
attribute [local instance] Primitives.transparent

def listeningWorld : World Unit :=
  ⟨some (.durable (fixtureDaemonState "mesh")),
    (meshTransport [] []).listen ⟨⟨"/quip/control/1"⟩, true⟩⟩

theorem listeningWorld_reported : ∃ report after,
    LocalControlPlane.reevaluateRuntimeAuthority meshConfig fixtureIdentity listeningWorld =
      .ok report after ∧ report.suppressedListeners = 1 ∧
    LocalControlPlane.runtimeListeners meshConfig after =
      .ok after.transport.activeListeners after := by
  have hrun : okWith (fun report _ => report.suppressedListeners = 1)
      (LocalControlPlane.reevaluateRuntimeAuthority meshConfig fixtureIdentity listeningWorld) =
        true := by
    decide +kernel
  obtain ⟨report, after, hok, hsuppressed⟩ := exists_of_okWith hrun
  have hkeyed : ListenersKeyed listeningWorld.transport := by
    refine run_listenersKeyed (.listen ⟨⟨"/quip/control/1"⟩, true⟩) ?_
    intro id listener hfind
    simp [meshTransport] at hfind
  exact ⟨report, after, hok, of_decide_eq_true hsuppressed,
    listener_report_is_registry rfl rfl rfl hkeyed hok⟩

end Closed

end QuipNet.Fabric
