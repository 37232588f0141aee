import QuipNet.Library.Handles
import QuipNet.SessionOutcomes

/-!
# The adapter's sessions at the relays

What the relays have opened and closed for an adapter is a ledger over their state.
Seen from outside, the registry is a table of relay sessions: a connect or a migration
puts a freshly opened relay session (or none) under a session id and closes the one
that was there, and a close takes it away. A migration closes it twice, in `migrate`
and again where the record is replaced.
-/

open Std
namespace QuipNet.Quic
open QuipNet.Library QuipNet.Library.Effect QuipNet.Relay QuipNet.Transport
open QuicTransportAdapter

variable {ρ : Type}

/-- A relay session as the adapter names it: control endpoint and session id. -/
abbrev RelaySession := Option String × SessionId

/-- The relay sessions that were opened and closed for the adapter. Session ids are
fresh at their endpoint. A failed close may or may not have taken effect, and so may a
failed open: the relay may have opened a session, and its answer was lost. -/
structure RelayLedger (control : RelayControl ρ) where
  opened : ρ → List (String × SessionId)
  closed : ρ → List (String × SessionId)
  accepted : ∀ {endpoint request relays answer relays'},
    control.openSession endpoint request relays = (.ok answer, relays') →
      (endpoint, answer.sessionId) ∉ opened relays ∧
        opened relays' = opened relays ++ [(endpoint, answer.sessionId)] ∧
        closed relays' = closed relays
  rejected : ∀ {endpoint request relays error relays'},
    control.openSession endpoint request relays = (.error error, relays') →
      closed relays' = closed relays ∧ (opened relays' = opened relays ∨
        ∃ id, (endpoint, id) ∉ opened relays ∧ opened relays' = opened relays ++ [(endpoint, id)])
  released : ∀ {endpoint id reason relays relays'},
    control.closeSession endpoint id reason relays = (.ok (), relays') →
      opened relays' = opened relays ∧ closed relays' = closed relays ++ [(endpoint, id)]
  refused : ∀ {endpoint id reason relays error relays'},
    control.closeSession endpoint id reason relays = (.error error, relays') →
      opened relays' = opened relays ∧
        (closed relays' = closed relays ∨ closed relays' = closed relays ++ [(endpoint, id)])

/-- The relays answer every open: one that is rejected has opened nothing. -/
def RelayLedger.RejectionsOpenNothing {control : RelayControl ρ} (ledger : RelayLedger control) :
    Prop :=
  ∀ endpoint request relays error relays',
    control.openSession endpoint request relays = (.error error, relays') →
      ledger.opened relays' = ledger.opened relays

def RelayControl.ClosesSucceed (control : RelayControl ρ) : Prop :=
  ∀ endpoint id reason relays, ∃ relays', control.closeSession endpoint id reason relays =
    (.ok (), relays')

/-- The relays grant the adapter every close of a session that they opened. -/
def RelayLedger.ClosesOpened {control : RelayControl ρ} (ledger : RelayLedger control) : Prop :=
  ∀ endpoint id relays, (endpoint, id) ∈ ledger.opened relays →
    ∃ relays', control.closeSession endpoint id "path migrated" relays = (.ok (), relays')

theorem RelayControl.ClosesSucceed.closesOpened {control : RelayControl ρ}
    (h : control.ClosesSucceed) (ledger : RelayLedger control) : ledger.ClosesOpened :=
  fun endpoint id relays _ => h endpoint id "path migrated" relays

/-- The routes that `route_plan` builds: a relay is planned exactly for a relay path. -/
def Shaped (route : RoutePlan) : Prop := route.relay.isSome ↔ route.pathKind = .relay

def relaySession (snapshot : SessionSnapshot) : Option RelaySession :=
  if snapshot.pathKind = .relay then
    some (snapshot.relayControlEndpoint, snapshot.transportSessionId)
  else none

def RelayLedger.handles {control : RelayControl ρ} (ledger : RelayLedger control)
    (adapter : QuicTransportAdapter ρ) : Handles SessionId RelaySession where
  table id := (adapter.runtimeSessions.find id).bind fun record => relaySession record.snapshot
  opened := (ledger.opened adapter.relays).map (Prod.map some id)
  closed := (ledger.closed adapter.relays).map (Prod.map some id)

def RelayLedger.openSessions {control : RelayControl ρ} (ledger : RelayLedger control)
    (adapter : QuicTransportAdapter ρ) : Set RelaySession := (ledger.handles adapter).live

def registeredRelaySessions (adapter : QuicTransportAdapter ρ) : Set RelaySession :=
  {session | ∃ id record, adapter.runtimeSessions.find id = some record ∧
    record.snapshot.pathKind = .relay ∧
    (record.snapshot.relayControlEndpoint, record.snapshot.transportSessionId) = session}

def OnRelay (adapter : QuicTransportAdapter ρ) (id : SessionId) : Prop :=
  ∃ record, adapter.runtimeSessions.find id = some record ∧ record.snapshot.pathKind = .relay

def pathOf (snapshot : SessionSnapshot) :
    PathKind × String × Option PeerId × Option String × Option String × SessionId :=
  (snapshot.pathKind, snapshot.remoteEndpoint, snapshot.relayPeer, snapshot.relayEndpoint,
    snapshot.relayControlEndpoint, snapshot.transportSessionId)

def registeredPath (adapter : QuicTransportAdapter ρ) (id : SessionId) :
    Option (PathKind × String × Option PeerId × Option String × Option String × SessionId) :=
  (adapter.runtimeSessions.find id).map fun record => pathOf record.snapshot

theorem onRelay_iff_registeredPath (adapter : QuicTransportAdapter ρ) (id : SessionId) :
    OnRelay adapter id ↔ ∃ path, registeredPath adapter id = some path ∧ path.1 = .relay := by
  simp only [OnRelay, registeredPath, Option.map_eq_some_iff]
  constructor
  · rintro ⟨record, hfind, hrelay⟩
    exact ⟨_, ⟨record, hfind, rfl⟩, hrelay⟩
  · rintro ⟨_, ⟨record, hfind, rfl⟩, hrelay⟩
    exact ⟨record, hfind, hrelay⟩

theorem onRelay_iff_of_registeredPath {before after : QuicTransportAdapter ρ} {id : SessionId}
    (h : registeredPath after id = registeredPath before id) :
    OnRelay after id ↔ OnRelay before id := by
  rw [onRelay_iff_registeredPath, h, ← onRelay_iff_registeredPath]

theorem updateSessionState_relays (id : SessionId) (state : RuntimeSessionState)
    (closureReason : Option SessionClosureReason) (stateReason : Option String)
    (adapter : QuicTransportAdapter ρ) :
    (adapter.updateSessionState id state closureReason stateReason).2.relays = adapter.relays := by
  unfold updateSessionState
  split <;> rfl

theorem registeredPath_updateSessionState (id other : SessionId) (state : RuntimeSessionState)
    (closureReason : Option SessionClosureReason) (stateReason : Option String)
    (adapter : QuicTransportAdapter ρ) :
    registeredPath (adapter.updateSessionState id state closureReason stateReason).2 other =
      registeredPath adapter other := by
  by_cases hother : other = id
  · subst hother
    rw [registeredPath, find_updateSessionState, Option.map_map]
    rfl
  · rw [registeredPath, (updateSessionState_touches _ _ _ _ adapter).sessions other hother,
      registeredPath]

theorem relaySession_eq_some_iff {snapshot : SessionSnapshot} {session : RelaySession} :
    relaySession snapshot = some session ↔ snapshot.pathKind = .relay ∧
      (snapshot.relayControlEndpoint, snapshot.transportSessionId) = session := by
  unfold relaySession
  split_ifs with hrelay <;> simp [hrelay]

/-! ## Opening a path -/

section Opening
variable [Primitives]

def LocalTo (adapter : QuicTransportAdapter ρ) (route : RoutePlan) : Prop :=
  ∃ identity, adapter.localIdentity = some identity ∧ identity.peerId = route.localPeer

def CanOpen (adapter : QuicTransportAdapter ρ) (route : RoutePlan) : Prop :=
  LocalTo adapter route ∧
    match route.relay with
    | some relay => adapter.networkId.isSome ∧ relay.relayEndpoints ≠ []
    | none => route.remoteEndpoints ≠ []

theorem issueCredential_run (networkId : NetworkId) (identity : IdentityKeypair)
    (protocol : Option ProtocolId) (adapter : QuicTransportAdapter ρ) :
    ∃ credential after, issueCredential networkId identity protocol adapter = .ok credential after ∧
      after.relays = adapter.relays ∧ after.relayControl = adapter.relayControl :=
  ⟨_, _, rfl, rfl, rfl⟩

theorem relaySessionSnapshot_refuses {adapter : QuicTransportAdapter ρ} {route : RoutePlan}
    {relay : RelayPlan} (hrelay : route.relay = some relay) (h : ¬ CanOpen adapter route) :
    ∃ error after, relaySessionSnapshot route relay adapter = .error error after ∧
      after.relays = adapter.relays := by
  simp only [relaySessionSnapshot, bind_run, get_run]
  cases hnetwork : adapter.networkId with
  | none => exact ⟨_, _, rfl, rfl⟩
  | some networkId =>
    cases hidentity : adapter.localIdentity with
    | none => exact ⟨_, _, rfl, rfl⟩
    | some identity =>
      dsimp only
      split_ifs with hpeer
      · exact ⟨_, _, rfl, rfl⟩
      · have hempty : relay.relayEndpoints = [] := by
          by_contra hne
          apply h
          refine ⟨⟨identity, hidentity, not_not.1 hpeer⟩, ?_⟩
          simp [hrelay, hnetwork, hne]
        obtain ⟨credential, s₁, hcredential, hrelays, -⟩ :=
          issueCredential_run networkId identity route.protocol adapter
        rw [bind_of_ok hcredential]
        simp only [bind_run, fillBytes, modifyGet_run, hempty, List.head?_nil, throw_run]
        exact ⟨_, _, rfl, hrelays⟩

theorem relaySessionSnapshot_run {adapter : QuicTransportAdapter ρ} {route : RoutePlan}
    {relay : RelayPlan} (hrelay : route.relay = some relay) (h : CanOpen adapter route) :
    ∃ request,
      (∀ answer relays, adapter.relayControl.openSession relay.relayControlEndpoint request
          adapter.relays = (.ok answer, relays) →
        ∃ opened after, relaySessionSnapshot route relay adapter = .ok opened after ∧
          after.relays = relays ∧
          opened.sessionId = logicalSessionId adapter.runtimeInstanceId route ∧
          opened.relayControlEndpoint = some relay.relayControlEndpoint ∧
          opened.transportSessionId = answer.sessionId) ∧
      (∀ error relays, adapter.relayControl.openSession relay.relayControlEndpoint request
          adapter.relays = (.error error, relays) →
        ∃ error' after, relaySessionSnapshot route relay adapter = .error error' after ∧
          after.relays = relays) := by
  obtain ⟨⟨identity, hidentity, hpeer⟩, hchecks⟩ := h
  rw [hrelay] at hchecks
  obtain ⟨hnetwork, hendpoints⟩ := hchecks
  obtain ⟨networkId, hnetwork⟩ := Option.isSome_iff_exists.1 hnetwork
  obtain ⟨endpoint, rest, hhead⟩ := List.exists_cons_of_ne_nil hendpoints
  obtain ⟨credential, s₁, hcredential, hrelays, hcontrol⟩ :=
    issueCredential_run networkId identity route.protocol adapter
  simp only [relaySessionSnapshot, bind_run, get_run, hnetwork, hidentity, ne_eq, hpeer,
    not_true, if_false, hcredential, fillBytes, modifyGet_run, hhead, List.head?_cons,
    openRelaySession, hrelays, hcontrol]
  refine ⟨{ attemptId := ⟨Vector.ofFn fun i => s₁.host.entropy (s₁.host.drawn + i)⟩
            networkId
            source := route.localPeer
            sourcePublicKey := identity.publicKey
            sourceCredential := credential
            destination := route.peer
            protocol := route.protocol
            trafficClass := route.trafficClass }, ?_, ?_⟩
  · intro answer relays hanswer
    simp only [hanswer, unixSecs, modifyGet_run, pure_run]
    exact ⟨_, _, rfl, rfl, rfl, rfl, rfl⟩
  · intro error relays hanswer
    simp only [hanswer]
    exact ⟨_, _, rfl, rfl⟩

theorem directSessionSnapshot_refuses {adapter : QuicTransportAdapter ρ} {route : RoutePlan}
    (hrelay : route.relay = none) (h : ¬ CanOpen adapter route) :
    ∃ error after, directSessionSnapshot route adapter = .error error after ∧
      after.relays = adapter.relays := by
  simp only [directSessionSnapshot, bind_run, get_run]
  cases hidentity : adapter.localIdentity with
  | none => exact ⟨_, _, rfl, rfl⟩
  | some identity =>
    dsimp only
    split_ifs with hpeer
    · exact ⟨_, _, rfl, rfl⟩
    · have hempty : route.remoteEndpoints = [] := by
        by_contra hne
        apply h
        refine ⟨⟨identity, hidentity, not_not.1 hpeer⟩, ?_⟩
        simp [hrelay, hne]
      simp only [hempty, List.head?_nil, throw_run]
      exact ⟨_, _, rfl, rfl⟩

theorem directSessionSnapshot_run {adapter : QuicTransportAdapter ρ} {route : RoutePlan}
    (hrelay : route.relay = none) (h : CanOpen adapter route) :
    ∃ opened after, directSessionSnapshot route adapter = .ok opened after ∧
      after.relays = adapter.relays ∧
      opened.sessionId = logicalSessionId adapter.runtimeInstanceId route ∧
      opened.relayControlEndpoint = none := by
  obtain ⟨⟨identity, hidentity, hpeer⟩, hchecks⟩ := h
  rw [hrelay] at hchecks
  obtain ⟨endpoint, rest, hhead⟩ := List.exists_cons_of_ne_nil hchecks
  simp only [directSessionSnapshot, bind_run, get_run, hidentity, ne_eq, hpeer, not_true,
    if_false, hhead, List.head?_cons, unixSecs, modifyGet_run, pure_run]
  exact ⟨_, _, rfl, rfl, rfl, rfl⟩

theorem sessionSnapshotForRoute_refuses {adapter : QuicTransportAdapter ρ} {route : RoutePlan}
    (h : ¬ CanOpen adapter route) :
    ∃ error after, sessionSnapshotForRoute route adapter = .error error after ∧
      after.relays = adapter.relays := by
  unfold sessionSnapshotForRoute
  cases hrelay : route.relay with
  | none => exact directSessionSnapshot_refuses hrelay h
  | some relay => exact relaySessionSnapshot_refuses hrelay h

theorem canOpen_updateSessionState_iff (id : SessionId) (state : RuntimeSessionState)
    (closureReason : Option SessionClosureReason) (stateReason : Option String)
    (adapter : QuicTransportAdapter ρ) (route : RoutePlan) :
    CanOpen (adapter.updateSessionState id state closureReason stateReason).2 route ↔
      CanOpen adapter route := by
  unfold updateSessionState
  split <;> exact Iff.rfl

end Opening

section Ledger
variable {control : RelayControl ρ} (ledger : RelayLedger control)

theorem RelayLedger.handles_held (adapter : QuicTransportAdapter ρ) :
    (ledger.handles adapter).held = registeredRelaySessions adapter := by
  ext session
  simp only [Handles.held, handles, registeredRelaySessions, Set.mem_ofPred_eq,
    Option.bind_eq_some_iff, relaySession_eq_some_iff]

/-! ## Calls to the relays -/

theorem closeRelayTransportSession_ok {adapter : QuicTransportAdapter ρ}
    (hcontrol : adapter.relayControl = control) (hcloses : ledger.ClosesOpened)
    {endpoint : String} {id : SessionId}
    (hlive : (some endpoint, id) ∈ (ledger.handles adapter).opened) :
    ∃ after, closeRelayTransportSession (some endpoint) id adapter = .ok () after ∧
      after.runtimeSessions = adapter.runtimeSessions ∧ after.relayControl = adapter.relayControl ∧
      (ledger.handles after).opened = (ledger.handles adapter).opened ∧
      (ledger.handles after).closed = (ledger.handles adapter).closed ++ [(some endpoint, id)] := by
  have hmem : (endpoint, id) ∈ ledger.opened adapter.relays := by
    obtain ⟨pair, hpair, hsame⟩ := List.mem_map.1 hlive
    obtain ⟨hendpoint, hid⟩ := Prod.mk.inj hsame
    rw [← Option.some.inj hendpoint, ← show pair.2 = id from hid]
    exact hpair
  obtain ⟨relays, hanswer⟩ := hcloses endpoint id adapter.relays hmem
  obtain ⟨hopened, hclosed⟩ := ledger.released hanswer
  refine ⟨{ adapter with relays }, ?_, rfl, rfl, ?_, ?_⟩
  · simp only [closeRelayTransportSession, hcontrol, hanswer]
  · simp only [RelayLedger.handles, hopened]
  · simp only [RelayLedger.handles, hclosed, List.map_append, List.map_cons, List.map_nil,
      Prod.map_apply, id_eq]

theorem RelayLedger.handles_of_relays {before after : QuicTransportAdapter ρ}
    (h : after.relays = before.relays) :
    (ledger.handles after).opened = (ledger.handles before).opened ∧
      (ledger.handles after).closed = (ledger.handles before).closed := by
  simp only [handles, h, and_self]

structure RelayLedger.Opens (snapshot : SessionSnapshot) (before after : QuicTransportAdapter ρ) :
    Prop where
  fresh : ∀ session ∈ relaySession snapshot, session ∉ (ledger.handles before).opened
  opened : (ledger.handles after).opened =
    (ledger.handles before).opened ++ (relaySession snapshot).toList
  closed : (ledger.handles after).closed = (ledger.handles before).closed

theorem RelayLedger.Opens.grows {ledger : RelayLedger control} {snapshot : SessionSnapshot}
    {before after : QuicTransportAdapter ρ} (h : ledger.Opens snapshot before after) :
    (ledger.handles before).opened ⊆ (ledger.handles after).opened := by
  rw [h.opened]
  exact List.subset_append_left _ _

/-! ## Closing and replacing a path -/

theorem RelayLedger.handles_eq {before after : QuicTransportAdapter ρ}
    (hsessions : after.runtimeSessions = before.runtimeSessions)
    (hopened : (ledger.handles after).opened = (ledger.handles before).opened)
    (hclosed : (ledger.handles after).closed = (ledger.handles before).closed) :
    ledger.handles after = ledger.handles before := by
  have htable : (ledger.handles after).table = (ledger.handles before).table := by
    simp only [handles, hsessions]
  exact Handles.ext htable hopened hclosed

theorem RelayLedger.handles_emit (eventType : String) (subject : RuntimeEventSubject)
    (details : Json) (adapter : QuicTransportAdapter ρ) :
    ledger.handles (adapter.emitRuntimeEvent eventType subject details) = ledger.handles adapter := by
  simp only [handles, emitRuntimeEvent, ticked]

theorem RelayLedger.handles_updateSessionState (id : SessionId) (state : RuntimeSessionState)
    (closureReason : Option SessionClosureReason) (stateReason : Option String)
    (adapter : QuicTransportAdapter ρ) :
    ledger.handles (adapter.updateSessionState id state closureReason stateReason).2 =
      ledger.handles adapter := by
  unfold updateSessionState
  split
  · rfl
  · rw [ledger.handles_emit]
    refine Handles.ext ?_ rfl rfl
    funext other
    simp only [handles, SessionRegistry.find_move]
    split_ifs with hid
    · subst hid
      cases adapter.runtimeSessions.find id <;> rfl
    · rfl

theorem RelayLedger.endpoint_of_mem_opened {adapter : QuicTransportAdapter ρ}
    {session : RelaySession} (h : session ∈ (ledger.handles adapter).opened) :
    ∃ endpoint, session.1 = some endpoint := by
  obtain ⟨pair, -, rfl⟩ := List.mem_map.1 h
  exact ⟨pair.1, rfl⟩

/-- The relay session that was left is closed: the new path runs over another one,
which was not open yet when the old one was. -/
theorem closeLeftRelaySession_run {adapter : QuicTransportAdapter ρ}
    (hcontrol : adapter.relayControl = control) (hcloses : ledger.ClosesOpened)
    {previous next : SessionSnapshot} {start : QuicTransportAdapter ρ}
    (hgrown : (ledger.handles start).opened ⊆ (ledger.handles adapter).opened)
    (hprevious : ∀ session ∈ relaySession previous, session ∈ (ledger.handles start).opened)
    (hnext : ∀ session ∈ relaySession next, session ∉ (ledger.handles start).opened) :
    ∃ after, closeLeftRelaySession previous next adapter = .ok () after ∧
      after.runtimeSessions = adapter.runtimeSessions ∧ after.relayControl = adapter.relayControl ∧
      (ledger.handles after).opened = (ledger.handles adapter).opened ∧
      (ledger.handles after).closed =
        (ledger.handles adapter).closed ++ (relaySession previous).toList := by
  cases hsession : relaySession previous with
  | none =>
    have hdirect : previous.pathKind ≠ .relay := by
      intro hrelay
      simp [relaySession, hrelay] at hsession
    exact ⟨adapter, closeLeftRelaySession_direct hdirect next adapter, rfl, rfl, rfl, by simp⟩
  | some session =>
    have hmem := hprevious session hsession
    obtain ⟨hrelay, rfl⟩ := relaySession_eq_some_iff.1 hsession
    obtain ⟨endpoint, hendpoint⟩ := ledger.endpoint_of_mem_opened hmem
    have hleaves : leavesRelaySession previous next = true := by
      by_contra hstays
      apply hnext (previous.relayControlEndpoint, previous.transportSessionId) _ hmem
      rw [Option.mem_def, relaySession_eq_some_iff]
      simp only [leavesRelaySession, hrelay, decide_true, Bool.true_and, Bool.or_eq_true,
        decide_eq_true_eq, not_or, not_not] at hstays
      exact ⟨hstays.1.1, by rw [hstays.1.2, hstays.2]⟩
    dsimp only at hendpoint
    rw [hendpoint] at hmem
    obtain ⟨after, hclose, hsessions, hsame, hopened, hclosed⟩ :=
      closeRelayTransportSession_ok ledger hcontrol hcloses (hgrown hmem)
    refine ⟨after, ?_, hsessions, hsame, hopened, ?_⟩
    · rw [closeLeftRelaySession, if_pos hleaves, hendpoint, hclose]
    · rw [hclosed, hendpoint, Option.toList_some]

theorem upsertRuntimeSession_run {adapter : QuicTransportAdapter ρ}
    (hcontrol : adapter.relayControl = control) (hcloses : ledger.ClosesOpened)
    (record : RuntimeSessionRecord) {start : QuicTransportAdapter ρ}
    (hgrown : (ledger.handles start).opened ⊆ (ledger.handles adapter).opened)
    (hprevious : ∀ session ∈ (ledger.handles adapter).table record.snapshot.sessionId,
      session ∈ (ledger.handles start).opened)
    (hnext : ∀ session ∈ relaySession record.snapshot, session ∉ (ledger.handles start).opened) :
    ∃ after, upsertRuntimeSession record adapter = .ok () after ∧
      after.runtimeSessions = adapter.runtimeSessions.insert record ∧
      after.relayControl = adapter.relayControl ∧
      (ledger.handles after).opened = (ledger.handles adapter).opened ∧
      (ledger.handles after).closed = (ledger.handles adapter).closed ++
        ((ledger.handles adapter).table record.snapshot.sessionId).toList := by
  let stored : QuicTransportAdapter ρ :=
    { adapter with runtimeSessions := adapter.runtimeSessions.insert record }
  cases hfind : adapter.runtimeSessions.find record.snapshot.sessionId with
  | none =>
    have htable : (ledger.handles adapter).table record.snapshot.sessionId = none := by
      simp only [RelayLedger.handles, hfind, Option.bind_none]
    simp only [upsertRuntimeSession, bind_run, modifyGet_run, hfind, announceSession, modify_run,
      htable, Option.toList_none, List.append_nil]
    refine ⟨_, rfl, ?_, ?_, ?_, ?_⟩
    · rw [(emitRuntimeEvent_quiet _ _ _ _).sessions, (emitRuntimeEvent_quiet _ _ _ _).sessions]
    · rw [(emitRuntimeEvent_quiet _ _ _ _).relayControl,
        (emitRuntimeEvent_quiet _ _ _ _).relayControl]
    · rw [ledger.handles_emit, ledger.handles_emit]
      rfl
    · rw [ledger.handles_emit, ledger.handles_emit]
      rfl
  | some previous =>
    have htable : (ledger.handles adapter).table record.snapshot.sessionId =
        relaySession previous.snapshot := by
      simp only [RelayLedger.handles, hfind, Option.bind_some]
    rw [htable] at hprevious ⊢
    have hstored : stored.relayControl = control := hcontrol
    obtain ⟨closed, hclose, hsessions, hsame, hopened, hclosed⟩ :=
      closeLeftRelaySession_run ledger hstored hcloses hgrown hprevious hnext
    simp only [upsertRuntimeSession, bind_run, modifyGet_run, hfind, announceSession]
    rw [hclose]
    refine ⟨_, rfl, ?_, ?_, ?_, ?_⟩
    · rw [(emitRuntimeEvent_quiet _ _ _ _).sessions, hsessions]
    · rw [(emitRuntimeEvent_quiet _ _ _ _).relayControl, hsame]
    · rw [ledger.handles_emit, hopened]
      rfl
    · rw [ledger.handles_emit, hclosed]
      rfl

theorem RelayLedger.handles_table_insert {adapter after : QuicTransportAdapter ρ}
    {record : RuntimeSessionRecord}
    (h : after.runtimeSessions = adapter.runtimeSessions.insert record) :
    (ledger.handles after).table = Function.update (ledger.handles adapter).table
      record.snapshot.sessionId (relaySession record.snapshot) := by
  funext id
  simp only [handles, h, SessionRegistry.find_insert, Function.update_apply]
  by_cases hid : record.snapshot.sessionId = id
  · simp [hid]
  · simp [hid, Ne.symm hid]

/-- The operation leaves the sessions as they are, or replaces the relay session of `id`
and closes the old one `times` times. -/
def RelayLedger.Effect (id : SessionId) (times : ℕ) (before after : QuicTransportAdapter ρ) : Prop :=
  after.relayControl = before.relayControl ∧
    (ledger.handles after = ledger.handles before ∨
      ∃ next, Handles.Replaces id next times (ledger.handles before) (ledger.handles after))

theorem closeOwnRelaySession_run {adapter : QuicTransportAdapter ρ}
    (hcontrol : adapter.relayControl = control) (hcloses : ledger.ClosesOpened)
    {session : SessionSnapshot}
    (hlive : ∀ relay ∈ relaySession session, relay ∈ (ledger.handles adapter).opened) :
    ∃ after, closeOwnRelaySession session adapter = .ok () after ∧
      after.runtimeSessions = adapter.runtimeSessions ∧ after.relayControl = adapter.relayControl ∧
      (ledger.handles after).opened = (ledger.handles adapter).opened ∧
      (ledger.handles after).closed =
        (ledger.handles adapter).closed ++ (relaySession session).toList := by
  unfold closeOwnRelaySession
  split_ifs with hrelay
  · have hsession : relaySession session =
        some (session.relayControlEndpoint, session.transportSessionId) := if_pos hrelay
    have hmem := hlive _ hsession
    obtain ⟨endpoint, hendpoint⟩ := ledger.endpoint_of_mem_opened hmem
    dsimp only at hendpoint
    rw [hendpoint] at hmem
    rw [hsession, hendpoint]
    exact closeRelayTransportSession_ok ledger hcontrol hcloses hmem
  · have hsession : relaySession session = none := if_neg hrelay
    exact ⟨adapter, rfl, rfl, rfl, rfl, by simp [hsession]⟩

theorem closeSession_effect {adapter : QuicTransportAdapter ρ}
    (hcontrol : adapter.relayControl = control) (hcloses : ledger.ClosesOpened)
    (haccounted : (ledger.handles adapter).Accounted) (session : SessionSnapshot) :
    ledger.Effect session.sessionId 1 adapter (final (closeSession session) adapter) := by
  let closing := (adapter.updateSessionState session.sessionId .closing
    (((adapter.sessionSnapshot session.sessionId).bind SessionSnapshot.closureReason).or
      session.closureReason)
    (((adapter.sessionSnapshot session.sessionId).bind SessionSnapshot.stateReason).or
      session.stateReason)).2
  let taken : QuicTransportAdapter ρ :=
    { closing with runtimeSessions := closing.runtimeSessions.remove session.sessionId }
  have hhandles : ledger.handles closing = ledger.handles adapter :=
    ledger.handles_updateSessionState _ _ _ _ adapter
  have hsame : taken.relayControl = adapter.relayControl :=
    (updateSessionState_touches _ _ _ _ adapter).relayControl
  have hopened : (ledger.handles taken).opened = (ledger.handles adapter).opened := by
    rw [← hhandles]
    rfl
  have hclosed : (ledger.handles taken).closed = (ledger.handles adapter).closed := by
    rw [← hhandles]
    rfl
  have htaken : ∀ after : QuicTransportAdapter ρ, after.runtimeSessions = taken.runtimeSessions →
      (ledger.handles after).table =
        Function.update (ledger.handles adapter).table session.sessionId none := by
    intro after hafter
    funext id
    rw [← hhandles]
    simp only [RelayLedger.handles, hafter, taken, SessionRegistry.find_remove,
      Function.update_apply]
    by_cases hid : session.sessionId = id
    · simp [hid]
    · simp [hid, Ne.symm hid]
  have hrun : final (closeSession session) adapter =
      final (finishClose (closing.runtimeSessions.find session.sessionId)) taken := rfl
  rw [hrun]
  cases hfind : closing.runtimeSessions.find session.sessionId with
  | none =>
    have hnone : (ledger.handles adapter).table session.sessionId = none := by
      rw [← hhandles]
      simp only [RelayLedger.handles, hfind, Option.bind_none]
    refine ⟨hsame, .inr ⟨none, htaken _ rfl, nofun, ?_, ?_⟩⟩
    · exact hopened.trans (List.append_nil _).symm
    · rw [hnone]
      exact hclosed.trans (List.append_nil _).symm
  | some active =>
    have hactive : (ledger.handles adapter).table session.sessionId =
        relaySession active.snapshot := by
      rw [← hhandles]
      simp only [RelayLedger.handles, hfind, Option.bind_some]
    have hlive : ∀ relay ∈ relaySession active.snapshot, relay ∈ (ledger.handles taken).opened := by
      intro relay hrelay
      rw [← hactive] at hrelay
      rw [hopened]
      exact (haccounted.live_of_table hrelay).1
    obtain ⟨closed, hclose, hsessions, hcontrol₁, hopened₁, hclosed₁⟩ :=
      closeOwnRelaySession_run ledger (hsame.trans hcontrol) hcloses hlive
    rw [finishClose, final_bind_of_ok hclose]
    simp only [final, bind_run, unixSecs, modifyGet_run, modify_run]
    refine ⟨?_, .inr ⟨none, ?_, nofun, ?_, ?_⟩⟩
    · rw [(emitRuntimeEvent_quiet _ _ _ _).relayControl]
      exact hcontrol₁.trans hsame
    · apply htaken
      rw [(emitRuntimeEvent_quiet _ _ _ _).sessions]
      exact hsessions
    · rw [ledger.handles_emit]
      exact (hopened₁.trans hopened).trans (List.append_nil _).symm
    · rw [ledger.handles_emit, hactive]
      refine (hclosed₁.trans (congrArg (· ++ _) hclosed)).trans ?_
      cases relaySession active.snapshot <;> rfl

variable [Primitives]

structure RelayLedger.Marks (route : RoutePlan) (before after : QuicTransportAdapter ρ) : Prop where
  handles : ledger.handles after = ledger.handles before
  relayControl : after.relayControl = before.relayControl
  relays : after.relays = before.relays
  canOpen : CanOpen after route ↔ CanOpen before route
  path : ∀ id, registeredPath after id = registeredPath before id

theorem migrate_marks (session : SessionSnapshot) (route : RoutePlan)
    (adapter : QuicTransportAdapter ρ) :
    ∃ marked, migrate session route adapter =
        (match marked.sessionSnapshot session.sessionId with
          | none => throw (.invalidRoute "session is not active in runtime registry")
          | some existing => migrateExisting existing route : QuicM ρ SessionSnapshot) marked ∧
      ledger.Marks route adapter marked :=
  ⟨_, rfl, ledger.handles_updateSessionState _ _ _ _ adapter,
    (updateSessionState_touches _ _ _ _ adapter).relayControl,
    updateSessionState_relays _ _ _ _ adapter,
    canOpen_updateSessionState_iff _ _ _ _ adapter route,
    fun other => registeredPath_updateSessionState _ other _ _ _ adapter⟩

theorem relaySessionSnapshot_cases {adapter : QuicTransportAdapter ρ}
    (hcontrol : adapter.relayControl = control) (hrejects : ledger.RejectionsOpenNothing) {route : RoutePlan} {relay : RelayPlan}
    (hrelay : route.relay = some relay) (hkind : route.pathKind = .relay) :
    (∃ opened after, relaySessionSnapshot route relay adapter = .ok opened after ∧
      ledger.Opens opened adapter after) ∨
    ∃ error after, relaySessionSnapshot route relay adapter = .error error after ∧
      (ledger.handles after).opened = (ledger.handles adapter).opened ∧
      (ledger.handles after).closed = (ledger.handles adapter).closed := by
  by_cases hopens : CanOpen adapter route
  · obtain ⟨request, haccepts, hfails⟩ := relaySessionSnapshot_run hrelay hopens
    rcases hanswer : adapter.relayControl.openSession relay.relayControlEndpoint request
      adapter.relays with ⟨answer, relays⟩
    cases answer with
    | error error =>
      obtain ⟨error', after, hrun, rfl⟩ := hfails error relays hanswer
      rw [hcontrol] at hanswer
      have hopened := hrejects _ _ _ _ _ hanswer
      have hclosed := (ledger.rejected hanswer).1
      refine .inr ⟨error', after, hrun, ?_, ?_⟩
      · simp only [RelayLedger.handles, hopened]
      · simp only [RelayLedger.handles, hclosed]
    | ok answer =>
      obtain ⟨opened, after, hrun, rfl, -, hendpoint, hid⟩ := haccepts answer relays hanswer
      rw [hcontrol] at hanswer
      obtain ⟨hfresh, hopened, hclosed⟩ := ledger.accepted hanswer
      have hopenedKind : opened.pathKind = .relay :=
        (relaySessionSnapshot_returns route relay _ _ _ hrun).2.trans hkind
      have hsession : relaySession opened =
          some (some relay.relayControlEndpoint, answer.sessionId) := by
        rw [relaySession, if_pos hopenedKind, hendpoint, hid]
      refine .inl ⟨opened, after, hrun, ?_, ?_, ?_⟩
      · rw [hsession]
        rintro session ⟨⟩ hmem
        obtain ⟨⟨endpoint, id⟩, hpair, heq⟩ := List.mem_map.1 hmem
        simp only [Prod.map_apply, id_eq, Prod.mk.injEq, Option.some.injEq] at heq
        obtain ⟨rfl, rfl⟩ := heq
        exact hfresh hpair
      · simp only [RelayLedger.handles, hopened, hsession, List.map_append, List.map_cons,
          List.map_nil, Prod.map_apply, id_eq, Option.toList_some]
      · simp only [RelayLedger.handles, hclosed]
  · obtain ⟨error, after, hrun, hrelays⟩ := relaySessionSnapshot_refuses hrelay hopens
    exact .inr ⟨error, after, hrun, ledger.handles_of_relays hrelays⟩

theorem directSessionSnapshot_cases {adapter : QuicTransportAdapter ρ} {route : RoutePlan}
    (hrelay : route.relay = none) (hkind : route.pathKind ≠ .relay) :
    (∃ opened after, directSessionSnapshot route adapter = .ok opened after ∧
      ledger.Opens opened adapter after) ∨
    ∃ error after, directSessionSnapshot route adapter = .error error after ∧
      (ledger.handles after).opened = (ledger.handles adapter).opened ∧
      (ledger.handles after).closed = (ledger.handles adapter).closed := by
  by_cases hopens : CanOpen adapter route
  · obtain ⟨opened, after, hrun, hrelays, -, -⟩ := directSessionSnapshot_run hrelay hopens
    obtain ⟨hopened, hclosed⟩ := ledger.handles_of_relays hrelays
    have hsession : relaySession opened = none := by
      rw [relaySession, if_neg]
      rw [(directSessionSnapshot_returns route _ _ _ hrun).2]
      exact hkind
    refine .inl ⟨opened, after, hrun, ?_, ?_, hclosed⟩
    · rw [hsession]
      exact nofun
    · rw [hsession, hopened, Option.toList_none, List.append_nil]
  · obtain ⟨error, after, hrun, hrelays⟩ := directSessionSnapshot_refuses hrelay hopens
    exact .inr ⟨error, after, hrun, ledger.handles_of_relays hrelays⟩

theorem sessionSnapshotForRoute_cases {adapter : QuicTransportAdapter ρ}
    (hcontrol : adapter.relayControl = control) (hrejects : ledger.RejectionsOpenNothing) {route : RoutePlan} (hshaped : Shaped route) :
    (∃ opened after, sessionSnapshotForRoute route adapter = .ok opened after ∧
      ledger.Opens opened adapter after) ∨
    ∃ error after, sessionSnapshotForRoute route adapter = .error error after ∧
      (ledger.handles after).opened = (ledger.handles adapter).opened ∧
      (ledger.handles after).closed = (ledger.handles adapter).closed := by
  unfold sessionSnapshotForRoute
  cases hrelay : route.relay with
  | none =>
    have hkind : route.pathKind ≠ .relay := by
      intro hkind
      simpa [hrelay] using hshaped.2 hkind
    exact directSessionSnapshot_cases ledger hrelay hkind
  | some relay =>
    have hkind := hshaped.1 (by rw [hrelay]; rfl)
    exact relaySessionSnapshot_cases ledger hcontrol hrejects hrelay hkind

/-! ## Connect, migrate and close -/

section Operations
variable {ledger} {adapter : QuicTransportAdapter ρ} (hcontrol : adapter.relayControl = control)
  (hrejects : ledger.RejectionsOpenNothing) (hcloses : ledger.ClosesOpened)
  (haccounted : (ledger.handles adapter).Accounted)
include hcontrol hrejects hcloses haccounted

theorem connect_effect {route : RoutePlan} (hshaped : Shaped route) :
    ∃ id, ledger.Effect id 1 adapter (final (connect route) adapter) := by
  cases hsuppressed : adapter.findReconnectSuppression route.key with
  | some suppression =>
    simp only [RelayLedger.Effect, final, connect, bind_run, get_run, hsuppressed, modify_run,
      throw_run]
    exact ⟨.fill 0, (emitRuntimeEvent_quiet _ _ _ _).relayControl,
      .inl (ledger.handles_emit _ _ _ _)⟩
  | none =>
    have hquiet := sessionSnapshotForRoute_quiet route adapter
    rcases sessionSnapshotForRoute_cases ledger hcontrol hrejects hshaped with
      ⟨opened, s₁, hrun, hopens⟩ | ⟨error, s₁, hrun, hopened, hclosed⟩
    · rw [final_of_ok hrun] at hquiet
      have hcontrol₁ : s₁.relayControl = control := hquiet.relayControl.trans hcontrol
      have htable : (ledger.handles s₁).table = (ledger.handles adapter).table := by
        simp only [RelayLedger.handles, hquiet.sessions]
      let record : RuntimeSessionRecord := ⟨opened, route.protocol.map ProtocolId.text⟩
      have hprevious : ∀ session ∈ (ledger.handles s₁).table record.snapshot.sessionId,
          session ∈ (ledger.handles adapter).opened := by
        intro session hsession
        rw [htable] at hsession
        exact (haccounted.live_of_table hsession).1
      obtain ⟨after, hupsert, hsessions, hsame, hopened, hclosed⟩ :=
        upsertRuntimeSession_run ledger hcontrol₁ hcloses record hopens.grows hprevious hopens.fresh
      have hfinal : final (connect route) adapter = after := by
        apply final_of_ok (a := ⟨opened, route.protocol.map ProtocolId.text⟩)
        simp only [connect, bind_run, get_run, hsuppressed, hrun]
        rw [hupsert]
        rfl
      rw [hfinal]
      refine ⟨opened.sessionId, hsame.trans hquiet.relayControl, .inr ⟨relaySession opened, ?_⟩⟩
      refine ⟨?_, hopens.fresh, hopened.trans hopens.opened, ?_⟩
      · rw [ledger.handles_table_insert hsessions, htable]
      · rw [hclosed, hopens.closed, htable]
        cases (ledger.handles adapter).table record.snapshot.sessionId <;> rfl
    · rw [final_of_error hrun] at hquiet
      have hfinal : final (connect route) adapter = s₁ := by
        apply final_of_error (e := error)
        simp only [connect, bind_run, get_run, hsuppressed, hrun]
      rw [hfinal]
      exact ⟨.fill 0, hquiet.relayControl,
        .inl (ledger.handles_eq hquiet.sessions hopened hclosed)⟩

/-- The old relay session is closed before the record is replaced and once more when
it is. -/
theorem migrateExisting_effect {existing : SessionSnapshot}
    (hexisting : adapter.sessionSnapshot existing.sessionId = some existing) {route : RoutePlan}
    (hshaped : Shaped route) :
    ledger.Effect existing.sessionId 2 adapter (final (migrateExisting existing route) adapter) := by
  have hquiet := sessionSnapshotForRoute_quiet route adapter
  rcases sessionSnapshotForRoute_cases ledger hcontrol hrejects hshaped with
    ⟨opened, s₁, hrun, hopens⟩ | ⟨error, s₁, hrun, hopened, hclosed⟩
  · rw [final_of_ok hrun] at hquiet
    let migrated := migratedSnapshot existing opened s₁.currentUnixSecs
    let record : RuntimeSessionRecord := ⟨migrated, route.protocol.map ProtocolId.text⟩
    have hexistingTable : (ledger.handles adapter).table existing.sessionId =
        relaySession existing := by
      obtain ⟨found, hfound, hsnapshot⟩ := Option.map_eq_some_iff.1 hexisting
      simp only [RelayLedger.handles, hfound, Option.bind_some, hsnapshot]
    have hprevious : ∀ session ∈ relaySession existing,
        session ∈ (ledger.handles adapter).opened := by
      intro session hsession
      rw [← hexistingTable] at hsession
      exact (haccounted.live_of_table hsession).1
    have hcontrol₁ : s₁.ticked.relayControl = control := hquiet.relayControl.trans hcontrol
    have hfresh : ∀ session ∈ relaySession migrated, session ∉ (ledger.handles adapter).opened :=
      hopens.fresh
    obtain ⟨s₂, hleft, hsessions₂, hsame₂, hopened₂, hclosed₂⟩ :=
      closeLeftRelaySession_run ledger hcontrol₁ hcloses hopens.grows hprevious hfresh
    have htable₂ : (ledger.handles s₂).table = (ledger.handles adapter).table := by
      simp only [RelayLedger.handles, hsessions₂, ticked, hquiet.sessions]
    have hprevious₂ : ∀ session ∈ (ledger.handles s₂).table record.snapshot.sessionId,
        session ∈ (ledger.handles adapter).opened := by
      intro session hsession
      rw [htable₂] at hsession
      exact (haccounted.live_of_table hsession).1
    obtain ⟨s₃, hupsert, hsessions₃, hsame₃, hopened₃, hclosed₃⟩ :=
      upsertRuntimeSession_run ledger (hsame₂.trans hcontrol₁) hcloses record
        (hopened₂ ▸ hopens.grows) hprevious₂ hfresh
    have hsecs : unixSecs s₁ = .ok s₁.currentUnixSecs s₁.ticked := rfl
    have hfinal : final (migrateExisting existing route) adapter =
        s₃.emitRuntimeEvent "path.migration_completed" (sessionSubject migrated.sessionId)
          (.object [("peer_id", .string migrated.peer.toText),
            ("prior_path_class", .string (pathClassLabel existing.pathKind)),
            ("next_path_class", .string (pathClassLabel migrated.pathKind))]) := by
      apply final_of_ok (a := migrated)
      rw [migrateExisting, bind_of_ok hrun, bind_of_ok hsecs, bind_of_ok hleft, bind_of_ok hupsert]
      rfl
    rw [hfinal]
    refine ⟨?_, .inr ⟨relaySession migrated, ?_⟩⟩
    · rw [(emitRuntimeEvent_quiet _ _ _ _).relayControl]
      exact hsame₃.trans (hsame₂.trans hquiet.relayControl)
    · rw [ledger.handles_emit]
      refine ⟨?_, hopens.fresh, ?_, ?_⟩
      · rw [ledger.handles_table_insert hsessions₃, htable₂]
        rfl
      · rw [hopened₃, hopened₂]
        exact hopens.opened
      · have hclosed₁ : (ledger.handles s₁.ticked).closed = (ledger.handles adapter).closed :=
          hopens.closed
        rw [hclosed₃, hclosed₂, hclosed₁, htable₂, hexistingTable]
        change _ ++ _ ++ ((ledger.handles adapter).table existing.sessionId).toList = _
        rw [hexistingTable]
        cases relaySession existing <;> simp [List.replicate]
  · rw [final_of_error hrun] at hquiet
    rw [migrateExisting, final_of_error (bind_of_error hrun)]
    exact ⟨hquiet.relayControl, .inl (ledger.handles_eq hquiet.sessions hopened hclosed)⟩

theorem migrate_effect (session : SessionSnapshot) {route : RoutePlan} (hshaped : Shaped route) :
    ledger.Effect session.sessionId 2 adapter (final (migrate session route) adapter) := by
  obtain ⟨marked, hmigrate, hmarks⟩ := migrate_marks ledger session route adapter
  have hmarked : ∀ after : QuicTransportAdapter ρ, ledger.Effect session.sessionId 2 marked after →
      ledger.Effect session.sessionId 2 adapter after := by
    intro after heffect
    rw [RelayLedger.Effect, hmarks.handles, hmarks.relayControl] at heffect
    exact heffect
  apply hmarked
  rw [final, hmigrate]
  change ledger.Effect _ 2 marked (final _ marked)
  cases hexisting : marked.sessionSnapshot session.sessionId with
  | none => exact ⟨rfl, .inl rfl⟩
  | some existing =>
    have hid := sessionId_of_sessionSnapshot hexisting
    rw [← hid] at hexisting ⊢
    exact migrateExisting_effect (hmarks.relayControl.trans hcontrol) hrejects hcloses
      (hmarks.handles ▸ haccounted) hexisting hshaped

end Operations

end Ledger

end QuipNet.Quic
