import QuipNet.RelaySessionRuns
import QuipNet.SuppressionRuns

/-!
# Relay calls that fail

A connect or a migration that replaces a relay path can be stopped by the relay in its
last step, when the registry already holds the new path. One that opens a relay path can
fail because the relay's answer is lost, and the session that the relay opened is then in
no record. A close that the relay refuses has already taken the session out of the
registry, and its end is not recorded. Calls that need no relay leave the path and the
relays as they were when they fail.
-/

open Std
namespace QuipNet.Quic
open QuipNet.Library QuipNet.Library.Effect QuipNet.Relay QuipNet.Transport
open QuicTransportAdapter

variable {ρ : Type}

/-! ## Failed calls that leave no trace -/

def QuicTransportAdapter.onRelays {τ : Type} (adapter : QuicTransportAdapter ρ)
    (relayControl : RelayControl τ) (relays : τ) : QuicTransportAdapter τ where
  supportsDatagrams := adapter.supportsDatagrams
  supportsPathMigration := adapter.supportsPathMigration
  runtimeInstanceId := adapter.runtimeInstanceId
  networkId := adapter.networkId
  localIdentity := adapter.localIdentity
  relayControl := relayControl
  relays := relays
  runtimeSessions := adapter.runtimeSessions
  terminalSessions := adapter.terminalSessions
  runtimeListeners := adapter.runtimeListeners
  runtimeEvents := adapter.runtimeEvents
  reconnectSuppressions := adapter.reconnectSuppressions
  reconnectAttempts := adapter.reconnectAttempts
  host := adapter.host

def RelayLedger.NoOrphans {control : RelayControl ρ} (ledger : RelayLedger control)
    (adapter : QuicTransportAdapter ρ) : Prop :=
  ledger.openSessions adapter ⊆ registeredRelaySessions adapter

/-- Whatever the relays do: when the call fails, no open relay session is left without a
record, and the session `id` is on the path it was on. -/
def Atomic {α : Type} (call : ∀ τ, QuicM τ α) (id : SessionId) (adapter : QuicTransportAdapter ρ) :
    Prop :=
  ∀ (τ : Type) (control : RelayControl τ) (ledger : RelayLedger control) (relays : τ),
    ledger.NoOrphans (adapter.onRelays control relays) →
      ∀ error after, call τ (adapter.onRelays control relays) = .error error after →
        ledger.NoOrphans after ∧ registeredPath after id = registeredPath adapter id

section Ledger
variable {control : RelayControl ρ} {ledger : RelayLedger control}

theorem RelayLedger.noOrphans_of_handles {before after : QuicTransportAdapter ρ}
    (h : ledger.handles after = ledger.handles before) (hbefore : ledger.NoOrphans before) :
    ledger.NoOrphans after := by
  rw [NoOrphans, openSessions, ← ledger.handles_held, h, ledger.handles_held]
  exact hbefore

variable [Primitives]

theorem handles_of_open_error (ledger : RelayLedger control) {adapter : QuicTransportAdapter ρ}
    {route : RoutePlan} (hlocal : ¬ CanOpen adapter route ∨ route.relay = none)
    {error : TransportError} {after : QuicTransportAdapter ρ}
    (h : sessionSnapshotForRoute route adapter = .error error after) :
    ledger.handles after = ledger.handles adapter := by
  have hsessions := ((sessionSnapshotForRoute_quiet route).of_error h).sessions
  by_cases hopens : CanOpen adapter route
  · have hrelay := hlocal.resolve_left (not_not.2 hopens)
    obtain ⟨opened, s₁, hrun, -⟩ := directSessionSnapshot_run hrelay hopens
    simp only [sessionSnapshotForRoute, hrelay, hrun] at h
    cases h
  · obtain ⟨error', s₁, hrun, hrelays⟩ := sessionSnapshotForRoute_refuses hopens
    rw [hrun] at h
    cases h
    obtain ⟨hopened, hclosed⟩ := ledger.handles_of_relays hrelays
    exact ledger.handles_eq hsessions hopened hclosed

theorem canOpen_of_open_ok {adapter after : QuicTransportAdapter ρ} {route : RoutePlan}
    {opened : SessionSnapshot} (h : sessionSnapshotForRoute route adapter = .ok opened after) :
    CanOpen adapter route := by
  by_contra hblocked
  obtain ⟨error, s₁, hrun, -⟩ := sessionSnapshotForRoute_refuses hblocked
  rw [hrun] at h
  cases h

theorem opened_of_open_ok {adapter after : QuicTransportAdapter ρ} {route : RoutePlan}
    {opened : SessionSnapshot} (h : sessionSnapshotForRoute route adapter = .ok opened after) :
    opened.sessionId = logicalSessionId adapter.runtimeInstanceId route ∧
      opened.relayControlEndpoint = route.relay.map RelayPlan.relayControlEndpoint := by
  have hopens := canOpen_of_open_ok h
  cases hrelay : route.relay with
  | none =>
    obtain ⟨opened', s₁, hrun, -, hid, hendpoint⟩ := directSessionSnapshot_run hrelay hopens
    simp only [sessionSnapshotForRoute, hrelay, hrun] at h
    cases h
    exact ⟨hid, hendpoint⟩
  | some relay =>
    simp only [sessionSnapshotForRoute, hrelay] at h
    obtain ⟨request, haccepts, hrejects⟩ := relaySessionSnapshot_run hrelay hopens
    rcases hanswer : adapter.relayControl.openSession relay.relayControlEndpoint request
      adapter.relays with ⟨answer, relays⟩
    cases answer with
    | ok answer =>
      obtain ⟨opened', s₁, hrun, -, hid, hendpoint, -⟩ := haccepts answer relays hanswer
      rw [hrun] at h
      cases h
      exact ⟨hid, hendpoint⟩
    | error refusal =>
      obtain ⟨error', s₁, hrun, -⟩ := hrejects refusal relays hanswer
      rw [hrun] at h
      cases h

theorem connect_run {adapter : QuicTransportAdapter ρ} {route : RoutePlan}
    (hfree : ¬ adapter.Suppressed route.key) :
    connect route adapter = (do
      let session ← sessionSnapshotForRoute route
      let alpnProtocol := route.protocol.map ProtocolId.text
      upsertRuntimeSession ⟨session, alpnProtocol⟩
      pure ⟨session, alpnProtocol⟩ : QuicM ρ QuicConnectionHandle) adapter := by
  have hnone : adapter.findReconnectSuppression route.key = none := by
    rw [← Option.not_isSome_iff_eq_none, findReconnectSuppression_isSome_iff]
    exact hfree
  simp only [connect, bind_run, get_run, hnone]

theorem connect_sessions (adapter : QuicTransportAdapter ρ) (route : RoutePlan) {other : SessionId}
    (hother : other ≠ logicalSessionId adapter.runtimeInstanceId route) :
    (final (connect route) adapter).runtimeSessions.find other =
      adapter.runtimeSessions.find other := by
  by_cases hsuppressed : adapter.Suppressed route.key
  · obtain ⟨reason, after, hrun, hsessions⟩ := refusesConnect_of_suppressed hsuppressed
    rw [final_of_error hrun, hsessions]
  · rw [final, connect_run hsuppressed, ← final]
    cases hopen : sessionSnapshotForRoute route adapter with
    | error error opened =>
      rw [final_of_error (bind_of_error hopen)]
      rw [((sessionSnapshotForRoute_quiet route).of_error hopen).sessions]
    | ok session opened =>
      rw [final_bind_of_ok hopen]
      let record : RuntimeSessionRecord := ⟨session, route.protocol.map ProtocolId.text⟩
      have hid : record.snapshot.sessionId = logicalSessionId adapter.runtimeInstanceId route :=
        (opened_of_open_ok hopen).1
      have htouches := Moves.bind (upsertRuntimeSession_touches hid)
        (fun _ => Moves.pure (⟨session, record.alpnProtocol⟩ : QuicConnectionHandle)) opened
      rw [htouches.sessions other hother, ((sessionSnapshotForRoute_quiet route).of_ok hopen).sessions]

theorem connect_error_keeps (ledger : RelayLedger control) {adapter : QuicTransportAdapter ρ}
    {route : RoutePlan}
    (hsafe : adapter.Suppressed route.key ∨ ¬ CanOpen adapter route ∨ (route.relay = none ∧
      ¬ OnRelay adapter (logicalSessionId adapter.runtimeInstanceId route)))
    {error : TransportError} {after : QuicTransportAdapter ρ}
    (h : connect route adapter = .error error after) :
    ledger.handles after = ledger.handles adapter ∧
      after.runtimeSessions = adapter.runtimeSessions := by
  by_cases hsuppressed : adapter.Suppressed route.key
  · have hfound := (findReconnectSuppression_isSome_iff adapter route.key).2 hsuppressed
    obtain ⟨suppression, hsuppression⟩ := Option.isSome_iff_exists.1 hfound
    simp only [connect, bind_run, get_run, hsuppression, modify_run, throw_run] at h
    cases h
    exact ⟨ledger.handles_emit _ _ _ _, (emitRuntimeEvent_quiet _ _ _ _).sessions⟩
  · rw [connect_run hsuppressed] at h
    cases hopen : sessionSnapshotForRoute route adapter with
    | error error' s₁ =>
      rw [bind_of_error hopen] at h
      cases h
      have hlocal := (hsafe.resolve_left hsuppressed).imp_right And.left
      exact ⟨handles_of_open_error ledger hlocal hopen,
        ((sessionSnapshotForRoute_quiet route).of_error hopen).sessions⟩
    | ok opened s₁ =>
      exfalso
      have hdirect := ((hsafe.resolve_left hsuppressed).resolve_left
        (not_not.2 (canOpen_of_open_ok hopen))).2
      rw [← (opened_of_open_ok hopen).1] at hdirect
      have hquiet := (sessionSnapshotForRoute_quiet route).of_ok hopen
      let record : RuntimeSessionRecord := ⟨opened, route.protocol.map ProtocolId.text⟩
      -- what the new record replaces is no relay path, so storing it cannot fail
      obtain ⟨s₂, hupsert⟩ : ∃ s₂, upsertRuntimeSession record s₁ = .ok () s₂ := by
        cases hfind : s₁.runtimeSessions.find opened.sessionId with
        | none =>
          simp only [upsertRuntimeSession, bind_run, modifyGet_run, record, hfind, announceSession,
            modify_run]
          exact ⟨_, rfl⟩
        | some previous =>
          apply upsertRuntimeSession_ok_of_direct record hfind
          intro hrelay
          rw [hquiet.sessions] at hfind
          exact hdirect ⟨previous, hfind, hrelay⟩
      rw [bind_of_ok hopen, bind_of_ok hupsert] at h
      cases h

theorem migrate_error_keeps (ledger : RelayLedger control) {adapter : QuicTransportAdapter ρ}
    {session : SessionSnapshot} {route : RoutePlan}
    (hsafe : ¬ CanOpen adapter route ∨ adapter.runtimeSessions.find session.sessionId = none ∨
      (route.relay = none ∧ ¬ OnRelay adapter session.sessionId))
    {error : TransportError} {after : QuicTransportAdapter ρ}
    (h : migrate session route adapter = .error error after) :
    ledger.handles after = ledger.handles adapter ∧
      registeredPath after session.sessionId = registeredPath adapter session.sessionId := by
  obtain ⟨marked, hmigrate, hmarks⟩ := migrate_marks ledger session route adapter
  rw [hmigrate] at h
  cases hexisting : marked.sessionSnapshot session.sessionId with
  | none =>
    simp only [hexisting, throw_run, EStateM.Result.error.injEq] at h
    obtain ⟨-, rfl⟩ := h
    exact ⟨hmarks.handles, hmarks.path _⟩
  | some existing =>
    simp only [hexisting] at h
    have hid := sessionId_of_sessionSnapshot hexisting
    obtain ⟨record, hfind, rfl⟩ := Option.map_eq_some_iff.1 hexisting
    have hlocal : ¬ CanOpen adapter route ∨
        (route.relay = none ∧ ¬ OnRelay adapter session.sessionId) := by
      refine hsafe.imp_right fun h => h.resolve_left fun hnone => ?_
      have hpath := hmarks.path session.sessionId
      simp [registeredPath, hfind, hnone] at hpath
    have hopen : sessionSnapshotForRoute route marked = .error error after := by
      rcases hlocal with hblocked | ⟨-, hdirect⟩
      · rw [← hmarks.canOpen] at hblocked
        obtain ⟨error', s₁, hrun, -⟩ := sessionSnapshotForRoute_refuses hblocked
        rw [migrateExisting, bind_of_error hrun] at h
        cases h
        exact hrun
      · have hkind : record.snapshot.pathKind ≠ .relay := by
          intro hrelay
          exact hdirect ((onRelay_iff_of_registeredPath (hmarks.path _)).1 ⟨record, hfind, hrelay⟩)
        rw [← hid] at hfind
        exact open_error_of_migrateExisting_error hfind hkind hkind h
    have hquiet := (sessionSnapshotForRoute_quiet route).of_error hopen
    constructor
    · rw [← hmarks.canOpen] at hlocal
      rw [handles_of_open_error ledger (hlocal.imp_right And.left) hopen, hmarks.handles]
    · rw [registeredPath, hquiet.sessions]
      exact hmarks.path _

end Ledger

/-! ## A relay that stops granting closes -/

theorem pathOf_ne_of_leaves {previous next : SessionSnapshot}
    (h : leavesRelaySession previous next = true) : pathOf next ≠ pathOf previous := by
  intro hpath
  simp only [pathOf, Prod.mk.injEq] at hpath
  obtain ⟨hkind, -, -, -, hendpoint, hid⟩ := hpath
  simp only [leavesRelaySession, hkind, hendpoint, hid, ne_eq, not_true, decide_false,
    Bool.or_false, Bool.and_eq_true, decide_eq_true_eq] at h
  exact h.2 h.1

instance : Nontrivial SessionId := ⟨.fill 0, .fill 1, by decide⟩

theorem noOrphans_of_empty (adapter : QuicTransportAdapter ρ) (name : ℕ → SessionId)
    (grants : ℕ → Bool) :
    (relayLedger name grants).NoOrphans (adapter.onRelays (loggingRelays name grants) {}) := by
  rintro session ⟨hopened, -⟩
  cases hopened

theorem closeLeftRelaySession_logging {adapter : QuicTransportAdapter RelayLog}
    {name : ℕ → SessionId} {grants : ℕ → Bool}
    (hcontrol : adapter.relayControl = loggingRelays name grants)
    {previous next : SessionSnapshot} (hleaves : leavesRelaySession previous next = true)
    {endpoint : String} (hendpoint : previous.relayControlEndpoint = some endpoint) :
    closeLeftRelaySession previous next adapter =
      if grants adapter.relays.closed.length then
        .ok () { adapter with relays := { adapter.relays with
          closed := adapter.relays.closed ++ [(endpoint, previous.transportSessionId)] } }
      else .error (.relayRejected RelayError.sessionNotFound.text) adapter := by
  have hanswer : adapter.relayControl.closeSession endpoint previous.transportSessionId
      "path migrated" adapter.relays =
        if grants adapter.relays.closed.length then (.ok (), { adapter.relays with
          closed := adapter.relays.closed ++ [(endpoint, previous.transportSessionId)] })
        else (.error .sessionNotFound, adapter.relays) := by
    rw [hcontrol]
    rfl
  rw [closeLeftRelaySession, if_pos hleaves, hendpoint]
  simp only [closeRelayTransportSession, hanswer]
  split_ifs <;> rfl

theorem upsertRuntimeSession_refused {record previous : RuntimeSessionRecord}
    {adapter : QuicTransportAdapter RelayLog} {name : ℕ → SessionId} {grants : ℕ → Bool}
    (hcontrol : adapter.relayControl = loggingRelays name grants)
    (hgrants : grants adapter.relays.closed.length = false)
    (hfind : adapter.runtimeSessions.find record.snapshot.sessionId = some previous)
    (hleaves : leavesRelaySession previous.snapshot record.snapshot = true)
    {endpoint : String} (hendpoint : previous.snapshot.relayControlEndpoint = some endpoint) :
    ∃ error after, upsertRuntimeSession record adapter = .error error after ∧
      registeredPath after record.snapshot.sessionId = some (pathOf record.snapshot) := by
  let stored : QuicTransportAdapter RelayLog :=
    { adapter with runtimeSessions := adapter.runtimeSessions.insert record }
  have hstored : stored.relayControl = loggingRelays name grants := hcontrol
  have hclose : closeLeftRelaySession previous.snapshot record.snapshot stored =
      .error (.relayRejected RelayError.sessionNotFound.text) stored :=
    (closeLeftRelaySession_logging hstored hleaves hendpoint).trans
      (if_neg (by simp [stored, hgrants]))
  refine ⟨.relayRejected RelayError.sessionNotFound.text, stored, ?_, ?_⟩
  · simp only [upsertRuntimeSession, bind_run, modifyGet_run, hfind, announceSession]
    rw [hclose]
  · simp [registeredPath, stored]

/-! ## A relay whose answers are lost -/

/-- A relay that opens what it is asked to, under one name. The answer does not arrive. -/
def silentRelays (name : SessionId) : RelayControl RelayLog where
  openSession endpoint _ log := (.error (.controlTransport "connection closed"),
    if log.opened.contains (endpoint, name) then log
    else { log with opened := log.opened ++ [(endpoint, name)] })
  closeSession _ _ _ log := (.error (.controlTransport "connection closed"), log)

def silentLedger (name : SessionId) : RelayLedger (silentRelays name) where
  opened := RelayLog.opened
  closed := RelayLog.closed
  accepted := fun h => nomatch congrArg Prod.fst h
  rejected := by
    intro endpoint request log error log' h
    obtain ⟨-, rfl⟩ := Prod.mk.inj h
    by_cases hused : (endpoint, name) ∈ log.opened
    · rw [if_pos (List.contains_iff_mem.2 hused)]
      exact ⟨rfl, .inl rfl⟩
    · rw [if_neg fun h => hused (List.contains_iff_mem.1 h)]
      exact ⟨rfl, .inr ⟨name, hused, rfl⟩⟩
  released := fun h => nomatch congrArg Prod.fst h
  refused := by
    intro endpoint id reason log error log' h
    obtain ⟨-, rfl⟩ := Prod.mk.inj h
    exact ⟨rfl, .inl rfl⟩

instance : Finite SessionId := by
  refine Finite.of_injective (fun id (i : Fin 16) => id.bytes[i].toFin) ?_
  intro ⟨bytes⟩ ⟨other⟩ h
  refine congrArg SessionId.mk (Vector.ext fun i hi => ?_)
  have hbyte := congrFun h ⟨i, hi⟩
  exact UInt8.toFin_inj.1 hbyte

/-- The sessions of a registry in which not every session is on a relay path leave names
free at every relay: each of them has one name. -/
theorem exists_unregistered {adapter : QuicTransportAdapter ρ} {id : SessionId}
    (hdirect : ¬ OnRelay adapter id) (endpoint : String) :
    ∃ name, (some endpoint, name) ∉ registeredRelaySessions adapter := by
  by_contra hall
  push Not at hall
  choose key record hfind hrelay hsession using hall
  have hinjective : Function.Injective key := by
    intro name other hkey
    have hrecord : record name = record other := by
      have hboth := hfind name
      rw [hkey, hfind other] at hboth
      exact (Option.some.inj hboth).symm
    have hsame := hsession name
    rw [hrecord, hsession other] at hsame
    exact (Prod.mk.inj hsame).2.symm
  obtain ⟨name, rfl⟩ := Finite.surjective_of_injective hinjective id
  exact hdirect ⟨record name, hfind name, hrelay name⟩

theorem not_noOrphans_of_lost {name : SessionId} {adapter : QuicTransportAdapter ρ}
    {endpoint : String} (hname : (some endpoint, name) ∉ registeredRelaySessions adapter)
    {after : QuicTransportAdapter RelayLog} (hopened : after.relays.opened = [(endpoint, name)])
    (hclosed : after.relays.closed = [])
    (hpath : ∀ id, registeredPath after id = registeredPath adapter id) :
    ¬ (silentLedger name).NoOrphans after := by
  intro horphans
  have hopen : (some endpoint, name) ∈ (silentLedger name).openSessions after := by
    constructor
    · simp [RelayLedger.handles, silentLedger, hopened]
    · simp [RelayLedger.handles, silentLedger, hclosed]
  obtain ⟨id, record, hfind, hrelay, hsession⟩ := horphans hopen
  have hafter : registeredPath adapter id = some (pathOf record.snapshot) := by
    rw [← hpath, registeredPath, hfind, Option.map_some]
  obtain ⟨found, hfound, hsame⟩ := Option.map_eq_some_iff.1 hafter
  simp only [pathOf, Prod.mk.injEq] at hsame
  obtain ⟨hkind, -, -, -, hendpoint, hid⟩ := hsame
  exact hname ⟨id, found, hfound, hkind.trans hrelay, by rw [hendpoint, hid, hsession]⟩

theorem noOrphans_of_silent (adapter : QuicTransportAdapter ρ) (name : SessionId) :
    (silentLedger name).NoOrphans (adapter.onRelays (silentRelays name) {}) := by
  rintro session ⟨hopened, -⟩
  cases hopened

section Refusals
variable [Primitives]

theorem sessionSnapshotForRoute_silent {adapter : QuicTransportAdapter RelayLog} {name : SessionId}
    (hcontrol : adapter.relayControl = silentRelays name) (hrelays : adapter.relays = {})
    {route : RoutePlan} {relay : RelayPlan} (hrelay : route.relay = some relay)
    (hopens : CanOpen adapter route) :
    ∃ error after, sessionSnapshotForRoute route adapter = .error error after ∧
      after.runtimeSessions = adapter.runtimeSessions ∧
      after.relays.opened = [(relay.relayControlEndpoint, name)] ∧ after.relays.closed = [] := by
  obtain ⟨request, -, hfails⟩ := relaySessionSnapshot_run hrelay hopens
  have hanswer : adapter.relayControl.openSession relay.relayControlEndpoint request
      adapter.relays = (.error (.controlTransport "connection closed"),
        { opened := [(relay.relayControlEndpoint, name)] }) := by
    rw [hcontrol, hrelays]
    simp [silentRelays]
  obtain ⟨error, after, hrun, hafter⟩ := hfails _ _ hanswer
  have hopen : sessionSnapshotForRoute route adapter = .error error after := by
    simp only [sessionSnapshotForRoute, hrelay, hrun]
  refine ⟨error, after, hopen, ((sessionSnapshotForRoute_quiet route).of_error hopen).sessions, ?_⟩
  rw [hafter]
  exact ⟨rfl, rfl⟩

theorem connect_lost {adapter : QuicTransportAdapter ρ} {route : RoutePlan} {relay : RelayPlan}
    (hfree : ¬ adapter.Suppressed route.key) (hopens : CanOpen adapter route)
    (hrelay : route.relay = some relay) {id : SessionId} (hdirect : ¬ OnRelay adapter id) :
    ¬ Atomic (fun _ => connect route) id adapter := by
  intro hatomic
  obtain ⟨name, hname⟩ := exists_unregistered hdirect relay.relayControlEndpoint
  let before := adapter.onRelays (silentRelays name) {}
  obtain ⟨error, after, hopen, hsessions, hopened, hclosed⟩ :=
    sessionSnapshotForRoute_silent (show before.relayControl = _ from rfl) rfl hrelay hopens
  have hfree₁ : ¬ before.Suppressed route.key := hfree
  have hfailed : connect route before = .error error after := by
    rw [connect_run hfree₁, bind_of_error hopen]
  have hpath : ∀ other, registeredPath after other = registeredPath adapter other := by
    intro other
    rw [registeredPath, hsessions]
    rfl
  obtain ⟨horphans, -⟩ := hatomic RelayLog (silentRelays name) (silentLedger name) {}
    (noOrphans_of_silent _ _) error after hfailed
  exact not_noOrphans_of_lost hname hopened hclosed hpath horphans

theorem migrate_lost {adapter : QuicTransportAdapter ρ} {session : SessionSnapshot}
    {route : RoutePlan} {relay : RelayPlan} (hopens : CanOpen adapter route)
    (hregistered : adapter.runtimeSessions.find session.sessionId ≠ none)
    (hrelay : route.relay = some relay) (hdirect : ¬ OnRelay adapter session.sessionId) :
    ¬ Atomic (fun _ => migrate session route) session.sessionId adapter := by
  intro hatomic
  obtain ⟨name, hname⟩ := exists_unregistered hdirect relay.relayControlEndpoint
  let before := adapter.onRelays (silentRelays name) {}
  obtain ⟨marked, hmigrate, hmarks⟩ := migrate_marks (silentLedger name) session route before
  obtain ⟨error, after, hopen, hsessions, hopened, hclosed⟩ :=
    sessionSnapshotForRoute_silent (hmarks.relayControl.trans rfl) (hmarks.relays.trans rfl) hrelay
      (hmarks.canOpen.2 hopens)
  obtain ⟨record, hfind⟩ := Option.ne_none_iff_exists'.1 hregistered
  have hpath : ∀ other, registeredPath after other = registeredPath adapter other := by
    intro other
    rw [registeredPath, hsessions]
    exact hmarks.path other
  have hmarked : ∃ existing, marked.sessionSnapshot session.sessionId = some existing := by
    have hkept : registeredPath marked session.sessionId = some (pathOf record.snapshot) := by
      rw [hmarks.path]
      change (adapter.runtimeSessions.find session.sessionId).map _ = _
      rw [hfind, Option.map_some]
    obtain ⟨found, hfound, -⟩ := Option.map_eq_some_iff.1 hkept
    exact ⟨found.snapshot, by rw [sessionSnapshot, hfound, Option.map_some]⟩
  obtain ⟨existing, hexisting⟩ := hmarked
  have hfailed : migrate session route before = .error error after := by
    rw [hmigrate, hexisting]
    exact bind_of_error hopen
  obtain ⟨horphans, -⟩ := hatomic RelayLog (silentRelays name) (silentLedger name) {}
    (noOrphans_of_silent _ _) error after hfailed
  exact not_noOrphans_of_lost hname hopened hclosed hpath horphans

theorem sessionSnapshotForRoute_logging {adapter : QuicTransportAdapter RelayLog}
    {fresh : SessionId} {grants : ℕ → Bool}
    (hcontrol : adapter.relayControl = loggingRelays (fun _ => fresh) grants)
    (hrelays : adapter.relays = {}) {route : RoutePlan} (hopens : CanOpen adapter route)
    {previous : SessionSnapshot} (hrelay : previous.pathKind = .relay) {endpoint : String}
    (hendpoint : previous.relayControlEndpoint = some endpoint)
    (hfresh : fresh ≠ previous.transportSessionId) :
    ∃ opened after, sessionSnapshotForRoute route adapter = .ok opened after ∧
      after.relays.closed = [] ∧ leavesRelaySession previous opened = true := by
  unfold sessionSnapshotForRoute
  cases hplan : route.relay with
  | none =>
    obtain ⟨opened, after, hrun, hafter, -, hnone⟩ := directSessionSnapshot_run hplan hopens
    refine ⟨opened, after, hrun, by rw [hafter, hrelays], ?_⟩
    simp [leavesRelaySession, hrelay, hendpoint, hnone]
  | some relay =>
    obtain ⟨request, haccepts, -⟩ := relaySessionSnapshot_run hplan hopens
    have hanswer : adapter.relayControl.openSession relay.relayControlEndpoint request
        adapter.relays = (.ok ⟨request.attemptId, fresh, request.source, request.destination,
          request.protocol, request.trafficClass⟩,
          { opened := [(relay.relayControlEndpoint, fresh)] }) := by
      rw [hcontrol, hrelays]
      simp [loggingRelays]
    obtain ⟨opened, after, hrun, hafter, -, -, hid⟩ := haccepts _ _ hanswer
    refine ⟨opened, after, hrun, by rw [hafter], ?_⟩
    simp [leavesRelaySession, hrelay, hid, hfresh]

theorem connect_not_atomic {adapter : QuicTransportAdapter ρ} {route : RoutePlan}
    (hfree : ¬ adapter.Suppressed route.key) (hopens : CanOpen adapter route)
    {record : RuntimeSessionRecord}
    (hfind : adapter.runtimeSessions.find (logicalSessionId adapter.runtimeInstanceId route) =
      some record)
    (hrelay : record.snapshot.pathKind = .relay) {endpoint : String}
    (hendpoint : record.snapshot.relayControlEndpoint = some endpoint) :
    ¬ Atomic (fun _ => connect route) (logicalSessionId adapter.runtimeInstanceId route) adapter := by
  intro hatomic
  obtain ⟨fresh, hfresh⟩ := exists_ne record.snapshot.transportSessionId
  let control := loggingRelays (fun _ => fresh) fun _ => false
  let before := adapter.onRelays control {}
  have hcontrol : before.relayControl = loggingRelays (fun _ => fresh) fun _ => false := rfl
  have hcanOpen : CanOpen before route := hopens
  obtain ⟨opened, s₁, hopen, hlog, hleaves⟩ :=
    sessionSnapshotForRoute_logging hcontrol rfl hcanOpen hrelay hendpoint hfresh
  have hquiet := (sessionSnapshotForRoute_quiet route).of_ok hopen
  have hid := (opened_of_open_ok hopen).1
  rw [show before.runtimeInstanceId = adapter.runtimeInstanceId from rfl] at hid
  let replacement : RuntimeSessionRecord := ⟨opened, route.protocol.map ProtocolId.text⟩
  have hprevious : s₁.runtimeSessions.find replacement.snapshot.sessionId = some record := by
    rw [hquiet.sessions, hid]
    exact hfind
  obtain ⟨error, after, hupsert, hnew⟩ := upsertRuntimeSession_refused
    (hquiet.relayControl.trans hcontrol) rfl hprevious hleaves hendpoint
  have hfree₁ : ¬ before.Suppressed route.key := hfree
  have hconnect : connect route before = .error error after := by
    rw [connect_run hfree₁, bind_of_ok hopen]
    exact bind_of_error hupsert
  obtain ⟨-, hkept⟩ := hatomic RelayLog control (relayLedger _ _) {} (noOrphans_of_empty _ _ _)
    error after hconnect
  rw [hid] at hnew
  rw [hnew, registeredPath, hfind, Option.map_some, Option.some.injEq] at hkept
  exact pathOf_ne_of_leaves hleaves hkept

/-- Where the relay grants one close and no more, a migration off a relay path fails with
the new path in the registry. -/
theorem migrateExisting_refused_late {adapter : QuicTransportAdapter RelayLog} {fresh : SessionId}
    (hcontrol : adapter.relayControl = loggingRelays (fun _ => fresh) fun n => n = 0)
    (hrelays : adapter.relays = {}) {route : RoutePlan} (hopens : CanOpen adapter route)
    {record : RuntimeSessionRecord}
    (hfind : adapter.runtimeSessions.find record.snapshot.sessionId = some record)
    (hrelay : record.snapshot.pathKind = .relay) {endpoint : String}
    (hendpoint : record.snapshot.relayControlEndpoint = some endpoint)
    (hfresh : fresh ≠ record.snapshot.transportSessionId) :
    ∃ error after, migrateExisting record.snapshot route adapter = .error error after ∧
      registeredPath after record.snapshot.sessionId ≠ some (pathOf record.snapshot) := by
  obtain ⟨opened, s₁, hopen, hlog, hleaves⟩ :=
    sessionSnapshotForRoute_logging hcontrol hrelays hopens hrelay hendpoint hfresh
  have hquiet := (sessionSnapshotForRoute_quiet route).of_ok hopen
  let migrated := migratedSnapshot record.snapshot opened s₁.currentUnixSecs
  let replacement : RuntimeSessionRecord := ⟨migrated, route.protocol.map ProtocolId.text⟩
  have hsecs : unixSecs s₁ = .ok s₁.currentUnixSecs s₁.ticked := rfl
  have hcontrol₁ : s₁.ticked.relayControl = loggingRelays (fun _ => fresh) fun n => n = 0 :=
    hquiet.relayControl.trans hcontrol
  have hleaves₁ : leavesRelaySession record.snapshot migrated = true := hleaves
  let s₂ : QuicTransportAdapter RelayLog := { s₁.ticked with
    relays := { s₁.relays with closed := [(endpoint, record.snapshot.transportSessionId)] } }
  have hclose : closeLeftRelaySession record.snapshot migrated s₁.ticked = .ok () s₂ := by
    rw [closeLeftRelaySession_logging hcontrol₁ hleaves₁ hendpoint]
    simp [ticked, hlog, s₂]
  have hcontrol₂ : s₂.relayControl = loggingRelays (fun _ => fresh) fun n => n = 0 := hcontrol₁
  have hprevious : s₂.runtimeSessions.find replacement.snapshot.sessionId = some record := by
    change s₁.runtimeSessions.find record.snapshot.sessionId = some record
    rw [hquiet.sessions, hfind]
  obtain ⟨error, after, hupsert, hnew⟩ :=
    upsertRuntimeSession_refused hcontrol₂ rfl hprevious hleaves₁ hendpoint
  refine ⟨error, after, ?_, ?_⟩
  · rw [migrateExisting, bind_of_ok hopen, bind_of_ok hsecs, bind_of_ok hclose]
    exact bind_of_error hupsert
  · intro hkept
    have hsame : some (pathOf migrated) = some (pathOf record.snapshot) := hnew.symm.trans hkept
    exact pathOf_ne_of_leaves hleaves₁ (Option.some.inj hsame)

theorem migrate_not_atomic {adapter : QuicTransportAdapter ρ} {session : SessionSnapshot}
    {route : RoutePlan} (hopens : CanOpen adapter route) {record : RuntimeSessionRecord}
    (hfind : adapter.runtimeSessions.find session.sessionId = some record)
    (hrelay : record.snapshot.pathKind = .relay) {endpoint : String}
    (hendpoint : record.snapshot.relayControlEndpoint = some endpoint) :
    ¬ Atomic (fun _ => migrate session route) session.sessionId adapter := by
  intro hatomic
  obtain ⟨fresh, hfresh⟩ := exists_ne record.snapshot.transportSessionId
  let control := loggingRelays (fun _ => fresh) fun n => n = 0
  let ledger := relayLedger (fun _ => fresh) fun n => n = 0
  let before := adapter.onRelays control {}
  obtain ⟨marked, hmigrate, hmarks⟩ := migrate_marks ledger session route before
  have hpath : registeredPath before session.sessionId = some (pathOf record.snapshot) := by
    change (adapter.runtimeSessions.find session.sessionId).map _ = _
    rw [hfind, Option.map_some]
  -- the marked record is on the path of the record it was made from
  obtain ⟨found, hfound, hsame⟩ := Option.map_eq_some_iff.1 ((hmarks.path _).trans hpath)
  have hid := SessionRegistry.sessionId_of_find hfound
  have hparts := hsame
  simp only [pathOf, Prod.mk.injEq] at hparts
  obtain ⟨hkind, -, -, -, hcontrolEndpoint, htransport⟩ := hparts
  rw [← hid] at hfound
  obtain ⟨error, after, hrun, hmoved⟩ := migrateExisting_refused_late hmarks.relayControl
    hmarks.relays (hmarks.canOpen.2 hopens) hfound (hkind.trans hrelay)
    (hcontrolEndpoint.trans hendpoint) (by rwa [htransport])
  have hfailed : migrate session route before = .error error after := by
    rw [hmigrate, sessionSnapshot, ← hid, hfound]
    exact hrun
  obtain ⟨-, hkept⟩ := hatomic RelayLog control ledger {} (noOrphans_of_empty _ _ _)
    error after hfailed
  apply hmoved
  rw [hid, hsame, hkept]
  exact hpath

/-! ## When connect and migrate are atomic -/

/-- Every session on a relay path knows the control endpoint of its relay. -/
def Controlled (adapter : QuicTransportAdapter ρ) : Prop :=
  ∀ id record, adapter.runtimeSessions.find id = some record →
    record.snapshot.pathKind = .relay → record.snapshot.relayControlEndpoint.isSome

omit [Primitives] in
theorem Controlled.of_sessions {before after : QuicTransportAdapter ρ} (h : Controlled before)
    (hafter : after.runtimeSessions = before.runtimeSessions) : Controlled after := by
  rw [Controlled, hafter]
  exact h

omit [Primitives] in
theorem Controlled.insert {before after : QuicTransportAdapter ρ} (h : Controlled before)
    (stored : RuntimeSessionRecord)
    (hstored : stored.snapshot.pathKind = .relay → stored.snapshot.relayControlEndpoint.isSome)
    (hafter : after.runtimeSessions = before.runtimeSessions.insert stored) : Controlled after := by
  intro id record hfind
  rw [hafter, SessionRegistry.find_insert] at hfind
  split_ifs at hfind
  · cases hfind
    exact hstored
  · exact h id record hfind

omit [Primitives] in
theorem Controlled.of_registeredPath {before after : QuicTransportAdapter ρ} (h : Controlled before)
    (hpath : ∀ id, registeredPath after id = none ∨
      registeredPath after id = registeredPath before id) : Controlled after := by
  intro id record hfind hrelay
  have hafter : registeredPath after id = some (pathOf record.snapshot) := by
    rw [registeredPath, hfind, Option.map_some]
  have hbefore := (hpath id).resolve_left (by simp [hafter])
  obtain ⟨found, hfound, hsame⟩ := Option.map_eq_some_iff.1 (hbefore.symm.trans hafter)
  simp only [pathOf, Prod.mk.injEq] at hsame
  obtain ⟨hkind, -, -, -, hendpoint, -⟩ := hsame
  rw [← hendpoint]
  exact h id found hfound (hkind.trans hrelay)

theorem endpoint_of_open_ok {adapter after : QuicTransportAdapter ρ} {route : RoutePlan}
    (hshaped : Shaped route) {opened : SessionSnapshot}
    (h : sessionSnapshotForRoute route adapter = .ok opened after)
    (hrelay : opened.pathKind = .relay) : opened.relayControlEndpoint.isSome := by
  rw [(sessionSnapshotForRoute_returns route _ _ _ h).2] at hrelay
  rw [(opened_of_open_ok h).2, Option.isSome_map]
  exact hshaped.2 hrelay

theorem connect_controlled {route : RoutePlan} (hshaped : Shaped route)
    {adapter : QuicTransportAdapter ρ} (h : Controlled adapter) :
    Controlled (final (connect route) adapter) := by
  by_cases hsuppressed : adapter.Suppressed route.key
  · obtain ⟨reason, after, hrun, hsessions⟩ := refusesConnect_of_suppressed hsuppressed
    rw [final_of_error hrun]
    exact h.of_sessions hsessions
  · have hquiet := sessionSnapshotForRoute_quiet route adapter
    cases hopen : sessionSnapshotForRoute route adapter with
    | error error s₁ =>
      have hrun : connect route adapter = .error error s₁ := by
        rw [connect_run hsuppressed]
        exact bind_of_error hopen
      rw [final_of_error hopen] at hquiet
      rw [final_of_error hrun]
      exact h.of_sessions hquiet.sessions
    | ok opened s₁ =>
      rw [final_of_ok hopen] at hquiet
      let record : RuntimeSessionRecord := ⟨opened, route.protocol.map ProtocolId.text⟩
      have hfinal : final (connect route) adapter = final (upsertRuntimeSession record) s₁ := by
        rw [final, connect_run hsuppressed, bind_of_ok hopen, final, bind_run]
        cases upsertRuntimeSession record s₁ <;> rfl
      rw [hfinal]
      refine h.insert record (endpoint_of_open_ok hshaped hopen) ?_
      rw [(upsertRuntimeSession_final record s₁).sessions, hquiet.sessions]

theorem migrateExisting_controlled {existing : SessionSnapshot} {route : RoutePlan}
    (hshaped : Shaped route) {adapter : QuicTransportAdapter ρ} (h : Controlled adapter) :
    Controlled (final (migrateExisting existing route) adapter) := by
  have hquiet := sessionSnapshotForRoute_quiet route adapter
  cases hopen : sessionSnapshotForRoute route adapter with
  | error error s₁ =>
    rw [final_of_error hopen] at hquiet
    rw [migrateExisting, final_of_error (bind_of_error hopen)]
    exact h.of_sessions hquiet.sessions
  | ok opened s₁ =>
    rw [final_of_ok hopen] at hquiet
    have hsecs : unixSecs s₁ = .ok s₁.currentUnixSecs s₁.ticked := rfl
    let migrated := migratedSnapshot existing opened s₁.currentUnixSecs
    let record : RuntimeSessionRecord := ⟨migrated, route.protocol.map ProtocolId.text⟩
    have hleft := closeLeftRelaySession_quiet existing migrated s₁.ticked
    rw [migrateExisting, final_bind_of_ok hopen, final_bind_of_ok hsecs]
    cases hclose : closeLeftRelaySession existing migrated s₁.ticked with
    | error error s₂ =>
      rw [final_of_error hclose] at hleft
      rw [final_of_error (bind_of_error hclose)]
      exact h.of_sessions (hleft.sessions.trans hquiet.sessions)
    | ok _ s₂ =>
      rw [final_of_ok hclose] at hleft
      rw [final_bind_of_ok hclose]
      have hendpoint : opened.pathKind = .relay → opened.relayControlEndpoint.isSome :=
        endpoint_of_open_ok hshaped hopen
      have hstored : Controlled (final (upsertRuntimeSession record) s₂) := by
        refine h.insert record hendpoint ?_
        rw [(upsertRuntimeSession_final record s₂).sessions]
        exact congrArg (fun sessions => sessions.insert record)
          (hleft.sessions.trans hquiet.sessions)
      cases hupsert : upsertRuntimeSession record s₂ with
      | error error s₃ =>
        rw [final_of_error hupsert] at hstored
        rw [final_of_error (bind_of_error hupsert)]
        exact hstored
      | ok _ s₃ =>
        rw [final_of_ok hupsert] at hstored
        rw [final_bind_of_ok hupsert]
        exact hstored.of_sessions (emitRuntimeEvent_quiet _ _ _ _).sessions

theorem SessionCall.run_controlled {call : SessionCall} (hshaped : call.Shaped)
    {adapter : QuicTransportAdapter ρ} (h : Controlled adapter) : Controlled (call.run adapter) := by
  cases call with
  | connect route => exact connect_controlled hshaped h
  | migrate session route =>
    let marked := (adapter.updateSessionState session.sessionId .migrating none
      (some "daemon requested path migration")).2
    have hmarked : Controlled marked := h.of_registeredPath fun id =>
      .inr (registeredPath_updateSessionState _ id _ _ _ adapter)
    have hmove : moveSession session.sessionId .migrating none
        (some "daemon requested path migration") adapter = .ok () marked := rfl
    rw [run, Quic.migrate, final_bind_of_ok hmove,
      final_bind_of_ok (get_run marked)]
    cases marked.sessionSnapshot session.sessionId with
    | none => exact hmarked
    | some existing => exact migrateExisting_controlled hshaped hmarked
  | closeSession session =>
    apply h.of_registeredPath
    intro id
    by_cases hid : id = session.sessionId
    · subst hid
      left
      rw [registeredPath, run, closeSession_find, Option.map_none]
    · right
      rw [registeredPath, run, (closeSession_touches session adapter).sessions id hid, registeredPath]

theorem runCalls_controlled {calls : List SessionCall} (hshaped : ∀ call ∈ calls, call.Shaped)
    {adapter : QuicTransportAdapter ρ} (h : Controlled adapter) :
    Controlled (runCalls calls adapter) := by
  induction calls generalizing adapter with
  | nil => exact h
  | cons call rest ih =>
    apply ih
    · intro other hother
      exact hshaped other (List.mem_cons_of_mem _ hother)
    · exact SessionCall.run_controlled (hshaped call List.mem_cons_self) h

end Refusals

section Closed
attribute [local instance] Primitives.transparent

end Closed

/-! ## What is left of a closed session -/

/-- The session is registered, or the terminal ledger has its end. -/
def Visible (adapter : QuicTransportAdapter ρ) (session : SessionSnapshot) : Prop :=
  (adapter.runtimeSessions.find session.sessionId).isSome ∨
    ∃ entry ∈ adapter.terminalSessions, entry.snapshot.sessionId = session.sessionId ∧
      entry.snapshot.transportSessionId = session.transportSessionId

def RelayReleases (adapter : QuicTransportAdapter ρ) (session : SessionSnapshot) : Prop :=
  ∃ endpoint relays, session.relayControlEndpoint = some endpoint ∧
    adapter.relayControl.closeSession endpoint session.transportSessionId "path migrated"
      adapter.relays = (.ok (), relays)

structure TakenForClose (session : SessionSnapshot) (adapter : QuicTransportAdapter ρ)
    (record active : RuntimeSessionRecord) (taken : QuicTransportAdapter ρ) : Prop where
  run : takeForClose session adapter = .ok (some active) taken
  sessionId : active.snapshot.sessionId = record.snapshot.sessionId
  path : pathOf active.snapshot = pathOf record.snapshot
  removed : taken.runtimeSessions.find session.sessionId = none
  terminalSessions : taken.terminalSessions = adapter.terminalSessions
  relayControl : taken.relayControl = adapter.relayControl
  relays : taken.relays = adapter.relays

theorem takeForClose_of_find {session : SessionSnapshot} {adapter : QuicTransportAdapter ρ}
    {record : RuntimeSessionRecord}
    (hfind : adapter.runtimeSessions.find session.sessionId = some record) :
    ∃ active taken, TakenForClose session adapter record active taken := by
  obtain ⟨closureReason, stateReason, closing, rfl, hrun⟩ := takeForClose_eq session adapter
  rw [find_updateSessionState, hfind, Option.map_some] at hrun
  refine ⟨_, _, hrun, rfl, rfl, ?_, ?_, ?_, ?_⟩
  · simp
  · simp [updateSessionState, sessionSnapshot, hfind, emitRuntimeEvent, ticked]
  · exact (updateSessionState_touches _ _ _ _ adapter).relayControl
  · exact updateSessionState_relays _ _ _ _ adapter

theorem mem_lastOf_concat {α : Type} {max : ℕ} (hmax : 0 < max) (items : List α) (a : α) :
    a ∈ lastOf max (items ++ [a]) := by
  rw [lastOf, List.drop_append_of_le_length]
  · exact List.mem_append_right _ (List.mem_singleton_self a)
  · simp only [List.length_append, List.length_singleton]
    omega

theorem closeOwnRelaySession_ok_iff {session : SessionSnapshot} {adapter : QuicTransportAdapter ρ} :
    (∃ after, closeOwnRelaySession session adapter = .ok () after) ↔
      session.pathKind ≠ .relay ∨ RelayReleases adapter session := by
  unfold closeOwnRelaySession
  split_ifs with hrelay
  · simp only [hrelay, ne_eq, not_true, false_or, RelayReleases]
    cases hendpoint : session.relayControlEndpoint with
    | none => simp [closeRelayTransportSession]
    | some endpoint =>
      rcases hanswer : adapter.relayControl.closeSession endpoint session.transportSessionId
        "path migrated" adapter.relays with ⟨answer, relays⟩
      cases answer <;> simp [closeRelayTransportSession, hanswer]
  · simp [hrelay]

theorem closeOwnRelaySession_terminalSessions (session : SessionSnapshot)
    (adapter : QuicTransportAdapter ρ) :
    (final (closeOwnRelaySession session) adapter).terminalSessions = adapter.terminalSessions := by
  unfold closeOwnRelaySession
  split_ifs
  · unfold final closeRelayTransportSession
    cases session.relayControlEndpoint with
    | none => rfl
    | some endpoint =>
      rcases hanswer : adapter.relayControl.closeSession endpoint session.transportSessionId
        "path migrated" adapter.relays with ⟨answer, relays⟩
      cases answer <;> simp [hanswer]
  · rfl

/-- A session stays visible through its close where it has no relay to ask, where the
relay lets go of it, or where an earlier end of it is still on the ledger. -/
theorem closeSession_visible_iff {session : SessionSnapshot} {adapter : QuicTransportAdapter ρ}
    {record : RuntimeSessionRecord}
    (hfind : adapter.runtimeSessions.find session.sessionId = some record) :
    Visible (final (closeSession session) adapter) record.snapshot ↔
      record.snapshot.pathKind ≠ .relay ∨ RelayReleases adapter record.snapshot ∨
        ∃ entry ∈ adapter.terminalSessions,
          entry.snapshot.sessionId = record.snapshot.sessionId ∧
            entry.snapshot.transportSessionId = record.snapshot.transportSessionId := by
  obtain ⟨active, taken, hrun, hid, hpath, hremoved, hterminal, hcontrol, hrelays⟩ :=
    takeForClose_of_find hfind
  have hgone := closeSession_find session adapter
  rw [← SessionRegistry.sessionId_of_find hfind] at hgone
  have hvisible : Visible (final (closeSession session) adapter) record.snapshot ↔
      ∃ entry ∈ (final (closeSession session) adapter).terminalSessions,
        entry.snapshot.sessionId = record.snapshot.sessionId ∧
          entry.snapshot.transportSessionId = record.snapshot.transportSessionId := by
    rw [Visible, hgone]
    simp
  have hfinal : final (closeSession session) adapter = final (finishClose (some active)) taken := by
    rw [final, closeSession, bind_of_ok hrun, final]
  simp only [pathOf, Prod.mk.injEq] at hpath
  obtain ⟨hkind, -, -, -, hendpoint, htransport⟩ := hpath
  have hreleases : RelayReleases taken active.snapshot ↔ RelayReleases adapter record.snapshot := by
    rw [RelayReleases, RelayReleases, hendpoint, htransport, hcontrol, hrelays]
  rw [hvisible, hfinal, ← or_assoc, ← hkind, ← hreleases, ← closeOwnRelaySession_ok_iff]
  cases hclose : closeOwnRelaySession active.snapshot taken with
  | ok _ closed =>
    refine ⟨fun _ => .inl ⟨closed, rfl⟩, fun _ => ?_⟩
    let terminal : RuntimeSessionRecord :=
      ⟨{ active.snapshot with state := .closed, lastActivityUnixSecs := closed.currentUnixSecs },
        active.alpnProtocol⟩
    refine ⟨terminal, ?_, hid, htransport⟩
    rw [finishClose, final_bind_of_ok hclose]
    -- the end of the session is recorded last, so the ledger's bound does not drop it
    exact mem_lastOf_concat (by decide) _ terminal
  | error error closed =>
    have hledger := closeOwnRelaySession_terminalSessions active.snapshot taken
    rw [final_of_error hclose, hterminal] at hledger
    rw [finishClose, final_of_error (bind_of_error hclose), hledger]
    simp

section Closed
attribute [local instance] Primitives.transparent

def relayedAdapter (grants : ℕ → Bool) : QuicTransportAdapter RelayLog :=
  { edgeAdapter grants with
    runtimeSessions := SessionRegistry.insert {} ⟨edgeSession, none⟩
    relays := { opened := [("http://203.0.113.10:9081", .fill 0)] } }

theorem find_relayedAdapter (grants : ℕ → Bool) :
    (relayedAdapter grants).runtimeSessions.find edgeSession.sessionId =
      some ⟨edgeSession, none⟩ := by
  simp [relayedAdapter]

theorem released_session_stays_visible :
    Visible (final (closeSession edgeSession) (relayedAdapter fun _ => true)) edgeSession := by
  have hreleases : RelayReleases (relayedAdapter fun _ => true) edgeSession := ⟨_, _, rfl, rfl⟩
  exact (closeSession_visible_iff (find_relayedAdapter fun _ => true)).2 (.inr (.inl hreleases))

/-- The relay refuses the close: the session is out of the registry, not on the terminal
ledger, and still open at the relay. -/
theorem refused_session_disappears :
    (relayedAdapter fun _ => false).runtimeSessions.find edgeSession.sessionId =
        some ⟨edgeSession, none⟩ ∧
      ¬ Visible (final (closeSession edgeSession) (relayedAdapter fun _ => false)) edgeSession ∧
      (final (closeSession edgeSession) (relayedAdapter fun _ => false)).relays.opened =
        [("http://203.0.113.10:9081", .fill 0)] ∧
      (final (closeSession edgeSession) (relayedAdapter fun _ => false)).relays.closed = [] := by
  have hgone : ((final (closeSession edgeSession) (relayedAdapter fun _ => false)).runtimeSessions.find
      edgeSession.sessionId).isSome = false := by
    decide +kernel
  have hledger : (final (closeSession edgeSession)
      (relayedAdapter fun _ => false)).terminalSessions = [] := by
    decide +kernel
  refine ⟨find_relayedAdapter _, ?_, ?_, ?_⟩
  · simp [Visible, hgone, hledger]
  · decide +kernel
  · decide +kernel

end Closed

end QuipNet.Quic
