import QuipNet.CycleAgreement
import QuipNet.FailedUpgrades

/-!
# What the reconcile report says

A completed pass of `reconcile_sessions` has one entry for each session that was
registered, in the order of the registry. `Reconciled` lists the three ways a turn can end
well, with what the registry then holds for the session; the later turns do not touch it.
-/

open Std
namespace QuipNet.Quic
open QuipNet.Library.Effect QuipNet.Transport
open QuicTransportAdapter

variable {ρ : Type}

/-! ## Relays that grant every call -/

structure RelayControl.Grants (control : RelayControl ρ) : Prop where
  opens : ∀ endpoint request relays, ∃ accepted relays',
    control.openSession endpoint request relays = (.ok accepted, relays')
  closes : control.ClosesSucceed

theorem closeLeftRelaySession_grants {previous : SessionSnapshot}
    (hendpoint : previous.pathKind = .relay → previous.relayControlEndpoint.isSome)
    (next : SessionSnapshot) {adapter : QuicTransportAdapter ρ}
    (hgrants : adapter.relayControl.Grants) :
    ∃ after, closeLeftRelaySession previous next adapter = .ok () after := by
  rw [closeLeftRelaySession_ok_iff]
  intro held hheld
  obtain ⟨endpoint, hsome⟩ :=
    Option.isSome_iff_exists.1 (hendpoint (relaySession_eq_some_iff.1 hheld).1)
  obtain ⟨relays, hanswer⟩ := hgrants.closes endpoint previous.transportSessionId "path migrated"
    adapter.relays
  exact .inr ⟨endpoint, relays, hsome, hanswer⟩

theorem upsertRuntimeSession_grants {record previous : RuntimeSessionRecord}
    {adapter : QuicTransportAdapter ρ}
    (hfind : adapter.runtimeSessions.find record.snapshot.sessionId = some previous)
    (hendpoint : previous.snapshot.pathKind = .relay →
      previous.snapshot.relayControlEndpoint.isSome)
    (hgrants : adapter.relayControl.Grants) :
    ∃ after, upsertRuntimeSession record adapter = .ok () after := by
  let stored : QuicTransportAdapter ρ :=
    { adapter with runtimeSessions := adapter.runtimeSessions.insert record }
  have hsame : stored.relayControl.Grants := hgrants
  obtain ⟨closed, hclose⟩ := closeLeftRelaySession_grants hendpoint record.snapshot hsame
  simp only [upsertRuntimeSession, bind_run, modifyGet_run, hfind, announceSession]
  rw [hclose]
  exact ⟨_, rfl⟩

theorem closeSession_ok_endpoint {session : SessionSnapshot} {adapter after : QuicTransportAdapter ρ}
    {record : RuntimeSessionRecord}
    (hfind : adapter.runtimeSessions.find session.sessionId = some record)
    (h : closeSession session adapter = .ok () after) (hrelay : record.snapshot.pathKind = .relay) :
    record.snapshot.relayControlEndpoint.isSome := by
  obtain ⟨active, taken, hrun, -, hpath, -⟩ := takeForClose_of_find hfind
  rw [closeSession, bind_of_ok hrun] at h
  obtain ⟨_, closed, hclose, -⟩ := bind_eq_ok h
  simp only [pathOf, Prod.mk.injEq] at hpath
  obtain ⟨hkind, -, -, -, hendpoint, -⟩ := hpath
  rcases closeOwnRelaySession_ok_iff.1 ⟨closed, hclose⟩ with hdirect | ⟨endpoint, relays, hsome, -⟩
  · exact absurd (hkind.trans hrelay) hdirect
  · rw [← hendpoint, hsome]
    rfl

section Granting
variable [Primitives]

theorem open_grants {adapter : QuicTransportAdapter ρ} {route : RoutePlan}
    (hgrants : adapter.relayControl.Grants) (hopens : CanOpen adapter route) :
    ∃ opened after, sessionSnapshotForRoute route adapter = .ok opened after := by
  unfold sessionSnapshotForRoute
  cases hrelay : route.relay with
  | none =>
    obtain ⟨opened, after, hrun, -⟩ := directSessionSnapshot_run hrelay hopens
    exact ⟨opened, after, hrun⟩
  | some relay =>
    obtain ⟨request, haccepts, -⟩ := relaySessionSnapshot_run hrelay hopens
    obtain ⟨accepted, relays, hanswer⟩ :=
      hgrants.opens relay.relayControlEndpoint request adapter.relays
    obtain ⟨opened, after, hrun, -⟩ := haccepts accepted relays hanswer
    exact ⟨opened, after, hrun⟩

theorem migrateExisting_grants {existing : SessionSnapshot} {route : RoutePlan}
    {adapter : QuicTransportAdapter ρ} (hgrants : adapter.relayControl.Grants)
    (hopens : CanOpen adapter route) {alpn : Option String}
    (hfind : adapter.runtimeSessions.find existing.sessionId = some ⟨existing, alpn⟩)
    (hendpoint : existing.pathKind = .relay → existing.relayControlEndpoint.isSome) :
    ∃ migrated after, migrateExisting existing route adapter = .ok migrated after := by
  obtain ⟨opened, s₁, hopen⟩ := open_grants hgrants hopens
  have hquiet := (sessionSnapshotForRoute_quiet route).of_ok hopen
  let migrated := migratedSnapshot existing opened s₁.currentUnixSecs
  let record : RuntimeSessionRecord := ⟨migrated, route.protocol.map ProtocolId.text⟩
  have hsecs : unixSecs s₁ = .ok s₁.currentUnixSecs s₁.ticked := rfl
  have hgrants₁ : s₁.ticked.relayControl.Grants := by
    change s₁.relayControl.Grants
    rwa [hquiet.relayControl]
  obtain ⟨s₂, hclose⟩ := closeLeftRelaySession_grants hendpoint migrated hgrants₁
  have hleft := (closeLeftRelaySession_quiet existing migrated).of_ok hclose
  have hprevious : s₂.runtimeSessions.find record.snapshot.sessionId = some ⟨existing, alpn⟩ := by
    rw [hleft.sessions]
    change s₁.runtimeSessions.find existing.sessionId = _
    rw [hquiet.sessions, hfind]
  have hgrants₂ : s₂.relayControl.Grants := by
    rwa [hleft.relayControl]
  obtain ⟨s₃, hupsert⟩ := upsertRuntimeSession_grants hprevious hendpoint hgrants₂
  rw [migrateExisting, bind_of_ok hopen, bind_of_ok hsecs, bind_of_ok hclose, bind_of_ok hupsert]
  exact ⟨migrated, _, rfl⟩

end Granting

end QuipNet.Quic

namespace QuipNet.Fabric
open QuipNet.Library.Effect QuipNet.Quic QuipNet.Transport
open QuicTransportAdapter

variable {ρ : Type}

/-! ## The node behind the adapter -/

structure SameNode (before after : QuicTransportAdapter ρ) : Prop where
  networkId : after.networkId = before.networkId
  localIdentity : after.localIdentity = before.localIdentity
  relayControl : after.relayControl = before.relayControl

instance : Bookkeeping (ρ := ρ) SameNode where
  refl _ := ⟨rfl, rfl, rfl⟩
  trans _ _ _ h₁ h₂ := ⟨h₂.networkId.trans h₁.networkId, h₂.localIdentity.trans h₁.localIdentity,
    h₂.relayControl.trans h₁.relayControl⟩
  host _ _ _ := ⟨rfl, rfl, rfl⟩
  relays _ _ := ⟨rfl, rfl, rfl⟩
  events _ _ := ⟨rfl, rfl, rfl⟩
  registries _ _ _ _ := ⟨rfl, rfl, rfl⟩
  listeners _ _ := ⟨rfl, rfl, rfl⟩

theorem failAndCloseSession_ok_endpoint {session : SessionSnapshot}
    {closureReason : SessionClosureReason} {reason : String} {adapter after : QuicTransportAdapter ρ}
    {record : RuntimeSessionRecord}
    (hfind : adapter.runtimeSessions.find session.sessionId = some record)
    (h : failAndCloseSession session closureReason reason adapter = .ok () after)
    (hrelay : record.snapshot.pathKind = .relay) :
    record.snapshot.relayControlEndpoint.isSome := by
  have hmoved := find_updateSessionState session.sessionId .failed (some closureReason)
    (some reason) adapter
  rw [hfind, Option.map_some] at hmoved
  rw [failAndCloseSession, bind_of_ok (moveSession_run _ _ _ _ _)] at h
  obtain ⟨_, emitted, hemit, hclose⟩ := bind_eq_ok h
  have hsessions : emitted.runtimeSessions = (adapter.updateSessionState session.sessionId .failed
      (some closureReason) (some reason)).2.runtimeSessions := by
    cases hemit
    exact (emitRuntimeEvent_quiet _ _ _ _).sessions
  rw [← hsessions] at hmoved
  cases hrun : closeSession session emitted with
  | error error stopped =>
    rw [onTransport, mapError_of_error _ hrun] at hclose
    cases hclose
  | ok _ closed =>
    have hmarked := closeSession_ok_endpoint hmoved hrun hrelay
    exact hmarked

/-! ## Counting the entries -/

namespace ReconcileProgress

def count (progress : ReconcileProgress) : SessionReconcileDisposition → ℕ
  | .unchanged => progress.unchanged
  | .upgraded => progress.upgraded
  | .closed => progress.closed

/-- Each counter is the number of entries with its disposition. -/
def Tallied (progress : ReconcileProgress) : Prop :=
  ∀ disposition, progress.count disposition =
    progress.entries.countP fun entry => entry.disposition = disposition

variable {progress : ReconcileProgress}

theorem tallied_start (state : DaemonState) : Tallied { state } := by
  intro disposition
  cases disposition <;> rfl

structure Adds (before after : ReconcileProgress) (entry : SessionReconcileEntry) : Prop where
  entries : after.entries = before.entries ++ [entry]
  count : ∀ disposition, after.count disposition =
    before.count disposition + if entry.disposition = disposition then 1 else 0

theorem adds_recordClosed (progress : ReconcileProgress) (session : SessionSnapshot)
    (reason : String) : Adds progress (progress.recordClosed session reason)
      ⟨session.sessionId, session.peer, .closed, reason, none⟩ := by
  refine ⟨rfl, ?_⟩
  intro disposition
  cases disposition <;> rfl

theorem adds_recordUnchanged (progress : ReconcileProgress) (session : SessionSnapshot)
    (reason : String) : Adds progress (progress.recordUnchanged session reason)
      ⟨session.sessionId, session.peer, .unchanged, reason, some session.pathKind⟩ := by
  refine ⟨rfl, ?_⟩
  intro disposition
  cases disposition <;> rfl

theorem adds_recordUpgraded (progress : ReconcileProgress) (session migrated : SessionSnapshot)
    (nextPathKind : PathKind) : Adds progress (progress.recordUpgraded session migrated nextPathKind)
      ⟨session.sessionId, session.peer, .upgraded, "selected path changed; session migrated",
        some nextPathKind⟩ := by
  refine ⟨rfl, ?_⟩
  intro disposition
  cases disposition <;> rfl

theorem Tallied.of_adds (h : progress.Tallied) {after : ReconcileProgress}
    {entry : SessionReconcileEntry} (hadds : Adds progress after entry) : after.Tallied := by
  intro disposition
  rw [hadds.count, hadds.entries, List.countP_append, h disposition, List.countP_singleton]
  simp

theorem Tallied.total (h : progress.Tallied) :
    progress.unchanged + progress.upgraded + progress.closed = progress.entries.length := by
  have hunchanged : progress.unchanged = _ := h .unchanged
  have hupgraded : progress.upgraded = _ := h .upgraded
  have hclosed : progress.closed = _ := h .closed
  rw [hunchanged, hupgraded, hclosed]
  induction progress.entries with
  | nil => rfl
  | cons entry rest ih =>
    simp only [List.countP_cons, List.length_cons]
    cases entry.disposition <;> simp <;> omega

end ReconcileProgress

/-! ## How a turn ends -/

section Hashing
variable [Primitives] {state : DaemonState} {session : SessionSnapshot}

theorem canOpen_iff_of_sameNode {before after : QuicTransportAdapter ρ}
    (h : SameNode before after) (route : RoutePlan) :
    CanOpen after route ↔ CanOpen before route := by
  simp only [CanOpen, LocalTo, h.networkId, h.localIdentity]

/-- Policy allows the session, a route is planned for it and nothing stands in the way of
opening it. -/
def Realizable (state : DaemonState) (session : SessionSnapshot)
    (adapter : QuicTransportAdapter ρ) : Prop :=
  ∃ protocol route, session.protocol = some protocol ∧
    (state.explainPolicy session.peer protocol).allowed = true ∧
    state.routePlan session.peer (some protocol) session.trafficClass = .ok route ∧
    CanOpen adapter route ∧ adapter.relayControl.Grants

theorem realizable_iff_of_sameNode {before after : QuicTransportAdapter ρ}
    (h : SameNode before after) :
    Realizable state session after ↔ Realizable state session before := by
  simp only [Realizable, canOpen_iff_of_sameNode h, h.relayControl]

/-- What an entry of the report says of its session, and what is registered for it. -/
inductive Reconciled (state : DaemonState) (session : SessionSnapshot)
    (after : QuicTransportAdapter ρ) : SessionReconcileEntry → Prop
  | unchanged {record : RuntimeSessionRecord} {protocol : ProtocolId} {route : RoutePlan}
      (reason : String) (hfind : after.runtimeSessions.find session.sessionId = some record)
      (hkey : record.snapshot.key = session.key)
      (hpath : sessionPath record.snapshot = sessionPath session)
      (hactive : record.snapshot.state = .active) (hprotocol : session.protocol = some protocol)
      (hallowed : (state.explainPolicy session.peer protocol).allowed = true)
      (hplan : state.routePlan session.peer (some protocol) session.trafficClass = .ok route)
      (hmatches : sessionMatchesRoute session route = true) :
      Reconciled state session after
        ⟨session.sessionId, session.peer, .unchanged, reason, some session.pathKind⟩
  | upgraded {record : RuntimeSessionRecord} {protocol : ProtocolId} {route : RoutePlan}
      {opened : SessionSnapshot} {before between : QuicTransportAdapter ρ}
      (hfind : after.runtimeSessions.find session.sessionId = some record)
      (hopened : sessionSnapshotForRoute route before = .ok opened between)
      (hopens : CanOpen after route) (hkey : record.snapshot.key = opened.key)
      (hpath : sessionPath record.snapshot = sessionPath opened)
      (hactive : record.snapshot.state = .active) (hprotocol : session.protocol = some protocol)
      (hallowed : (state.explainPolicy session.peer protocol).allowed = true)
      (hplan : state.routePlan session.peer (some protocol) session.trafficClass = .ok route) :
      Reconciled state session after ⟨session.sessionId, session.peer, .upgraded,
        "selected path changed; session migrated", some route.pathKind⟩
  | closed (reason : String) (hgone : Gone session after)
      (hcause : ¬ Realizable state session after) :
      Reconciled state session after ⟨session.sessionId, session.peer, .closed, reason, none⟩

theorem Reconciled.of_find {before after : QuicTransportAdapter ρ} {entry : SessionReconcileEntry}
    (h : Reconciled state session before entry)
    (hfind : after.runtimeSessions.find session.sessionId =
      before.runtimeSessions.find session.sessionId) (hnode : SameNode before after) :
    Reconciled state session after entry := by
  cases h with
  | unchanged reason hrecord hkey hpath hactive hprotocol hallowed hplan hmatches =>
    exact .unchanged reason (hfind.trans hrecord) hkey hpath hactive hprotocol hallowed hplan
      hmatches
  | upgraded hrecord hopened hopens hkey hpath hactive hprotocol hallowed hplan =>
    exact .upgraded (hfind.trans hrecord) hopened ((canOpen_iff_of_sameNode hnode _).2 hopens)
      hkey hpath hactive hprotocol hallowed hplan
  | closed reason hgone hcause =>
    exact .closed reason (hfind.trans hgone) (mt (realizable_iff_of_sameNode hnode).1 hcause)

theorem closeFailed_reconciles {current : SessionSnapshot} (hid : current.sessionId = session.sessionId)
    (hpeer : current.peer = session.peer) {progress progress' : ReconcileProgress}
    {closureReason : SessionClosureReason} {reason : String} {adapter after : QuicTransportAdapter ρ}
    (h : closeFailed progress current closureReason reason adapter = .ok progress' after)
    (hcause : ¬ Realizable state session after) :
    ∃ entry, progress.Adds progress' entry ∧ Reconciled state session after entry := by
  have hgone := closeFailed_gone h
  obtain ⟨_, closed, -, hrest⟩ := bind_eq_ok h
  cases hrest
  refine ⟨_, ReconcileProgress.adds_recordClosed progress current reason, ?_⟩
  rw [hid, hpeer]
  refine .closed reason ?_ hcause
  rw [Gone, ← hid]
  exact hgone

theorem closeDenied_reconciles {current : SessionSnapshot} (hid : current.sessionId = session.sessionId)
    (hpeer : current.peer = session.peer) {progress progress' : ReconcileProgress} {reason : String}
    {adapter after : QuicTransportAdapter ρ}
    (h : closeDenied progress current reason adapter = .ok progress' after)
    (hcause : ¬ Realizable state session after) :
    ∃ entry, progress.Adds progress' entry ∧ Reconciled state session after entry := by
  obtain ⟨_, marked, -, h⟩ := bind_eq_ok h
  obtain ⟨_, closed, hclose, h⟩ := bind_eq_ok h
  have hgone := closeSession_find current marked
  rw [← final_mapError DaemonStateError.transport, ← onTransport, final_of_ok hclose] at hgone
  cases h
  refine ⟨_, ReconcileProgress.adds_recordClosed progress current _, ?_⟩
  rw [hid, hpeer]
  refine .closed _ ?_ hcause
  rw [Gone, ← hid]
  exact hgone

theorem migrate_reconciles {current migrated : SessionSnapshot} {route : RoutePlan}
    {adapter after : QuicTransportAdapter ρ}
    (h : migrate current route adapter = .ok migrated after) :
    ∃ (alpn : Option String) (opened : SessionSnapshot) (before between : QuicTransportAdapter ρ),
      after.runtimeSessions.find current.sessionId = some ⟨migrated, alpn⟩ ∧
      sessionSnapshotForRoute route before = .ok opened between ∧ CanOpen after route ∧
      migrated.key = opened.key ∧ sessionPath migrated = sessionPath opened ∧
      migrated.state = .active := by
  obtain ⟨_, marked, -, h⟩ := bind_eq_ok h
  obtain ⟨_, _, hget, h⟩ := bind_eq_ok h
  cases hget
  cases hexisting : marked.sessionSnapshot current.sessionId with
  | none =>
    simp only [hexisting] at h
    cases h
  | some existing =>
    simp only [hexisting] at h
    obtain ⟨opened, between, now, hopened, hmigrated⟩ := migrateExisting_opened h
    obtain ⟨-, alpn, hfind⟩ := migrateExisting_ok h
    have hnode : SameNode marked after := (migrateExisting_bookkeeping existing route).of_ok h
    have hopens := (canOpen_iff_of_sameNode hnode route).2 (canOpen_of_open_ok hopened)
    rw [sessionId_of_sessionSnapshot hexisting] at hfind
    refine ⟨alpn, opened, marked, between, hfind, hopened, hopens, ?_, ?_, ?_⟩
    · rw [hmigrated]
      rfl
    · rw [hmigrated]
      rfl
    · rw [hmigrated]
      exact sessionSnapshotForRoute_active route marked opened between hopened

theorem endpoint_of_migrates {existing : SessionSnapshot} {route : RoutePlan}
    {adapter : QuicTransportAdapter ρ} (h : Migrates adapter existing route)
    (hrelay : existing.pathKind = .relay) : existing.relayControlEndpoint.isSome := by
  obtain ⟨opened, relays, ⟨localIdentity, -, -, hopens⟩, hreleased⟩ := h
  have hheld := relaySession_eq_some_iff.2 ⟨hrelay, rfl⟩
  rcases hreleased _ hheld with hsame | ⟨endpoint, relays', hsome, -⟩
  · cases hplan : route.relay with
    | none =>
      rw [hplan] at hopens
      cases hopens.2.1.symm.trans hsame
    | some relay =>
      rw [hplan] at hopens
      obtain ⟨-, networkId, accepted, -, -, hopened⟩ := hopens
      have hendpoint := congrArg Prod.fst (Option.some.inj (hsame.symm.trans hopened))
      exact Option.isSome_iff_exists.2 ⟨_, hendpoint⟩
  · exact Option.isSome_iff_exists.2 ⟨endpoint, hsome⟩

/-- A migration over granting relays fails only where the session does not know the
control endpoint of its relay, and then it cannot be closed either. -/
theorem not_grants_of_closed {current : SessionSnapshot} {route : RoutePlan}
    (hshaped : Shaped route) {adapter left after : QuicTransportAdapter ρ}
    {record : RuntimeSessionRecord}
    (hfind : adapter.runtimeSessions.find current.sessionId = some record) {error : TransportError}
    (hmigrate : migrate current route adapter = .error error left)
    {closureReason : SessionClosureReason} {reason : String}
    (hclose : failAndCloseSession current closureReason reason left = .ok () after)
    (hopens : CanOpen adapter route) : ¬ adapter.relayControl.Grants := by
  intro hgrants
  have hnode : SameNode adapter (adapter.updateSessionState current.sessionId .migrating none
      (some "daemon requested path migration")).2 := moveSession_bookkeeping _ _ _ _ adapter
  have hmoved := find_updateSessionState current.sessionId .migrating none
    (some "daemon requested path migration") adapter
  rw [hfind, Option.map_some] at hmoved
  rw [migrate_of_find route hfind] at hmigrate
  generalize (adapter.updateSessionState current.sessionId .migrating none
    (some "daemon requested path migration")).2 = marked at hnode hmoved hmigrate
  have hid := SessionRegistry.sessionId_of_find hmoved
  generalize moved record.snapshot .migrating none (some "daemon requested path migration")
    adapter.currentUnixSecs = existing at hmoved hmigrate hid
  have hopens₁ := (canOpen_iff_of_sameNode hnode route).2 hopens
  rw [← hnode.relayControl] at hgrants
  by_cases hendpoint : existing.pathKind = .relay → existing.relayControlEndpoint.isSome
  · rw [← hid] at hmoved
    obtain ⟨migrated, done, hrun⟩ := migrateExisting_grants hgrants hopens₁ hmoved hendpoint
    cases hmigrate.symm.trans hrun
  · have hblocked : ¬ Migrates marked existing route := fun hmigrates =>
      hendpoint (endpoint_of_migrates hmigrates)
    obtain ⟨error', stranded, hrun, hsessions⟩ := migrateExisting_stranded hshaped hblocked
    cases hmigrate.symm.trans hrun
    rw [← hsessions] at hmoved
    exact hendpoint (failAndCloseSession_ok_endpoint hmoved hclose)

theorem reconcileRoute_sameNode (progress : ReconcileProgress) (session : SessionSnapshot)
    (plan : Except DaemonStateError RoutePlan) :
    Moves SameNode (reconcileRoute progress session plan : FabricM ρ ReconcileProgress) := by
  rw [← carryOut_reconcileRoute]
  exact carryOut_bookkeeping _

theorem reconcileRoute_reconciles {current : SessionSnapshot} {protocol : ProtocolId}
    (hid : current.sessionId = session.sessionId) (hkey : current.key = session.key)
    (hpath : sessionPath current = sessionPath session) (hprotocol : session.protocol = some protocol)
    (hallowed : (state.explainPolicy session.peer protocol).allowed = true)
    {progress progress' : ReconcileProgress} {adapter after : QuicTransportAdapter ρ}
    (hregistered : Registered current adapter)
    (h : reconcileRoute progress current
      (state.routePlan session.peer (some protocol) session.trafficClass) adapter =
        .ok progress' after) :
    ∃ entry, progress.Adds progress' entry ∧ Reconciled state session after entry := by
  have hpeer : current.peer = session.peer := congrArg SessionKey.peer hkey
  have hnode := (reconcileRoute_sameNode progress current _).of_ok h
  obtain ⟨alpn, hfind⟩ := hregistered
  cases hplan : state.routePlan session.peer (some protocol) session.trafficClass with
  | error error =>
    have hcause : ¬ Realizable state session after := by
      rintro ⟨other, route, hother, -, hroute, -⟩
      cases hprotocol.symm.trans hother
      cases hplan.symm.trans hroute
    rw [hplan] at h
    cases error with
    | noRoute peer => exact closeFailed_reconciles hid hpeer h hcause
    | _ => cases h
  | ok route =>
    simp only [hplan, reconcileRoute] at h
    split_ifs at h with hmatches
    · have hmoved := find_updateSessionState current.sessionId .active none
        (some "selected path still matches active session") adapter
      rw [hfind, Option.map_some] at hmoved
      rw [bind_of_ok (moveSession_run _ _ _ _ _)] at h
      cases h
      refine ⟨_, ReconcileProgress.adds_recordUnchanged progress current _, ?_⟩
      have hkind : current.pathKind = session.pathKind := congrArg SessionPath.pathKind hpath
      rw [hid] at hmoved ⊢
      rw [hpeer, hkind]
      rw [sessionMatchesRoute_congr hkey hpath] at hmatches
      exact .unchanged _ hmoved hkey hpath rfl hprotocol hallowed hplan hmatches
    · rw [bind_of_ok (moveSession_run _ _ _ _ _)] at h
      have hmoved := find_updateSessionState current.sessionId .migrating none
        (some "selected path changed; session migrating") adapter
      rw [hfind, Option.map_some] at hmoved
      have hmarked : SameNode adapter (adapter.updateSessionState current.sessionId .migrating none
          (some "selected path changed; session migrating")).2 :=
        moveSession_bookkeeping _ _ _ _ adapter
      generalize (adapter.updateSessionState current.sessionId .migrating none
        (some "selected path changed; session migrating")).2 = marked at h hmoved hmarked
      cases hmigrate : migrate current route marked with
      | ok migrated left =>
        rw [bind_of_ok (attempt_of_ok hmigrate)] at h
        cases h
        obtain ⟨alpn, opened, before, between, hstored, hopened, hopens, hsame, hon, hactive⟩ :=
          migrate_reconciles hmigrate
        refine ⟨_, ReconcileProgress.adds_recordUpgraded progress current migrated _, ?_⟩
        rw [hid] at hstored ⊢
        rw [hpeer]
        exact .upgraded hstored hopened hopens hsame hon hactive hprotocol hallowed hplan
      | error error left =>
        rw [bind_of_ok (attempt_of_error hmigrate)] at h
        refine closeFailed_reconciles hid hpeer h ?_
        obtain ⟨_, closed, hclose, hrest⟩ := bind_eq_ok h
        cases hrest
        rw [realizable_iff_of_sameNode hnode, ← realizable_iff_of_sameNode hmarked]
        rintro ⟨other, route', hother, -, hroute, hopens, hgrants⟩
        cases hprotocol.symm.trans hother
        cases hplan.symm.trans hroute
        have hshaped : Shaped route := (DaemonState.routePlan_ok hplan).2.2.2.2
        exact not_grants_of_closed hshaped hmoved hmigrate hclose hopens hgrants

theorem reconcileSession_reconciles {progress progress' : ReconcileProgress} (hon : progress.On state)
    {adapter after : QuicTransportAdapter ρ} (hregistered : Registered session adapter)
    (h : reconcileSession progress session adapter = .ok progress' after) :
    ∃ entry, progress.Adds progress' entry ∧ Reconciled state session after entry := by
  obtain ⟨now, marked, hrun, hcurrent⟩ := reconcileSession_run hregistered progress
  have hid : (reconciling session now).sessionId = session.sessionId := rfl
  have hkey : (reconciling session now).key = session.key := rfl
  have hpath : sessionPath (reconciling session now) = sessionPath session := rfl
  have hpeer : (reconciling session now).peer = session.peer := rfl
  have hclass : (reconciling session now).trafficClass = session.trafficClass := rfl
  have hsame : (reconciling session now).protocol = session.protocol := rfl
  generalize reconciling session now = current at hrun hcurrent hid hkey hpath hpeer hclass hsame
  rw [hrun] at h
  cases hprotocol : session.protocol with
  | none =>
    simp only [reconcileRegistered, hsame, hprotocol] at h
    refine closeFailed_reconciles hid hpeer h ?_
    rintro ⟨protocol, route, hother, -⟩
    cases hprotocol.symm.trans hother
  | some protocol =>
    simp only [reconcileRegistered, hsame, hprotocol, hpeer, hclass, hon.explainPolicy,
      hon.routePlan] at h
    split_ifs at h with hallowed
    · exact reconcileRoute_reconciles hid hkey hpath hprotocol hallowed hcurrent h
    · refine closeDenied_reconciles hid hpeer h ?_
      rintro ⟨other, route, hother, hallows, -⟩
      cases hprotocol.symm.trans hother
      exact hallowed hallows

/-! ## The whole pass -/

theorem reconcileSession_sameNode (progress : ReconcileProgress) (session : SessionSnapshot) :
    Moves SameNode (reconcileSession progress session : FabricM ρ ReconcileProgress) := by
  rw [← carryOut_reconcileSession]
  exact carryOut_bookkeeping _

theorem reconcile_logs {sessions : List SessionSnapshot} {progress progress' : ReconcileProgress}
    (hon : progress.On state) (htallied : progress.Tallied)
    {adapter after : QuicTransportAdapter ρ} (hlisted : Listed sessions adapter)
    (h : sessions.foldlM reconcileSession progress adapter = .ok progress' after) :
    progress'.Tallied ∧ ∃ entries, progress'.entries = progress.entries ++ entries ∧
      List.Forall₂ (fun session entry => Reconciled state session after entry) sessions entries := by
  have hlogs := foldlM_logs ReconcileProgress.entries
    (fun progress => progress.On state ∧ progress.Tallied) Registered
    (fun session entry adapter => Reconciled state session adapter entry)
    ?_ ?_ ?_ hlisted.distinct ⟨hon, htallied⟩ hlisted.registered h
  · exact ⟨hlogs.1.2, hlogs.2⟩
  · intro session progress adapter progress' after hinv hregistered hturn
    obtain ⟨entry, hadds, hreconciled⟩ := reconcileSession_reconciles hinv.1 hregistered hturn
    refine ⟨⟨?_, hinv.2.of_adds hadds⟩, entry, hadds.entries, hreconciled⟩
    exact reconcileSession_on hinv.1 session adapter progress' after hturn
  · intro first other hother progress adapter hregistered
    obtain ⟨alpn, hfind⟩ := hregistered
    have htouches := reconcileSession_touches progress first adapter
    exact ⟨alpn, by rw [htouches.sessions _ hother.symm, hfind]⟩
  · intro first other hother entry progress adapter hreconciled
    have htouches := reconcileSession_touches progress other adapter
    exact hreconciled.of_find (htouches.sessions _ hother)
      (reconcileSession_sameNode progress other adapter)

/-- The entry tells the truth about the adapter after the pass. -/
def SessionReconcileEntry.Truthful (before after : QuicTransportAdapter ρ)
    (entry : SessionReconcileEntry) : Prop :=
  match entry.disposition with
  | .unchanged => ∃ session record, Registered session before ∧
      session.sessionId = entry.sessionId ∧
      after.runtimeSessions.find entry.sessionId = some record ∧
      sessionPath record.snapshot = sessionPath session ∧ record.snapshot.state = .active
  | .upgraded => ∃ record, after.runtimeSessions.find entry.sessionId = some record ∧
      record.snapshot.sessionId = entry.sessionId ∧ record.snapshot.state = .active ∧
      entry.pathKind = some record.snapshot.pathKind
  | .closed => after.runtimeSessions.find entry.sessionId = none

structure SessionReconcileReport.Faithful (before after : QuicTransportAdapter ρ)
    (report : SessionReconcileReport) : Prop where
  listed : report.entries.map SessionReconcileEntry.sessionId =
    before.activeSessions.map SessionSnapshot.sessionId
  once : (report.entries.map SessionReconcileEntry.sessionId).Nodup
  examined : report.examined = report.entries.length
  total : report.unchanged + report.upgraded + report.closed = report.examined
  truthful : ∀ entry ∈ report.entries, entry.Truthful before after
  settled : ∀ session ∈ before.activeSessions, ∀ record,
    after.runtimeSessions.find session.sessionId = some record →
      record.snapshot.state ≠ .reconciling ∧ record.snapshot.state ≠ .migrating

theorem Reconciled.truthful {before after : QuicTransportAdapter ρ} {entry : SessionReconcileEntry}
    (h : Reconciled state session after entry) (hregistered : Registered session before) :
    entry.Truthful before after := by
  cases h with
  | unchanged reason hfind hkey hpath hactive =>
    exact ⟨session, _, hregistered, rfl, hfind, hpath, hactive⟩
  | @upgraded record protocol route opened start between hfind hopened hopens hkey hpath hactive =>
    have hkind : record.snapshot.pathKind = route.pathKind :=
      (congrArg SessionPath.pathKind hpath).trans
        (sessionSnapshotForRoute_returns route _ _ _ hopened).2
    refine ⟨_, hfind, SessionRegistry.sessionId_of_find hfind, hactive, ?_⟩
    rw [hkind]
  | closed reason hgone => exact hgone

theorem Reconciled.sessionId_eq {after : QuicTransportAdapter ρ} {entry : SessionReconcileEntry}
    (h : Reconciled state session after entry) : session.sessionId = entry.sessionId := by
  cases h <;> rfl

theorem Reconciled.active {after : QuicTransportAdapter ρ} {entry : SessionReconcileEntry}
    (h : Reconciled state session after entry) {record : RuntimeSessionRecord}
    (hrecord : after.runtimeSessions.find session.sessionId = some record) :
    record.snapshot.state = .active := by
  cases h with
  | unchanged reason hfind hkey hpath hactive =>
    cases hfind.symm.trans hrecord
    exact hactive
  | upgraded hfind hopened hopens hkey hpath hactive =>
    cases hfind.symm.trans hrecord
    exact hactive
  | closed reason hgone => cases hgone.symm.trans hrecord

/-- Whenever `reconcile_sessions` returns its report, the report is faithful. -/
theorem reconcile_report_faithful {config : DaemonConfig} {world after : World ρ}
    {report : SessionReconcileReport}
    (h : LocalControlPlane.reconcileSessions config world = .ok report after) :
    report.Faithful world.transport after.transport := by
  obtain ⟨state, opened, hstate, -⟩ := bind_eq_ok h
  obtain ⟨written, transport, hwork, rfl⟩ := Daemon.transaction_ok hstate h
  obtain ⟨progress, hsweep, rfl, -⟩ := Daemon.reconcileState_ok hwork
  have hlisted := listed_activeSessions world.transport
  obtain ⟨htallied, entries, hentries, hall⟩ := reconcile_logs (ReconcileProgress.on_start state)
    (ReconcileProgress.tallied_start state) hlisted hsweep
  have hreport : progress.report.entries = entries := hentries
  have hids : world.transport.activeSessions.map SessionSnapshot.sessionId =
      entries.map SessionReconcileEntry.sessionId := by
    rw [← List.forall₂_eq_eq_eq, List.forall₂_map_left_iff, List.forall₂_map_right_iff]
    exact hall.imp fun _ _ hentry => hentry.sessionId_eq
  refine ⟨?_, ?_, rfl, htallied.total, ?_, ?_⟩
  · rw [hreport, hids]
  · rw [hreport, ← hids, List.Nodup, List.pairwise_map]
    exact hlisted.distinct
  · rw [hreport]
    intro entry hentry
    obtain ⟨session, hsession, hreconciled⟩ := exists_mem_of_forall₂ hall entry hentry
    exact hreconciled.truthful (hlisted.registered session hsession)
  · intro session hsession record hfind
    obtain ⟨entry, -, hreconciled⟩ := exists_mem_of_forall₂' hall session hsession
    have hactive := Reconciled.active hreconciled hfind
    rw [hactive]
    exact ⟨RuntimeSessionState.noConfusion, RuntimeSessionState.noConfusion⟩

end Hashing

section Closed
attribute [local instance] Primitives.transparent

theorem strandedWorld_report_faithful : ∃ report after,
    LocalControlPlane.reconcileSessions meshConfig strandedWorld = .ok report after ∧
      report.closed = 1 ∧ report.Faithful strandedWorld.transport after.transport := by
  have hrun : okWith (fun report _ => report.closed = 1)
      (LocalControlPlane.reconcileSessions meshConfig strandedWorld) = true := by
    decide +kernel
  obtain ⟨report, after, hok, hclosed⟩ := exists_of_okWith hrun
  exact ⟨report, after, hok, of_decide_eq_true hclosed, reconcile_report_faithful hok⟩

end Closed

end QuipNet.Fabric
