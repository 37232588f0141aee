import QuipNet.SessionEffects

/-!
# When closing and migrating succeed

A session on a direct path can always be closed, and a failed migration of such a
session leaves it on its path. A relayed session needs the relay: one that
refuses every call makes both operations fail.
-/

open Std
namespace QuipNet.Quic
open QuipNet.Library QuipNet.Library.Effect QuipNet.Relay QuipNet.Transport
open QuicTransportAdapter

variable {ρ : Type}

structure RelayControl.Refuses (control : RelayControl ρ) : Prop where
  opens : ∀ endpoint request relays, ∃ error relays',
    control.openSession endpoint request relays = (.error error, relays')
  closes : ∀ endpoint id reason relays, ∃ error relays',
    control.closeSession endpoint id reason relays = (.error error, relays')

theorem closeRelayTransportSession_refused {adapter : QuicTransportAdapter ρ}
    (h : adapter.relayControl.Refuses) (endpoint : Option String) (id : SessionId) :
    ∃ error after, closeRelayTransportSession endpoint id adapter = .error error after := by
  cases endpoint with
  | none => exact ⟨_, _, rfl⟩
  | some endpoint =>
    obtain ⟨error, relays, hanswer⟩ := h.closes endpoint id "path migrated" adapter.relays
    simp only [closeRelayTransportSession, hanswer]
    exact ⟨_, _, rfl⟩

/-! ## Closing -/

theorem finishClose_ok {removed : Option RuntimeSessionRecord}
    (h : ∀ record, removed = some record → record.snapshot.pathKind ≠ .relay)
    (adapter : QuicTransportAdapter ρ) : ∃ after, finishClose removed adapter = .ok () after := by
  cases removed with
  | none => exact ⟨_, rfl⟩
  | some active =>
    have hdirect := h active rfl
    have hclose : closeOwnRelaySession active.snapshot adapter = .ok () adapter := by
      simp only [closeOwnRelaySession, if_neg hdirect, pure_run]
    exact ⟨_, bind_of_ok hclose⟩

theorem closeSession_ok_of_direct {session : SessionSnapshot} {adapter : QuicTransportAdapter ρ}
    (h : ∀ record, adapter.runtimeSessions.find session.sessionId = some record →
      record.snapshot.pathKind ≠ .relay) :
    ∃ after, closeSession session adapter = .ok () after := by
  obtain ⟨removed, taken, hrun, -, -, hkind⟩ := takeForClose_run session adapter
  have hremoved : ∀ record, removed = some record → record.snapshot.pathKind ≠ .relay := by
    rintro record rfl
    cases hfind : adapter.runtimeSessions.find session.sessionId with
    | none => simp [hfind] at hkind
    | some before =>
      simp only [hfind, Option.map_some, Option.some.injEq] at hkind
      rw [hkind]
      exact h before hfind
  obtain ⟨after, hfinish⟩ := finishClose_ok hremoved taken
  exact ⟨after, (bind_of_ok hrun).trans hfinish⟩

theorem closeSession_refused {session : SessionSnapshot} {adapter : QuicTransportAdapter ρ}
    (hrefuses : adapter.relayControl.Refuses) {record : RuntimeSessionRecord}
    (hfind : adapter.runtimeSessions.find session.sessionId = some record)
    (hrelay : record.snapshot.pathKind = .relay) :
    ∃ error after, closeSession session adapter = .error error after := by
  obtain ⟨removed, taken, hrun, htouches, -, hkind⟩ := takeForClose_run session adapter
  cases removed with
  | none => simp [hfind] at hkind
  | some active =>
    have hactive : active.snapshot.pathKind = .relay := by
      simpa [hfind, hrelay] using hkind
    have hsame : taken.relayControl.Refuses := htouches.relayControl ▸ hrefuses
    obtain ⟨error, after, hclose⟩ := closeRelayTransportSession_refused hsame
      active.snapshot.relayControlEndpoint active.snapshot.transportSessionId
    have hown : closeOwnRelaySession active.snapshot taken = .error error after := by
      simp only [closeOwnRelaySession, if_pos hactive, hclose]
    exact ⟨error, after, (bind_of_ok hrun).trans (bind_of_error hown)⟩

/-! ## Migrating -/

theorem closeLeftRelaySession_direct {previous : SessionSnapshot} (h : previous.pathKind ≠ .relay)
    (next : SessionSnapshot) (adapter : QuicTransportAdapter ρ) :
    closeLeftRelaySession previous next adapter = .ok () adapter := by
  simp [closeLeftRelaySession, leavesRelaySession, h]

theorem upsertRuntimeSession_ok_of_direct (record : RuntimeSessionRecord)
    {previous : RuntimeSessionRecord} {adapter : QuicTransportAdapter ρ}
    (hfind : adapter.runtimeSessions.find record.snapshot.sessionId = some previous)
    (hdirect : previous.snapshot.pathKind ≠ .relay) :
    ∃ after, upsertRuntimeSession record adapter = .ok () after := by
  simp only [upsertRuntimeSession, bind_run, modifyGet_run, hfind, announceSession,
    closeLeftRelaySession_direct hdirect, modify_run]
  exact ⟨_, rfl⟩

section Sessions
variable [Primitives]

theorem migrate_run {session : SessionSnapshot} (route : RoutePlan)
    {adapter : QuicTransportAdapter ρ} {record : RuntimeSessionRecord}
    (hfind : adapter.runtimeSessions.find session.sessionId = some record) :
    ∃ existing marked, migrate session route adapter = migrateExisting existing route marked ∧
      existing.sessionId = session.sessionId ∧
      existing.pathKind = record.snapshot.pathKind ∧
      marked.runtimeSessions.find session.sessionId = some { record with snapshot := existing } ∧
      marked.relayControl = adapter.relayControl := by
  have htouches := updateSessionState_touches session.sessionId .migrating none
    (some "daemon requested path migration") adapter
  have hmoved := find_updateSessionState session.sessionId .migrating none
    (some "daemon requested path migration") adapter
  rw [hfind, Option.map_some] at hmoved
  refine ⟨moved record.snapshot .migrating none (some "daemon requested path migration")
    adapter.currentUnixSecs, _, ?_, SessionRegistry.sessionId_of_find hfind, rfl, hmoved,
    htouches.relayControl⟩
  unfold migrate moveSession
  simp only [bind_run, modify_run, get_run, sessionSnapshot, hmoved, Option.map_some]

theorem migrateExisting_ok {existing migrated : SessionSnapshot} {route : RoutePlan}
    {adapter after : QuicTransportAdapter ρ}
    (h : migrateExisting existing route adapter = .ok migrated after) :
    migrated.key = route.key ∧
      ∃ alpn, after.runtimeSessions.find existing.sessionId = some ⟨migrated, alpn⟩ := by
  obtain ⟨opened, s₁, hopened, h⟩ := bind_eq_ok h
  obtain ⟨now, s₂, -, h⟩ := bind_eq_ok h
  obtain ⟨_, s₃, -, h⟩ := bind_eq_ok h
  obtain ⟨_, s₄, hupsert, h⟩ := bind_eq_ok h
  obtain ⟨_, s₅, hemit, h⟩ := bind_eq_ok h
  have hkey := (sessionSnapshotForRoute_returns route _ _ _ hopened).1
  have hstored := upsertRuntimeSession_find
    ⟨migratedSnapshot existing opened now, route.protocol.map ProtocolId.text⟩ s₃
  rw [final_of_ok hupsert] at hstored
  have hquiet := (emit_background (R := Quiet) _ _ _).of_ok hemit
  cases h
  refine ⟨hkey, route.protocol.map ProtocolId.text, ?_⟩
  rw [hquiet.sessions]
  exact hstored

theorem open_error_of_migrateExisting_error {existing : SessionSnapshot} {route : RoutePlan}
    {adapter after : QuicTransportAdapter ρ} {error : TransportError}
    {record : RuntimeSessionRecord}
    (hfind : adapter.runtimeSessions.find existing.sessionId = some record)
    (hrecord : record.snapshot.pathKind ≠ .relay) (hexisting : existing.pathKind ≠ .relay)
    (h : migrateExisting existing route adapter = .error error after) :
    sessionSnapshotForRoute route adapter = .error error after := by
  cases hopen : sessionSnapshotForRoute route adapter with
  | error error' s₁ =>
    rw [migrateExisting, bind_of_error hopen] at h
    cases h
    rfl
  | ok opened s₁ =>
    have hquiet := (sessionSnapshotForRoute_quiet route).of_ok hopen
    have hfound : s₁.ticked.runtimeSessions.find existing.sessionId = some record := by
      change s₁.runtimeSessions.find existing.sessionId = some record
      rw [hquiet.sessions, hfind]
    have hclose := closeLeftRelaySession_direct hexisting
      (migratedSnapshot existing opened s₁.currentUnixSecs) s₁.ticked
    obtain ⟨s₄, hupsert⟩ := upsertRuntimeSession_ok_of_direct
      ⟨migratedSnapshot existing opened s₁.currentUnixSecs, route.protocol.map ProtocolId.text⟩
      hfound hrecord
    have hsecs : unixSecs s₁ = .ok s₁.currentUnixSecs s₁.ticked := rfl
    rw [migrateExisting, bind_of_ok hopen, bind_of_ok hsecs, bind_of_ok hclose,
      bind_of_ok hupsert] at h
    cases h

theorem migrateExisting_error_of_direct {existing : SessionSnapshot} {route : RoutePlan}
    {adapter after : QuicTransportAdapter ρ} {error : TransportError}
    {record : RuntimeSessionRecord}
    (hfind : adapter.runtimeSessions.find existing.sessionId = some record)
    (hrecord : record.snapshot.pathKind ≠ .relay) (hexisting : existing.pathKind ≠ .relay)
    (h : migrateExisting existing route adapter = .error error after) :
    after.runtimeSessions.find existing.sessionId = some record := by
  have hopen := open_error_of_migrateExisting_error hfind hrecord hexisting h
  rw [((sessionSnapshotForRoute_quiet route).of_error hopen).sessions, hfind]

theorem relaySessionSnapshot_refused {adapter : QuicTransportAdapter ρ}
    (hrefuses : adapter.relayControl.Refuses) (route : RoutePlan) (relay : RelayPlan) :
    ∃ error after, relaySessionSnapshot route relay adapter = .error error after := by
  cases hrun : relaySessionSnapshot route relay adapter with
  | error error after => exact ⟨error, after, rfl⟩
  | ok opened after =>
    exfalso
    obtain ⟨_, _, hget, hrun⟩ := bind_eq_ok hrun
    cases hget
    cases hnetwork : adapter.networkId with
    | none =>
      simp only [hnetwork] at hrun
      cases hrun
    | some networkId =>
      cases hidentity : adapter.localIdentity with
      | none =>
        simp only [hnetwork, hidentity] at hrun
        cases hrun
      | some localIdentity =>
        simp only [hnetwork, hidentity] at hrun
        split_ifs at hrun
        · cases hrun
        · obtain ⟨credential, s₁, hcredential, hrun⟩ := bind_eq_ok hrun
          obtain ⟨attemptId, s₂, hattempt, hrun⟩ := bind_eq_ok hrun
          have hquiet₁ := (issueCredential_background (R := Quiet) _ _ _).of_ok hcredential
          have hquiet₂ := (fillBytes_background (R := Quiet) 16).of_ok hattempt
          have hsame : s₂.relayControl.Refuses := by
            rw [hquiet₂.relayControl, hquiet₁.relayControl]
            exact hrefuses
          cases hendpoint : relay.relayEndpoints.head? with
          | none =>
            simp only [hendpoint] at hrun
            cases hrun
          | some relayEndpoint =>
            simp only [hendpoint] at hrun
            obtain ⟨accepted, s₃, hopen, -⟩ := bind_eq_ok hrun
            obtain ⟨error, relays, hanswer⟩ := hsame.opens relay.relayControlEndpoint _ s₂.relays
            rw [openRelaySession, hanswer] at hopen
            cases hopen

/-- Under a refusing relay a relayed session cannot leave its path: either the new
path is not opened, or the relay does not let the old one go. -/
theorem migrateExisting_refused {adapter : QuicTransportAdapter ρ}
    (hrefuses : adapter.relayControl.Refuses) {existing : SessionSnapshot}
    (hrelay : existing.pathKind = .relay) {route : RoutePlan}
    (hroute : route.relay.isSome ↔ route.pathKind = .relay) :
    ∃ error after, migrateExisting existing route adapter = .error error after ∧
      Quiet adapter after := by
  cases hopen : sessionSnapshotForRoute route adapter with
  | error error s₁ =>
    exact ⟨error, s₁, bind_of_error hopen, (sessionSnapshotForRoute_quiet route).of_error hopen⟩
  | ok opened s₁ =>
    have hquiet := (sessionSnapshotForRoute_quiet route).of_ok hopen
    have hdirect : opened.pathKind ≠ .relay := by
      rw [(sessionSnapshotForRoute_returns route _ _ _ hopen).2]
      intro hkind
      obtain ⟨relay, hplan⟩ := Option.isSome_iff_exists.1 (hroute.2 hkind)
      obtain ⟨error, after, hfails⟩ := relaySessionSnapshot_refused hrefuses route relay
      rw [sessionSnapshotForRoute, hplan] at hopen
      exact absurd (hopen.symm.trans hfails) (by simp)
    have hsame : s₁.ticked.relayControl.Refuses := by
      change s₁.relayControl.Refuses
      rw [hquiet.relayControl]
      exact hrefuses
    obtain ⟨error, after, hclose⟩ := closeRelayTransportSession_refused hsame
      existing.relayControlEndpoint existing.transportSessionId
    have hleft : closeLeftRelaySession existing
        (migratedSnapshot existing opened s₁.currentUnixSecs) s₁.ticked = .error error after := by
      have hleaves : leavesRelaySession existing
          (migratedSnapshot existing opened s₁.currentUnixSecs) = true := by
        simp [leavesRelaySession, hrelay, migratedSnapshot, hdirect]
      rw [closeLeftRelaySession, if_pos hleaves, hclose]
    have hticked : Quiet s₁ s₁.ticked := ⟨rfl, rfl, rfl⟩
    have hafter := (closeRelayTransportSession_quiet _ _).of_error hclose
    have hsecs : unixSecs s₁ = .ok s₁.currentUnixSecs s₁.ticked := rfl
    refine ⟨error, after, ?_, IsTrans.trans _ _ _ hquiet (IsTrans.trans _ _ _ hticked hafter)⟩
    rw [migrateExisting, bind_of_ok hopen, bind_of_ok hsecs]
    exact bind_of_error hleft

end Sessions

end QuipNet.Quic
