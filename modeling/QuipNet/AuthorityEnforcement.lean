import QuipNet.ControlPlane
import QuipNet.ReevaluationPass
import QuipNet.SuppressionRuns

/-!
# What a reevaluation leaves behind

The registry and the reconnect suppressions after `reevaluate_runtime_authority`.
A pass that returns leaves no denied session and suppresses the keys it closed. A
pass that a relay stops leaves the denied sessions behind the stopping one. The
suppressions it leaves are those of denied sessions, and the earlier ones of keys
that no session has.
-/

open Std
namespace QuipNet.Fabric
open QuipNet.Library.Effect QuipNet.Quic QuipNet.Transport
open QuicTransportAdapter

variable {ρ : Type}

section Pass
variable [Primitives] {state : DaemonState} {runtimePeerId : PeerId}
  {adapter : QuicTransportAdapter ρ} {sessions : List SessionSnapshot}

/-! ## The registry -/

theorem allowed_of_settled {listed session : SessionSnapshot}
    (hid : listed.sessionId = session.sessionId) (hmem : session ∈ adapter.activeSessions)
    (hsettled : Settled state runtimePeerId listed adapter) :
    state.deniesKey runtimePeerId session.key = false := by
  obtain ⟨alpn, hfind⟩ := registered_of_mem_activeSessions hmem
  rw [← hid] at hfind
  obtain ⟨hkey, hallowed⟩ := hsettled _ hfind
  rw [hkey]
  exact hallowed

/-- A sweep settles the sessions up to the one that stopped it. A denied session that
is left comes after a session that may stop the pass. -/
theorem sweep_registry (state : DaemonState) (runtimePeerId : PeerId)
    (hlisted : Listed sessions adapter)
    (hall : ∀ session ∈ adapter.activeSessions, session ∈ sessions) :
    ∃ done rest, sessions = done ++ rest ∧
      (∀ session ∈ (final (Pass.sweep state runtimePeerId sessions) adapter).activeSessions,
        state.deniesKey runtimePeerId session.key = false ∨ session ∈ rest) ∧
      (rest ≠ [] → ∃ stopper ∈ done, state.mayStop runtimePeerId stopper = true) ∧
      ∀ report after, Pass.sweep state runtimePeerId sessions adapter = .ok report after →
        rest = [] := by
  -- a session that is registered at the end had its id listed
  have hfrom : ∀ session ∈ (final (Pass.sweep state runtimePeerId sessions) adapter).activeSessions,
      ∃ listed ∈ sessions, listed.sessionId = session.sessionId := by
    intro session hmem
    by_contra hnone
    push Not at hnone
    obtain ⟨alpn, hfind⟩ := registered_of_mem_activeSessions hmem
    rw [Pass.sweep, sweep_find state runtimePeerId _ _ hnone] at hfind
    exact hnone session (hall session (mem_activeSessions_of_registered ⟨alpn, hfind⟩)) rfl
  rcases sweep_cases state runtimePeerId (.start state runtimePeerId) hlisted with
    ⟨report, after, hswept, hsettled⟩ |
    ⟨done, stopper, rest, error, after, hsplit, hswept, hsettled, hleft, hstop⟩
  · refine ⟨sessions, [], by simp, ?_, by simp, fun _ _ _ => rfl⟩
    rw [Pass.sweep, final_of_ok hswept] at *
    intro session hmem
    obtain ⟨listed, hlistedMem, hid⟩ := hfrom session hmem
    exact .inl (allowed_of_settled hid hmem (hsettled listed hlistedMem))
  · refine ⟨done ++ [stopper], rest, by simp [hsplit], ?_, fun _ => ⟨stopper, by simp, hstop⟩, ?_⟩
    · rw [Pass.sweep, final_of_error hswept] at *
      intro session hmem
      obtain ⟨listed, hlistedMem, hid⟩ := hfrom session hmem
      have hparts : listed ∈ done ++ [stopper] ∨ listed ∈ rest := by
        rw [hsplit] at hlistedMem
        simpa [or_assoc] using hlistedMem
      rcases hparts with hdone | hrest
      · exact .inl (allowed_of_settled hid hmem (hsettled listed hdone))
      · rw [eq_of_registered hid hmem (hleft listed hrest)]
        exact .inr hrest
    · intro report after' hok
      cases hswept.symm.trans hok

theorem sweep_refused_find {front back : List SessionSnapshot}
    (hlisted : Listed (front ++ back) adapter) (hrefuses : adapter.relayControl.Refuses)
    (hstop : ∃ session ∈ front, state.mayStop runtimePeerId session = true)
    {session : SessionSnapshot} (hmem : session ∈ back) :
    Registered session (final (Pass.sweep state runtimePeerId (front ++ back)) adapter) := by
  obtain ⟨hfront, -, hacross⟩ := List.pairwise_append.1 hlisted.distinct
  have hlistedFront : Listed front adapter :=
    ⟨hfront, fun other hother => hlisted.registered other (List.mem_append_left _ hother)⟩
  obtain ⟨error, after, hswept⟩ :=
    sweep_refused hlistedFront hrefuses hstop (.start state runtimePeerId)
  have hkept := sweep_find state runtimePeerId (.start state runtimePeerId) adapter
    (fun other hother => hacross other hother session hmem)
  obtain ⟨alpn, hfind⟩ := hlisted.registered session (List.mem_append_right _ hmem)
  rw [final_of_error hswept, hfind] at hkept
  rw [Pass.sweep, final_of_error (foldlM_append_of_error hswept)]
  exact ⟨alpn, hkept⟩

/-! ## The suppressions -/

def Swept (sessions : List SessionSnapshot) (key : SessionKey) : Prop :=
  ∃ session ∈ sessions, session.protocol.isSome = true ∧ session.key = key

/-- A sweep that returns counts as closed the sessions it closed for policy and those
whose migration failed. When there are none of the latter, the swept keys are
suppressed exactly when they are denied, and the other keys are as they were. -/
theorem sweep_suppressed (hlisted : Listed sessions adapter) {report report' : AuthorityReevaluationReport}
    {after : QuicTransportAdapter ρ}
    (hrun : sessions.foldlM (reevaluateSession state runtimePeerId) report adapter =
      .ok report' after) :
    report.closedSessions + report'.policyClosures ≤
        report'.closedSessions + report.policyClosures ∧
      (report'.closedSessions + report.policyClosures =
          report.closedSessions + report'.policyClosures →
        ∀ key, after.Suppressed key ↔
          (Swept sessions key ∧ state.deniesKey runtimePeerId key = true) ∨
            (¬ Swept sessions key ∧ adapter.Suppressed key)) := by
  induction sessions generalizing adapter report with
  | nil =>
    cases hrun
    simp [Swept]
  | cons session rest ih =>
    obtain ⟨report₁, now, hfirst, hrest⟩ := bind_eq_ok hrun
    have hframe := (reevaluateSession_frame state runtimePeerId report session).of_ok hfirst
    obtain ⟨hle, hiff⟩ := ih (hlisted.tail hframe) hrest
    have hturn := reevaluateSession_turn state runtimePeerId report
      (hlisted.registered session List.mem_cons_self)
    rw [hfirst] at hturn
    have hswept : ∀ key, Swept (session :: rest) key ↔
        (session.protocol.isSome = true ∧ session.key = key) ∨ Swept rest key := by
      intro key
      simp [Swept]
    cases hturn with
    | skipped hprotocol =>
      refine ⟨hle, fun heq key => ?_⟩
      rw [hiff heq, hswept]
      simp [hprotocol]
    | enforced hdenied hgone hsuppressed hclosed hpolicy =>
      have hprotocol : session.protocol.isSome = true := by
        cases hprotocol : session.protocol with
        | none => simp [DaemonState.deniesKey, SessionSnapshot.key, hprotocol] at hdenied
        | some protocol => rfl
      refine ⟨by omega, fun heq key => ?_⟩
      rw [hiff (by omega), hsuppressed, hswept]
      by_cases hkey : session.key = key
      · subst hkey
        simp only [hprotocol, hdenied]
        tauto
      · have hother : key ≠ session.key := Ne.symm hkey
        simp only [hkey, hother, and_false, false_or]
    | kept hallowed hprotocol hkept hsuppressed hclosed hpolicy =>
      refine ⟨by omega, fun heq key => ?_⟩
      rw [hiff (by omega), hsuppressed, hswept]
      by_cases hkey : session.key = key
      · subst hkey
        simp [hprotocol, hallowed]
      · have hother : key ≠ session.key := Ne.symm hkey
        simp only [hkey, hother, and_false, false_or, ne_eq, not_false_eq_true, true_and]
    | migrationFailed hallowed hgone hsuppressed hclosed hpolicy =>
      exact ⟨by omega, fun heq => absurd heq (by omega)⟩

theorem sweep_closed_suppressed (hlisted : Listed sessions adapter)
    (hkeys : sessions.Pairwise fun s t => s.key ≠ t.key)
    {report report' : AuthorityReevaluationReport} {after : QuicTransportAdapter ρ}
    (hrun : sessions.foldlM (reevaluateSession state runtimePeerId) report adapter =
      .ok report' after) :
    ∀ session ∈ sessions, Gone session after → after.Suppressed session.key := by
  have hdone : ∀ (session : SessionSnapshot) report now report' now', Registered session now →
      reevaluateSession state runtimePeerId report session now = .ok report' now' →
        Gone (ρ := ρ) session now' → now'.Suppressed session.key := by
    intro session report now report' now' hregistered hturn hgone
    have hcases := reevaluateSession_turn state runtimePeerId report hregistered
    rw [hturn] at hcases
    cases hcases with
    | skipped _ =>
      obtain ⟨alpn, hfind⟩ := hregistered
      rw [hgone] at hfind
      cases hfind
    | enforced _ _ hsuppressed => exact (hsuppressed _).2 (.inl rfl)
    | kept _ _ hkept =>
      obtain ⟨record, hfind, -⟩ := hkept
      rw [hgone] at hfind
      cases hfind
    | migrationFailed _ _ hsuppressed => exact (hsuppressed _).2 (.inl rfl)
  have hready : ∀ session other : SessionSnapshot,
      session.sessionId ≠ other.sessionId ∧ session.key ≠ other.key → ∀ report now,
        Registered other now → Registered (ρ := ρ) other
          (final (reevaluateSession state runtimePeerId report session) now) :=
    fun session other hdiffer report now h =>
      h.of_frame (reevaluateSession_frame state runtimePeerId report session now) hdiffer.1
  have hkept : ∀ session other : SessionSnapshot,
      session.sessionId ≠ other.sessionId ∧ session.key ≠ other.key → ∀ report now,
        (Gone (ρ := ρ) session now → now.Suppressed session.key) →
          Gone session (final (reevaluateSession state runtimePeerId report other) now) →
            (final (reevaluateSession state runtimePeerId report other) now).Suppressed
              session.key := by
    rintro session other ⟨hid, hkey⟩ report now hbefore hgone
    have hframe := reevaluateSession_frame state runtimePeerId report other now
    rw [hframe.suppressions _ hkey]
    rw [Gone, hframe.sessions _ hid] at hgone
    exact hbefore hgone
  rcases foldlM_cases hdone hready hkept (hlisted.distinct.and hkeys) report adapter
      hlisted.registered with
    ⟨report₁, after₁, hok, hall⟩ | ⟨_, _, _, error, after₁, -, herror, -⟩
  · cases hok.symm.trans hrun
    exact hall
  · cases herror.symm.trans hrun

end Pass

/-! ## The control plane -/

def World.withRelayControl (world : World ρ) (control : RelayControl ρ) (relays : ρ) : World ρ :=
  { world with transport := world.transport.withRelayControl control relays }

theorem refusingRelays_refuses : (refusingRelays : RelayControl ρ).Refuses :=
  ⟨fun _ _ relays => ⟨_, relays, rfl⟩, fun _ _ _ relays => ⟨_, relays, rfl⟩⟩

namespace LocalControlPlane

section Registry
variable [Primitives] {config : DaemonConfig} {identity : IdentityKeypair} {world opened : World ρ}
  {state : DaemonState}

theorem reevaluateRuntimeAuthority_run (hstate : ensureState config world = .ok state opened)
    (transport : QuicTransportAdapter ρ) :
    reevaluateRuntimeAuthority config identity { world with transport } =
      withTransport (reevaluateAuthority state identity.peerId) { opened with transport } :=
  bind_of_ok (ensureState_ok hstate transport).1

theorem reevaluateRuntimeAuthority_transport (hstate : ensureState config world = .ok state opened)
    (transport : QuicTransportAdapter ρ) :
    (final (reevaluateRuntimeAuthority config identity) { world with transport }).transport =
      final (reevaluateAuthority state identity.peerId) transport := by
  have hfinal := final_zoom World.transport (fun transport world => { world with transport })
    (reevaluateAuthority state identity.peerId) { opened with transport }
  rw [final, reevaluateRuntimeAuthority_run hstate transport]
  exact congrArg World.transport hfinal

/-- Whatever the relays do, no denied session is left, exactly when no session that
may stop the pass is listed before a denied one. -/
theorem denied_sessions_closed_iff (hstate : ensureState config world = .ok state opened) :
    (∀ control relays, ∀ session ∈ (final (reevaluateRuntimeAuthority config identity)
        (world.withRelayControl control relays)).transport.activeSessions,
      state.deniesKey identity.peerId session.key = false) ↔
    world.transport.activeSessions.Pairwise fun first later =>
      ¬ (state.mayStop identity.peerId first = true ∧
        state.deniesKey identity.peerId later.key = true) := by
  constructor
  · intro hclosed
    rw [List.pairwise_iff_forall_sublist]
    rintro first later hsublist ⟨hstop, hdenied⟩
    obtain ⟨front, back, hsplit, hfirst, hlater⟩ := List.cons_sublist_iff.1 hsublist
    have hback := List.singleton_sublist.1 hlater
    let transport := world.transport.withRelayControl refusingRelays world.transport.relays
    have hsessions : transport.activeSessions = front ++ back := hsplit
    obtain ⟨started, hquiet, hlast, -⟩ :=
      reevaluateAuthority_run state identity.peerId transport
    have hlisted := (listed_activeSessions transport).of_quiet hquiet
    rw [hsessions] at hlisted hlast
    have hrefuses : started.relayControl.Refuses := by
      rw [hquiet.relayControl]
      exact refusingRelays_refuses
    have hstill := sweep_refused_find hlisted hrefuses ⟨first, hfirst, hstop⟩ hback
    have hafter := hclosed refusingRelays world.transport.relays later
    rw [World.withRelayControl, reevaluateRuntimeAuthority_transport hstate] at hafter
    have hmem := mem_activeSessions_of_registered hstill
    rw [activeSessions, ← hlast.sessions] at hmem
    simp [hafter hmem] at hdenied
  · intro hpairwise control relays session hmem
    rw [World.withRelayControl, reevaluateRuntimeAuthority_transport hstate] at hmem
    let transport := world.transport.withRelayControl control relays
    obtain ⟨started, hquiet, hlast, -⟩ :=
      reevaluateAuthority_run state identity.peerId transport
    have hlisted := (listed_activeSessions transport).of_quiet hquiet
    have hall : ∀ session ∈ started.activeSessions, session ∈ transport.activeSessions := by
      intro session hsession
      rwa [activeSessions, hquiet.sessions] at hsession
    obtain ⟨done, rest, hsplit, hleft, hstopped, -⟩ :=
      sweep_registry state identity.peerId hlisted hall
    rw [activeSessions, hlast.sessions] at hmem
    rcases hleft session hmem with hallowed | hrest
    · exact hallowed
    · obtain ⟨stopper, hdone, hstop⟩ := hstopped (List.ne_nil_of_mem hrest)
      have hsessions : world.transport.activeSessions = done ++ rest := hsplit
      rw [hsessions] at hpairwise
      have hneither := (List.pairwise_append.1 hpairwise).2.2 stopper hdone session hrest
      simpa [hstop] using hneither

end Registry

section Closed
attribute [local instance] Primitives.transparent

/-- The fixture state grants nothing, so policy denies every session. -/
def relayedThenDirect : World Unit :=
  meshWorld (fixtureDaemonState "mesh")
    [meshSession 1 .relay fixtureWorkerPeer, meshSession 2 .directUdp fixtureRelayPeer] []

def directThenRelayed : World Unit :=
  meshWorld (fixtureDaemonState "mesh")
    [meshSession 1 .directUdp fixtureRelayPeer, meshSession 2 .relay fixtureWorkerPeer] []

theorem directThenRelayed_all_closed :
    ((final (reevaluateRuntimeAuthority meshConfig fixtureIdentity)
      (directThenRelayed.withRelayControl refusingRelays ())).transport.activeSessions.any
        fun session => (prepared meshConfig (fixtureDaemonState "mesh")).deniesKey
          fixtureIdentity.peerId session.key) = false := by
  have hstate : ensureState meshConfig directThenRelayed =
      .ok (prepared meshConfig (fixtureDaemonState "mesh")) directThenRelayed := rfl
  rw [List.any_eq_false]
  intro session hmem
  apply ne_true_of_eq_false
  refine (denied_sessions_closed_iff hstate).2 ?_ refusingRelays () session hmem
  decide +kernel

theorem refused_close_leaves_denied_session : ∃ state opened,
    ensureState meshConfig relayedThenDirect = .ok state opened ∧
      ∃ session ∈ (final (reevaluateRuntimeAuthority meshConfig fixtureIdentity)
          relayedThenDirect).transport.activeSessions,
        state.deniesKey fixtureIdentity.peerId session.key = true := by
  refine ⟨prepared meshConfig (fixtureDaemonState "mesh"), relayedThenDirect, rfl, ?_⟩
  decide +kernel

end Closed

section Suppressions
variable [Primitives] {config : DaemonConfig} {identity : IdentityKeypair} {world opened : World ρ}
  {state : DaemonState}

structure SweptBetween (state : DaemonState) (runtimePeerId : PeerId)
    (before after : QuicTransportAdapter ρ) (report : AuthorityReevaluationReport)
    (started swept : QuicTransportAdapter ρ) (report' : AuthorityReevaluationReport) : Prop where
  start : Quiet before started
  sweep : Pass.sweep state runtimePeerId before.activeSessions started = .ok report' swept
  closures : SameClosures report' report
  last : Quiet swept after

theorem reevaluateRuntimeAuthority_ok (hstate : ensureState config world = .ok state opened)
    {report : AuthorityReevaluationReport} {after : World ρ}
    (hrun : reevaluateRuntimeAuthority config identity world = .ok report after) :
    ∃ started report' swept, SweptBetween state identity.peerId world.transport after.transport
      report started swept report' := by
  have hzoom := (reevaluateRuntimeAuthority_run hstate world.transport).symm.trans hrun
  rw [withTransport, zoom] at hzoom
  cases hpass : reevaluateAuthority state identity.peerId world.transport with
  | error error stopped => simp [hpass] at hzoom
  | ok passReport transport =>
    simp only [hpass, EStateM.Result.ok.injEq] at hzoom
    obtain ⟨rfl, rfl⟩ := hzoom
    obtain ⟨started, hquiet, hlast, hok⟩ :=
      reevaluateAuthority_run state identity.peerId world.transport
    obtain ⟨report', swept, hsame, hswept⟩ := hok _ _ hpass
    rw [final_of_ok hswept, final_of_ok hpass] at hlast
    exact ⟨started, report', swept, hquiet, hswept, hsame, hlast⟩

/-- The policy of the state denies connections under this key: it denies the local
node, or it denies the peer and protocol of the key. -/
def PolicyDenies (state : DaemonState) (runtimePeerId : PeerId) (key : SessionKey) : Prop :=
  (state.localPolicyReason runtimePeerId).isSome = true ∨
    ∃ protocol, key.protocol = some protocol ∧
      (state.explainPolicy key.peer protocol).allowed = false

theorem deniesKey_iff (state : DaemonState) (runtimePeerId : PeerId) (key : SessionKey) :
    state.deniesKey runtimePeerId key = true ↔
      key.protocol.isSome = true ∧ PolicyDenies state runtimePeerId key := by
  cases hprotocol : key.protocol with
  | none => simp [DaemonState.deniesKey, hprotocol]
  | some protocol =>
    simp [DaemonState.deniesKey, PolicyDenies, hprotocol,
      DaemonState.authorityEnforcement_isSome_iff]

/-- When no migration failed, the suppressions that a reevaluation leaves all follow
policy exactly when each earlier one did, or was of the key of a running session. -/
theorem suppressions_follow_policy_iff (hstate : ensureState config world = .ok state opened)
    {report : AuthorityReevaluationReport} {after : World ρ}
    (hrun : reevaluateRuntimeAuthority config identity world = .ok report after)
    (hmigrated : report.closedSessions = report.policyClosures) :
    (∀ entry ∈ after.transport.reconnectSuppressions,
        PolicyDenies state identity.peerId entry.key) ↔
      ∀ entry ∈ world.transport.reconnectSuppressions,
        PolicyDenies state identity.peerId entry.key ∨
          Swept world.transport.activeSessions entry.key := by
  obtain ⟨started, report', swept, hquiet, hswept, ⟨hclosed, hpolicy⟩, hlast⟩ :=
    reevaluateRuntimeAuthority_ok hstate hrun
  have hlisted := (listed_activeSessions world.transport).of_quiet hquiet
  obtain ⟨-, hiff⟩ := sweep_suppressed hlisted hswept
  have hfinal : ∀ key, after.transport.Suppressed key ↔
      (Swept world.transport.activeSessions key ∧ state.deniesKey identity.peerId key = true) ∨
        (¬ Swept world.transport.activeSessions key ∧ world.transport.Suppressed key) := by
    intro key
    rw [hlast.suppressed_iff, hiff ?_, hquiet.suppressed_iff]
    change report'.closedSessions + 0 = 0 + report'.policyClosures
    omega
  constructor
  · intro hafter entry hentry
    by_cases hkey : Swept world.transport.activeSessions entry.key
    · exact .inr hkey
    · obtain ⟨kept, hkept, hsame⟩ := (hfinal entry.key).2 (.inr ⟨hkey, entry, hentry, rfl⟩)
      have hdenied := hafter kept hkept
      rw [hsame] at hdenied
      exact .inl hdenied
  · intro hbefore entry hentry
    rcases (hfinal entry.key).1 ⟨entry, hentry, rfl⟩ with ⟨-, hdenied⟩ | ⟨hnone, kept, hkept, hsame⟩
    · exact ((deniesKey_iff state identity.peerId entry.key).1 hdenied).2
    · have hdenied := hbefore kept hkept
      rw [hsame] at hdenied
      exact hdenied.resolve_right hnone

end Suppressions

section Closed
attribute [local instance] Primitives.transparent

def grantedFixture : DaemonState :=
  { fixtureDaemonState "mesh" with capabilityGrants :=
      [⟨NetworkId.derive "mesh", fixtureIdentity.peerId, fixtureAuthority.peerId,
        ["control.access"], [⟨"/quip/control/1"⟩], ⟨none, none, none⟩, [], 1720000000, 1820000000,
        1, ⟨[]⟩⟩] }

def liftedDenial : ReconnectSuppression :=
  ⟨fixtureWorkerPeer, some ⟨"/quip/control/1"⟩, .bulk, "no active capability grants", 1720000000⟩

def liftedWorld : World Unit := meshWorld grantedFixture [] [liftedDenial]

def standingWorld : World Unit :=
  meshWorld (fixtureDaemonState "mesh") [meshSession 1 .directUdp fixtureWorkerPeer] [liftedDenial]

theorem standing_denial_follows_policy : ∃ report after,
    reevaluateRuntimeAuthority meshConfig fixtureIdentity standingWorld = .ok report after ∧
      ∀ entry ∈ after.transport.reconnectSuppressions,
        PolicyDenies (prepared meshConfig (fixtureDaemonState "mesh")) fixtureIdentity.peerId
          entry.key := by
  have hok : okWith (fun report _ => report.closedSessions = report.policyClosures)
      (reevaluateRuntimeAuthority meshConfig fixtureIdentity standingWorld) = true := by
    decide +kernel
  obtain ⟨report, after, hrun, hclosed⟩ := exists_of_okWith hok
  have hstate : ensureState meshConfig standingWorld =
      .ok (prepared meshConfig (fixtureDaemonState "mesh")) standingWorld := rfl
  refine ⟨report, after, hrun, ?_⟩
  refine (suppressions_follow_policy_iff hstate hrun (of_decide_eq_true hclosed)).2 ?_
  intro entry hentry
  rw [List.mem_singleton.1 hentry]
  exact .inl (.inr ⟨⟨"/quip/control/1"⟩, rfl, by decide +kernel⟩)

theorem lifted_denial_stays_suppressed : ∃ state opened report after,
    ensureState meshConfig liftedWorld = .ok state opened ∧
      reevaluateRuntimeAuthority meshConfig fixtureIdentity liftedWorld = .ok report after ∧
      report.closedSessions = report.policyClosures ∧
      ∃ entry ∈ after.transport.reconnectSuppressions,
        ¬ PolicyDenies state fixtureIdentity.peerId entry.key := by
  have hok : okWith (fun report after => report.closedSessions = report.policyClosures ∧
      liftedDenial ∈ after.transport.reconnectSuppressions)
      (reevaluateRuntimeAuthority meshConfig fixtureIdentity liftedWorld) = true := by
    decide +kernel
  obtain ⟨report, after, hrun, hafter⟩ := exists_of_okWith hok
  obtain ⟨hclosed, hmem⟩ := of_decide_eq_true hafter
  refine ⟨prepared meshConfig grantedFixture, liftedWorld, report, after, rfl, hrun, hclosed,
    liftedDenial, hmem, ?_⟩
  rintro (hlocal | ⟨protocol, hprotocol, hdenied⟩)
  · exact absurd hlocal (by decide)
  · cases hprotocol
    exact absurd hdenied (by decide +kernel)

end Closed

section Postcondition
variable [Primitives] {config : DaemonConfig} {identity : IdentityKeypair} {world opened : World ρ}
  {state : DaemonState}

theorem allowed_of_reevaluated (hstate : ensureState config world = .ok state opened)
    {report : AuthorityReevaluationReport} {after : World ρ}
    (hrun : reevaluateRuntimeAuthority config identity world = .ok report after) :
    ∀ session ∈ after.transport.activeSessions,
      state.deniesKey identity.peerId session.key = false := by
  obtain ⟨started, report', swept, hquiet, hswept, -, hlast⟩ :=
    reevaluateRuntimeAuthority_ok hstate hrun
  have hlisted := (listed_activeSessions world.transport).of_quiet hquiet
  have hall : ∀ session ∈ started.activeSessions, session ∈ world.transport.activeSessions := by
    intro session hsession
    rwa [activeSessions, hquiet.sessions] at hsession
  obtain ⟨done, rest, -, hleft, -, hreturns⟩ := sweep_registry state identity.peerId hlisted hall
  cases hreturns _ _ hswept
  intro session hsession
  rw [final_of_ok hswept] at hleft
  rw [activeSessions, hlast.sessions] at hsession
  simpa using hleft session hsession

/-- After a reevaluation that returned, the sessions that are left are allowed, and
the keys of those that it closed are refused until they are cleared. -/
theorem reevaluation_postcondition (hstate : ensureState config world = .ok state opened)
    (hkeys : world.transport.activeSessions.Pairwise fun s t => s.key ≠ t.key)
    {report : AuthorityReevaluationReport} {after : World ρ}
    (hrun : reevaluateRuntimeAuthority config identity world = .ok report after) :
    (∀ session ∈ after.transport.activeSessions, ∀ protocol, session.protocol = some protocol →
      (state.explainPolicy session.peer protocol).allowed = true) ∧
    ((state.membership.subjectPeerId ≠ identity.peerId ∨
        (state.denyReason state.localPeerId).isSome = true) →
      ∀ session ∈ after.transport.activeSessions, session.protocol = none) ∧
    ∀ session ∈ world.transport.activeSessions, Gone session after.transport →
      after.transport.Suppressed session.key ∧
        ∀ calls : List AdapterCall,
          (∀ call ∈ calls, call ≠ .clearReconnectSuppression session.key) →
            ∀ route : RoutePlan, route.key = session.key →
              RefusesConnect (calls.foldl (fun adapter call => call.run adapter) after.transport)
                route := by
  obtain ⟨started, report', swept, hquiet, hswept, -, hlast⟩ :=
    reevaluateRuntimeAuthority_ok hstate hrun
  have hlisted := (listed_activeSessions world.transport).of_quiet hquiet
  have hleft := allowed_of_reevaluated hstate hrun
  have hallowed : ∀ session ∈ after.transport.activeSessions, ∀ protocol,
      session.protocol = some protocol →
        ¬ PolicyDenies state identity.peerId session.key := by
    intro session hsession protocol hprotocol hdenies
    have hdenied := (deniesKey_iff state identity.peerId session.key).2
      ⟨by simp [SessionSnapshot.key, hprotocol], hdenies⟩
    rw [hleft session hsession] at hdenied
    cases hdenied
  refine ⟨?_, ?_, ?_⟩
  · intro session hsession protocol hprotocol
    by_contra hdenied
    exact hallowed session hsession protocol hprotocol
      (.inr ⟨protocol, hprotocol, Bool.eq_false_of_not_eq_true hdenied⟩)
  · intro hlocal session hsession
    cases hprotocol : session.protocol with
    | none => rfl
    | some protocol =>
      have hreason := (DaemonState.localPolicyReason_isSome_iff state identity.peerId).2 hlocal
      exact absurd (.inl hreason) (hallowed session hsession protocol hprotocol)
  · intro session hsession hgone
    have hsuppressed : after.transport.Suppressed session.key := by
      rw [Gone, hlast.sessions] at hgone
      rw [hlast.suppressed_iff]
      exact sweep_closed_suppressed hlisted hkeys hswept session hsession hgone
    refine ⟨hsuppressed, ?_⟩
    intro calls hcalls route hroute
    apply refusesConnect_of_suppressed
    rw [hroute]
    exact suppressed_after_calls hcalls hsuppressed

end Postcondition

section Closed
attribute [local instance] Primitives.transparent

theorem closed_key_refused : ∃ report after,
    reevaluateRuntimeAuthority meshConfig fixtureIdentity standingWorld = .ok report after ∧
      ∀ route : RoutePlan, route.key = (meshSession 1 .directUdp fixtureWorkerPeer).key →
        RefusesConnect after.transport route := by
  have hok : okWith (fun _ after => (after.transport.runtimeSessions.find (.fill 1)).isNone)
      (reevaluateRuntimeAuthority meshConfig fixtureIdentity standingWorld) = true := by
    decide +kernel
  obtain ⟨report, after, hrun, hgone⟩ := exists_of_okWith hok
  have hstate : ensureState meshConfig standingWorld =
      .ok (prepared meshConfig (fixtureDaemonState "mesh")) standingWorld := rfl
  have hkeys : standingWorld.transport.activeSessions.Pairwise fun s t => s.key ≠ t.key := by
    decide
  have hmem : meshSession 1 .directUdp fixtureWorkerPeer ∈
      standingWorld.transport.activeSessions := by
    decide +kernel
  have hclosed := (reevaluation_postcondition hstate hkeys hrun).2.2 _ hmem
    (Option.isNone_iff_eq_none.1 hgone)
  exact ⟨report, after, hrun, hclosed.2 [] (by simp)⟩

end Closed

end LocalControlPlane

end QuipNet.Fabric
