import QuipNet.ReevaluationCounts

/-!
# The cause of a policy closure

Reevaluation reads the cause of a denial off the text of its reason. Where the peer is not
denied the text ends in the protocol, so a protocol that spells "revoked" or "denied" has
its closures counted as membership denials.
-/

open Std
namespace QuipNet

theorem contains_iff (text pattern : String) :
    contains text pattern = true ↔ pattern.toList <:+: text.toList := by
  simp only [contains, List.any_eq_true, List.mem_tails, List.isPrefixOf_iff_prefix,
    List.infix_iff_prefix_suffix]
  exact exists_congr fun rest => and_comm

/-- A pattern without the last character of the text in front occurs in the text or in
what follows it, never across. -/
theorem infix_append_of_separated {pattern front back : List Char} {separator : Char}
    (hfront : front.getLast? = some separator) (hpattern : separator ∉ pattern) :
    pattern <:+: front ++ back ↔ pattern <:+: front ∨ pattern <:+: back := by
  rw [List.infix_append_iff_ne_nil]
  constructor
  · rintro (hin | hin | ⟨lead, rest, hlead, -, rfl, hsuffix, -⟩)
    · exact .inl hin
    · exact .inr hin
    · refine absurd (List.mem_append_left rest ?_) hpattern
      obtain ⟨before, rfl⟩ := hsuffix
      rw [List.getLast?_append_of_ne_nil _ hlead] at hfront
      exact List.mem_of_getLast? hfront
  · rintro (hin | hin)
    · exact .inl hin
    · exact .inr (.inl hin)

theorem countP_lt_of_imp {α : Type} {p q : α → Bool} {items : List α}
    (h : ∀ a ∈ items, p a = true → q a = true) {a : α} (hmem : a ∈ items) (hp : p a = false)
    (hq : q a = true) : items.countP p < items.countP q := by
  obtain ⟨front, back, rfl⟩ := List.append_of_mem hmem
  have hfront : front.countP p ≤ front.countP q :=
    List.countP_mono_left fun b hb => h b (List.mem_append_left _ hb)
  have hback : back.countP p ≤ back.countP q :=
    List.countP_mono_left fun b hb => h b (List.mem_append_right _ (List.mem_cons_of_mem _ hb))
  simp only [List.countP_append, List.countP_cons, hp, hq, Bool.false_eq_true, if_false, if_true]
  omega

end QuipNet

namespace QuipNet.Fabric
open QuipNet.Library.Effect QuipNet.Quic QuipNet.Transport QuipNet.Policy

variable {ρ : Type}

/-- The text spells a word by which a membership denial is recognised. -/
def spellsDenial (text : String) : Bool := contains text "revoked" || contains text "denied"

theorem spellsDenial_append {front : String} (hspace : front.toList.getLast? = some ' ')
    (hfront : spellsDenial front = false) (text : String) :
    spellsDenial (front ++ text) = spellsDenial text := by
  have hword : ∀ pattern : String, ' ' ∉ pattern.toList → contains front pattern = false →
      contains (front ++ text) pattern = contains text pattern := by
    intro pattern hpattern hnot
    rw [Bool.eq_iff_iff, contains_iff, contains_iff, String.toList_append,
      infix_append_of_separated hspace hpattern, ← contains_iff, hnot]
    simp
  obtain ⟨hrevoked, hdenied⟩ := Bool.or_eq_false_iff.1 hfront
  rw [spellsDenial, hword "revoked" (by decide) hrevoked, hword "denied" (by decide) hdenied,
    spellsDenial]

section Hashing
variable [Primitives] {state : DaemonState} {runtimePeerId : PeerId}

theorem explainPolicy_reason {peer : PeerId} {protocol : ProtocolId}
    (hpeer : state.denyReason peer = none)
    (hdenied : (state.explainPolicy peer protocol).allowed = false) :
    (state.explainPolicy peer protocol).reason = "no active capability grants for " ++ protocol.text ∨
      (state.explainPolicy peer protocol).reason = "no matching policy rule for " ++ protocol.text := by
  unfold DaemonState.explainPolicy at hdenied ⊢
  rw [hpeer] at hdenied ⊢
  dsimp only at hdenied ⊢
  have hcapability := hdenied
  rw [DaemonState.explainLocalProtocolPolicy_allowed] at hcapability
  unfold DaemonState.explainLocalProtocolPolicy PolicyEngine.withRules PolicyEngine.evaluate
  simp only [PolicyRule.applies, hcapability, Option.all_some, Bool.and_false, List.find?_cons,
    List.find?_nil, Bool.false_eq_true, if_false]
  split
  · exact .inl rfl
  · exact .inr rfl

theorem classify_of_denied {peer : PeerId} {protocol : ProtocolId}
    (hdenied : (state.explainPolicy peer protocol).allowed = false) :
    classifyRemotePolicyCause state peer (state.explainPolicy peer protocol).reason =
      if (state.denyReason peer).isSome || spellsDenial protocol.text then .peerMembershipDenied
      else .capabilityDenied := by
  unfold classifyRemotePolicyCause
  cases hpeer : state.denyReason peer with
  | some reason => simp
  | none =>
    have hspells : spellsDenial (state.explainPolicy peer protocol).reason =
        spellsDenial protocol.text := by
      rcases explainPolicy_reason hpeer hdenied with hreason | hreason
      · rw [hreason]
        exact spellsDenial_append (by decide) (by decide) _
      · rw [hreason]
        exact spellsDenial_append (by decide) (by decide) _
    rw [← hspells]
    simp [spellsDenial]

def factualCause (state : DaemonState) (session : SessionSnapshot) : AuthorityPolicyCause :=
  if (state.denyReason session.peer).isSome then .peerMembershipDenied else .capabilityDenied

theorem enforcedCause_of_protocol {session : SessionSnapshot} {protocol : ProtocolId}
    (hlocal : state.localPolicyReason runtimePeerId = none)
    (hprotocol : session.protocol = some protocol) :
    state.enforcedCause runtimePeerId session =
      if (state.explainPolicy session.peer protocol).allowed then none
      else if (state.denyReason session.peer).isSome || spellsDenial protocol.text then
        some .peerMembershipDenied
      else some .capabilityDenied := by
  simp only [DaemonState.enforcedCause, hprotocol, Option.bind_some,
    DaemonState.authorityEnforcement, hlocal]
  cases hallowed : (state.explainPolicy session.peer protocol).allowed with
  | true => simp
  | false =>
    simp only [Bool.false_eq_true, if_false, Option.map_some, classify_of_denied hallowed]
    split_ifs <;> rfl

/-- The session is closed for policy, and its protocol alone makes it a membership denial. -/
def Misread (state : DaemonState) (session : SessionSnapshot) : Prop :=
  ∃ protocol, session.protocol = some protocol ∧
    (state.explainPolicy session.peer protocol).allowed = false ∧
    state.denyReason session.peer = none ∧ spellsDenial protocol.text = true

theorem enforcedCause_eq_iff {session : SessionSnapshot}
    (hlocal : state.localPolicyReason runtimePeerId = none) (hfair : ¬ Misread state session)
    (cause : AuthorityPolicyCause) :
    state.enforcedCause runtimePeerId session = some cause ↔
      state.deniesKey runtimePeerId session.key = true ∧ factualCause state session = cause := by
  rw [deniesKey_eq_enforcedCause]
  cases hprotocol : session.protocol with
  | none => simp [DaemonState.enforcedCause, hprotocol]
  | some protocol =>
    rw [enforcedCause_of_protocol hlocal hprotocol, factualCause]
    cases hallowed : (state.explainPolicy session.peer protocol).allowed with
    | true => simp
    | false =>
      cases hpeer : state.denyReason session.peer with
      | some reason => simp
      | none =>
        have hspells : spellsDenial protocol.text = false := by
          by_contra hspells
          exact hfair ⟨protocol, hprotocol, hallowed, hpeer, by simpa using hspells⟩
        simp [hspells]

theorem Misread.enforcedCause {session : SessionSnapshot} (h : Misread state session)
    (hlocal : state.localPolicyReason runtimePeerId = none) :
    state.enforcedCause runtimePeerId session = some .peerMembershipDenied ∧
      factualCause state session = .capabilityDenied := by
  obtain ⟨protocol, hprotocol, hdenied, hpeer, hspells⟩ := h
  rw [enforcedCause_of_protocol hlocal hprotocol, factualCause]
  simp [hdenied, hpeer, hspells]

/-- For a pass without a local denial: the counters are the numbers of closed sessions by
the deny list, exactly when no closed session with a peer that is not denied has a protocol
that spells a denial. -/
theorem causes_counted_by_fact_iff {config : DaemonConfig} {identity : IdentityKeypair}
    {world opened after : World ρ} {report : AuthorityReevaluationReport}
    (hstate : LocalControlPlane.ensureState config world = .ok state opened)
    (hlocal : state.localPolicyReason identity.peerId = none)
    (h : LocalControlPlane.reevaluateRuntimeAuthority config identity world = .ok report after) :
    (∀ cause, report.causeCount cause = world.transport.activeSessions.countP fun session =>
        ClosedForPolicy state identity.peerId after.transport session &&
          factualCause state session = cause) ↔
      ∀ session ∈ world.transport.activeSessions, ¬ Misread state session := by
  obtain ⟨state', opened', hstate', hpass, -⟩ := reevaluateRuntimeAuthority_ok h
  cases hstate.symm.trans hstate'
  constructor
  · intro hcounts session hmem hmisread
    obtain ⟨henforced, hfact⟩ := hmisread.enforcedCause hlocal
    have hcount := hcounts .capabilityDenied
    rw [reevaluateAuthority_causes hpass] at hcount
    refine (countP_lt_of_imp ?_ hmem ?_ ?_).ne hcount
    · intro other hother hcause
      have hdenied : state.deniesKey identity.peerId other.key = true := by
        rw [deniesKey_eq_enforcedCause, of_decide_eq_true hcause]
        rfl
      have hfair : ¬ Misread state other := by
        intro hother
        rw [(hother.enforcedCause hlocal).1] at hcause
        cases hcause
      rw [closedForPolicy_eq hpass hother, hdenied, Bool.true_and, decide_eq_true_eq]
      exact ((enforcedCause_eq_iff hlocal hfair _).1 (of_decide_eq_true hcause)).2
    · simp [henforced]
    · rw [closedForPolicy_eq hpass hmem, deniesKey_eq_enforcedCause, henforced, hfact]
      rfl
  · intro hfair cause
    rw [reevaluateAuthority_causes hpass]
    refine List.countP_congr ?_
    intro session hmem
    rw [closedForPolicy_eq hpass hmem, decide_eq_true_eq, Bool.and_eq_true, decide_eq_true_eq]
    exact enforcedCause_eq_iff hlocal (hfair session hmem) cause

end Hashing

section Closed
attribute [local instance] Primitives.transparent

theorem ungranted_not_local : (LocalControlPlane.prepared meshConfig
    (fixtureDaemonState "mesh")).localPolicyReason fixtureIdentity.peerId = none := by
  decide +kernel

theorem control_session_cause : ∃ report after,
    LocalControlPlane.reevaluateRuntimeAuthority meshConfig fixtureIdentity
      (ungrantedWorld "/quip/control/1") = .ok report after ∧
    report.capabilityDeniedSessions = 1 ∧
    ∀ cause, report.causeCount cause =
      (ungrantedWorld "/quip/control/1").transport.activeSessions.countP fun session =>
        ClosedForPolicy (LocalControlPlane.prepared meshConfig (fixtureDaemonState "mesh"))
            fixtureIdentity.peerId after.transport session &&
          factualCause (LocalControlPlane.prepared meshConfig (fixtureDaemonState "mesh"))
            session = cause := by
  obtain ⟨report, after, hok, -, hcapability⟩ := control_session_closed
  have hstate : LocalControlPlane.ensureState meshConfig (ungrantedWorld "/quip/control/1") =
      .ok (LocalControlPlane.prepared meshConfig (fixtureDaemonState "mesh"))
        (ungrantedWorld "/quip/control/1") := rfl
  refine ⟨report, after, hok, hcapability,
    (causes_counted_by_fact_iff hstate ungranted_not_local hok).2 ?_⟩
  rintro session hsession ⟨protocol, hprotocol, -, -, hspells⟩
  have hlisted : session ∈ [{ meshSession 1 .directUdp fixtureWorkerPeer with
    protocol := some ⟨"/quip/control/1"⟩ }] := hsession
  rw [List.mem_singleton.1 hlisted] at hprotocol
  cases hprotocol
  revert hspells
  decide

theorem spelled_denial_miscounted :
    (LocalControlPlane.prepared meshConfig (fixtureDaemonState "mesh")).localPolicyReason
      fixtureIdentity.peerId = none ∧
    (LocalControlPlane.prepared meshConfig (fixtureDaemonState "mesh")).denyReason
      fixtureWorkerPeer = none ∧
    ∃ report after, LocalControlPlane.reevaluateRuntimeAuthority meshConfig fixtureIdentity
        (ungrantedWorld "/quip/denied/1") = .ok report after ∧
      report.closedSessions = 1 ∧ report.peerMembershipDeniedSessions = 1 ∧
      report.capabilityDeniedSessions = 0 := by
  have hrun : (LocalControlPlane.prepared meshConfig (fixtureDaemonState "mesh")).denyReason
        fixtureWorkerPeer = none ∧
      okWith (fun report _ => report.closedSessions = 1 ∧
          report.peerMembershipDeniedSessions = 1 ∧ report.capabilityDeniedSessions = 0)
        (LocalControlPlane.reevaluateRuntimeAuthority meshConfig fixtureIdentity
          (ungrantedWorld "/quip/denied/1")) = true := by
    decide +kernel
  obtain ⟨report, after, hok, hcounts⟩ := exists_of_okWith hrun.2
  exact ⟨ungranted_not_local, hrun.1, report, after, hok, of_decide_eq_true hcounts⟩

end Closed

end QuipNet.Fabric
