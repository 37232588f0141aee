import QuipNet.Relay

/-!
# Relay accounting

What `open_session` does to the session table, and how the number of open
entries of a source relates to the sessions the relay really accepted. The
ledger of accepted and not yet closed sessions is kept beside the service; the
service itself only sees its table.
-/

open Std
namespace QuipNet.Relay
open QuipNet.Library

namespace RelayService

def session (service : RelayService) (sessionId : SessionId) : Option RelaySession :=
  service.runtime.session sessionId

theorem session_applyFrame_openSession (service : RelayService) (request : RelayOpenRequest)
    (id : SessionId) :
    (applyFrame (.openSession request) service).session id =
      if request.attemptId = id then some request.pendingSession else service.session id := by
  simp [applyFrame, session, RelayRuntime.session, RelayRuntime.applyFrame, Effect.final,
    TreeMap.getElem?_insert,
    pendingSessionId]

theorem session_applyFrame_sessionAccepted (service : RelayService)
    (accepted : RelaySessionAccepted) (id : SessionId) :
    (applyFrame (.sessionAccepted accepted) service).session id =
      if accepted.sessionId = id then some accepted.openSession else service.session id := by
  simp [applyFrame, session, RelayRuntime.session, RelayRuntime.applyFrame, Effect.final,
    TreeMap.getElem?_insert]

theorem session_applyFrame_close (service : RelayService) (sessionId : SessionId)
    (reason : String) (id : SessionId) :
    (applyFrame (.close sessionId reason) service).session id =
      if sessionId = id then
        (service.session sessionId).map fun session => { session with status := .closed }
      else service.session id := by
  simp [applyFrame, session, RelayRuntime.session, RelayRuntime.applyFrame, Effect.final,
    TreeMap.getElem?_modify]

def afterOpen (service : RelayService) (sessionId : SessionId) (request : RelayOpenRequest) :
    RelayService :=
  applyFrame (.sessionAccepted (request.accept sessionId))
    (applyFrame (.openSession request) service)

/-- The table after an accepted request: the drawn id wins over the attempt id,
and the attempt id over what stood there before. -/
theorem session_afterOpen (service : RelayService) (sessionId : SessionId)
    (request : RelayOpenRequest) (id : SessionId) :
    (service.afterOpen sessionId request).session id =
      if sessionId = id then some (request.accept sessionId).openSession
      else if request.attemptId = id then some request.pendingSession
      else service.session id := by
  rw [afterOpen, session_applyFrame_sessionAccepted, session_applyFrame_openSession]
  rfl

@[simp] theorem afterOpen_node (service : RelayService) (sessionId : SessionId)
    (request : RelayOpenRequest) : (service.afterOpen sessionId request).node = service.node := rfl

theorem closeSession_eq (sessionId : SessionId) (reason : String) (service : RelayService) :
    closeSession sessionId reason service =
      if service.session sessionId = none then .error .sessionNotFound service
      else .ok () (applyFrame (.close sessionId reason) service) := by
  by_cases h : service.session sessionId = none
  · simp only [session] at h
    simp [closeSession, session, h]
  · simp only [session] at h
    simp [closeSession, session, h]

def openIds (service : RelayService) (source : PeerId) : List SessionId :=
  (service.runtime.sessions.toList.filter fun entry =>
    entry.2.source = source ∧ entry.2.status = .open).map Prod.fst

theorem length_openIds (service : RelayService) (source : PeerId) :
    (service.openIds source).length = service.activeForSource source :=
  List.length_map _

theorem nodup_openIds (service : RelayService) (source : PeerId) :
    (service.openIds source).Nodup := by
  apply List.Nodup.sublist (List.filter_sublist.map _)
  rw [List.Nodup, List.pairwise_map]
  refine TreeMap.distinct_keys_toList.imp ?_
  intro a b hab heq
  exact hab (by simp [heq])

theorem mem_openIds {service : RelayService} {source : PeerId} {id : SessionId} :
    id ∈ service.openIds source ↔ ∃ session, service.session id = some session ∧
      session.source = source ∧ session.status = .open := by
  simp only [openIds, List.mem_map, List.mem_filter, decide_eq_true_eq, Prod.exists,
    exists_and_right, exists_eq_right, TreeMap.mem_toList_iff_getElem?_eq_some]
  rfl

theorem overQuota_eq_none_iff {service : RelayService} {source : PeerId}
    (hsmall : ∀ quota, service.quotaFor source = some quota →
      service.activeForSource source < UInt32.size) :
    service.overQuota source = none ↔ ∀ quota, service.quotaFor source = some quota →
      service.activeForSource source < quota.maxConcurrentSessions.toNat := by
  unfold overQuota
  cases hquota : service.quotaFor source with
  | none => simp
  | some quota =>
    have hcount : (UInt32.ofNat (service.activeForSource source)).toNat =
        service.activeForSource source := UInt32.toNat_ofNat_of_lt' (hsmall quota hquota)
    simp [Option.filter_eq_none_iff, UInt32.lt_iff_toNat_lt, hcount]

variable [Primitives]

structure Admits (service : RelayService) (now : ℕ) (sessionId : SessionId)
    (request : RelayOpenRequest) : Prop where
  verified : verifyOpenRequest now request = .ok ()
  carried : supportsTrafficClass service.node.announcement.trafficClasses request.trafficClass
  authorized : authorizeDestination service.node.destinations request.destination
    request.protocol = .ok ()
  underQuota : service.overQuota request.source = none
  fresh : service.session sessionId = none

theorem refusal_eq_none_iff (service : RelayService) (now : ℕ) (sessionId : SessionId)
    (request : RelayOpenRequest) :
    service.refusal now sessionId request = none ↔ service.Admits now sessionId request := by
  constructor
  · intro h
    unfold refusal at h
    cases hv : verifyOpenRequest now request with
    | error error => simp [hv] at h
    | ok _ =>
      by_cases hc : supportsTrafficClass service.node.announcement.trafficClasses
          request.trafficClass
      · cases ha : authorizeDestination service.node.destinations request.destination
            request.protocol with
        | error error => simp [hv, hc, ha] at h
        | ok _ =>
          cases hq : service.overQuota request.source with
          | some quota => simp [hv, hc, ha, hq] at h
          | none =>
            refine ⟨hv, hc, ha, hq, ?_⟩
            simpa [hv, hc, ha, hq, session, RelayRuntime.session] using h
      · simp [hv, hc] at h
  · intro h
    have hfresh : sessionId ∉ service.runtime.sessions := by
      simpa [session, RelayRuntime.session] using h.fresh
    simp [refusal, h.verified, h.carried, h.authorized, h.underQuota, hfresh]

theorem openSession_of_refused {service : RelayService} {now : ℕ} {sessionId : SessionId}
    {request : RelayOpenRequest} {rejected : RelaySessionRejected}
    (h : service.refusal now sessionId request = some rejected) :
    openSession now sessionId request service = .error rejected service := by
  simp [openSession, h]

theorem openSession_of_admits {service : RelayService} {now : ℕ} {sessionId : SessionId}
    {request : RelayOpenRequest} (h : service.Admits now sessionId request) :
    openSession now sessionId request service =
      .ok (request.accept sessionId) (service.afterOpen sessionId request) := by
  have hnone := (refusal_eq_none_iff service now sessionId request).2 h
  simp [openSession, hnone, afterOpen]

end RelayService

/-! ## A node with one session for one source -/

section Scenario
variable [Primitives]

def keypairOf (byte : UInt8) : IdentityKeypair := ⟨Vector.replicate 32 byte⟩

def relayedProtocol : ProtocolId := ⟨"/quip/control/1"⟩

def relayedNetwork : NetworkId := ⟨Vector.replicate 32 7⟩

def requestOf (source : IdentityKeypair) (attemptId : SessionId) : RelayOpenRequest where
  attemptId := attemptId
  networkId := relayedNetwork
  source := source.peerId
  sourcePublicKey := source.publicKey
  sourceCredential := SessionCredential.issue relayedNetwork source (Vector.replicate 32 1)
    [relayedProtocol.text] 600 1 100 (Vector.replicate 16 0)
  destination := (keypairOf 3).peerId
  protocol := some relayedProtocol
  trafficClass := .interactive

def oneSessionNode : RelayNode where
  announcement := ⟨(keypairOf 9).peerId, "local", ["127.0.0.1:443"], "http://127.0.0.1:7777/relay",
    1000000, true, true, ["InteractiveRpc"]⟩
  quotas := [⟨(keypairOf 1).peerId, 1000000, 1⟩]
  destinations := [⟨(keypairOf 3).peerId, [relayedProtocol]⟩]

def oneSessionService : RelayService :=
  Effect.final (RelayService.openSession 100 (.fill 101) (requestOf (keypairOf 1) (.fill 1)))
    (RelayService.new oneSessionNode)

end Scenario

/-! ## Isolation of table entries -/

structure RelaySession.Same (before after : RelaySession) : Prop where
  source : after.source = before.source
  destination : after.destination = before.destination
  protocol : after.protocol = before.protocol
  trafficClass : after.trafficClass = before.trafficClass
  status : after.status = before.status

theorem RelaySession.Same.refl (session : RelaySession) : session.Same session :=
  ⟨rfl, rfl, rfl, rfl, rfl⟩

/-- Every entry of `before` is still in `after`, with the same five fields. -/
def EntriesKept (before after : RelayService) : Prop :=
  ∀ id session, before.session id = some session →
    ∃ session', after.session id = some session' ∧ session.Same session'

theorem EntriesKept.refl (service : RelayService) : EntriesKept service service :=
  fun _ session h => ⟨session, h, .refl session⟩

theorem entriesKept_afterOpen_iff {service : RelayService} {sessionId : SessionId}
    {request : RelayOpenRequest} (hfresh : service.session sessionId = none) :
    EntriesKept service (service.afterOpen sessionId request) ↔
      ∀ session, service.session request.attemptId = some session →
        session.Same request.pendingSession := by
  constructor
  · intro hkept session hentry
    obtain ⟨session', hafter, hsame⟩ := hkept _ _ hentry
    have hne : sessionId ≠ request.attemptId := by
      rintro rfl
      rw [hfresh] at hentry
      cases hentry
    rw [RelayService.session_afterOpen, if_neg hne, if_pos rfl] at hafter
    cases hafter
    exact hsame
  · intro hattempt id session hentry
    have hne : sessionId ≠ id := by
      rintro rfl
      rw [hfresh] at hentry
      cases hentry
    rw [RelayService.session_afterOpen, if_neg hne]
    by_cases hid : request.attemptId = id
    · subst hid
      rw [if_pos rfl]
      exact ⟨_, rfl, hattempt session hentry⟩
    · rw [if_neg hid]
      exact ⟨session, hentry, .refl session⟩

section OpenSession
variable [Primitives]

/-- An open request keeps the table exactly when it is refused, or its attempt id
is no key of the table, or the entry there is this very pending request. -/
theorem openSession_entriesKept_iff (service : RelayService) (now : ℕ) (sessionId : SessionId)
    (request : RelayOpenRequest) :
    EntriesKept service (Effect.final (RelayService.openSession now sessionId request) service) ↔
      ¬ service.Admits now sessionId request ∨
        service.session request.attemptId = none ∨
        ∃ session, service.session request.attemptId = some session ∧
          session.Same request.pendingSession := by
  cases hrefusal : service.refusal now sessionId request with
  | some rejected =>
    have hdenied : ¬ service.Admits now sessionId request := by
      rw [← RelayService.refusal_eq_none_iff, hrefusal]
      exact Option.some_ne_none rejected
    rw [Effect.final_of_error (RelayService.openSession_of_refused hrefusal)]
    exact ⟨fun _ => Or.inl hdenied, fun _ => EntriesKept.refl service⟩
  | none =>
    have hadmits := (RelayService.refusal_eq_none_iff service now sessionId request).1 hrefusal
    rw [Effect.final_of_ok (RelayService.openSession_of_admits hadmits),
      entriesKept_afterOpen_iff hadmits.fresh]
    cases hentry : service.session request.attemptId with
    | none => simp
    | some session => simp [hadmits]

end OpenSession

section Closed
attribute [local instance] Primitives.transparent

/-- Another peer names the limited source's session as its attempt id, and the
open entry becomes a pending one of that peer. -/
theorem openSession_overwrites_open_entry :
    ¬ EntriesKept oneSessionService (Effect.final (RelayService.openSession 101 (.fill 102)
      (requestOf (keypairOf 2) (.fill 101))) oneSessionService) := by
  intro hkept
  have hbefore : (oneSessionService.session (.fill 101)).map RelaySession.status = some .open := by
    rfl
  have hafter : ((Effect.final (RelayService.openSession 101 (.fill 102)
      (requestOf (keypairOf 2) (.fill 101))) oneSessionService).session (.fill 101)).map
        RelaySession.status = some .pending := by
    rfl
  obtain ⟨session, hentry, hopen⟩ := Option.map_eq_some_iff.1 hbefore
  obtain ⟨session', hentry', hsame⟩ := hkept _ _ hentry
  rw [hentry', Option.map_some, hsame.status, hopen] at hafter
  cases hafter

end Closed

/-! ## The ledger of accepted sessions -/

inductive RelayCall
  | openSession (now : ℕ) (sessionId : SessionId) (request : RelayOpenRequest)
  | closeSession (sessionId : SessionId) (reason : String)

/-- A service together with the sessions it accepted and did not close. -/
structure Ledger where
  service : RelayService
  live : List RelaySessionAccepted := []

namespace Ledger

def start (node : RelayNode) : Ledger := { service := RelayService.new node }

def liveOf (ledger : Ledger) (source : PeerId) : ℕ :=
  (ledger.live.filter fun accepted => accepted.source = source).length

def WithinQuota (ledger : Ledger) : Prop :=
  ∀ source quota, ledger.service.quotaFor source = some quota →
    ledger.liveOf source ≤ quota.maxConcurrentSessions.toNat

/-- The open entries of the table are the live sessions, one for one. -/
structure Balanced (ledger : Ledger) : Prop where
  distinct : (ledger.live.map RelaySessionAccepted.sessionId).Nodup
  tracked : ∀ accepted ∈ ledger.live,
    ledger.service.session accepted.sessionId = some accepted.openSession
  covered : ∀ id session, ledger.service.session id = some session → session.status = .open →
    ∃ accepted ∈ ledger.live, accepted.sessionId = id

theorem start_balanced (node : RelayNode) : (start node).Balanced where
  distinct := List.nodup_nil
  tracked := by simp [start]
  covered := by
    intro id session h
    simp [start, RelayService.new, RelayService.session, RelayRuntime.session] at h

theorem Balanced.afterOpen {ledger : Ledger} (h : ledger.Balanced) {sessionId : SessionId}
    {request : RelayOpenRequest} (hfresh : ledger.service.session sessionId = none)
    (hcollision : ¬ ledger.service.runtime.isOpen request.attemptId) :
    Balanced ⟨ledger.service.afterOpen sessionId request,
      request.accept sessionId :: ledger.live⟩ where
  distinct := by
    rw [List.map_cons, List.nodup_cons]
    refine ⟨?_, h.distinct⟩
    intro hmem
    obtain ⟨accepted, haccepted, hid⟩ := List.mem_map.1 hmem
    have htracked := h.tracked accepted haccepted
    rw [hid] at htracked
    exact Option.some_ne_none _ (htracked.symm.trans hfresh)
  tracked := by
    intro accepted haccepted
    rw [RelayService.session_afterOpen]
    rcases List.mem_cons.1 haccepted with rfl | haccepted
    · exact if_pos rfl
    · have htracked := h.tracked accepted haccepted
      have hdrawn : sessionId ≠ accepted.sessionId := by
        rintro rfl
        exact Option.some_ne_none _ (htracked.symm.trans hfresh)
      have hattempt : request.attemptId ≠ accepted.sessionId := by
        intro heq
        apply hcollision
        have hopen : ledger.service.runtime.session accepted.sessionId =
          some accepted.openSession := htracked
        simp [RelayRuntime.isOpen, heq, hopen, RelaySessionAccepted.openSession]
      rw [if_neg hdrawn, if_neg hattempt, htracked]
  covered := by
    intro id session hentry hopen
    rw [RelayService.session_afterOpen] at hentry
    by_cases hdrawn : sessionId = id
    · exact ⟨_, List.mem_cons_self, hdrawn⟩
    · rw [if_neg hdrawn] at hentry
      by_cases hattempt : request.attemptId = id
      · rw [if_pos hattempt] at hentry
        cases hentry
        cases hopen
      · rw [if_neg hattempt] at hentry
        obtain ⟨accepted, haccepted, hid⟩ := h.covered id session hentry hopen
        exact ⟨accepted, List.mem_cons_of_mem _ haccepted, hid⟩

theorem Balanced.afterClose {ledger : Ledger} (h : ledger.Balanced) (sessionId : SessionId)
    (reason : String) :
    Balanced ⟨RelayService.applyFrame (.close sessionId reason) ledger.service,
      ledger.live.filter fun accepted => accepted.sessionId ≠ sessionId⟩ where
  distinct := h.distinct.sublist (List.filter_sublist.map _)
  tracked := by
    intro accepted haccepted
    obtain ⟨hlive, hid⟩ := List.mem_filter.1 haccepted
    have hne : accepted.sessionId ≠ sessionId := of_decide_eq_true hid
    rw [RelayService.session_applyFrame_close, if_neg hne.symm]
    exact h.tracked accepted hlive
  covered := by
    intro id session hentry hopen
    rw [RelayService.session_applyFrame_close] at hentry
    by_cases hid : sessionId = id
    · rw [if_pos hid] at hentry
      obtain ⟨before, -, rfl⟩ := Option.map_eq_some_iff.1 hentry
      cases hopen
    · rw [if_neg hid] at hentry
      obtain ⟨accepted, hlive, haccepted⟩ := h.covered id session hentry hopen
      refine ⟨accepted, List.mem_filter.2 ⟨hlive, ?_⟩, haccepted⟩
      rw [haccepted]
      exact decide_eq_true (Ne.symm hid)

theorem Balanced.activeForSource_eq {ledger : Ledger} (h : ledger.Balanced) (source : PeerId) :
    ledger.service.activeForSource source = ledger.liveOf source := by
  have hids : ((ledger.live.filter fun accepted => accepted.source = source).map
      RelaySessionAccepted.sessionId).Nodup := h.distinct.sublist (List.filter_sublist.map _)
  have hperm := (List.perm_ext_iff_of_nodup
    (RelayService.nodup_openIds ledger.service source) hids).2 ?_
  · simpa [RelayService.length_openIds, liveOf] using hperm.length_eq
  · intro id
    simp only [RelayService.mem_openIds, List.mem_map, List.mem_filter, decide_eq_true_eq]
    constructor
    · rintro ⟨session, hentry, hsource, hopen⟩
      obtain ⟨accepted, hlive, rfl⟩ := h.covered id session hentry hopen
      have htracked := h.tracked accepted hlive
      have hsame : accepted.openSession = session := Option.some.inj (htracked.symm.trans hentry)
      refine ⟨accepted, ⟨hlive, ?_⟩, rfl⟩
      rw [← hsource, ← hsame]
      rfl
    · rintro ⟨accepted, ⟨hlive, hsource⟩, rfl⟩
      exact ⟨accepted.openSession, h.tracked accepted hlive, hsource, rfl⟩

/-- A request that passes the quota check leaves room for one more session. The
bound keeps the count far below `2^32`, so the cast in the check does not wrap. -/
theorem liveOf_lt_of_underQuota {ledger : Ledger} (h : ledger.Balanced)
    (hquota : ledger.WithinQuota) {source : PeerId}
    (hunder : ledger.service.overQuota source = none) {quota : RelayQuota}
    (hfound : ledger.service.quotaFor source = some quota) :
    ledger.liveOf source < quota.maxConcurrentSessions.toNat := by
  rw [← h.activeForSource_eq]
  refine (RelayService.overQuota_eq_none_iff ?_).1 hunder quota hfound
  intro quota hfound
  rw [h.activeForSource_eq]
  exact Nat.lt_of_le_of_lt (hquota source quota hfound) quota.maxConcurrentSessions.toNat_lt_size

variable [Primitives]

def step (ledger : Ledger) : RelayCall → Ledger
  | .openSession now sessionId request =>
    match RelayService.openSession now sessionId request ledger.service with
    | .ok accepted service => ⟨service, accepted :: ledger.live⟩
    | .error _ service => ⟨service, ledger.live⟩
  | .closeSession sessionId reason =>
    match RelayService.closeSession sessionId reason ledger.service with
    | .ok _ service => ⟨service, ledger.live.filter fun accepted => accepted.sessionId ≠ sessionId⟩
    | .error _ service => ⟨service, ledger.live⟩

/-- No admitted open request names the key of an open entry as its attempt id. -/
def NoCollision (ledger : Ledger) : RelayCall → Prop
  | .openSession now sessionId request =>
    ledger.service.Admits now sessionId request →
      ¬ ledger.service.runtime.isOpen request.attemptId
  | .closeSession _ _ => True

theorem step_openSession_of_refused {ledger : Ledger} {now : ℕ} {sessionId : SessionId}
    {request : RelayOpenRequest} (h : ¬ ledger.service.Admits now sessionId request) :
    ledger.step (.openSession now sessionId request) = ledger := by
  cases hrefusal : ledger.service.refusal now sessionId request with
  | none => exact absurd ((RelayService.refusal_eq_none_iff _ _ _ _).1 hrefusal) h
  | some rejected => simp only [step, RelayService.openSession_of_refused hrefusal]

theorem step_openSession_of_admits {ledger : Ledger} {now : ℕ} {sessionId : SessionId}
    {request : RelayOpenRequest} (h : ledger.service.Admits now sessionId request) :
    ledger.step (.openSession now sessionId request) =
      ⟨ledger.service.afterOpen sessionId request, request.accept sessionId :: ledger.live⟩ := by
  simp only [step, RelayService.openSession_of_admits h]

theorem step_closeSession_cases (ledger : Ledger) (sessionId : SessionId) (reason : String) :
    ledger.step (.closeSession sessionId reason) = ledger ∨
      ledger.step (.closeSession sessionId reason) =
        ⟨RelayService.applyFrame (.close sessionId reason) ledger.service,
          ledger.live.filter fun accepted => accepted.sessionId ≠ sessionId⟩ := by
  by_cases h : ledger.service.session sessionId = none
  · left
    simp only [step, RelayService.closeSession_eq, if_pos h]
  · right
    simp only [step, RelayService.closeSession_eq, if_neg h]

theorem step_balanced {ledger : Ledger} (h : ledger.Balanced) {call : RelayCall}
    (hcall : ledger.NoCollision call) : (ledger.step call).Balanced := by
  cases call with
  | openSession now sessionId request =>
    by_cases hadmits : ledger.service.Admits now sessionId request
    · rw [step_openSession_of_admits hadmits]
      exact h.afterOpen hadmits.fresh (hcall hadmits)
    · rwa [step_openSession_of_refused hadmits]
  | closeSession sessionId reason =>
    rcases step_closeSession_cases ledger sessionId reason with hstep | hstep
    · rwa [hstep]
    · rw [hstep]
      exact h.afterClose sessionId reason

theorem step_withinQuota {ledger : Ledger} (h : ledger.Balanced) (hquota : ledger.WithinQuota)
    (call : RelayCall) : (ledger.step call).WithinQuota := by
  cases call with
  | openSession now sessionId request =>
    by_cases hadmits : ledger.service.Admits now sessionId request
    · rw [step_openSession_of_admits hadmits]
      intro source quota hfound
      by_cases hsource : request.source = source
      · subst hsource
        have hroom := liveOf_lt_of_underQuota h hquota hadmits.underQuota hfound
        simpa [liveOf, RelayOpenRequest.accept] using hroom
      · have hsame := hquota source quota hfound
        simpa [liveOf, RelayOpenRequest.accept, hsource] using hsame
    · rwa [step_openSession_of_refused hadmits]
  | closeSession sessionId reason =>
    rcases step_closeSession_cases ledger sessionId reason with hstep | hstep
    · rwa [hstep]
    · rw [hstep]
      intro source quota hfound
      refine Nat.le_trans ?_ (hquota source quota hfound)
      exact (List.filter_sublist.filter _).length_le

def Step (before after : Ledger) : Prop := ∃ call, before.NoCollision call ∧ after = before.step call

theorem reached_balanced_and_withinQuota {node : RelayNode} {ledger : Ledger}
    (hrun : Relation.ReflTransGen Step (start node) ledger) :
    ledger.Balanced ∧ ledger.WithinQuota := by
  induction hrun with
  | refl =>
    refine ⟨start_balanced node, ?_⟩
    intro source quota _
    simp [liveOf, start]
  | tail _ hstep ih =>
    obtain ⟨call, hcall, rfl⟩ := hstep
    exact ⟨step_balanced ih.1 hcall, step_withinQuota ih.1 ih.2 call⟩

theorem reached_withinQuota (node : RelayNode) (ledger : Ledger)
    (hrun : Relation.ReflTransGen Step (start node) ledger) : ledger.WithinQuota :=
  (reached_balanced_and_withinQuota hrun).2

end Ledger

/-- The second call overwrites the entry of the first, so the third one is not
counted against it: the limited source then holds two sessions. -/
def collidingCalls [Primitives] : List RelayCall :=
  [.openSession 100 (.fill 101) (requestOf (keypairOf 1) (.fill 1)),
   .openSession 101 (.fill 102) (requestOf (keypairOf 2) (.fill 101)),
   .openSession 102 (.fill 103) (requestOf (keypairOf 1) (.fill 2))]

section Closed
attribute [local instance] Primitives.transparent

/-- The limited source opens a session, is refused another, closes the first and opens again,
and in between another source opens one. -/
theorem Ledger.reached_withinQuota_of_turns :
    let ledger := [RelayCall.openSession 100 (.fill 101) (requestOf (keypairOf 1) (.fill 1)),
      .openSession 101 (.fill 102) (requestOf (keypairOf 1) (.fill 2)),
      .openSession 102 (.fill 103) (requestOf (keypairOf 2) (.fill 3)),
      .closeSession (.fill 101) "done",
      .openSession 104 (.fill 104) (requestOf (keypairOf 1) (.fill 4))].foldl Ledger.step
        (Ledger.start oneSessionNode)
    ledger.live.map RelaySessionAccepted.sessionId = [.fill 104, .fill 103] ∧
      ledger.WithinQuota := by
  refine ⟨by decide +kernel, Ledger.reached_withinQuota oneSessionNode _ ?_⟩
  have hfirst : Relation.ReflTransGen Step (Ledger.start oneSessionNode) _ :=
    .single ⟨.openSession 100 (.fill 101) (requestOf (keypairOf 1) (.fill 1)),
      fun _ => by decide +kernel, rfl⟩
  have hrefused := hfirst.tail ⟨.openSession 101 (.fill 102) (requestOf (keypairOf 1) (.fill 2)),
    fun _ => by decide +kernel, rfl⟩
  have hother := hrefused.tail ⟨.openSession 102 (.fill 103) (requestOf (keypairOf 2) (.fill 3)),
    fun _ => by decide +kernel, rfl⟩
  have hclosed := hother.tail ⟨.closeSession (.fill 101) "done", trivial, rfl⟩
  exact hclosed.tail ⟨.openSession 104 (.fill 104) (requestOf (keypairOf 1) (.fill 4)),
    fun _ => by decide +kernel, rfl⟩

theorem collidingCalls_exceed_quota :
    ¬ (collidingCalls.foldl Ledger.step (Ledger.start oneSessionNode)).WithinQuota := by
  intro hquota
  have hlive : (collidingCalls.foldl Ledger.step (Ledger.start oneSessionNode)).liveOf
      (keypairOf 1).peerId = 2 := by
    decide
  have hbound := hquota (keypairOf 1).peerId ⟨(keypairOf 1).peerId, 1000000, 1⟩ (by decide)
  rw [hlive] at hbound
  revert hbound
  decide

end Closed

end QuipNet.Relay
