import QuipNet.RelayAdmission

/-!
# The relay's table and the sessions it accepted

An accepted request is entered twice: as a pending session under the attempt id that the
client chose, and as an open one under the drawn id. Only a rejection frame removes a
pending entry, and an answered request sends none. So the table holds the accepted
sessions and nothing else exactly along the runs in which every accepted request named
the id that was drawn for it.
-/

open Std
namespace QuipNet.Relay
open QuipNet.Library

/-! ## The control API -/

/-- A request to the control API, once method, path and body have been read. -/
inductive RelayControlRequest
  | postSession (request : RelayOpenRequest)
  | getSession (sessionId : SessionId)
  | deleteSession (sessionId : SessionId) (reason : String)

inductive RelayControlReply
  | accepted (accepted : RelaySessionAccepted)
  | rejected (rejected : RelaySessionRejected)
  | session (session : RelaySession)
  | deleted
  | notFound (sessionId : SessionId)
  | failed (error : RelayError)
deriving DecidableEq, Repr

namespace RelayControlReply

def status : RelayControlReply → ℕ
  | .accepted _ | .session _ => 200
  | .rejected _ => 403
  | .deleted => 204
  | .notFound _ => 404
  | .failed _ => 409

end RelayControlReply

section Control
variable [Primitives]

/-- `control_response` for the three session requests. -/
def controlResponse (now : ℕ) (drawn : SessionId) :
    RelayControlRequest → RelayService → RelayControlReply × RelayService
  | .postSession request, service =>
    match RelayService.openSession now drawn request service with
    | .ok accepted service => (.accepted accepted, service)
    | .error rejected service => (.rejected rejected, service)
  | .getSession sessionId, service =>
    match service.runtime.session sessionId with
    | some session => (.session session, service)
    | none => (.notFound sessionId, service)
  | .deleteSession sessionId reason, service =>
    match RelayService.closeSession sessionId reason service with
    | .ok _ service => (.deleted, service)
    | .error .sessionNotFound service => (.notFound sessionId, service)
    | .error error service => (.failed error, service)

theorem getSession_of_none {service : RelayService} {sessionId : SessionId}
    (h : service.session sessionId = none) (now : ℕ) (drawn : SessionId) :
    controlResponse now drawn (.getSession sessionId) service = (.notFound sessionId, service) := by
  simp only [RelayService.session] at h
  simp [controlResponse, h]

theorem deleteSession_of_none {service : RelayService} {sessionId : SessionId}
    (h : service.session sessionId = none) (now : ℕ) (drawn : SessionId) (reason : String) :
    controlResponse now drawn (.deleteSession sessionId reason) service =
      (.notFound sessionId, service) := by
  simp [controlResponse, RelayService.closeSession_eq, h]

end Control

/-! ## Runs with the sessions they accepted -/

structure RelayRun where
  service : RelayService
  accepted : List RelaySessionAccepted := []

namespace RelayRun

def start (node : RelayNode) : RelayRun := { service := .new node }

/-- Every entry of the table is a session that was accepted and opened. The other three
parts are what follows for the clients. -/
structure NoPhantoms [Primitives] (run : RelayRun) : Prop where
  keyed : ∀ id session, run.service.session id = some session →
    ∃ accepted ∈ run.accepted, accepted.sessionId = id
  answered : ∀ id session, run.service.session id = some session → session.status ≠ .pending
  counted : run.service.runtime.sessions.size ≤ run.accepted.length
  hidden : ∀ id, (∀ accepted ∈ run.accepted, accepted.sessionId ≠ id) → ∀ now drawn reason,
    (controlResponse now drawn (.getSession id) run.service).1.status = 404 ∧
      (controlResponse now drawn (.deleteSession id reason) run.service).1.status = 404

/-- The invariant of the table. -/
def Entered (run : RelayRun) : Prop :=
  ∀ id session, run.service.session id = some session → session.status ≠ .pending ∧
    ∃ accepted ∈ run.accepted, accepted.sessionId = id

section Runs
variable [Primitives] {run : RelayRun}

theorem Entered.noPhantoms (h : run.Entered) : run.NoPhantoms where
  keyed id session hentry := (h id session hentry).2
  answered id session hentry := (h id session hentry).1
  counted := by
    have hsubset : run.service.runtime.sessions.keys ⊆
        run.accepted.map RelaySessionAccepted.sessionId := by
      intro id hid
      obtain ⟨session, hentry⟩ := Option.isSome_iff_exists.1
        (TreeMap.isSome_getElem?_iff_mem.2 (TreeMap.mem_keys.1 hid))
      obtain ⟨-, accepted, haccepted, hsame⟩ := h id session hentry
      exact List.mem_map.2 ⟨accepted, haccepted, hsame⟩
    have hlength := (List.subperm_of_subset TreeMap.nodup_keys hsubset).length_le
    rwa [TreeMap.length_keys, List.length_map] at hlength
  hidden id hid now drawn reason := by
    have hnone : run.service.session id = none := by
      rw [Option.eq_none_iff_forall_ne_some]
      intro session hentry
      obtain ⟨-, accepted, haccepted, hsame⟩ := h id session hentry
      exact hid accepted haccepted hsame
    rw [getSession_of_none hnone, deleteSession_of_none hnone]
    exact ⟨rfl, rfl⟩

def step (run : RelayRun) : RelayCall → RelayRun
  | .openSession now sessionId request =>
    match RelayService.openSession now sessionId request run.service with
    | .ok accepted service => ⟨service, run.accepted ++ [accepted]⟩
    | .error _ service => ⟨service, run.accepted⟩
  | .closeSession sessionId reason =>
    ⟨Effect.final (RelayService.closeSession sessionId reason) run.service, run.accepted⟩

def after (node : RelayNode) (calls : List RelayCall) : RelayRun := calls.foldl step (start node)

theorem after_append_singleton (node : RelayNode) (calls : List RelayCall) (call : RelayCall) :
    after node (calls ++ [call]) = (after node calls).step call := by
  rw [after, List.foldl_append]
  rfl

theorem step_cases (run : RelayRun) (call : RelayCall) :
    run.step call = run ∨
      (∃ sessionId request, run.step call = ⟨run.service.afterOpen sessionId request,
        run.accepted ++ [request.accept sessionId]⟩) ∨
      ∃ sessionId reason, run.step call =
        ⟨RelayService.applyFrame (.close sessionId reason) run.service, run.accepted⟩ := by
  cases call with
  | openSession now sessionId request =>
    cases hrefusal : run.service.refusal now sessionId request with
    | some rejected =>
      left
      simp only [step, RelayService.openSession_of_refused hrefusal]
    | none =>
      have hadmits := (RelayService.refusal_eq_none_iff _ _ _ _).1 hrefusal
      refine .inr (.inl ⟨sessionId, request, ?_⟩)
      simp only [step, RelayService.openSession_of_admits hadmits]
  | closeSession sessionId reason =>
    by_cases hnone : run.service.session sessionId = none
    · left
      simp [step, Effect.final, RelayService.closeSession_eq, hnone]
    · refine .inr (.inr ⟨sessionId, reason, ?_⟩)
      simp [step, Effect.final, RelayService.closeSession_eq, hnone]

theorem Entered.step (h : run.Entered) {call : RelayCall}
    (hnames : ∀ accepted ∈ (run.step call).accepted, accepted.attemptId = accepted.sessionId) :
    (run.step call).Entered := by
  rcases step_cases run call with hsame | ⟨sessionId, request, hopened⟩ |
    ⟨sessionId, reason, hclosed⟩
  · rwa [hsame]
  · rw [hopened] at hnames ⊢
    have hdrawn : request.attemptId = sessionId :=
      hnames (request.accept sessionId) (List.mem_append_right _ List.mem_cons_self)
    intro id session hentry
    rw [RelayService.session_afterOpen, hdrawn] at hentry
    by_cases hid : sessionId = id
    · rw [if_pos hid, Option.some.injEq] at hentry
      refine ⟨by rw [← hentry]; exact RelaySessionStatus.noConfusion, request.accept sessionId,
        List.mem_append_right _ List.mem_cons_self, hid⟩
    · rw [if_neg hid, if_neg hid] at hentry
      obtain ⟨hstatus, accepted, haccepted, hsame⟩ := h id session hentry
      exact ⟨hstatus, accepted, List.mem_append_left _ haccepted, hsame⟩
  · rw [hclosed]
    intro id session hentry
    rw [RelayService.session_applyFrame_close] at hentry
    by_cases hid : sessionId = id
    · rw [if_pos hid] at hentry
      obtain ⟨before, hbefore, rfl⟩ := Option.map_eq_some_iff.1 hentry
      obtain ⟨-, accepted, haccepted, hsame⟩ := h sessionId before hbefore
      exact ⟨RelaySessionStatus.noConfusion, accepted, haccepted, hsame.trans hid⟩
    · rw [if_neg hid] at hentry
      exact h id session hentry

theorem accepted_grows (run : RelayRun) (call : RelayCall) :
    run.accepted <+: (run.step call).accepted := by
  rcases step_cases run call with hsame | ⟨sessionId, request, hopened⟩ |
    ⟨sessionId, reason, hclosed⟩
  · rw [hsame]
  · rw [hopened]
    exact List.prefix_append _ _
  · rw [hclosed]

theorem accepted_grows_append (node : RelayNode) (done rest : List RelayCall) :
    (after node done).accepted <+: (after node (done ++ rest)).accepted := by
  induction rest using List.reverseRecOn with
  | nil => rw [List.append_nil]
  | append_singleton rest last ih =>
    rw [← List.append_assoc, after_append_singleton]
    exact ih.trans (accepted_grows _ last)

theorem entered_of_names (node : RelayNode) (calls : List RelayCall)
    (hnames : ∀ accepted ∈ (after node calls).accepted, accepted.attemptId = accepted.sessionId) :
    (after node calls).Entered := by
  induction calls using List.reverseRecOn with
  | nil =>
    intro id session hentry
    simp [after, start, RelayService.new, RelayService.session, RelayRuntime.session] at hentry
  | append_singleton calls call ih =>
    have hearlier := ih fun accepted haccepted =>
      hnames accepted ((accepted_grows_append node calls [call]).subset haccepted)
    rw [after_append_singleton] at hnames ⊢
    exact hearlier.step hnames

theorem names_of_step {call : RelayCall} (h : (run.step call).NoPhantoms)
    (hnames : ∀ accepted ∈ run.accepted, accepted.attemptId = accepted.sessionId) :
    ∀ accepted ∈ (run.step call).accepted, accepted.attemptId = accepted.sessionId := by
  rcases step_cases run call with hsame | ⟨sessionId, request, hopened⟩ |
    ⟨sessionId, reason, hclosed⟩
  · rwa [hsame]
  · rw [hopened] at h ⊢
    intro accepted haccepted
    rcases List.mem_append.1 haccepted with hold | hnew
    · exact hnames accepted hold
    · rw [List.mem_singleton.1 hnew]
      by_contra hother
      have hne : sessionId ≠ request.attemptId := fun heq => hother heq.symm
      have hpending : (run.service.afterOpen sessionId request).session request.attemptId =
          some request.pendingSession := by
        rw [RelayService.session_afterOpen, if_neg hne, if_pos rfl]
      exact h.answered request.attemptId _ hpending rfl
  · rwa [hclosed]

/-- Every state along a run of calls is without phantoms exactly when every accepted
request carried the id that was drawn for it as its attempt id. -/
theorem no_phantoms_iff (node : RelayNode) (calls : List RelayCall) :
    (∀ done rest, calls = done ++ rest → (after node done).NoPhantoms) ↔
      ∀ accepted ∈ (after node calls).accepted, accepted.attemptId = accepted.sessionId := by
  constructor
  · intro h
    have hprefix : ∀ done, done <+: calls → ∀ accepted ∈ (after node done).accepted,
        accepted.attemptId = accepted.sessionId := by
      intro done
      induction done using List.reverseRecOn with
      | nil =>
        intro _ accepted haccepted
        cases haccepted
      | append_singleton done call ih =>
        intro hdone
        obtain ⟨rest, hrest⟩ := hdone
        have hearlier : done <+: calls := (List.prefix_append done [call]).trans ⟨rest, hrest⟩
        have hnow := h (done ++ [call]) rest hrest.symm
        rw [after_append_singleton] at hnow ⊢
        exact names_of_step hnow (ih hearlier)
    exact hprefix calls List.prefix_rfl
  · intro hnames done rest hcalls
    refine (entered_of_names node done ?_).noPhantoms
    intro accepted haccepted
    rw [hcalls] at hnames
    exact hnames accepted ((accepted_grows_append node done rest).subset haccepted)

end Runs

end RelayRun

section Closed
attribute [local instance] Primitives.transparent

theorem named_session_no_phantoms :
    (RelayRun.after oneSessionNode
      [.openSession 100 (.fill 101) (requestOf (keypairOf 1) (.fill 101))]).NoPhantoms := by
  have hopen := RelayService.openSession_of_checks (.new oneSessionNode) 100 (.fill 101)
    (requestOf (keypairOf 1) (.fill 101)) rfl (by decide)
  refine (RelayRun.no_phantoms_iff oneSessionNode _).2 ?_ _ [] (List.append_nil _).symm
  simp only [RelayRun.after, RelayRun.step, RelayRun.start, List.foldl_cons, List.foldl_nil,
    hopen, List.nil_append]
  intro accepted haccepted
  rw [List.mem_singleton.1 haccepted]
  rfl

/-- One accepted request makes two entries. The second stands under the attempt id; the
control API shows it and closes it. -/
theorem accepted_attempt_stays_pending :
    let run := RelayRun.after oneSessionNode
      [.openSession 100 (.fill 101) (requestOf (keypairOf 1) (.fill 1))]
    run.accepted.map RelaySessionAccepted.sessionId = [.fill 101] ∧
      run.service.session (.fill 1) = some (requestOf (keypairOf 1) (.fill 1)).pendingSession ∧
      (controlResponse 100 (.fill 102) (.getSession (.fill 1)) run.service).1.status = 200 ∧
      (controlResponse 100 (.fill 102) (.deleteSession (.fill 1) "done") run.service).1.status =
        204 ∧
      ¬ run.NoPhantoms := by
  intro run
  have hopen := RelayService.openSession_of_checks (.new oneSessionNode) 100 (.fill 101)
    (requestOf (keypairOf 1) (.fill 1)) rfl (by decide)
  have hrun : run = ⟨(RelayService.new oneSessionNode).afterOpen (.fill 101)
      (requestOf (keypairOf 1) (.fill 1)),
      [(requestOf (keypairOf 1) (.fill 1)).accept (.fill 101)]⟩ := by
    simp only [run, RelayRun.after, RelayRun.step, RelayRun.start, List.foldl_cons, List.foldl_nil,
      hopen, List.nil_append]
  have hpending : run.service.session (.fill 1) =
      some (requestOf (keypairOf 1) (.fill 1)).pendingSession := by
    rw [hrun, RelayService.session_afterOpen]
    rfl
  refine ⟨?_, hpending, ?_, ?_, ?_⟩
  · rw [hrun]
    rfl
  · simp only [RelayService.session] at hpending
    simp [controlResponse, hpending, RelayControlReply.status]
  · simp [controlResponse, RelayService.closeSession_eq, hpending, RelayControlReply.status]
  · intro h
    exact h.answered (.fill 1) _ hpending rfl

end Closed

end QuipNet.Relay
