import QuipNet.HttpRelayControl
import QuipNet.RelayAdmission

/-!
# Runs of a relay process

Anything may arrive at the control port of a relay. What the process makes of it is what its
service makes of the open and close requests that can be read, in their order. A session path
that cuts a character ends the process.
-/

namespace QuipNet.Relay
open QuipNet.Control QuipNet.Library QuipNet.SessionIds

/-! ## What ends the process -/

/-- The path names a session by 32 bytes that cut a character. -/
def CutsPath (method path : String) : Prop :=
  (method = "GET" ∨ method = "DELETE") ∧ ∃ text, path = "/sessions/" ++ text ∧
    byteLength text.toList = 32 ∧ CutsCharacter text

theorem exists_append_of_startsWith {text start : String} (h : startsWith text start = true) :
    ∃ rest, text = start ++ rest := by
  rw [startsWith, List.isPrefixOf_iff_prefix] at h
  obtain ⟨rest, hrest⟩ := h
  refine ⟨String.ofList rest, ?_⟩
  rw [← String.toList_inj, String.toList_append, String.toList_ofList, hrest]

theorem parseSessionPath_eq_none_iff {path : String} (h : startsWith path "/sessions/" = true) :
    parseSessionPath path = none ↔ ∃ text, path = "/sessions/" ++ text ∧
      byteLength text.toList = 32 ∧ CutsCharacter text := by
  obtain ⟨rest, rfl⟩ := exists_append_of_startsWith h
  rw [parseSessionPath_append, parseSessionId, Option.map_eq_none_iff, parseText_eq_none_iff]
  constructor
  · intro hcuts
    exact ⟨rest, rfl, hcuts⟩
  · rintro ⟨text, htext, hcuts⟩
    rw [← String.toList_inj, String.toList_append, String.toList_append, List.append_cancel_left_eq,
      String.toList_inj] at htext
    rwa [htext]

section Serving
variable [Primitives] [RelayReader]

theorem readAsk_eq_none_iff (method path : String) (body : List UInt8) :
    readAsk method path body = none ↔ CutsPath method path := by
  have hsessions : ∀ {text : String}, startsWith ("/sessions/" ++ text) "/sessions/" = true := by
    intro text
    rw [startsWith, String.toList_append, List.isPrefixOf_iff_prefix]
    exact List.prefix_append _ _
  unfold readAsk CutsPath
  split_ifs with hpost hhealth hget hdelete
  · rw [iff_false_right]
    · split <;> simp
    · rintro ⟨hmethod, -⟩
      simp [hpost.1] at hmethod
  · refine iff_of_false (by simp) ?_
    rintro ⟨-, text, htext, -⟩
    have hstarts := @hsessions text
    rw [← htext, hhealth.2] at hstarts
    revert hstarts
    decide
  · rw [← parseSessionPath_eq_none_iff hget.2]
    rcases parseSessionPath path with _ | _ | sessionId <;> simp [hget.1]
  · rw [← parseSessionPath_eq_none_iff hdelete.2]
    rcases parseSessionPath path with _ | _ | sessionId <;> simp [hdelete.1]
    split <;> simp
  · refine iff_of_false (by simp) ?_
    rintro ⟨hmethod, text, rfl, -⟩
    rcases hmethod with hmethod | hmethod
    · exact hget ⟨hmethod, hsessions⟩
    · exact hdelete ⟨hmethod, hsessions⟩

def Arrival.Panics (arrival : Arrival) : Prop :=
  (∃ body, readRequestBody arrival.request = .ok body) ∧
    CutsPath arrival.request.method arrival.request.url

def RelayAsk.call (now : ℕ) (drawn : SessionId) : RelayAsk → Option RelayCall
  | .session (.postSession request) => some (.openSession now drawn request)
  | .session (.deleteSession sessionId reason) => some (.closeSession sessionId reason)
  | _ => none

def Arrival.call (arrival : Arrival) : Option RelayCall :=
  match readRequestBody arrival.request with
  | .error _ => none
  | .ok body => (readAsk arrival.request.method arrival.request.url body).bind
      (RelayAsk.call arrival.now arrival.drawn)

omit [RelayReader] in
theorem respond_service (now : ℕ) (drawn : SessionId) (service : RelayService) (ask : RelayAsk) :
    (respond now drawn service ask).2 = (ask.call now drawn).elim service service.serve := by
  obtain ⟨hopened, hclosed, hread⟩ := controlResponse_service now drawn service
  cases ask with
  | session request =>
    cases request with
    | postSession request => exact hopened request
    | getSession sessionId => exact hread sessionId
    | deleteSession sessionId reason => exact hclosed sessionId reason
  | health => rfl
  | refused status payload => rfl

theorem handle_running (service : RelayService) (arrival : Arrival) :
    (arrival.Panics → RelayServer.handle ⟨service, true⟩ arrival = (none, ⟨service, false⟩)) ∧
    (¬ arrival.Panics → ∃ answer, RelayServer.handle ⟨service, true⟩ arrival =
      (some answer, ⟨arrival.call.elim service service.serve, true⟩)) := by
  unfold Arrival.Panics Arrival.call RelayServer.handle
  cases hbody : readRequestBody arrival.request with
  | error refusal => simp
  | ok body =>
    rw [← readAsk_eq_none_iff _ _ body]
    cases hask : readAsk arrival.request.method arrival.request.url body with
    | none => simp [hask]
    | some ask => simp [hask, respond_service]

/-! ## Runs -/

theorem run_ended (service : RelayService) (arrivals : List Arrival) :
    RelayServer.run ⟨service, false⟩ arrivals = ⟨service, false⟩ := by
  induction arrivals with
  | nil => rfl
  | cons arrival rest ih => exact ih

theorem run_running (service : RelayService) (arrivals : List Arrival) :
    let server := RelayServer.run ⟨service, true⟩ arrivals
    (server.serving = true ↔ ∀ arrival ∈ arrivals, ¬ arrival.Panics) ∧
      ∃ calls, calls <+: arrivals.filterMap Arrival.call ∧
        server.service = calls.foldl RelayService.serve service := by
  induction arrivals generalizing service with
  | nil => exact ⟨by simp [RelayServer.run], [], List.prefix_rfl, rfl⟩
  | cons arrival rest ih =>
    obtain ⟨hpanics, hanswers⟩ := handle_running service arrival
    have hrun : RelayServer.run ⟨service, true⟩ (arrival :: rest) =
        RelayServer.run (RelayServer.handle ⟨service, true⟩ arrival).2 rest := rfl
    intro server
    by_cases hpanic : arrival.Panics
    · have hserver : server = ⟨service, false⟩ := by
        rw [show server = _ from hrun, hpanics hpanic, run_ended]
      rw [hserver]
      refine ⟨?_, [], List.nil_prefix, rfl⟩
      simp [hpanic]
    · obtain ⟨answer, hanswer⟩ := hanswers hpanic
      have hserver : server = RelayServer.run ⟨arrival.call.elim service service.serve, true⟩ rest := by
        rw [show server = _ from hrun, hanswer]
      obtain ⟨hserving, calls, hprefix, hservice⟩ := ih (arrival.call.elim service service.serve)
      rw [hserver, hserving, List.forall_mem_cons]
      refine ⟨(and_iff_right hpanic).symm, ?_⟩
      cases hcall : arrival.call with
      | none =>
        rw [hcall] at hservice
        rw [List.filterMap_cons_none hcall]
        exact ⟨calls, hprefix, hservice⟩
      | some call =>
        rw [hcall] at hservice
        rw [List.filterMap_cons_some hcall]
        exact ⟨call :: calls, List.cons_prefix_cons.2 ⟨rfl, hprefix⟩, hservice⟩

/-- Whatever arrives at a relay, its service is what it makes of the calls among it, no quota
is exceeded, and a request is answered unless its path or an earlier one cuts a character. -/
theorem relay_process_runs (node : RelayNode) (arrivals : List Arrival) (next : Arrival) :
    let server := RelayServer.run ⟨.new node, true⟩ arrivals
    (∃ calls, calls <+: arrivals.filterMap Arrival.call ∧
      server.service = calls.foldl RelayService.serve (.new node)) ∧
    server.service.QuotasKept ∧
    ((server.handle next).1 = none ↔ ∃ arrival ∈ arrivals ++ [next], arrival.Panics) := by
  intro server
  obtain ⟨hserving, calls, hprefix, hservice⟩ := run_running (.new node) arrivals
  refine ⟨⟨calls, hprefix, hservice⟩, ?_, ?_⟩
  · rw [show server.service = _ from hservice]
    exact RelayService.run_quotasKept node calls
  · cases hstate : server with
    | mk service serving =>
      have hrunning : serving = true ↔ ∀ arrival ∈ arrivals, ¬ arrival.Panics := by
        rw [← hserving]
        exact iff_of_eq (congrArg (fun s : RelayServer => s.serving = true) hstate).symm
      cases serving with
      | false =>
        refine iff_of_true rfl ?_
        by_contra hnone
        push Not at hnone
        cases hrunning.2 fun arrival harrival => hnone arrival (List.mem_append_left _ harrival)
      | true =>
        have hearlier := hrunning.1 rfl
        obtain ⟨hpanics, hanswers⟩ := handle_running service next
        by_cases hpanic : next.Panics
        · rw [hpanics hpanic]
          exact iff_of_true rfl ⟨next, by simp, hpanic⟩
        · obtain ⟨answer, hanswer⟩ := hanswers hpanic
          rw [hanswer]
          refine iff_of_false (by simp) ?_
          rintro ⟨arrival, harrival, hcuts⟩
          rcases List.mem_append.1 harrival with hbefore | hnext
          · exact hearlier arrival hbefore hcuts
          · exact hpanic (List.mem_singleton.1 hnext ▸ hcuts)

end Serving

end QuipNet.Relay
