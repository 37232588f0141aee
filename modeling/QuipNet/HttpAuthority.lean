import QuipNet.SubjectSelection

/-!
# The authority over HTTP

A daemon asks the endpoints of an origin, and the server of the authority answers each from the
file as it is then. What comes back is an answer of the authority for the subject or the cursor
that the target is read as, or the exchange has failed.
-/

namespace QuipNet.Control
open QuipNet.Authority QuipNet.Library QuipNet.Relay

/-! ## Endpoints -/

structure AuthorityEndpoints where
  enrollment : String
  revocation : String
  relayMap : String
  bootstrap : String
  snapshot : String
deriving DecidableEq, Repr

def AuthorityEndpoints.fromOrigin (origin : String) : AuthorityEndpoints where
  enrollment := baseOf origin ++ "/enroll"
  revocation := baseOf origin ++ "/revoke"
  relayMap := baseOf origin ++ "/relays"
  bootstrap := baseOf origin ++ "/bootstrap"
  snapshot := snapshotEndpoint origin

def endpointWithAfterSequence (endpoint : String) : Option ℕ → String
  | some sequence => endpoint ++ "?after_sequence=" ++ Nat.repr sequence
  | none => endpoint

/-! ## Exchanges -/

inductive CallError
  | status (code : ℕ) (text : String)
  | transport (text : String)
deriving DecidableEq, Repr

def CallError.text : CallError → String
  | .status _ text => text
  | .transport text => text

def mapTransportError (error : CallError) (subject : Option String) : ControlError :=
  match error, subject with
  | .status 404 _, some subject => .missingSubject subject
  | error, _ => .transport error.text

/-- What the HTTP library makes of a URL, and what becomes of the exchange: the target that is
sent, the exchanges that fail, and the file and the clock of the server when it answers. -/
structure Web where
  target : String → Except String String
  lost : String → Option String
  statusText : String → ℕ → String
  stored : String → AuthorityState
  now : String → ℕ

/-- `ureq::get(url).call()`: an answer of status 400 or more is an error. -/
def Web.get (web : Web) (url : String) : Except CallError ResponseBody :=
  match web.target url, web.lost url with
  | .error detail, _ => .error (.transport detail)
  | .ok _, some detail => .error (.transport detail)
  | .ok target, none =>
    let response := routeRequest (loadState (web.stored url)) (web.now url) .get target
    if response.status < 400 then .ok response.body
    else .error (.status response.status (web.statusText url response.status))

/-- How `into_json` reads a body that `json_response` wrote, or the text of its error. -/
class BodyReader where
  snapshot : ResponseBody → Except String AuthorityArtifactSnapshot
  relayMap : ResponseBody → Except String RelayMap
  revocations : ResponseBody → Except String (List RevocationRecord)

structure BodyReader.RoundTrips [BodyReader] : Prop where
  snapshot : ∀ snapshot, BodyReader.snapshot (.snapshot snapshot) = .ok snapshot
  relayMap : ∀ relayMap, BodyReader.relayMap (.relayMap relayMap) = .ok relayMap
  revocations : ∀ revocations, BodyReader.revocations (.revocations revocations) = .ok revocations

section Fetching
variable [BodyReader] (web : Web) (origin : String)

/-- The comparison with the client's network is made by the caller. -/
def Web.fetchSnapshot (subject : Option String) : Except ControlError AuthorityArtifactSnapshot := do
  let url := endpointWithSubject (AuthorityEndpoints.fromOrigin origin).snapshot subject
  let body ← (web.get url).mapError fun error => mapTransportError error subject
  (BodyReader.snapshot body).mapError .decode

def Web.fetchRevocations (afterSequence : Option ℕ) :
    Except ControlError (List RevocationRecord) := do
  let url := endpointWithAfterSequence (AuthorityEndpoints.fromOrigin origin).revocation afterSequence
  let body ← (web.get url).mapError fun error => .transport error.text
  (BodyReader.revocations body).mapError .decode

def Web.fetchRelayMap : Except ControlError RelayMap := do
  let body ← (web.get (AuthorityEndpoints.fromOrigin origin).relayMap).mapError fun error =>
    .transport error.text
  (BodyReader.relayMap body).mapError .decode

def Web.originAt : AuthorityOrigin where
  snapshot := web.fetchSnapshot origin
  relayMap := web.fetchRelayMap origin
  revocations := web.fetchRevocations origin

end Fetching

/-! ## What the server reads -/

theorem queryParam_pair {key : String} {value : List Char} (hkey : '=' ∉ key.toList)
    (hname : '&' ∉ key.toList) (hvalue : value ≠ []) (h : '&' ∉ value) :
    queryParam (key.toList ++ '=' :: value) key = some value := by
  have hwhole : '&' ∉ key.toList ++ '=' :: value := by
    simp [hname, h]
  rw [queryParam, List.splitOn_eq_singleton hwhole, List.findSome?_cons, splitPair_append hkey,
    if_pos ⟨rfl, hvalue⟩]

theorem parseU64Param_repr (sequence : ℕ) : parseU64Param (Nat.repr sequence).toList =
    if sequence < 2 ^ 64 then .ok sequence else .error (Nat.repr sequence) := by
  rw [parseU64Param, fromStrRadix_repr]
  split_ifs with h
  · rfl
  · simp only [String.ofList_toList]

theorem splitRequestTarget_plain {target : List Char} (h : '?' ∉ target) :
    splitRequestTarget target = (target, []) := by
  rw [splitRequestTarget, splitOnce, if_neg h, Option.getD_none]

theorem splitRequestTarget_query {path : List Char} (h : '?' ∉ path) (query : List Char) :
    splitRequestTarget (path ++ '?' :: query) = (path, query) := by
  rw [splitRequestTarget, splitOnce_append h, Option.getD_some]

theorem routeRequest_relays {state : AuthorityState} {now : ℕ} :
    routeRequest state now .get "/relays" =
      ⟨200, .relayMap ⟨state.relayMapVersion, now, state.relays⟩⟩ := by
  have hsplit : splitRequestTarget "/relays".toList = ("/relays".toList, []) :=
    splitRequestTarget_plain (by decide)
  unfold routeRequest
  simp only [ne_eq, not_true, if_false, hsplit]
  rw [if_neg (by decide), if_neg (by decide), if_neg (by decide), if_pos True.intro]

theorem routeRequest_revoke {state : AuthorityState} {now : ℕ} {target : String}
    {query : List Char} (h : splitRequestTarget target.toList = ("/revoke".toList, query)) :
    routeRequest state now .get target =
      match (queryParam query "after_sequence").map parseU64Param with
      | none => ⟨200, .revocations (filteredRevocations state none)⟩
      | some (.ok sequence) => ⟨200, .revocations (filteredRevocations state (some sequence))⟩
      | some (.error value) => ⟨400, .value (.object
          [("error", .string "invalid after_sequence"), ("value", .string value)])⟩ := by
  unfold routeRequest
  simp only [ne_eq, not_true, if_false, h]
  rw [if_neg (by decide), if_neg (by decide), if_neg (by decide), if_neg (by decide),
    if_pos True.intro]
  cases hparam : queryParam query "after_sequence" with
  | none => rfl
  | some value => cases hvalue : parseU64Param value <;> simp [hvalue, Except.map]

theorem endpointWithAfterSequence_target (origin : String) (sequence : ℕ) :
    endpointWithAfterSequence (AuthorityEndpoints.fromOrigin origin).revocation (some sequence) =
      baseOf origin ++ ("/revoke?after_sequence=" ++ Nat.repr sequence) := by
  rw [← String.toList_inj]
  simp [endpointWithAfterSequence, AuthorityEndpoints.fromOrigin]

theorem splitRequestTarget_afterSequence (sequence : ℕ) :
    splitRequestTarget ("/revoke?after_sequence=" ++ Nat.repr sequence).toList =
      ("/revoke".toList, "after_sequence".toList ++ '=' :: (Nat.repr sequence).toList) := by
  rw [String.toList_append,
    show "/revoke?after_sequence=".toList = "/revoke".toList ++ '?' :: "after_sequence=".toList
      from by decide, List.append_assoc, List.cons_append,
    splitRequestTarget_query (by decide),
    show "after_sequence=".toList = "after_sequence".toList ++ ['='] from by decide,
    List.append_assoc, List.singleton_append]

/-! ## What comes back -/

def isPlain (c : Char) : Bool := c.isAlphanum || ['/', '?', '=', '_'].contains c

structure Web.Sends (web : Web) (origin : String) : Prop where
  plain : ∀ text target, text.toList.all isPlain = true →
    web.target (baseOf origin ++ text) = .ok target → target = text
  subject : ∀ subject target,
    web.target (endpointWithSubject (snapshotEndpoint origin) (some subject)) = .ok target →
      ∃ query, target = "/snapshot?" ++ query

def Web.Delivers (web : Web) (url : String) : Prop :=
  (∃ target, web.target url = .ok target) ∧ web.lost url = none

def Failed {α : Type} (answer : Except ControlError α) : Prop :=
  ∃ detail, answer = .error (.transport detail)

/-- What comes back is the direct answer when the exchange takes place, and a failure if not. -/
def Agrees {α : Type} (delivered : Prop) (answer direct : Except ControlError α) : Prop :=
  (delivered → answer = direct) ∧ (¬ delivered → Failed answer)

theorem Agrees.of_cases {α : Type} {delivered : Prop} {answer direct : Except ControlError α}
    (h : (¬ delivered ∧ Failed answer) ∨ (delivered ∧ answer = direct)) :
    Agrees delivered answer direct :=
  ⟨fun hdelivered => (h.resolve_left fun hlost => hlost.1 hdelivered).2,
    fun hlost => (h.resolve_right fun hdelivered => hlost hdelivered.1).2⟩

theorem Web.get_cases (web : Web) (url : String) :
    (¬ web.Delivers url ∧ ∃ detail, web.get url = .error (.transport detail)) ∨
      (web.Delivers url ∧ ∃ target, web.target url = .ok target ∧ web.get url =
        let response := routeRequest (loadState (web.stored url)) (web.now url) .get target
        if response.status < 400 then .ok response.body
        else .error (.status response.status (web.statusText url response.status))) := by
  unfold Web.get Web.Delivers
  cases htarget : web.target url with
  | error detail => exact .inl ⟨by simp, detail, rfl⟩
  | ok target =>
    cases hlost : web.lost url with
    | some detail => exact .inl ⟨by simp, detail, rfl⟩
    | none => exact .inr ⟨⟨⟨target, rfl⟩, rfl⟩, target, rfl, rfl⟩

section Answers
variable [BodyReader] {web : Web} {origin : String}

def Web.askedSubject (web : Web) (origin : String) (subject : Option String) : Option String :=
  match web.target (endpointWithSubject (snapshotEndpoint origin) subject) with
  | .error _ => none
  | .ok target => requestedSubject target

omit [BodyReader] in
theorem askedSubject_of_plain (hsends : web.Sends origin) {subject target : String}
    (hsubject : subject ≠ "") (hplain : subject.toList.all isPlain = true)
    (htarget : web.target (endpointWithSubject (snapshotEndpoint origin) (some subject)) =
      .ok target) : web.askedSubject origin (some subject) = some subject := by
  have hurl : endpointWithSubject (snapshotEndpoint origin) (some subject) =
      baseOf origin ++ ("/snapshot?subject=" ++ subject) := by
    rw [← String.toList_inj]
    simp [endpointWithSubject, snapshotEndpoint]
  have hsent : target = "/snapshot?subject=" ++ subject := by
    rw [hurl] at htarget
    refine hsends.plain _ target ?_ htarget
    rw [String.toList_append, List.all_append, hplain, Bool.and_true]
    decide
  have hvalue : subject.toList ≠ [] := by
    rwa [ne_eq, String.toList_eq_nil_iff]
  have hwhole : '&' ∉ subject.toList :=
    fun h => absurd (List.all_eq_true.1 hplain '&' h) (by decide)
  have hsplit := snapshotTarget_eq (hurl.trans (congrArg (baseOf origin ++ ·) hsent.symm))
  rw [Web.askedSubject, htarget]
  dsimp only
  rw [requestedSubject, hsplit, queryParam_subject hvalue hwhole, Option.map_some,
    String.ofList_toList]

theorem fetchSnapshot_cases (hread : BodyReader.RoundTrips) (hsends : web.Sends origin)
    (subject : Option String) :
    let url := endpointWithSubject (snapshotEndpoint origin) subject
    (¬ web.Delivers url ∧ Failed (web.fetchSnapshot origin subject)) ∨
      (web.Delivers url ∧ web.fetchSnapshot origin subject =
        match projectedSnapshot (loadState (web.stored url)) (web.askedSubject origin subject) with
        | some snapshot => .ok snapshot
        | none => .error (.missingSubject (subject.getD ""))) := by
  intro url
  have hfetch : web.fetchSnapshot origin subject =
      ((web.get url).mapError fun error => mapTransportError error subject) >>= fun body =>
        (BodyReader.snapshot body).mapError .decode := rfl
  rw [hfetch]
  rcases web.get_cases url with ⟨hlost, detail, hget⟩ | ⟨hdelivers, target, htarget, hget⟩
  · left
    rw [hget]
    exact ⟨hlost, detail, rfl⟩
  refine .inr ⟨hdelivers, ?_⟩
  have hsplit : ∃ query, splitRequestTarget target.toList = ("/snapshot".toList, query) := by
    cases subject with
    | none =>
      rw [hsends.plain "/snapshot" target (by decide) htarget]
      exact ⟨_, splitRequestTarget_plain (by decide)⟩
    | some subject =>
      obtain ⟨query, rfl⟩ := hsends.subject subject target htarget
      refine ⟨query.toList, ?_⟩
      rw [String.toList_append, show "/snapshot?".toList = "/snapshot".toList ++ ['?'] from by decide,
        List.append_assoc, List.singleton_append, splitRequestTarget_query (by decide)]
  obtain ⟨query, hsplit⟩ := hsplit
  have hasked : web.askedSubject origin subject = requestedSubject target := by
    rw [Web.askedSubject, show web.target (endpointWithSubject _ subject) = _ from htarget]
  rw [hget, routeRequest_snapshot hsplit, hasked]
  cases hprojected : projectedSnapshot (loadState (web.stored url)) (requestedSubject target) with
  | some snapshot => exact congrArg (Except.mapError ControlError.decode) (hread.snapshot snapshot)
  | none =>
    cases subject with
    | some subject => rfl
    | none =>
      rw [hsends.plain "/snapshot" target (by decide) htarget] at hprojected
      have hdefault : requestedSubject "/snapshot" = none := by decide +kernel
      rw [hdefault] at hprojected
      cases hprojected

theorem fetchRelayMap_cases (hread : BodyReader.RoundTrips) (hsends : web.Sends origin) :
    let url := (AuthorityEndpoints.fromOrigin origin).relayMap
    (¬ web.Delivers url ∧ Failed (web.fetchRelayMap origin)) ∨
      (web.Delivers url ∧
        web.fetchRelayMap origin = (serve (web.stored url) (web.now url)).relayMap) := by
  intro url
  have hfetch : web.fetchRelayMap origin =
      ((web.get url).mapError fun error => .transport error.text) >>= fun body =>
        (BodyReader.relayMap body).mapError .decode := rfl
  rw [hfetch]
  rcases web.get_cases url with ⟨hlost, detail, hget⟩ | ⟨hdelivers, target, htarget, hget⟩
  · left
    rw [hget]
    exact ⟨hlost, detail, rfl⟩
  refine .inr ⟨hdelivers, ?_⟩
  obtain rfl : target = "/relays" := hsends.plain "/relays" target (by decide) htarget
  rw [hget, routeRequest_relays]
  exact congrArg (Except.mapError ControlError.decode) (hread.relayMap _)

theorem fetchRevocations_cases (hread : BodyReader.RoundTrips) (hsends : web.Sends origin)
    (afterSequence : Option ℕ) :
    let url := endpointWithAfterSequence (AuthorityEndpoints.fromOrigin origin).revocation
      afterSequence
    (¬ (web.Delivers url ∧ ∀ sequence ∈ afterSequence, sequence < 2 ^ 64) ∧
        Failed (web.fetchRevocations origin afterSequence)) ∨
      (web.Delivers url ∧ web.fetchRevocations origin afterSequence =
        (serve (web.stored url) (web.now url)).revocations afterSequence) := by
  intro url
  have hfetch : web.fetchRevocations origin afterSequence =
      ((web.get url).mapError fun error => .transport error.text) >>= fun body =>
        (BodyReader.revocations body).mapError .decode := rfl
  rw [hfetch]
  rcases web.get_cases url with ⟨hlost, detail, hget⟩ | ⟨hdelivers, target, htarget, hget⟩
  · left
    rw [hget]
    exact ⟨fun h => hlost h.1, detail, rfl⟩
  cases afterSequence with
  | none =>
    obtain rfl : target = "/revoke" := hsends.plain "/revoke" target (by decide) htarget
    refine .inr ⟨hdelivers, ?_⟩
    rw [hget, routeRequest_revoke (splitRequestTarget_plain (by decide))]
    exact congrArg (Except.mapError ControlError.decode) (hread.revocations _)
  | some sequence =>
    have hplain : ("/revoke?after_sequence=" ++ Nat.repr sequence).toList.all isPlain = true := by
      rw [String.toList_append, List.all_append, Nat.toList_repr, Bool.and_eq_true]
      refine ⟨by decide, List.all_eq_true.2 ?_⟩
      intro c hc
      have hdigit := Nat.isDigit_of_mem_toDigits (by decide) (by decide) hc
      simp [isPlain, Char.isAlphanum, hdigit]
    obtain rfl : target = "/revoke?after_sequence=" ++ Nat.repr sequence := by
      refine hsends.plain _ target hplain ?_
      rw [← endpointWithAfterSequence_target]
      exact htarget
    have hvalue : (Nat.repr sequence).toList ≠ [] := by
      rw [Nat.toList_repr]
      exact Nat.toDigits_ne_nil
    have hwhole : '&' ∉ (Nat.repr sequence).toList := by
      rw [Nat.toList_repr]
      intro h
      exact absurd (Nat.isDigit_of_mem_toDigits (by decide) (by decide) h) (by decide)
    rw [hget, routeRequest_revoke (splitRequestTarget_afterSequence sequence),
      queryParam_pair (by decide) (by decide) hvalue hwhole, Option.map_some, parseU64Param_repr]
    by_cases hsequence : sequence < 2 ^ 64
    · rw [if_pos hsequence]
      exact .inr ⟨hdelivers, congrArg (Except.mapError ControlError.decode) (hread.revocations _)⟩
    · rw [if_neg hsequence]
      exact .inl ⟨fun h => hsequence (h.2 sequence rfl), _, rfl⟩

omit [BodyReader] in
theorem askedSubject_none (hsends : web.Sends origin) : web.askedSubject origin none = none := by
  unfold Web.askedSubject
  split
  · rfl
  · rename_i target htarget
    rw [hsends.plain "/snapshot" target (by decide) htarget]
    decide +kernel

end Answers

section Closed

@[reducible] def BodyReader.byKind : BodyReader where
  snapshot
    | .snapshot snapshot => .ok snapshot
    | _ => .error "missing field `network_id`"
  relayMap
    | .relayMap relayMap => .ok relayMap
    | _ => .error "missing field `version`"
  revocations
    | .revocations revocations => .ok revocations
    | _ => .error "invalid type: map, expected a sequence"

attribute [local instance] BodyReader.byKind

theorem BodyReader.roundTrips_byKind : BodyReader.RoundTrips :=
  ⟨fun _ => rfl, fun _ => rfl, fun _ => rfl⟩

def authorityWeb (stored : AuthorityState) : Web where
  target url :=
    if "http://authority".toList.isPrefixOf url.toList then
      .ok (String.ofList (url.toList.drop "http://authority".toList.length))
    else .error "Dns Failed"
  lost _ := none
  statusText url code := url ++ ": status code " ++ Nat.repr code
  stored _ := stored
  now _ := 1720000000

theorem authorityWeb_target (stored : AuthorityState) (text : String) :
    (authorityWeb stored).target ("http://authority" ++ text) = .ok text := by
  have hprefix : "http://authority".toList.isPrefixOf ("http://authority" ++ text).toList = true := by
    rw [String.toList_append, List.isPrefixOf_iff_prefix]
    exact List.prefix_append _ _
  simp only [authorityWeb]
  rw [if_pos hprefix, String.toList_append, List.drop_left, String.ofList_toList]

theorem authorityWeb_sends (stored : AuthorityState) :
    (authorityWeb stored).Sends "http://authority/" := by
  have hbase : baseOf "http://authority/" = "http://authority" := by decide +kernel
  constructor
  · intro text target _ htarget
    rw [hbase, authorityWeb_target] at htarget
    exact (Except.ok.inj htarget).symm
  · intro subject target htarget
    have hurl : endpointWithSubject (snapshotEndpoint "http://authority/") (some subject) =
        "http://authority" ++ ("/snapshot?" ++ ("subject=" ++ subject)) := by
      rw [endpointWithSubject, snapshotEndpoint, hbase, ← String.toList_inj]
      simp
    rw [hurl, authorityWeb_target] at htarget
    exact ⟨_, (Except.ok.inj htarget).symm⟩

theorem authorityWeb_delivers (stored : AuthorityState) (text : String) :
    (authorityWeb stored).Delivers ("http://authority" ++ text) :=
  ⟨⟨text, authorityWeb_target stored text⟩, rfl⟩

end Closed

end QuipNet.Control
