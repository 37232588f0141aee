import QuipNet.Authority
import QuipNet.Json
import QuipNet.Library.Text

/-!
# Selecting a subject by URL

The client writes the subject behind the endpoint as it is, and the authority splits the
request target at `?`, `&` and `=`. What comes back is the subject exactly when it has no `&`:
the other separators are only looked for once.
-/

namespace QuipNet.Control

def baseOf (origin : String) : String := String.ofList (origin.toList.rdropWhile (· = '/'))

def snapshotEndpoint (origin : String) : String := baseOf origin ++ "/snapshot"

def endpointWithSubject (endpoint : String) : Option String → String
  | some subject => endpoint ++ "?subject=" ++ subject
  | none => endpoint

end QuipNet.Control

namespace QuipNet.Authority
open QuipNet.Control QuipNet.Library QuipNet.Relay

inductive Method
  | get
  | other (name : String)
deriving DecidableEq, Repr

inductive ResponseBody
  | value (value : Json)
  | snapshot (snapshot : AuthorityArtifactSnapshot)
  | bootstrapHints (hints : List BootstrapHint)
  | relayMap (relayMap : RelayMap)
  | revocations (revocations : List RevocationRecord)

structure Response where
  status : ℕ
  body : ResponseBody

def splitRequestTarget (url : List Char) : List Char × List Char :=
  (splitOnce '?' url).getD (url, [])

def splitPair (pair : List Char) : List Char × List Char := (splitOnce '=' pair).getD (pair, [])

def queryParam (query : List Char) (key : String) : Option (List Char) :=
  (query.splitOn '&').findSome? fun pair =>
    if (splitPair pair).1 = key.toList ∧ (splitPair pair).2 ≠ [] then some (splitPair pair).2
    else none

def parseU64Param (value : List Char) : Except String ℕ :=
  match fromStrRadix 10 (2 ^ 64) value with
  | some number => .ok number
  | none => .error (String.ofList value)

def missingSubjectResponse (subject : Option String) : Response :=
  ⟨404, .value (.object [("error", .string "subject not found"), ("subject", .option .string subject)])⟩

/-- The subject that a request target asks for. -/
def requestedSubject (url : String) : Option String :=
  (queryParam (splitRequestTarget url.toList).2 "subject").map String.ofList

def routeRequest (state : AuthorityState) (now : ℕ) (method : Method) (url : String) : Response :=
  if method ≠ .get then ⟨405, .value (.object [("error", .string "method not allowed")])⟩
  else
    let (path, query) := splitRequestTarget url.toList
    let subject := requestedSubject url
    let afterSequence : Except String (Option ℕ) :=
      match queryParam query "after_sequence" with
      | some value => (parseU64Param value).map some
      | none => .ok none
    if path = "/healthz".toList then ⟨200, .value (.object [("status", .string "ok")])⟩
    else if path = "/snapshot".toList then
      match projectedSnapshot state subject with
      | some snapshot => ⟨200, .snapshot snapshot⟩
      | none => missingSubjectResponse subject
    else if path = "/bootstrap".toList then
      match projectedSnapshot state subject with
      | some snapshot => ⟨200, .bootstrapHints snapshot.bootstrapHints⟩
      | none => missingSubjectResponse subject
    else if path = "/relays".toList then
      ⟨200, .relayMap ⟨state.relayMapVersion, now, state.relays⟩⟩
    else if path = "/revoke".toList then
      match afterSequence with
      | .ok afterSequence => ⟨200, .revocations (filteredRevocations state afterSequence)⟩
      | .error value => ⟨400, .value (.object
          [("error", .string "invalid after_sequence"), ("value", .string value)])⟩
    else ⟨404, .value (.object [("error", .string "not found"), ("path", .string url)])⟩

/-! ## What the query of a subject is read as -/

theorem splitPair_append {name : List Char} (h : '=' ∉ name) (value : List Char) :
    splitPair (name ++ '=' :: value) = (name, value) := by
  rw [splitPair, splitOnce_append h, Option.getD_some]

theorem mem_of_mem_splitPair {pair : List Char} {c : Char} (h : c ∈ (splitPair pair).2) :
    c ∈ pair := by
  unfold splitPair splitOnce at h
  split_ifs at h with hseparator
  · exact (List.dropWhile_sublist _).subset (List.tail_subset _ h)
  · cases h

theorem not_mem_of_queryParam {query : List Char} {key : String} {value : List Char}
    (h : queryParam query key = some value) : '&' ∉ value := by
  obtain ⟨pair, hpair, hvalue⟩ := List.exists_of_findSome?_eq_some h
  split_ifs at hvalue with hname
  cases hvalue
  exact fun hmem => not_mem_of_mem_splitOn hpair (mem_of_mem_splitPair hmem)

section Subject
variable {subject : String}

theorem queryParam_subject {value : List Char} (hvalue : value ≠ []) (h : '&' ∉ value) :
    queryParam ("subject=".toList ++ value) "subject" = some value := by
  have hwhole : '&' ∉ "subject=".toList ++ value := by
    rw [List.mem_append]
    exact not_or.2 ⟨by decide, h⟩
  have hpair : splitPair ("subject=".toList ++ value) = ("subject".toList, value) :=
    splitPair_append (by decide : '=' ∉ "subject".toList) value
  rw [queryParam, List.splitOn_eq_singleton hwhole, List.findSome?_cons]
  rw [hpair, if_pos ⟨rfl, hvalue⟩]

/-- With one, the value ends there, and an empty value is passed over. -/
theorem queryParam_ampersand {before after : List Char} (h : '&' ∉ before) :
    queryParam ("subject=".toList ++ (before ++ '&' :: after)) "subject" =
      if before ≠ [] then some before else queryParam after "subject" := by
  have hfirst : '&' ∉ "subject=".toList ++ before := by
    rw [List.mem_append]
    exact not_or.2 ⟨by decide, h⟩
  have hpair : splitPair ("subject=".toList ++ before) = ("subject".toList, before) :=
    splitPair_append (by decide : '=' ∉ "subject".toList) before
  rw [queryParam, ← List.append_assoc, List.splitOn_append_cons_self_of_not_mem hfirst,
    List.findSome?_cons]
  rw [hpair]
  by_cases hbefore : before = []
  · rw [if_neg fun hpair => hpair.2 hbefore, if_neg (not_not.2 hbefore)]
    rfl
  · rw [if_pos ⟨rfl, hbefore⟩, if_pos hbefore]

theorem snapshotTarget_eq {origin target : String}
    (h : endpointWithSubject (snapshotEndpoint origin) (some subject) = baseOf origin ++ target) :
    splitRequestTarget target.toList = ("/snapshot".toList, "subject=".toList ++ subject.toList) := by
  have htarget : target.toList =
      "/snapshot".toList ++ '?' :: ("subject=".toList ++ subject.toList) := by
    have hlist := congrArg String.toList h
    simp only [endpointWithSubject, snapshotEndpoint, String.toList_append, List.append_assoc] at hlist
    exact (List.append_cancel_left hlist).symm
  rw [splitRequestTarget, htarget, splitOnce_append (by decide), Option.getD_some]

end Subject

/-! ## Which member is served -/

theorem subjectSeed_of_selectedMember {state : AuthorityState} {seed : String}
    {member : AuthorityMember} (h : selectedMember state seed = some member) :
    member.subjectSeed = seed := by
  have hseed := List.find?_some h
  rw [decide_eq_true_eq] at hseed
  exact hseed

/-- The request selects the member by its name, not as the active default, and is answered
with the snapshot for it. -/
structure ServesMember (state : AuthorityState) (now : ℕ) (target : String)
    (member : AuthorityMember) : Prop where
  byName : ∃ asked, requestedSubject target = some asked ∧ selectedMember state asked = some member
  served : routeRequest state now .get target = ⟨200, .snapshot (snapshotFor state (some member))⟩

theorem routeRequest_snapshot {state : AuthorityState} {now : ℕ} {target : String}
    {query : List Char} (h : splitRequestTarget target.toList = ("/snapshot".toList, query)) :
    routeRequest state now .get target =
      match projectedSnapshot state (requestedSubject target) with
      | some snapshot => ⟨200, .snapshot snapshot⟩
      | none => missingSubjectResponse (requestedSubject target) := by
  unfold routeRequest
  simp only [ne_eq, not_true, if_false, h]
  rw [if_neg (by decide), if_pos True.intro]

section Serving
variable {state : AuthorityState} {now : ℕ} {subject origin target : String}
  {member : AuthorityMember}

/-- The snapshot request for a member's subject serves that member exactly when the subject
has no `&`. -/
theorem subject_round_trips_iff (hsubject : subject ≠ "")
    (hmember : selectedMember state subject = some member)
    (htarget : endpointWithSubject (snapshotEndpoint origin) (some subject) =
      baseOf origin ++ target) :
    ServesMember state now target member ↔ '&' ∉ subject.toList := by
  have hsplit := snapshotTarget_eq htarget
  constructor
  · intro hserves
    obtain ⟨asked, hasked, hselected⟩ := hserves.byName
    have hsame : asked = subject := by
      rw [← subjectSeed_of_selectedMember hselected, subjectSeed_of_selectedMember hmember]
    rw [requestedSubject, Option.map_eq_some_iff] at hasked
    obtain ⟨value, hvalue, rfl⟩ := hasked
    rw [← hsame, String.toList_ofList]
    exact not_mem_of_queryParam hvalue
  · intro hplain
    have hchars : subject.toList ≠ [] := by
      rwa [ne_eq, String.toList_eq_nil_iff]
    have hasked : requestedSubject target = some subject := by
      rw [requestedSubject, hsplit, queryParam_subject hchars hplain, Option.map_some,
        String.ofList_toList]
    refine ⟨⟨subject, hasked, hmember⟩, ?_⟩
    rw [routeRequest_snapshot hsplit, hasked, projectedSnapshot, hmember, Option.map_some]

end Serving

section Closed

def seededMember (seed : String) (peer : UInt8) : AuthorityMember where
  subjectSeed := seed
  peerId := PeerId.toText ⟨[peer]⟩
  membership := ⟨⟨Vector.replicate 32 7⟩, ⟨[peer]⟩, ⟨[0]⟩, 0, 10, [], ⟨[]⟩⟩

def teamStore : AuthorityState where
  realm := "mesh"
  authorityPeerId := PeerId.toText ⟨[0]⟩
  activeSubjectSeed := some "desk"
  members := [seededMember "team" 1, seededMember "team&blue" 2, seededMember "desk" 3,
    seededMember "&red" 4, seededMember "100% a=b?#" 5]
  capabilityGrants := []
  revocations := []
  relayMapVersion := 0
  relays := []
  nextCapabilitySequence := 1
  nextRevocationSequence := 1
  bootstrapGeneration := 0
  bootstrapHints := []
  snapshot := ⟨⟨Vector.replicate 32 7⟩, none, none, [], [], []⟩

theorem other_separators_round_trip :
    ServesMember teamStore 0 "/snapshot?subject=100% a=b?#" (seededMember "100% a=b?#" 5) :=
  have htarget : endpointWithSubject (snapshotEndpoint "http://authority:8080/")
      (some "100% a=b?#") = baseOf "http://authority:8080/" ++ "/snapshot?subject=100% a=b?#" := by
    decide +kernel
  (subject_round_trips_iff (by decide) rfl htarget).2 (by decide)

/-- The snapshot of another member is served for one subject, that of the active member for
the other. -/
theorem ampersand_serves_another :
    (endpointWithSubject (snapshotEndpoint "http://authority:8080/") (some "team&blue") =
        baseOf "http://authority:8080/" ++ "/snapshot?subject=team&blue" ∧
      selectedMember teamStore "team&blue" = some (seededMember "team&blue" 2) ∧
      routeRequest teamStore 0 .get "/snapshot?subject=team&blue" =
        ⟨200, .snapshot (snapshotFor teamStore (some (seededMember "team" 1)))⟩ ∧
      ¬ ServesMember teamStore 0 "/snapshot?subject=team&blue" (seededMember "team&blue" 2)) ∧
    selectedMember teamStore "&red" = some (seededMember "&red" 4) ∧
    routeRequest teamStore 0 .get "/snapshot?subject=&red" =
      ⟨200, .snapshot (snapshotFor teamStore (some (seededMember "desk" 3)))⟩ := by
  have hasked : requestedSubject "/snapshot?subject=team&blue" = some "team" := by decide +kernel
  have hnone : requestedSubject "/snapshot?subject=&red" = none := by decide +kernel
  have hteam : splitRequestTarget "/snapshot?subject=team&blue".toList =
      ("/snapshot".toList, "subject=team&blue".toList) := by
    decide +kernel
  have hred : splitRequestTarget "/snapshot?subject=&red".toList =
      ("/snapshot".toList, "subject=&red".toList) := by
    decide +kernel
  refine ⟨⟨by decide +kernel, rfl, ?_, ?_⟩, rfl, ?_⟩
  · rw [routeRequest_snapshot hteam, hasked]
    rfl
  · intro hserves
    obtain ⟨asked, hserved, hselected⟩ := hserves.byName
    rw [hasked, Option.some.injEq] at hserved
    rw [← hserved] at hselected
    exact absurd (subjectSeed_of_selectedMember hselected) (by decide)
  · rw [routeRequest_snapshot hred, hnone]
    rfl

end Closed

end QuipNet.Authority
