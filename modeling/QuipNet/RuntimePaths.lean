import QuipNet.AdapterHistory
import QuipNet.AuthorityEnforcement
import QuipNet.ControlPlane
import QuipNet.Library.Cover

/-!
# The paths that the daemon reports

`runtime_paths` merges five sources into one list: the registered sessions, the reconnect
suppressions, the reconnect attempts, the sixteen most recent terminal sessions and the
candidates of the known peers. Each source adds an entry only where the entries before it
do not cover its key, and the list is sorted at the end.
-/

open Std
namespace QuipNet.Quic
open QuipNet.Transport

variable {ρ : Type}

def QuicTransportAdapter.recentTerminalSessions (adapter : QuicTransportAdapter ρ) (limit : ℕ) :
    List SessionSnapshot :=
  (adapter.terminalSessions.reverse.take limit).map RuntimeSessionRecord.snapshot

end QuipNet.Quic

namespace QuipNet.Fabric
open QuipNet.Library QuipNet.Library.Effect QuipNet.Quic QuipNet.Routing QuipNet.Transport
open QuicTransportAdapter

variable {ρ : Type}

/-! ## Entries -/

inductive RuntimePathState
  | candidate
  | active
  | degraded
  | migrating
  | failed
  | suppressed
deriving DecidableEq, Repr

structure RuntimePathAlternative where
  pathKind : PathKind
  source : PathSource
  relayPeer : Option PeerId
  score : UInt32
  summary : String
deriving DecidableEq, Repr

structure RuntimePathSnapshot where
  sessionId : Option SessionId
  peer : PeerId
  protocol : Option ProtocolId
  trafficClass : TrafficClass
  state : RuntimePathState
  pathKind : Option PathKind
  source : Option PathSource
  relayPeer : Option PeerId
  endpointSummary : String
  stateReason : Option String
  decisionReason : Option String
  score : Option UInt32
  summary : String
  alternatives : List RuntimePathAlternative
deriving DecidableEq, Repr

def RuntimePathSnapshot.key (entry : RuntimePathSnapshot) : SessionKey :=
  ⟨entry.peer, entry.protocol, entry.trafficClass⟩

def runtimeClassRank : TrafficClass → ℕ
  | .control => 0
  | .interactive => 1
  | .bulk => 2
  | .background => 3

def runtimePathStateRank : RuntimePathState → ℕ
  | .active => 0
  | .migrating => 1
  | .degraded => 2
  | .candidate => 3
  | .suppressed => 4
  | .failed => 5

def runtimePathStateFromSession : RuntimeSessionState → RuntimePathState
  | .degraded => .degraded
  | .migrating => .migrating
  | .failed | .closing | .closed => .failed
  | _ => .active

def runtimeCandidateMatchesSession (candidate : PathCandidate) (session : SessionSnapshot) : Bool :=
  candidate.peer = session.peer && candidate.pathKind = session.pathKind &&
    candidate.relayPeer = session.relayPeer && candidate.supportsClass session.trafficClass

/-- The derived equality of candidates, which compares the loss as a float. -/
def equalCandidates (a b : PathCandidate) : Bool :=
  a.peer = b.peer && a.pathKind = b.pathKind && a.relayPeer = b.relayPeer && a.source = b.source &&
    a.trafficClasses = b.trafficClasses && a.rttMs = b.rttMs && a.jitterMs = b.jitterMs &&
    a.lossPct == b.lossPct && a.throughputMbps = b.throughputMbps && a.relayPenalty = b.relayPenalty

def runtimePathAlternatives (candidates : List PathCandidate) (trafficClass : TrafficClass)
    (selected : Option PathCandidate) : List RuntimePathAlternative :=
  let alternatives := (candidates.filter fun candidate => candidate.supportsClass trafficClass).filter
    fun candidate => !selected.any (equalCandidates candidate)
  (alternatives.insertionSort fun a b => a.score trafficClass ≤ b.score trafficClass).map
    fun candidate => ⟨candidate.pathKind, candidate.source, candidate.relayPeer,
      candidate.score trafficClass, (candidate.explain trafficClass).summary⟩

def routeSourceToPathSource : RouteSource → Option PathSource
  | .observed => some .observed
  | .bootstrap => some .bootstrap
  | .authorityRelay => some .authorityRelay

def runtimeSessionEndpointSummary (session : SessionSnapshot) : String :=
  if session.pathKind = .relay then
    "relay=" ++ session.relayEndpoint.getD "unknown-relay-endpoint" ++ " destination=" ++
      session.remoteEndpoint
  else session.remoteEndpoint

def runtimeCandidateEndpointSummary (candidate : PathCandidate) : String :=
  if candidate.pathKind = .relay then
    "relay=" ++ (candidate.relayPeer.map PeerId.toText).getD "unknown-relay"
  else "direct"

def runtimeSessionSummary (session : SessionSnapshot) : String :=
  (if session.pathKind = .relay then "relay" else "direct") ++ " runtime path for " ++
    session.peer.toText ++ " is " ++ runtimeSessionEndpointSummary session

def sessionClosureReasonPhrase : SessionClosureReason → String
  | .operatorRequested => "operator requested closure"
  | .localRuntimeFailure => "the local runtime failed"
  | .remoteFailure => "the remote peer failed"
  | .policyRejected => "authority or policy rejected the session"
  | .pathExhaustion => "no eligible path remained"
  | .daemonShutdown => "the daemon shut down"

def runtimeTerminalPathSummary (session : SessionSnapshot) : String :=
  let outcome := match session.state with
    | .closed => "closed"
    | .failed => "failed"
    | _ => "terminal"
  let reason := (session.stateReason.or
    (session.closureReason.map sessionClosureReasonPhrase)).getD
      "runtime session is no longer active"
  outcome ++ " path for " ++ session.peer.toText ++ " is " ++
    runtimeSessionEndpointSummary session ++ " because " ++ reason

def runtimePathDecisionReason (explanation : PathExplanation) : String :=
  let strengths := "strengths=" ++ "|".intercalate explanation.strengths
  let tradeoffs := "tradeoffs=" ++ "|".intercalate explanation.tradeoffs
  match explanation.strengths.isEmpty, explanation.tradeoffs.isEmpty with
  | false, false => strengths ++ " " ++ tradeoffs
  | false, true => strengths
  | true, false => tradeoffs
  | true, true => explanation.summary

def attemptsText (attempt : RuntimeReconnectAttempt) : String :=
  Nat.repr attempt.attemptCount.toNat ++ "/" ++ Nat.repr attempt.maxAttempts.toNat

def runtimeReconnectPathStatus (attempt : RuntimeReconnectAttempt) (selected : Option PathDecision) :
    RuntimePathState × Option String × String :=
  let selectedSummary := (selected.map fun decision => decision.explanation.summary).getD
    "no known runtime candidate path remains"
  let fallbackSummary := (selected.map fun decision =>
    (if decision.selected.pathKind = .relay then "best known relay fallback remains "
      else "best known direct path remains ") ++ decision.explanation.summary).getD
    "no known runtime candidate path remains"
  match attempt.state with
  | .backingOff =>
    (.candidate,
      some ("attempt " ++ attemptsText attempt ++ " backing off until " ++
        Nat.repr attempt.nextAttemptUnixSecs ++ " because " ++ attempt.reason),
      "reconnect backing off for " ++ attempt.peer.toText ++ " after " ++ attemptsText attempt ++
        " attempts; " ++ selectedSummary)
  | .failed =>
    (.failed,
      some ("reconnect exhausted " ++ attemptsText attempt ++ " attempts because " ++
        attempt.reason),
      "reconnect failed for " ++ attempt.peer.toText ++ " after " ++ attemptsText attempt ++
        " attempts; " ++ fallbackSummary)

/-! ## The five sources -/

namespace DaemonState

/-- The entry of a session that is registered, or was: the last sources differ in state and
summary only. -/
def sessionEntry (state : DaemonState) (session : SessionSnapshot) : RuntimePathSnapshot :=
  let candidates := state.pathCandidatesFor session.peer
  let selected := candidates.find? fun candidate => runtimeCandidateMatchesSession candidate session
  let explanation := selected.map fun candidate => candidate.explain session.trafficClass
  { sessionId := some session.sessionId
    peer := session.peer
    protocol := session.protocol
    trafficClass := session.trafficClass
    state := runtimePathStateFromSession session.state
    pathKind := some session.pathKind
    source := (selected.map PathCandidate.source).or (routeSourceToPathSource session.source)
    relayPeer := session.relayPeer
    endpointSummary := runtimeSessionEndpointSummary session
    stateReason := session.stateReason
    decisionReason := explanation.map runtimePathDecisionReason
    score := selected.map fun candidate => candidate.score session.trafficClass
    summary := (explanation.map PathExplanation.summary).getD (runtimeSessionSummary session)
    alternatives := runtimePathAlternatives candidates session.trafficClass selected }

def terminalEntry (state : DaemonState) (session : SessionSnapshot) : RuntimePathSnapshot :=
  { state.sessionEntry session with
    state := .failed
    summary := runtimeTerminalPathSummary session }

def suppressedEntry (state : DaemonState) (suppression : ReconnectSuppression) :
    RuntimePathSnapshot :=
  let candidates := state.pathCandidatesFor suppression.peer
  let selected := selectBestPath candidates suppression.trafficClass
  let candidate := selected.map PathDecision.selected
  { sessionId := none
    peer := suppression.peer
    protocol := suppression.protocol
    trafficClass := suppression.trafficClass
    state := .suppressed
    pathKind := candidate.map PathCandidate.pathKind
    source := candidate.map PathCandidate.source
    relayPeer := candidate.bind PathCandidate.relayPeer
    endpointSummary := (candidate.map runtimeCandidateEndpointSummary).getD "no active runtime path"
    stateReason := some suppression.reason
    decisionReason := selected.map fun decision => runtimePathDecisionReason decision.explanation
    score := candidate.map fun candidate => candidate.score suppression.trafficClass
    summary := (selected.map fun decision => "reconnect suppressed for " ++
        suppression.peer.toText ++ ": " ++ decision.explanation.summary).getD
      ("reconnect suppressed for " ++ suppression.peer.toText ++ " because " ++ suppression.reason)
    alternatives := runtimePathAlternatives candidates suppression.trafficClass candidate }

def reconnectEntry (state : DaemonState) (attempt : RuntimeReconnectAttempt) : RuntimePathSnapshot :=
  let candidates := state.pathCandidatesFor attempt.peer
  let selected := selectBestPath candidates attempt.trafficClass
  let candidate := selected.map PathDecision.selected
  let status := runtimeReconnectPathStatus attempt selected
  { sessionId := none
    peer := attempt.peer
    protocol := attempt.protocol
    trafficClass := attempt.trafficClass
    state := status.1
    pathKind := candidate.map PathCandidate.pathKind
    source := candidate.map PathCandidate.source
    relayPeer := candidate.bind PathCandidate.relayPeer
    endpointSummary :=
      (candidate.map runtimeCandidateEndpointSummary).getD "no known runtime candidate path"
    stateReason := status.2.1
    decisionReason := selected.map fun decision => runtimePathDecisionReason decision.explanation
    score := candidate.map fun candidate => candidate.score attempt.trafficClass
    summary := status.2.2
    alternatives := runtimePathAlternatives candidates attempt.trafficClass candidate }

def candidateEntry (state : DaemonState) (peer : PeerId) (decision : PathDecision) :
    RuntimePathSnapshot where
  sessionId := none
  peer := peer
  protocol := none
  trafficClass := decision.trafficClass
  state := .candidate
  pathKind := some decision.selected.pathKind
  source := some decision.selected.source
  relayPeer := decision.selected.relayPeer
  endpointSummary := runtimeCandidateEndpointSummary decision.selected
  stateReason := some "known candidate path is not currently active"
  decisionReason := some (runtimePathDecisionReason decision.explanation)
  score := some (decision.selected.score decision.trafficClass)
  summary := "candidate path available for " ++ peer.toText ++ ": " ++ decision.explanation.summary
  alternatives := runtimePathAlternatives (state.pathCandidatesFor peer) decision.trafficClass
    (some decision.selected)

def pathClasses : List TrafficClass := [.control, .interactive, .bulk, .background]

def pushCandidate (state : DaemonState) (peer : PeerId) (snapshots : List RuntimePathSnapshot)
    (trafficClass : TrafficClass) : List RuntimePathSnapshot :=
  if snapshots.any fun entry => entry.peer = peer && entry.trafficClass = trafficClass then snapshots
  else
    match selectBestPath (state.pathCandidatesFor peer) trafficClass with
    | none => snapshots
    | some decision => snapshots ++ [state.candidateEntry peer decision]

def pushCandidates (state : DaemonState) (snapshots : List RuntimePathSnapshot) (peer : PeerId) :
    List RuntimePathSnapshot :=
  if (state.pathCandidatesFor peer).isEmpty then snapshots
  else pathClasses.foldl (state.pushCandidate peer) snapshots

/-- An entry with a session covers the suppression of its key; any entry covers the attempts
and the terminal sessions of its key. -/
def coversSuppression (entry : RuntimePathSnapshot) (suppression : ReconnectSuppression) : Bool :=
  entry.sessionId.isSome && entry.key = suppression.key

def coversAttempt (entry : RuntimePathSnapshot) (attempt : RuntimeReconnectAttempt) : Bool :=
  entry.key = attempt.key

def coversTerminal (entry : RuntimePathSnapshot) (session : SessionSnapshot) : Bool :=
  entry.key = session.key

def realizedPaths (state : DaemonState) (adapter : QuicTransportAdapter ρ) :
    List RuntimePathSnapshot :=
  let snapshots := adapter.activeSessions.map state.sessionEntry
  let snapshots := addUncovered coversSuppression state.suppressedEntry snapshots
    adapter.reconnectSuppressions
  let snapshots := addUncovered coversAttempt state.reconnectEntry snapshots
    adapter.reconnectAttempts
  addUncovered coversTerminal state.terminalEntry snapshots (adapter.recentTerminalSessions 16)

end DaemonState

def runtimePathOrder : RuntimePathSnapshot → RuntimePathSnapshot → Ordering :=
  compareLex (compareOn fun entry => entry.peer.toText)
    (compareLex (compareOn fun entry => runtimeClassRank entry.trafficClass)
      (compareLex (compareOn fun entry => runtimePathStateRank entry.state)
        (compareOn RuntimePathSnapshot.sessionId)))

def DaemonState.runtimePaths (state : DaemonState) (adapter : QuicTransportAdapter ρ) :
    List RuntimePathSnapshot :=
  ((state.peers.map fun entry => entry.snapshot.peer).foldl state.pushCandidates
    (state.realizedPaths adapter)).insertionSort fun a b => (runtimePathOrder a b).isLE

def LocalControlPlane.runtimePaths [Primitives] (config : DaemonConfig) :
    ControlM ρ (List RuntimePathSnapshot) := do
  let state ← ensureState config
  pure (state.runtimePaths (← get).transport)

/-! ## Keys -/

section Keys
variable (state : DaemonState)

@[simp] theorem key_sessionEntry (session : SessionSnapshot) :
    (state.sessionEntry session).key = session.key := rfl

@[simp] theorem key_terminalEntry (session : SessionSnapshot) :
    (state.terminalEntry session).key = session.key := rfl

@[simp] theorem key_suppressedEntry (suppression : ReconnectSuppression) :
    (state.suppressedEntry suppression).key = suppression.key := rfl

@[simp] theorem key_reconnectEntry (attempt : RuntimeReconnectAttempt) :
    (state.reconnectEntry attempt).key = attempt.key := rfl

@[simp] theorem key_candidateEntry (peer : PeerId) (decision : PathDecision) :
    (state.candidateEntry peer decision).key = ⟨peer, none, decision.trafficClass⟩ := rfl

end Keys

theorem nodup_keys_append {α : Type} {keyOf : α → SessionKey} {entry : α → RuntimePathSnapshot}
    (hkey : ∀ item, (entry item).key = keyOf item) {listed : List RuntimePathSnapshot}
    (hlisted : (listed.map RuntimePathSnapshot.key).Nodup) {added : List α}
    (hadded : (added.map keyOf).Nodup)
    (hnew : ∀ item ∈ added, ∀ other ∈ listed, other.key ≠ keyOf item) :
    ((listed ++ added.map entry).map RuntimePathSnapshot.key).Nodup := by
  have hmap : (added.map entry).map RuntimePathSnapshot.key = added.map keyOf := by
    rw [List.map_map]
    exact List.map_congr_left fun item _ => hkey item
  rw [List.map_append, hmap, List.nodup_append]
  refine ⟨hlisted, hadded, ?_⟩
  intro key hbefore other hother heq
  obtain ⟨listedEntry, hlistedEntry, rfl⟩ := List.mem_map.1 hbefore
  obtain ⟨item, hitem, rfl⟩ := List.mem_map.1 hother
  exact hnew item hitem listedEntry hlistedEntry heq

/-! ## The candidate loop -/

namespace DaemonState

/-- A decision for each known peer and each class that a candidate of the peer supports. -/
def candidateItems (state : DaemonState) : List (PeerId × PathDecision) :=
  (state.peers.map fun entry => entry.snapshot.peer).flatMap fun peer =>
    pathClasses.filterMap fun trafficClass =>
      (selectBestPath (state.pathCandidatesFor peer) trafficClass).map fun decision =>
        (peer, decision)

def coversClass (entry : RuntimePathSnapshot) (item : PeerId × PathDecision) : Bool :=
  entry.peer = item.1 && entry.trafficClass = item.2.trafficClass

def itemEntry (state : DaemonState) (item : PeerId × PathDecision) : RuntimePathSnapshot :=
  state.candidateEntry item.1 item.2

def itemKey (item : PeerId × PathDecision) : SessionKey := ⟨item.1, none, item.2.trafficClass⟩

theorem key_itemEntry (state : DaemonState) (item : PeerId × PathDecision) :
    (state.itemEntry item).key = itemKey item := rfl

theorem pushCandidate_eq (state : DaemonState) (peer : PeerId)
    (snapshots : List RuntimePathSnapshot) (trafficClass : TrafficClass) :
    state.pushCandidate peer snapshots trafficClass =
      addUncovered coversClass state.itemEntry snapshots
        ((selectBestPath (state.pathCandidatesFor peer) trafficClass).map
          fun decision => (peer, decision)).toList := by
  unfold pushCandidate
  cases hselect : selectBestPath (state.pathCandidatesFor peer) trafficClass with
  | none => simp [addUncovered]
  | some decision =>
    have hclass : decision.trafficClass = trafficClass := by
      obtain ⟨selected, -, rfl⟩ := Option.map_eq_some_iff.1 hselect
      rfl
    simp only [Option.map_some, Option.toList_some, addUncovered, List.foldl_cons, List.foldl_nil,
      coversClass, hclass]
    rfl

theorem foldl_pushCandidate (state : DaemonState) (peer : PeerId) (classes : List TrafficClass)
    (snapshots : List RuntimePathSnapshot) :
    classes.foldl (state.pushCandidate peer) snapshots =
      addUncovered coversClass state.itemEntry snapshots (classes.filterMap fun trafficClass =>
        (selectBestPath (state.pathCandidatesFor peer) trafficClass).map
          fun decision => (peer, decision)) := by
  induction classes generalizing snapshots with
  | nil => rfl
  | cons trafficClass rest ih =>
    rw [List.foldl_cons, ih, pushCandidate_eq, List.filterMap_cons, addUncovered, addUncovered,
      ← List.foldl_append]
    cases selectBestPath (state.pathCandidatesFor peer) trafficClass with
    | none => rfl
    | some decision => rfl

theorem pushCandidates_eq (state : DaemonState) (snapshots : List RuntimePathSnapshot)
    (peer : PeerId) : state.pushCandidates snapshots peer =
      pathClasses.foldl (state.pushCandidate peer) snapshots := by
  unfold pushCandidates
  split_ifs with hempty
  · have hnil := List.isEmpty_iff.1 hempty
    rw [foldl_pushCandidate, hnil]
    rfl
  · rfl

theorem foldl_pushCandidates (state : DaemonState) (peers : List PeerId)
    (snapshots : List RuntimePathSnapshot) :
    peers.foldl state.pushCandidates snapshots =
      addUncovered coversClass state.itemEntry snapshots (peers.flatMap fun peer =>
        pathClasses.filterMap fun trafficClass =>
          (selectBestPath (state.pathCandidatesFor peer) trafficClass).map
            fun decision => (peer, decision)) := by
  induction peers generalizing snapshots with
  | nil => rfl
  | cons peer rest ih =>
    rw [List.foldl_cons, ih, pushCandidates_eq, foldl_pushCandidate, List.flatMap_cons, addUncovered,
      addUncovered, addUncovered, ← List.foldl_append]

theorem mem_pathClasses (trafficClass : TrafficClass) : trafficClass ∈ pathClasses := by
  cases trafficClass <;> simp [pathClasses]

theorem selectBestPath_class {candidates : List PathCandidate} {trafficClass : TrafficClass}
    {decision : PathDecision} (h : selectBestPath candidates trafficClass = some decision) :
    decision.trafficClass = trafficClass := by
  obtain ⟨selected, -, rfl⟩ := Option.map_eq_some_iff.1 h
  rfl

theorem mem_candidateItems {state : DaemonState} {item : PeerId × PathDecision} :
    item ∈ state.candidateItems ↔
      (∃ inspection ∈ state.peers, inspection.snapshot.peer = item.1) ∧
        selectBestPath (state.pathCandidatesFor item.1) item.2.trafficClass = some item.2 := by
  simp only [candidateItems, List.mem_flatMap, List.mem_map, List.mem_filterMap,
    Option.map_eq_some_iff]
  constructor
  · rintro ⟨_, ⟨inspection, hinspection, rfl⟩, trafficClass, -, decision, hselect, rfl⟩
    refine ⟨⟨inspection, hinspection, rfl⟩, ?_⟩
    rw [selectBestPath_class hselect]
    exact hselect
  · rintro ⟨⟨inspection, hinspection, hpeer⟩, hselect⟩
    exact ⟨item.1, ⟨inspection, hinspection, hpeer⟩, item.2.trafficClass, mem_pathClasses _, item.2,
      hselect, rfl⟩

end DaemonState

/-! ## The whole list -/

def HasSession (adapter : QuicTransportAdapter ρ) (key : SessionKey) : Prop :=
  ∃ session ∈ adapter.activeSessions, session.key = key

def Reconnecting (adapter : QuicTransportAdapter ρ) (key : SessionKey) : Prop :=
  ∃ attempt ∈ adapter.reconnectAttempts, attempt.key = key

/-- Every source has its entries in the list: one for each of its keys that no source
before it has taken. -/
structure PathsPartition (state : DaemonState) (adapter : QuicTransportAdapter ρ)
    (paths : List RuntimePathSnapshot) : Prop where
  distinct : (paths.map RuntimePathSnapshot.key).Nodup
  sorted : paths.Pairwise fun a b => (runtimePathOrder a b).isLE = true
  sessions : ∀ session ∈ adapter.activeSessions, paths.count (state.sessionEntry session) = 1
  suppressed : ∀ suppression ∈ adapter.reconnectSuppressions, ¬ HasSession adapter suppression.key →
    paths.count (state.suppressedEntry suppression) = 1
  attempts : ∀ attempt ∈ adapter.reconnectAttempts, ¬ HasSession adapter attempt.key →
    ¬ adapter.Suppressed attempt.key → paths.count (state.reconnectEntry attempt) = 1
  terminals : ∀ session ∈ adapter.recentTerminalSessions 16, ¬ HasSession adapter session.key →
    ¬ adapter.Suppressed session.key → ¬ Reconnecting adapter session.key →
      ∃ taken ∈ adapter.recentTerminalSessions 16, taken.key = session.key ∧
        paths.count (state.terminalEntry taken) = 1
  candidates : ∀ inspection ∈ state.peers, ∀ trafficClass,
    (∃ decision : PathDecision, decision.trafficClass = trafficClass ∧
        state.candidateEntry inspection.snapshot.peer decision ∈ paths) ↔
      (∃ candidate ∈ state.pathCandidatesFor inspection.snapshot.peer,
        candidate.supportsClass trafficClass = true) ∧
      ∀ entry ∈ state.realizedPaths adapter,
        ¬ (entry.peer = inspection.snapshot.peer ∧ entry.trafficClass = trafficClass)
  only : ∀ entry ∈ paths,
    (∃ session ∈ adapter.activeSessions, entry = state.sessionEntry session) ∨
    (∃ suppression ∈ adapter.reconnectSuppressions, ¬ HasSession adapter suppression.key ∧
      entry = state.suppressedEntry suppression) ∨
    (∃ attempt ∈ adapter.reconnectAttempts, ¬ HasSession adapter attempt.key ∧
      ¬ adapter.Suppressed attempt.key ∧ entry = state.reconnectEntry attempt) ∨
    (∃ session ∈ adapter.recentTerminalSessions 16, ¬ HasSession adapter session.key ∧
      ¬ adapter.Suppressed session.key ∧ ¬ Reconnecting adapter session.key ∧
      entry = state.terminalEntry session) ∨
    ∃ inspection ∈ state.peers, ∃ decision,
      entry = state.candidateEntry inspection.snapshot.peer decision

theorem mem_keys_of_fills {α : Type} {covers : RuntimePathSnapshot → α → Bool}
    {entry : α → RuntimePathSnapshot} {keyOf : α → SessionKey}
    (hkey : ∀ item, (entry item).key = keyOf item)
    (hcovers : ∀ other item, covers other item = true → other.key = keyOf item)
    {listed : List RuntimePathSnapshot} {items added : List α}
    (h : Fills covers entry listed items added) (key : SessionKey) :
    (∃ other ∈ listed ++ added.map entry, other.key = key) ↔
      (∃ other ∈ listed, other.key = key) ∨ ∃ item ∈ items, keyOf item = key := by
  constructor
  · rintro ⟨other, hother, rfl⟩
    rcases List.mem_append.1 hother with hlisted | hadded
    · exact .inl ⟨other, hlisted, rfl⟩
    · obtain ⟨item, hitem, rfl⟩ := List.mem_map.1 hadded
      exact .inr ⟨item, h.sublist.subset hitem, (hkey item).symm⟩
  · rintro (⟨other, hother, hsame⟩ | ⟨item, hitem, rfl⟩)
    · exact ⟨other, List.mem_append_left _ hother, hsame⟩
    · rcases h.covered item hitem with hadded | ⟨other, hother, hcovered⟩
      · exact ⟨entry item, List.mem_append_right _ (List.mem_map_of_mem hadded), hkey item⟩
      · exact ⟨other, hother, hcovers other item hcovered⟩

section Sources
variable {state : DaemonState} {adapter : QuicTransportAdapter ρ}
  {suppressed : List ReconnectSuppression} {attempts : List RuntimeReconnectAttempt}
  {terminals : List SessionSnapshot}

structure Realized (state : DaemonState) (adapter : QuicTransportAdapter ρ)
    (suppressed : List ReconnectSuppression) (attempts : List RuntimeReconnectAttempt)
    (terminals : List SessionSnapshot) : Prop where
  suppressions : Fills DaemonState.coversSuppression state.suppressedEntry
    (adapter.activeSessions.map state.sessionEntry) adapter.reconnectSuppressions suppressed
  reconnects : Fills DaemonState.coversAttempt state.reconnectEntry
    (adapter.activeSessions.map state.sessionEntry ++ suppressed.map state.suppressedEntry)
      adapter.reconnectAttempts attempts
  closed : Fills DaemonState.coversTerminal state.terminalEntry
    (adapter.activeSessions.map state.sessionEntry ++ suppressed.map state.suppressedEntry ++
      attempts.map state.reconnectEntry) (adapter.recentTerminalSessions 16) terminals

theorem exists_realized (state : DaemonState) (adapter : QuicTransportAdapter ρ) :
    ∃ suppressed attempts terminals,
      state.realizedPaths adapter = adapter.activeSessions.map state.sessionEntry ++
        suppressed.map state.suppressedEntry ++ attempts.map state.reconnectEntry ++
          terminals.map state.terminalEntry ∧
      Realized state adapter suppressed attempts terminals := by
  obtain ⟨suppressed, hsuppressed, hfills₁⟩ := exists_fills DaemonState.coversSuppression state.suppressedEntry
    (adapter.activeSessions.map state.sessionEntry) adapter.reconnectSuppressions
  obtain ⟨attempts, hattempts, hfills₂⟩ := exists_fills DaemonState.coversAttempt state.reconnectEntry
    (adapter.activeSessions.map state.sessionEntry ++ suppressed.map state.suppressedEntry)
    adapter.reconnectAttempts
  obtain ⟨terminals, hterminals, hfills₃⟩ := exists_fills DaemonState.coversTerminal state.terminalEntry
    (adapter.activeSessions.map state.sessionEntry ++ suppressed.map state.suppressedEntry ++
      attempts.map state.reconnectEntry) (adapter.recentTerminalSessions 16)
  refine ⟨suppressed, attempts, terminals, ?_, hfills₁, hfills₂, hfills₃⟩
  rw [← hterminals, ← hattempts, ← hsuppressed]
  rfl

theorem key_listed_sessions (key : SessionKey) :
    (∃ other ∈ adapter.activeSessions.map state.sessionEntry, other.key = key) ↔
      HasSession adapter key := by
  simp [HasSession]

namespace Realized

variable (h : Realized state adapter suppressed attempts terminals)
include h

theorem key_listed_suppressed (key : SessionKey) :
    (∃ other ∈ adapter.activeSessions.map state.sessionEntry ++
      suppressed.map state.suppressedEntry, other.key = key) ↔
      HasSession adapter key ∨ adapter.Suppressed key := by
  rw [mem_keys_of_fills (key_suppressedEntry state) ?_ h.suppressions, key_listed_sessions]
  · rfl
  · intro other suppression hcovers
    simp only [DaemonState.coversSuppression, Bool.and_eq_true, decide_eq_true_eq] at hcovers
    exact hcovers.2

theorem key_listed_attempts (key : SessionKey) :
    (∃ other ∈ adapter.activeSessions.map state.sessionEntry ++
      suppressed.map state.suppressedEntry ++ attempts.map state.reconnectEntry, other.key = key) ↔
      HasSession adapter key ∨ adapter.Suppressed key ∨ Reconnecting adapter key := by
  rw [mem_keys_of_fills (key_reconnectEntry state) ?_ h.reconnects, h.key_listed_suppressed,
    or_assoc]
  · rfl
  · intro other attempt hcovers
    exact of_decide_eq_true hcovers

theorem mem_suppressed {suppression : ReconnectSuppression} : suppression ∈ suppressed ↔
    suppression ∈ adapter.reconnectSuppressions ∧ ¬ HasSession adapter suppression.key := by
  constructor
  · intro hmem
    refine ⟨h.suppressions.sublist.subset hmem, ?_⟩
    rintro ⟨session, hsession, hkey⟩
    have huncovered := h.suppressions.uncovered suppression hmem _ (List.mem_map_of_mem hsession)
    have hsome : (state.sessionEntry session).sessionId.isSome = true := rfl
    rw [DaemonState.coversSuppression, hsome, Bool.true_and] at huncovered
    exact of_decide_eq_false huncovered hkey
  · rintro ⟨hmem, hlive⟩
    rcases h.suppressions.covered suppression hmem with hadded | ⟨other, hother, hcovers⟩
    · exact hadded
    · simp only [DaemonState.coversSuppression, Bool.and_eq_true, decide_eq_true_eq] at hcovers
      rcases List.mem_append.1 hother with hsession | hadded
      · exact absurd ((key_listed_sessions _).1 ⟨other, hsession, hcovers.2⟩) hlive
      · obtain ⟨added, -, rfl⟩ := List.mem_map.1 hadded
        cases hcovers.1

theorem mem_attempts (hkeyed : Keyed adapter) {attempt : RuntimeReconnectAttempt} :
    attempt ∈ attempts ↔ attempt ∈ adapter.reconnectAttempts ∧ ¬ HasSession adapter attempt.key ∧
      ¬ adapter.Suppressed attempt.key := by
  rw [← not_or]
  constructor
  · intro hmem
    refine ⟨h.reconnects.sublist.subset hmem, ?_⟩
    rw [← h.key_listed_suppressed]
    rintro ⟨other, hother, hkey⟩
    exact of_decide_eq_false (h.reconnects.uncovered attempt hmem other hother) hkey
  · rintro ⟨hmem, hfree⟩
    rw [← h.key_listed_suppressed] at hfree
    rcases h.reconnects.covered attempt hmem with hadded | ⟨other, hother, hcovers⟩
    · exact hadded
    · have hkey : other.key = attempt.key := of_decide_eq_true hcovers
      rcases List.mem_append.1 hother with hbefore | hadded
      · exact absurd ⟨other, hbefore, hkey⟩ hfree
      · obtain ⟨added, hmemAdded, rfl⟩ := List.mem_map.1 hadded
        have hsame := List.inj_on_of_nodup_map hkeyed.attempts
          (h.reconnects.sublist.subset hmemAdded) hmem hkey
        rwa [← hsame]

theorem free_of_mem_terminals {session : SessionSnapshot} (hmem : session ∈ terminals) :
    session ∈ adapter.recentTerminalSessions 16 ∧ ¬ HasSession adapter session.key ∧
      ¬ adapter.Suppressed session.key ∧ ¬ Reconnecting adapter session.key := by
  rw [← not_or, ← not_or]
  refine ⟨h.closed.sublist.subset hmem, ?_⟩
  rw [← h.key_listed_attempts]
  rintro ⟨other, hother, hkey⟩
  exact of_decide_eq_false (h.closed.uncovered session hmem other hother) hkey

theorem exists_mem_terminals {session : SessionSnapshot}
    (hmem : session ∈ adapter.recentTerminalSessions 16) (hlive : ¬ HasSession adapter session.key)
    (hsuppressed : ¬ adapter.Suppressed session.key)
    (hreconnecting : ¬ Reconnecting adapter session.key) :
    ∃ taken ∈ terminals, taken.key = session.key := by
  rcases h.closed.covered session hmem with hadded | ⟨other, hother, hcovers⟩
  · exact ⟨session, hadded, rfl⟩
  · have hkey : other.key = session.key := of_decide_eq_true hcovers
    rcases List.mem_append.1 hother with hbefore | hadded
    · rcases (h.key_listed_attempts _).1 ⟨other, hbefore, hkey⟩ with hclaim | hclaim | hclaim
      · exact absurd hclaim hlive
      · exact absurd hclaim hsuppressed
      · exact absurd hclaim hreconnecting
    · obtain ⟨taken, htaken, rfl⟩ := List.mem_map.1 hadded
      exact ⟨taken, htaken, hkey⟩

theorem nodup_keys (hsessions : (adapter.activeSessions.map SessionSnapshot.key).Nodup)
    (hkeyed : Keyed adapter) :
    ((adapter.activeSessions.map state.sessionEntry ++ suppressed.map state.suppressedEntry ++
      attempts.map state.reconnectEntry ++ terminals.map state.terminalEntry).map
        RuntimePathSnapshot.key).Nodup := by
  have hfirst : ((adapter.activeSessions.map state.sessionEntry).map
      RuntimePathSnapshot.key).Nodup := by
    rw [List.map_map]
    exact hsessions
  have hsecond : ((adapter.activeSessions.map state.sessionEntry ++
      suppressed.map state.suppressedEntry).map RuntimePathSnapshot.key).Nodup := by
    refine nodup_keys_append (key_suppressedEntry state) hfirst
      ((h.suppressions.sublist.map _).nodup hkeyed.suppressions) ?_
    intro suppression hsuppression other hother hkey
    exact (h.mem_suppressed.1 hsuppression).2 ((key_listed_sessions _).1 ⟨other, hother, hkey⟩)
  have hthird : ((adapter.activeSessions.map state.sessionEntry ++
      suppressed.map state.suppressedEntry ++ attempts.map state.reconnectEntry).map
        RuntimePathSnapshot.key).Nodup := by
    refine nodup_keys_append (key_reconnectEntry state) hsecond
      ((h.reconnects.sublist.map _).nodup hkeyed.attempts) ?_
    intro attempt hattempt other hother
    exact of_decide_eq_false (h.reconnects.uncovered attempt hattempt other hother)
  refine nodup_keys_append (key_terminalEntry state) hthird ?_ ?_
  · rw [List.Nodup, List.pairwise_map]
    exact h.closed.pairwise.imp fun hne => of_decide_eq_false hne
  · intro session hsession other hother
    exact of_decide_eq_false (h.closed.uncovered session hsession other hother)

end Realized

theorem reconnectEntry_ne_candidateEntry (attempt : RuntimeReconnectAttempt) (peer : PeerId)
    (decision : PathDecision) :
    state.reconnectEntry attempt ≠ state.candidateEntry peer decision := by
  intro heq
  have hstate := congrArg RuntimePathSnapshot.state heq
  have hreason := congrArg RuntimePathSnapshot.stateReason heq
  unfold DaemonState.reconnectEntry DaemonState.candidateEntry runtimeReconnectPathStatus
    at hstate hreason
  cases hattempt : attempt.state with
  | failed =>
    rw [hattempt] at hstate
    cases hstate
  | backingOff =>
    -- the two reasons differ in their first letter
    rw [hattempt] at hreason
    have hfirst := congrArg (fun reason => reason.map fun text : String => text.toList.head?) hreason
    simp at hfirst

theorem not_candidateEntry (peer : PeerId) (decision : PathDecision) :
    state.candidateEntry peer decision ∉
      adapter.activeSessions.map state.sessionEntry ++ suppressed.map state.suppressedEntry ++
        attempts.map state.reconnectEntry ++ terminals.map state.terminalEntry := by
  intro hmem
  simp only [List.mem_append, List.mem_map] at hmem
  rcases hmem with ((⟨session, -, heq⟩ | ⟨suppression, -, heq⟩) | ⟨attempt, -, heq⟩) |
    ⟨session, -, heq⟩
  · cases congrArg RuntimePathSnapshot.sessionId heq
  · cases congrArg RuntimePathSnapshot.state heq
  · exact reconnectEntry_ne_candidateEntry attempt peer decision heq
  · cases congrArg RuntimePathSnapshot.sessionId heq

/-- The list is the entries of the first four sources and of the candidates that none of
them covers, in order. -/
theorem runtimePaths_perm (state : DaemonState) (adapter : QuicTransportAdapter ρ) :
    ∃ candidates, (state.runtimePaths adapter).Perm
        (state.realizedPaths adapter ++ candidates.map state.itemEntry) ∧
      Fills DaemonState.coversClass state.itemEntry (state.realizedPaths adapter)
        state.candidateItems candidates := by
  obtain ⟨candidates, hpushed, hfills⟩ := exists_fills DaemonState.coversClass state.itemEntry
    (state.realizedPaths adapter) state.candidateItems
  refine ⟨candidates, ?_, hfills⟩
  rw [← hpushed]
  refine (List.perm_insertionSort _ _).trans (List.Perm.of_eq ?_)
  exact state.foldl_pushCandidates _ _

instance : TransCmp runtimePathOrder := by
  unfold runtimePathOrder
  infer_instance

theorem runtimePaths_sorted (state : DaemonState) (adapter : QuicTransportAdapter ρ) :
    (state.runtimePaths adapter).Pairwise fun a b => (runtimePathOrder a b).isLE = true := by
  have htrans : IsTrans RuntimePathSnapshot fun a b => (runtimePathOrder a b).isLE = true :=
    ⟨fun _ _ _ => TransCmp.isLE_trans⟩
  have htotal : Std.Total fun a b => (runtimePathOrder a b).isLE = true := by
    refine ⟨fun a b => ?_⟩
    have hswap : runtimePathOrder b a = (runtimePathOrder a b).swap := OrientedCmp.eq_swap
    rw [hswap]
    cases runtimePathOrder a b <;> simp
  exact List.pairwise_insertionSort _ _

theorem candidates_listed_iff {candidates : List (PeerId × PathDecision)}
    (hfills : Fills DaemonState.coversClass state.itemEntry (state.realizedPaths adapter)
      state.candidateItems candidates) {peer : PeerId}
    (hpeer : ∃ inspection ∈ state.peers, inspection.snapshot.peer = peer)
    (trafficClass : TrafficClass) :
    (∃ decision : PathDecision, decision.trafficClass = trafficClass ∧ (peer, decision) ∈ candidates) ↔
      (∃ candidate ∈ state.pathCandidatesFor peer, candidate.supportsClass trafficClass = true) ∧
      ∀ entry ∈ state.realizedPaths adapter,
        ¬ (entry.peer = peer ∧ entry.trafficClass = trafficClass) := by
  rw [← selectBestPath_isSome_iff]
  constructor
  · rintro ⟨decision, rfl, hmem⟩
    have hselect := (DaemonState.mem_candidateItems.1 (hfills.sublist.subset hmem)).2
    refine ⟨Option.isSome_iff_exists.2 ⟨decision, hselect⟩, ?_⟩
    rintro entry hentry ⟨hsame, hclass⟩
    have huncovered := hfills.uncovered _ hmem entry hentry
    simp [DaemonState.coversClass, hsame, hclass] at huncovered
  · rintro ⟨hsome, hfree⟩
    obtain ⟨decision, hselect⟩ := Option.isSome_iff_exists.1 hsome
    have hclass := DaemonState.selectBestPath_class hselect
    have hitem : (peer, decision) ∈ state.candidateItems :=
      DaemonState.mem_candidateItems.2 ⟨hpeer, by rw [hclass, hselect]⟩
    rcases hfills.covered _ hitem with hadded | ⟨other, hother, hcovers⟩
    · exact ⟨decision, hclass, hadded⟩
    · simp only [DaemonState.coversClass, Bool.and_eq_true, decide_eq_true_eq, hclass] at hcovers
      rcases List.mem_append.1 hother with hrealized | hadded
      · exact absurd hcovers (hfree other hrealized)
      · obtain ⟨⟨taken, chosen⟩, htaken, rfl⟩ := List.mem_map.1 hadded
        obtain ⟨rfl, hchosen⟩ := hcovers
        exact ⟨chosen, hchosen, htaken⟩

theorem nodup_keys_of_candidates {candidates : List (PeerId × PathDecision)}
    (hfills : Fills DaemonState.coversClass state.itemEntry (state.realizedPaths adapter)
      state.candidateItems candidates)
    (hrealized : ((state.realizedPaths adapter).map RuntimePathSnapshot.key).Nodup) :
    ((state.realizedPaths adapter ++ candidates.map state.itemEntry).map
      RuntimePathSnapshot.key).Nodup := by
  refine nodup_keys_append state.key_itemEntry hrealized ?_ ?_
  · rw [List.Nodup, List.pairwise_map]
    refine hfills.pairwise.imp ?_
    intro first later huncovered heq
    simp only [DaemonState.itemKey, SessionKey.mk.injEq] at heq
    simp [DaemonState.coversClass, DaemonState.itemEntry, DaemonState.candidateEntry, heq]
      at huncovered
  · intro item hitem other hother heq
    have huncovered := hfills.uncovered item hitem other hother
    have hpeer : other.peer = item.1 := congrArg SessionKey.peer heq
    have hclass : other.trafficClass = item.2.trafficClass := congrArg SessionKey.trafficClass heq
    simp [DaemonState.coversClass, hpeer, hclass] at huncovered

theorem Realized.source (h : Realized state adapter suppressed attempts terminals)
    (hkeyed : Keyed adapter) {entry : RuntimePathSnapshot}
    (hentry : entry ∈ adapter.activeSessions.map state.sessionEntry ++
      suppressed.map state.suppressedEntry ++ attempts.map state.reconnectEntry ++
        terminals.map state.terminalEntry) :
    (∃ session ∈ adapter.activeSessions, entry = state.sessionEntry session) ∨
    (∃ suppression ∈ adapter.reconnectSuppressions, ¬ HasSession adapter suppression.key ∧
      entry = state.suppressedEntry suppression) ∨
    (∃ attempt ∈ adapter.reconnectAttempts, ¬ HasSession adapter attempt.key ∧
      ¬ adapter.Suppressed attempt.key ∧ entry = state.reconnectEntry attempt) ∨
    ∃ session ∈ adapter.recentTerminalSessions 16, ¬ HasSession adapter session.key ∧
      ¬ adapter.Suppressed session.key ∧ ¬ Reconnecting adapter session.key ∧
      entry = state.terminalEntry session := by
  simp only [List.mem_append, List.mem_map] at hentry
  rcases hentry with ((⟨session, hsession, rfl⟩ | ⟨suppression, hsuppression, rfl⟩) |
    ⟨attempt, hattempt, rfl⟩) | ⟨session, hsession, rfl⟩
  · exact .inl ⟨session, hsession, rfl⟩
  · obtain ⟨hlisted, hlive⟩ := h.mem_suppressed.1 hsuppression
    exact .inr (.inl ⟨suppression, hlisted, hlive, rfl⟩)
  · obtain ⟨hlisted, hlive, hfree⟩ := (h.mem_attempts hkeyed).1 hattempt
    exact .inr (.inr (.inl ⟨attempt, hlisted, hlive, hfree, rfl⟩))
  · obtain ⟨hlisted, hlive, hfree, hreconnecting⟩ := h.free_of_mem_terminals hsession
    exact .inr (.inr (.inr ⟨session, hlisted, hlive, hfree, hreconnecting, rfl⟩))

theorem runtimePaths_partition (hsessions : (adapter.activeSessions.map SessionSnapshot.key).Nodup)
    (hkeyed : Keyed adapter) : PathsPartition state adapter (state.runtimePaths adapter) := by
  obtain ⟨suppressed, attempts, terminals, hpaths, hrealized⟩ := exists_realized state adapter
  obtain ⟨candidates, hperm, hfills⟩ := runtimePaths_perm state adapter
  have hkeys : ((state.runtimePaths adapter).map RuntimePathSnapshot.key).Nodup := by
    rw [(hperm.map _).nodup_iff]
    apply nodup_keys_of_candidates hfills
    rw [hpaths]
    exact hrealized.nodup_keys hsessions hkeyed
  have hmem : ∀ entry, entry ∈ state.runtimePaths adapter ↔
      (entry ∈ adapter.activeSessions.map state.sessionEntry ++
        suppressed.map state.suppressedEntry ++ attempts.map state.reconnectEntry ++
          terminals.map state.terminalEntry) ∨ entry ∈ candidates.map state.itemEntry := by
    intro entry
    rw [hperm.mem_iff, List.mem_append, hpaths]
  have honce : ∀ entry ∈ state.runtimePaths adapter, (state.runtimePaths adapter).count entry = 1 :=
    fun entry hentry => List.count_eq_one_of_mem hkeys.of_map hentry
  refine ⟨hkeys, runtimePaths_sorted state adapter, ?_, ?_, ?_, ?_, ?_, ?_⟩
  · intro session hsession
    refine honce _ ((hmem _).2 (.inl ?_))
    simp only [List.mem_append]
    exact .inl (.inl (.inl (List.mem_map_of_mem hsession)))
  · intro suppression hsuppression hlive
    refine honce _ ((hmem _).2 (.inl ?_))
    simp only [List.mem_append]
    exact .inl (.inl (.inr (List.mem_map_of_mem
      (hrealized.mem_suppressed.2 ⟨hsuppression, hlive⟩))))
  · intro attempt hattempt hlive hfree
    refine honce _ ((hmem _).2 (.inl ?_))
    simp only [List.mem_append]
    exact .inl (.inr (List.mem_map_of_mem
      ((hrealized.mem_attempts hkeyed).2 ⟨hattempt, hlive, hfree⟩)))
  · intro session hsession hlive hfree hreconnecting
    obtain ⟨taken, htaken, hkey⟩ :=
      hrealized.exists_mem_terminals hsession hlive hfree hreconnecting
    refine ⟨taken, (hrealized.free_of_mem_terminals htaken).1, hkey, ?_⟩
    exact honce _ ((hmem _).2 (.inl (List.mem_append_right _ (List.mem_map_of_mem htaken))))
  · intro inspection hinspection trafficClass
    rw [← candidates_listed_iff hfills ⟨inspection, hinspection, rfl⟩ trafficClass]
    constructor
    · rintro ⟨decision, hclass, hentry⟩
      rcases (hmem _).1 hentry with hbefore | hadded
      · exact absurd hbefore (not_candidateEntry _ _)
      · obtain ⟨⟨taken, chosen⟩, htaken, heq⟩ := List.mem_map.1 hadded
        have hpeer : taken = inspection.snapshot.peer := congrArg RuntimePathSnapshot.peer heq
        have hchosen : chosen.trafficClass = decision.trafficClass :=
          congrArg RuntimePathSnapshot.trafficClass heq
        rw [hpeer] at htaken
        exact ⟨chosen, hchosen.trans hclass, htaken⟩
    · rintro ⟨decision, hclass, hadded⟩
      exact ⟨decision, hclass, (hmem _).2 (.inr (List.mem_map.2 ⟨_, hadded, rfl⟩))⟩
  · intro entry hentry
    rcases (hmem entry).1 hentry with hbefore | hadded
    · rcases hrealized.source hkeyed hbefore with hsession | hsuppression | hattempt | hterminal
      · exact .inl hsession
      · exact .inr (.inl hsuppression)
      · exact .inr (.inr (.inl hattempt))
      · exact .inr (.inr (.inr (.inl hterminal)))
    · obtain ⟨item, hitem, rfl⟩ := List.mem_map.1 hadded
      obtain ⟨⟨inspection, hinspection, hpeer⟩, -⟩ :=
        DaemonState.mem_candidateItems.1 (hfills.sublist.subset hitem)
      refine .inr (.inr (.inr (.inr ⟨inspection, hinspection, item.2, ?_⟩)))
      rw [hpeer]
      rfl

end Sources

section Hashing
variable [Primitives]

/-- `runtime_paths` reports a partition by key, for every state it loads. -/
theorem reported_paths_partition {config : DaemonConfig} {world opened : World ρ}
    {state : DaemonState} (hstate : LocalControlPlane.ensureState config world = .ok state opened)
    (hsessions : (world.transport.activeSessions.map SessionSnapshot.key).Nodup)
    (hkeyed : Keyed world.transport) :
    ∃ paths, LocalControlPlane.runtimePaths config world = .ok paths opened ∧
      PathsPartition state world.transport paths := by
  have hopened := (LocalControlPlane.ensureState_ok hstate world.transport).2
  refine ⟨_, ?_, runtimePaths_partition hsessions hkeyed⟩
  rw [LocalControlPlane.runtimePaths, bind_of_ok hstate, bind_of_ok (get_run _), pure_run, hopened]

end Hashing

section Closed
attribute [local instance] Primitives.transparent

def crowdedWorld : World Unit :=
  ⟨some (.durable (fixtureDaemonState "mesh")),
    { final (closeSession (meshSession 2 .directUdp fixtureRelayPeer))
        (meshTransport
          [meshSession 1 .directUdp fixtureWorkerPeer,
            meshSession 2 .directUdp fixtureRelayPeer]
          [LocalControlPlane.liftedDenial,
            { LocalControlPlane.liftedDenial with trafficClass := .control }]) with
      reconnectAttempts := [⟨fixtureWorkerPeer, some ⟨"/quip/records/1"⟩, .interactive, .backingOff,
        "no route", 1, 1720000000, 1720000005, 5⟩] }⟩

theorem crowdedWorld_paths : ∃ paths,
    LocalControlPlane.runtimePaths meshConfig crowdedWorld = .ok paths crowdedWorld ∧
      PathsPartition (LocalControlPlane.prepared meshConfig (fixtureDaemonState "mesh"))
        crowdedWorld.transport paths ∧
      (∀ state ∈ [.active, .failed, .suppressed, .candidate],
        state ∈ paths.map RuntimePathSnapshot.state) ∧ paths.length = 8 := by
  have hkeyed : Keyed crowdedWorld.transport := ⟨by decide +kernel, by decide +kernel⟩
  have hload : LocalControlPlane.ensureState meshConfig crowdedWorld =
      .ok (LocalControlPlane.prepared meshConfig (fixtureDaemonState "mesh")) crowdedWorld := rfl
  obtain ⟨paths, hrun, hpartition⟩ := reported_paths_partition hload (by decide +kernel) hkeyed
  have hstates : okWith (fun paths _ => (∀ state ∈ [.active, .failed, .suppressed, .candidate],
      state ∈ paths.map RuntimePathSnapshot.state) ∧ paths.length = 8)
      (LocalControlPlane.runtimePaths meshConfig crowdedWorld) = true := by
    decide +kernel
  rw [hrun] at hstates
  exact ⟨paths, hrun, hpartition, of_decide_eq_true hstates⟩

end Closed

end QuipNet.Fabric
