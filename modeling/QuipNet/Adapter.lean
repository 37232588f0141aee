import QuipNet.Calendar
import QuipNet.Relay
import QuipNet.Transport

/-!
# The runtime registries of the QUIC adapter

The adapter's registries are behind locks and private, so each operation is a
function on the whole adapter. Sessions are stored under their own session id,
which the registry's type records. Clock readings and random bytes come from
streams that the host supplies; relays are reached through `RelayControl`, whose
answers may depend on a state of its own.
-/

open Std
namespace QuipNet.Quic
open QuipNet.Relay QuipNet.Transport

/-! ## The session registry -/

structure RuntimeSessionRecord where
  snapshot : SessionSnapshot
  alpnProtocol : Option String
deriving DecidableEq, Repr

theorem keyed_empty (id : SessionId) (record : RuntimeSessionRecord)
    (h : (∅ : TreeMap SessionId RuntimeSessionRecord)[id]? = some record) :
    record.snapshot.sessionId = id := by
  simp at h

/-- `BTreeMap<[u8; 16], RuntimeSessionRecord>`, keyed by the session id. -/
structure SessionRegistry where
  entries : TreeMap SessionId RuntimeSessionRecord := ∅
  keyed : ∀ (id : SessionId) (record : RuntimeSessionRecord),
    entries[id]? = some record → record.snapshot.sessionId = id := by exact keyed_empty

def moved (snapshot : SessionSnapshot) (state : RuntimeSessionState)
    (closureReason : Option SessionClosureReason) (stateReason : Option String) (now : ℕ) :
    SessionSnapshot :=
  { snapshot with state, closureReason, stateReason, lastActivityUnixSecs := now }

namespace SessionRegistry

def find (registry : SessionRegistry) (id : SessionId) : Option RuntimeSessionRecord :=
  registry.entries[id]?

def insert (registry : SessionRegistry) (record : RuntimeSessionRecord) : SessionRegistry where
  entries := registry.entries.insert record.snapshot.sessionId record
  keyed := by
    intro id other h
    rw [TreeMap.getElem?_insert] at h
    split_ifs at h with hid
    · cases h
      exact LawfulEqOrd.eq_of_compare hid
    · exact registry.keyed id other h

def remove (registry : SessionRegistry) (id : SessionId) : SessionRegistry where
  entries := registry.entries.erase id
  keyed := by
    intro other record h
    rw [TreeMap.getElem?_erase] at h
    split_ifs at h
    exact registry.keyed other record h

def move (registry : SessionRegistry) (id : SessionId) (state : RuntimeSessionState)
    (closureReason : Option SessionClosureReason) (stateReason : Option String) (now : ℕ) :
    SessionRegistry where
  entries := registry.entries.modify id fun record =>
    { record with snapshot := moved record.snapshot state closureReason stateReason now }
  keyed := by
    intro other record h
    rw [TreeMap.getElem?_modify] at h
    split_ifs at h with hid
    · obtain ⟨before, hbefore, rfl⟩ := Option.map_eq_some_iff.1 h
      exact (registry.keyed id before hbefore).trans (LawfulEqOrd.eq_of_compare hid)
    · exact registry.keyed other record h

def snapshots (registry : SessionRegistry) : List SessionSnapshot :=
  registry.entries.toList.map fun entry => entry.2.snapshot

@[simp] theorem find_insert (registry : SessionRegistry) (record : RuntimeSessionRecord)
    (id : SessionId) :
    (registry.insert record).find id =
      if record.snapshot.sessionId = id then some record else registry.find id := by
  simp [find, insert, TreeMap.getElem?_insert]

@[simp] theorem find_remove (registry : SessionRegistry) (id other : SessionId) :
    (registry.remove id).find other = if id = other then none else registry.find other := by
  simp [find, remove, TreeMap.getElem?_erase]

theorem find_move (registry : SessionRegistry) (id other : SessionId)
    (state : RuntimeSessionState) (closureReason : Option SessionClosureReason)
    (stateReason : Option String) (now : ℕ) :
    (registry.move id state closureReason stateReason now).find other =
      if id = other then (registry.find id).map fun record =>
        { record with snapshot := moved record.snapshot state closureReason stateReason now }
      else registry.find other := by
  simp [find, move, TreeMap.getElem?_modify]

theorem sessionId_of_find {registry : SessionRegistry} {id : SessionId}
    {record : RuntimeSessionRecord} (h : registry.find id = some record) :
    record.snapshot.sessionId = id :=
  registry.keyed id record h

theorem mem_snapshots {registry : SessionRegistry} {snapshot : SessionSnapshot} :
    snapshot ∈ registry.snapshots ↔
      ∃ record, registry.find snapshot.sessionId = some record ∧ record.snapshot = snapshot := by
  simp only [snapshots, List.mem_map, Prod.exists, TreeMap.mem_toList_iff_getElem?_eq_some]
  constructor
  · rintro ⟨id, record, hentry, rfl⟩
    have hid := registry.keyed id record hentry
    exact ⟨record, by rw [find, hid, hentry], rfl⟩
  · rintro ⟨record, hentry, hsnapshot⟩
    exact ⟨_, record, hentry, hsnapshot⟩

theorem snapshots_pairwise (registry : SessionRegistry) :
    registry.snapshots.Pairwise fun a b => a.sessionId ≠ b.sessionId := by
  rw [snapshots, List.pairwise_map]
  refine TreeMap.distinct_keys_toList.imp_of_mem ?_
  intro a b ha hb hkeys heq
  have hida := registry.keyed a.1 a.2 (TreeMap.mem_toList_iff_getElem?_eq_some.1 ha)
  have hidb := registry.keyed b.1 b.2 (TreeMap.mem_toList_iff_getElem?_eq_some.1 hb)
  apply hkeys
  rw [← hida, ← hidb, heq]
  exact ReflCmp.compare_self

end SessionRegistry

/-! ## The adapter -/

structure RelayControl (ρ : Type) where
  openSession : String → RelayOpenRequest → ρ → Except RelayError RelaySessionAccepted × ρ
  closeSession : String → SessionId → String → ρ → Except RelayError Unit × ρ

/-- Clock readings in nanoseconds and random bytes, both consumed in order. -/
structure Host where
  clock : ℕ → ℕ
  readings : ℕ := 0
  entropy : ℕ → UInt8
  drawn : ℕ := 0

structure QuicTransportAdapter (ρ : Type) where
  supportsDatagrams : Bool := true
  supportsPathMigration : Bool := true
  runtimeInstanceId : String
  networkId : Option NetworkId := none
  localIdentity : Option IdentityKeypair := none
  relayControl : RelayControl ρ
  relays : ρ
  runtimeSessions : SessionRegistry := {}
  terminalSessions : List RuntimeSessionRecord := []
  runtimeListeners : TreeMap String RuntimeListenerSnapshot := ∅
  runtimeEvents : List RuntimeEvent := []
  reconnectSuppressions : List ReconnectSuppression := []
  reconnectAttempts : List RuntimeReconnectAttempt := []
  host : Host

def maxTerminalSessions : ℕ := 32

def maxRuntimeEvents : ℕ := 256

def protocolJson (protocol : Option ProtocolId) : Json :=
  Json.option (fun id => .string id.text) protocol

def sessionSubject (sessionId : SessionId) : RuntimeEventSubject := ⟨"session", sessionId.hex⟩

def peerSubject (peer : PeerId) : RuntimeEventSubject := ⟨"peer", peer.toText⟩

def runtimeEventTypeForState : RuntimeSessionState → String
  | .closing => "session.closing"
  | .failed => "session.failed"
  | _ => "session.state_changed"

def pathClassLabel (pathKind : PathKind) : String := if pathKind = .relay then "relay" else "direct"

def reconnectAttemptStateLabel : RuntimeReconnectAttemptState → String
  | .backingOff => "backing_off"
  | .failed => "failed"

def saturate64 (n : ℕ) : ℕ := min n (2 ^ 64 - 1)

namespace QuicTransportAdapter

variable {ρ : Type}

def withRelayControl (adapter : QuicTransportAdapter ρ) (relayControl : RelayControl ρ)
    (relays : ρ) : QuicTransportAdapter ρ :=
  { adapter with relayControl, relays }

def currentUnixNanos (adapter : QuicTransportAdapter ρ) : ℕ :=
  adapter.host.clock adapter.host.readings

def currentUnixSecs (adapter : QuicTransportAdapter ρ) : ℕ := adapter.currentUnixNanos / 1000000000

def ticked (adapter : QuicTransportAdapter ρ) : QuicTransportAdapter ρ :=
  { adapter with host := { adapter.host with readings := adapter.host.readings + 1 } }

def lastOf {α : Type} (max : ℕ) (items : List α) : List α := items.drop (items.length - max)

def emitRuntimeEvent (eventType : String) (subject : RuntimeEventSubject) (details : Json)
    (adapter : QuicTransportAdapter ρ) : QuicTransportAdapter ρ :=
  let event : RuntimeEvent :=
    { eventId := "evt-" ++ Nat.repr adapter.currentUnixNanos
      eventType
      emittedAt := Calendar.iso8601Seconds adapter.ticked.currentUnixSecs ++ "Z"
      truthKind := "runtime"
      subject
      details }
  { adapter.ticked.ticked with
    runtimeEvents := lastOf maxRuntimeEvents (adapter.runtimeEvents ++ [event]) }

def activeSessions (adapter : QuicTransportAdapter ρ) : List SessionSnapshot :=
  adapter.runtimeSessions.snapshots

def sessionSnapshot (adapter : QuicTransportAdapter ρ) (sessionId : SessionId) :
    Option SessionSnapshot :=
  (adapter.runtimeSessions.find sessionId).map RuntimeSessionRecord.snapshot

def updateSessionState (sessionId : SessionId) (state : RuntimeSessionState)
    (closureReason : Option SessionClosureReason) (stateReason : Option String)
    (adapter : QuicTransportAdapter ρ) : Option SessionSnapshot × QuicTransportAdapter ρ :=
  match adapter.sessionSnapshot sessionId with
  | none => (none, adapter)
  | some prior =>
    let snapshot := moved prior state closureReason stateReason adapter.currentUnixSecs
    let written := { adapter.ticked with
      runtimeSessions := adapter.runtimeSessions.move sessionId state closureReason stateReason
        adapter.currentUnixSecs }
    (some snapshot, written.emitRuntimeEvent (runtimeEventTypeForState state)
      (sessionSubject snapshot.sessionId)
      (.object [("peer_id", .string snapshot.peer.toText),
        ("prior_state", .string prior.state.label),
        ("next_state", .string snapshot.state.label),
        ("closure_reason", Json.option (fun reason => .string reason.label) closureReason),
        ("reason", Json.option .string stateReason)]))

/-! ### Reconnect suppressions and attempts -/

def findReconnectSuppression (adapter : QuicTransportAdapter ρ) (key : SessionKey) :
    Option ReconnectSuppression :=
  adapter.reconnectSuppressions.find? fun entry => entry.key = key

def suppressReconnect (key : SessionKey) (reason : String) (adapter : QuicTransportAdapter ρ) :
    QuicTransportAdapter ρ :=
  let now := adapter.currentUnixSecs
  let suppressions :=
    if adapter.reconnectSuppressions.any fun entry => entry.key = key then
      adapter.reconnectSuppressions.replaceF fun entry =>
        if entry.key = key then some { entry with reason, imposedAtUnixSecs := now } else none
    else adapter.reconnectSuppressions ++
      [⟨key.peer, key.protocol, key.trafficClass, reason, now⟩]
  { adapter.ticked with reconnectSuppressions := suppressions }.emitRuntimeEvent
    "reconnect.suppressed" (peerSubject key.peer)
    (.object [("protocol", protocolJson key.protocol),
      ("class", .string key.trafficClass.label), ("reason", .string reason)])

def clearReconnectSuppression (key : SessionKey) (adapter : QuicTransportAdapter ρ) :
    QuicTransportAdapter ρ :=
  let cleared := { adapter with reconnectSuppressions :=
    adapter.reconnectSuppressions.filter fun entry => entry.key ≠ key }
  match adapter.findReconnectSuppression key with
  | none => cleared
  | some removed =>
    cleared.emitRuntimeEvent "reconnect.unsuppressed" (peerSubject key.peer)
      (.object [("protocol", protocolJson key.protocol),
        ("class", .string key.trafficClass.label),
        ("prior_reason", .string removed.reason),
        ("imposed_at_unix_secs", .number removed.imposedAtUnixSecs)])

def nextAttempt (existing : RuntimeReconnectAttempt) (reason : String) (maxAttempts : UInt32)
    (baseBackoffSecs maxBackoffSecs now : ℕ) : RuntimeReconnectAttempt :=
  let attemptCount := existing.attemptCount + 1
  let exp := min (attemptCount.toNat - 1) 16
  let backoff := min (saturate64 (baseBackoffSecs * 2 ^ exp)) maxBackoffSecs
  { existing with
    attemptCount
    reason
    lastAttemptUnixSecs := now
    state := if attemptCount ≥ maxAttempts then .failed else .backingOff
    nextAttemptUnixSecs := saturate64 (now + backoff)
    maxAttempts }

def firstAttempt (key : SessionKey) (reason : String) (maxAttempts : UInt32)
    (baseBackoffSecs maxBackoffSecs now : ℕ) : RuntimeReconnectAttempt where
  peer := key.peer
  protocol := key.protocol
  trafficClass := key.trafficClass
  state := if maxAttempts ≤ 1 then .failed else .backingOff
  reason := reason
  attemptCount := 1
  lastAttemptUnixSecs := now
  nextAttemptUnixSecs := saturate64 (now + min baseBackoffSecs maxBackoffSecs)
  maxAttempts := maxAttempts

/-- The attempt a schedule call records, and the list that holds it. -/
def upsertAttempt (attempts : List RuntimeReconnectAttempt) (key : SessionKey) (reason : String)
    (maxAttempts : UInt32) (baseBackoffSecs maxBackoffSecs now : ℕ) :
    RuntimeReconnectAttempt × List RuntimeReconnectAttempt :=
  match attempts.find? fun attempt => attempt.key = key with
  | some existing =>
    let next := nextAttempt existing reason maxAttempts baseBackoffSecs maxBackoffSecs now
    (next, attempts.replaceF fun attempt => if attempt.key = key then some next else none)
  | none =>
    let first := firstAttempt key reason maxAttempts baseBackoffSecs maxBackoffSecs now
    (first, attempts ++ [first])

def scheduleReconnect (key : SessionKey) (reason : String) (maxAttempts : UInt32)
    (baseBackoffSecs maxBackoffSecs : ℕ) (adapter : QuicTransportAdapter ρ) :
    RuntimeReconnectAttempt × QuicTransportAdapter ρ :=
  let upserted := upsertAttempt adapter.reconnectAttempts key reason maxAttempts baseBackoffSecs
    maxBackoffSecs adapter.currentUnixSecs
  let snapshot := upserted.1
  let written := { adapter.ticked with reconnectAttempts := upserted.2 }
  let scheduled := written.emitRuntimeEvent
    (if snapshot.state = .failed then "reconnect.failed" else "reconnect.retry_scheduled")
    (peerSubject key.peer)
    (.object [("protocol", protocolJson key.protocol), ("class", .string key.trafficClass.label),
      ("state", .string (reconnectAttemptStateLabel snapshot.state)),
      ("attempt_count", .number snapshot.attemptCount.toNat),
      ("next_attempt_unix_secs", .number snapshot.nextAttemptUnixSecs),
      ("backoff_secs", .number (snapshot.nextAttemptUnixSecs - snapshot.lastAttemptUnixSecs)),
      ("max_attempts", .number snapshot.maxAttempts.toNat), ("reason", .string snapshot.reason)])
  if snapshot.state = .failed then
    (snapshot, scheduled.emitRuntimeEvent "path.failed" (peerSubject key.peer)
      (.object [("protocol", protocolJson key.protocol), ("class", .string key.trafficClass.label),
        ("cause", .string "reconnect_exhausted"),
        ("attempt_count", .number snapshot.attemptCount.toNat),
        ("max_attempts", .number snapshot.maxAttempts.toNat), ("reason", .string snapshot.reason)]))
  else (snapshot, scheduled)

def clearReconnectAttempt (key : SessionKey) (outcomeReason : Option String)
    (adapter : QuicTransportAdapter ρ) : QuicTransportAdapter ρ :=
  let cleared := { adapter with reconnectAttempts :=
    adapter.reconnectAttempts.filter fun attempt => attempt.key ≠ key }
  match adapter.reconnectAttempts.find? fun attempt => attempt.key = key with
  | none => cleared
  | some snapshot =>
    let eventType := match outcomeReason with
      | some reason =>
        if contains reason "succeeded" || contains reason "active" then "reconnect.succeeded"
        else "reconnect.cleared"
      | none => "reconnect.cleared"
    cleared.emitRuntimeEvent eventType (peerSubject key.peer)
      (.object [("protocol", protocolJson key.protocol), ("class", .string key.trafficClass.label),
        ("state", .string (reconnectAttemptStateLabel snapshot.state)),
        ("attempt_count", .number snapshot.attemptCount.toNat),
        ("reason", Json.option .string outcomeReason)])

/-! ### Listeners -/

def activeListeners (adapter : QuicTransportAdapter ρ) : List RuntimeListenerSnapshot :=
  adapter.runtimeListeners.toList.map Prod.snd

def updateListenerState (listenerId : String) (state : RuntimeListenerState)
    (stateReason : Option String) (adapter : QuicTransportAdapter ρ) : QuicTransportAdapter ρ :=
  { adapter with runtimeListeners := adapter.runtimeListeners.modify listenerId fun snapshot =>
      { snapshot with state, stateReason } }

def runtimeListenerId [Primitives] (runtimeInstanceId : String) (bind : BindSpec) (nanos : ℕ) :
    String :=
  let digest := Primitives.blake3 (asBytes runtimeInstanceId ++ asBytes bind.protocol.text ++
    asBytes (if bind.advertise then "1" else "0") ++ asBytes (Nat.repr nanos))
  "lst-" ++ String.ofList ((digest.toList.flatMap hexByte).take 16)

/-- `listen`; the id is drawn from one clock reading, the start time from the next. -/
def listen [Primitives] (bind : BindSpec) (adapter : QuicTransportAdapter ρ) :
    QuicTransportAdapter ρ :=
  let listener : RuntimeListenerSnapshot :=
    { listenerId := runtimeListenerId adapter.runtimeInstanceId bind adapter.currentUnixNanos
      transport := "quic"
      bindSummary := "protocol=" ++ bind.protocol.text ++ " advertise=" ++
        (if bind.advertise then "true" else "false") ++ " runtime_instance=" ++
        adapter.runtimeInstanceId
      protocol := bind.protocol
      advertise := bind.advertise
      state := .active
      stateReason := none
      startedAtUnixSecs := adapter.ticked.currentUnixSecs }
  { adapter.ticked.ticked with
    runtimeListeners := adapter.runtimeListeners.insert listener.listenerId listener }

def recordTerminalSession (record : RuntimeSessionRecord) (adapter : QuicTransportAdapter ρ) :
    QuicTransportAdapter ρ :=
  let kept := adapter.terminalSessions.filter fun entry =>
    entry.snapshot.sessionId ≠ record.snapshot.sessionId
  { adapter with terminalSessions := lastOf maxTerminalSessions (kept ++ [record]) }

end QuicTransportAdapter

end QuipNet.Quic
