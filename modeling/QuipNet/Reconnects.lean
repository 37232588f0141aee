import QuipNet.Library.Interaction
import QuipNet.SessionEffects
import QuipNet.TargetSession

/-!
# Reconnect attempts along runs of the daemon

A call of `ensure_target_session` first reaches a verdict on its key; only one of
the verdicts leads to `realize_best_path`. As a program over what it calls and reads,
it leaves on a log its attempts, the failures it records and the clearings of the
key's record. Along any run of calls for one key, with anything else happening in
between, the record counts the failures since the last clearing, and the verdict
keeps the attempts bounded and apart.
-/

open Std
namespace QuipNet.Daemon
open QuipNet.Fabric QuipNet.Library QuipNet.Library.Effect QuipNet.Quic QuipNet.Transport
open QuicTransportAdapter

variable {ρ : Type}

/-! ## The record of a key -/

section Record
variable {key : SessionKey}

theorem find_clearReconnectAttempt (reason : Option String) (adapter : QuicTransportAdapter ρ) :
    findReconnectAttempt (adapter.clearReconnectAttempt key reason) key = none := by
  have hfilter : (adapter.reconnectAttempts.filter fun attempt => attempt.key ≠ key).find?
      (fun attempt => attempt.key = key) = none := by
    simp
  unfold findReconnectAttempt clearReconnectAttempt
  dsimp only
  split <;> exact hfilter

def scheduled (before : Option RuntimeReconnectAttempt) (key : SessionKey) (reason : String)
    (now : ℕ) : RuntimeReconnectAttempt :=
  match before with
  | some existing => nextAttempt existing reason reconnectMaxAttempts reconnectBaseBackoffSecs
      reconnectMaxBackoffSecs now
  | none => firstAttempt key reason reconnectMaxAttempts reconnectBaseBackoffSecs
      reconnectMaxBackoffSecs now

theorem scheduleReconnect_attempts (key : SessionKey) (reason : String) (maxAttempts : UInt32)
    (baseBackoffSecs maxBackoffSecs : ℕ) (adapter : QuicTransportAdapter ρ) :
    (adapter.scheduleReconnect key reason maxAttempts baseBackoffSecs maxBackoffSecs).2.reconnectAttempts =
      (upsertAttempt adapter.reconnectAttempts key reason maxAttempts baseBackoffSecs maxBackoffSecs
        adapter.currentUnixSecs).2 := by
  unfold scheduleReconnect
  dsimp only
  split_ifs <;> rfl

theorem upsertAttempt_fst (reason : String) (adapter : QuicTransportAdapter ρ) :
    (upsertAttempt adapter.reconnectAttempts key reason reconnectMaxAttempts
      reconnectBaseBackoffSecs reconnectMaxBackoffSecs adapter.currentUnixSecs).1 =
        scheduled (findReconnectAttempt adapter key) key reason adapter.currentUnixSecs := by
  cases hfind : findReconnectAttempt adapter key <;>
    rw [findReconnectAttempt] at hfind <;> simp only [upsertAttempt, hfind, scheduled]

theorem scheduleReconnect_fst (reason : String) (adapter : QuicTransportAdapter ρ) :
    (adapter.scheduleReconnect key reason reconnectMaxAttempts reconnectBaseBackoffSecs
      reconnectMaxBackoffSecs).1 =
        scheduled (findReconnectAttempt adapter key) key reason adapter.currentUnixSecs := by
  rw [← upsertAttempt_fst]
  unfold scheduleReconnect
  dsimp only
  split_ifs <;> rfl

theorem find_scheduleReconnect (reason : String) (adapter : QuicTransportAdapter ρ) :
    findReconnectAttempt (adapter.scheduleReconnect key reason reconnectMaxAttempts
      reconnectBaseBackoffSecs reconnectMaxBackoffSecs).2 key =
        some (scheduled (findReconnectAttempt adapter key) key reason adapter.currentUnixSecs) := by
  rw [findReconnectAttempt, scheduleReconnect_attempts, upsertAttempt_snd, ← upsertAttempt_fst]
  apply Library.find?_upsert_self
  exact decide_eq_true (key_upsertAttempt _ _ _ _ _ _ _)

end Record

/-! ## The verdict on a key -/

structure TargetCall where
  config : DaemonConfig
  args : Args
  state : DaemonState
  protocol : String

structure TargetCall.For (call : TargetCall) (key : SessionKey) : Prop where
  peer : targetPeer call.args call.state = some key.peer
  protocol : key.protocol = some ⟨call.protocol⟩
  trafficClass : parseClass call.args.connectClass = key.trafficClass

/-- What `ensure_target_session` decides before it would call `realize_best_path`. -/
inductive Verdict
  | reuse (session : SessionSnapshot)
  | invalid (error : TypeError)
  | suppressed (suppression : ReconnectSuppression)
  | failed (attempt : RuntimeReconnectAttempt)
  | backingOff (attempt : RuntimeReconnectAttempt)
  | attempt

def keyVerdict (transport : QuicTransportAdapter ρ) (key : SessionKey) : Verdict :=
  match transport.findReconnectSuppression key with
  | some suppression => .suppressed suppression
  | none =>
    match findReconnectAttempt transport key with
    | none => .attempt
    | some attempt =>
      match attempt.state with
      | .failed => .failed attempt
      | .backingOff =>
        if transport.currentUnixSecs < attempt.nextAttemptUnixSecs then .backingOff attempt
        else .attempt

def TargetCall.verdict (call : TargetCall) (key : SessionKey) (transport : QuicTransportAdapter ρ) :
    Verdict :=
  match existingTargetSession call.args call.state transport call.protocol with
  | some session => .reuse session
  | none =>
    match ProtocolId.new call.protocol with
    | .error error => .invalid error
    | .ok _ => keyVerdict transport key

def onTransportOf (world : World ρ) (f : QuicTransportAdapter ρ → QuicTransportAdapter ρ) :
    World ρ :=
  { world with transport := f world.transport }

theorem keyVerdict_attempt {transport : QuicTransportAdapter ρ} {key : SessionKey}
    (h : keyVerdict transport key = .attempt) :
    transport.findReconnectSuppression key = none ∧
      ∀ attempt, findReconnectAttempt transport key = some attempt →
        attempt.state = .backingOff ∧ attempt.nextAttemptUnixSecs ≤ transport.currentUnixSecs := by
  unfold keyVerdict at h
  cases hsuppression : transport.findReconnectSuppression key with
  | some suppression => simp [hsuppression] at h
  | none =>
    refine ⟨rfl, fun attempt hattempt => ?_⟩
    simp only [hsuppression, hattempt] at h
    cases hstate : attempt.state with
    | failed => simp [hstate] at h
    | backingOff =>
      simp only [hstate] at h
      split_ifs at h with hearly
      exact ⟨rfl, Nat.le_of_not_lt hearly⟩

theorem TargetCall.verdict_attempt {call : TargetCall} {key : SessionKey}
    {transport : QuicTransportAdapter ρ} (h : call.verdict key transport = .attempt) :
    keyVerdict transport key = .attempt := by
  unfold TargetCall.verdict at h
  cases hexisting : existingTargetSession call.args call.state transport call.protocol with
  | some session => simp [hexisting] at h
  | none =>
    cases hprotocol : ProtocolId.new call.protocol with
    | error error => simp [hexisting, hprotocol] at h
    | ok protocol => simpa [hexisting, hprotocol] using h

theorem existingTargetSession_key {call : TargetCall} {key : SessionKey} (hfor : call.For key)
    {transport : QuicTransportAdapter ρ} {session : SessionSnapshot}
    (h : existingTargetSession call.args call.state transport call.protocol = some session) :
    session.key = key := by
  unfold existingTargetSession at h
  rw [hfor.peer] at h
  have hfound := List.find?_some h
  simp only [Bool.and_eq_true, decide_eq_true_eq, Option.any_eq_true] at hfound
  obtain ⟨⟨⟨hpeer, hclass⟩, -⟩, value, hprotocol, htext⟩ := hfound
  obtain ⟨peer, protocol, trafficClass⟩ := key
  have hkey := hfor.protocol
  have hkeyClass := hfor.trafficClass
  simp only at hkey hkeyClass hpeer
  rw [SessionSnapshot.key, hpeer, hclass, hprotocol, hkey, hkeyClass, ← htext]

theorem protocolId_new {value : String} {protocol : ProtocolId}
    (h : ProtocolId.new value = .ok protocol) : protocol = ⟨value⟩ := by
  unfold ProtocolId.new at h
  split_ifs at h
  cases h
  rfl

/-! ## Events -/

/-- The calls of `realize_best_path`, with the clock reading they are made at and
whether the key is suppressed then; the failures that `schedule_reconnect` records,
with its clock reading; and the clearings of the key's record. -/
inductive ReconnectEvent
  | cleared
  | attempted (suppressed : Bool) (now : ℕ)
  | failed (reading : ℕ) (record : RuntimeReconnectAttempt)
deriving DecidableEq, Repr

namespace ReconnectEvent

def isAttempted : ReconnectEvent → Bool
  | .attempted _ _ => true
  | _ => false

def isFailed : ReconnectEvent → Bool
  | .failed _ _ => true
  | _ => false

@[simp] theorem countP_isAttempted_attempted (suppressed : Bool) (now : ℕ)
    (log : List ReconnectEvent) :
    (.attempted suppressed now :: log).countP isAttempted = log.countP isAttempted + 1 :=
  List.countP_cons_of_pos rfl

@[simp] theorem countP_isAttempted_failed (reading : ℕ) (record : RuntimeReconnectAttempt)
    (log : List ReconnectEvent) :
    (.failed reading record :: log).countP isAttempted = log.countP isAttempted :=
  List.countP_cons_of_neg (by simp [isAttempted])

@[simp] theorem countP_isFailed_attempted (suppressed : Bool) (now : ℕ)
    (log : List ReconnectEvent) :
    (.attempted suppressed now :: log).countP isFailed = log.countP isFailed :=
  List.countP_cons_of_neg (by simp [isFailed])

@[simp] theorem countP_isFailed_failed (reading : ℕ) (record : RuntimeReconnectAttempt)
    (log : List ReconnectEvent) :
    (.failed reading record :: log).countP isFailed = log.countP isFailed + 1 :=
  List.countP_cons_of_pos rfl

def sinceCleared (log : List ReconnectEvent) : List ReconnectEvent :=
  log.takeWhile (· ≠ .cleared)

@[simp] theorem sinceCleared_cleared (log : List ReconnectEvent) :
    sinceCleared (.cleared :: log) = [] := by
  simp [sinceCleared]

@[simp] theorem sinceCleared_attempted (suppressed : Bool) (now : ℕ) (log : List ReconnectEvent) :
    sinceCleared (.attempted suppressed now :: log) = .attempted suppressed now :: sinceCleared log := by
  simp [sinceCleared]

@[simp] theorem sinceCleared_failed (reading : ℕ) (record : RuntimeReconnectAttempt)
    (log : List ReconnectEvent) :
    sinceCleared (.failed reading record :: log) = .failed reading record :: sinceCleared log := by
  simp [sinceCleared]

theorem sinceCleared_append {segment : List ReconnectEvent} (h : .cleared ∉ segment)
    (log : List ReconnectEvent) : sinceCleared (segment ++ log) = segment ++ sinceCleared log := by
  induction segment with
  | nil => rfl
  | cons event rest ih =>
    have hevent : event ≠ .cleared := fun heq => h (by simp [heq])
    have hrest : ReconnectEvent.cleared ∉ rest := fun hmem => h (List.mem_cons_of_mem _ hmem)
    rw [List.cons_append, sinceCleared, List.takeWhile_cons_of_pos (by simpa using hevent)]
    exact congrArg _ (ih hrest)

def backoff (k : ℕ) : ℕ := min (reconnectBaseBackoffSecs * 2 ^ (k - 1)) reconnectMaxBackoffSecs

/-- An attempt at the reading `now` is in order after the events `earlier`. -/
structure InOrder (earlier : List ReconnectEvent) (suppressed : Bool) (now : ℕ) : Prop where
  allowed : suppressed = false
  fewer : (sinceCleared earlier).countP isAttempted < reconnectMaxAttempts.toNat
  notFailed : ∀ reading record, .failed reading record ∈ sinceCleared earlier →
    record.state ≠ .failed
  waited : ∀ reading record rest, sinceCleared earlier = .failed reading record :: rest →
    reading + backoff ((sinceCleared earlier).countP isFailed) ≤ now

def AllInOrder : List ReconnectEvent → Prop
  | [] => True
  | .attempted suppressed now :: earlier => InOrder earlier suppressed now ∧ AllInOrder earlier
  | _ :: earlier => AllInOrder earlier

theorem AllInOrder.of_append {later log : List ReconnectEvent} (h : AllInOrder (later ++ log)) :
    AllInOrder log := by
  induction later with
  | nil => exact h
  | cons event rest ih =>
    cases event with
    | cleared => exact ih h
    | attempted suppressed now => exact ih h.2
    | failed reading record => exact ih h

theorem AllInOrder.countP_le {segment earlier : List ReconnectEvent}
    (h : AllInOrder (segment ++ earlier)) (hsegment : .cleared ∉ segment) :
    segment.countP isAttempted ≤ reconnectMaxAttempts.toNat := by
  induction segment with
  | nil => simp
  | cons event rest ih =>
    have hrest : ReconnectEvent.cleared ∉ rest := fun hmem => hsegment (List.mem_cons_of_mem _ hmem)
    cases event with
    | cleared => simp at hsegment
    | attempted suppressed now =>
      have hfewer : (sinceCleared (rest ++ earlier)).countP isAttempted <
          reconnectMaxAttempts.toNat := h.1.fewer
      rw [sinceCleared_append hrest, List.countP_append] at hfewer
      rw [countP_isAttempted_attempted]
      omega
    | failed reading record =>
      rw [countP_isAttempted_failed]
      exact ih h hrest

structure Counts (events : List ReconnectEvent) (reading : ℕ) (record : RuntimeReconnectAttempt) :
    Prop where
  attempts : events.countP isAttempted = events.countP isFailed
  count : record.attemptCount.toNat = events.countP isFailed
  bounded : events.countP isFailed ≤ 5
  state : record.state = .failed ↔ events.countP isFailed = 5
  next : record.nextAttemptUnixSecs = reading + backoff (events.countP isFailed)

/-- The record that a log of events leaves. -/
def Tracks (log : List ReconnectEvent) : Option RuntimeReconnectAttempt → Prop
  | none => sinceCleared log = []
  | some record => ∃ reading rest, sinceCleared log = .failed reading record :: rest ∧
      (∀ reading' record', .failed reading' record' ∈ rest → record'.state ≠ .failed) ∧
      Counts (sinceCleared log) reading record

theorem inOrder_of_tracks {log : List ReconnectEvent} {key : SessionKey}
    {transport : QuicTransportAdapter ρ} (htracks : Tracks log (findReconnectAttempt transport key))
    (hverdict : keyVerdict transport key = .attempt) :
    InOrder log (transport.findReconnectSuppression key).isSome transport.currentUnixSecs := by
  obtain ⟨hsuppression, hattempt⟩ := keyVerdict_attempt hverdict
  have hmax : reconnectMaxAttempts.toNat = 5 := rfl
  cases hfind : findReconnectAttempt transport key with
  | none =>
    rw [hfind] at htracks
    have hnone : sinceCleared log = [] := htracks
    refine ⟨by rw [hsuppression]; rfl, ?_, ?_, ?_⟩ <;> simp [hnone, hmax]
  | some record =>
    rw [hfind] at htracks
    obtain ⟨reading, rest, hsince, hrest, hcounts⟩ := htracks
    obtain ⟨hstate, hnext⟩ := hattempt record hfind
    have hnot : record.state ≠ .failed := by simp [hstate]
    have hne := mt hcounts.state.mpr hnot
    have hbounded := hcounts.bounded
    refine ⟨by rw [hsuppression]; rfl, ?_, ?_, ?_⟩
    · rw [hcounts.attempts, hmax]
      omega
    · intro reading' record' hmem
      rw [hsince] at hmem
      rcases List.mem_cons.mp hmem with heq | hmem
      · cases heq
        exact hnot
      · exact hrest reading' record' hmem
    · intro reading' record' rest' heq
      rw [hsince] at heq
      cases heq
      rw [← hcounts.next]
      exact hnext

theorem saturate64_reading {reading k : ℕ} (h : reading < 2 ^ 63) :
    saturate64 (reading + backoff k) = reading + backoff k := by
  have hbackoff : backoff k ≤ 300 := min_le_right _ _
  unfold saturate64
  omega

theorem counts_firstAttempt (key : SessionKey) (reason : String) {reading : ℕ}
    (hreading : reading < 2 ^ 63) (suppressed : Bool) (now : ℕ) :
    Counts [.failed reading (scheduled none key reason reading), .attempted suppressed now] reading
      (scheduled none key reason reading) where
  attempts := by simp [isAttempted, isFailed]
  count := by
    simp [isFailed]
    rfl
  bounded := by simp [isFailed]
  state := by simp [isFailed, scheduled, firstAttempt, reconnectMaxAttempts]
  next := by
    simp only [countP_isFailed_failed, countP_isFailed_attempted, List.countP_nil]
    exact saturate64_reading (k := 1) hreading

theorem counts_nextAttempt {events : List ReconnectEvent} {last : ℕ}
    {existing : RuntimeReconnectAttempt} (hcounts : Counts events last existing)
    (hstate : existing.state = .backingOff) (key : SessionKey) (reason : String) {reading : ℕ}
    (hreading : reading < 2 ^ 63) (suppressed : Bool) (now : ℕ) :
    Counts (.failed reading (scheduled (some existing) key reason reading) ::
      .attempted suppressed now :: events) reading (scheduled (some existing) key reason reading) := by
  have hne : events.countP isFailed ≠ 5 := by
    intro hfive
    have hfailed := hcounts.state.mpr hfive
    rw [hstate] at hfailed
    cases hfailed
  have hbounded := hcounts.bounded
  have hcount : (existing.attemptCount + 1).toNat = events.countP isFailed + 1 := by
    rw [UInt32.toNat_add, hcounts.count]
    simp
    omega
  have hevents : (ReconnectEvent.failed reading (scheduled (some existing) key reason reading) ::
      .attempted suppressed now :: events).countP isFailed = events.countP isFailed + 1 := by
    simp
  constructor
  · simp [hcounts.attempts]
  · rw [hevents]
    exact hcount
  · omega
  · rw [hevents]
    simp only [scheduled, nextAttempt, ge_iff_le, UInt32.le_iff_toNat_le, hcount]
    have hmax : reconnectMaxAttempts.toNat = 5 := rfl
    rw [hmax]
    split_ifs <;> simp <;> omega
  · rw [hevents]
    have hbackoff : min (saturate64 (reconnectBaseBackoffSecs *
        2 ^ (min ((existing.attemptCount + 1).toNat - 1) 16))) reconnectMaxBackoffSecs =
          backoff (events.countP isFailed + 1) := by
      rw [hcount]
      generalize events.countP isFailed = k at hne hbounded
      have hk : k ≤ 4 := by omega
      interval_cases k <;> decide
    simp only [scheduled, nextAttempt, hbackoff]
    exact saturate64_reading hreading

theorem tracks_scheduled {log : List ReconnectEvent} {before : Option RuntimeReconnectAttempt}
    (htracks : Tracks log before)
    (hbefore : ∀ record, before = some record → record.state = .backingOff) (key : SessionKey)
    (reason : String) {reading : ℕ} (hreading : reading < 2 ^ 63) (suppressed : Bool) (now : ℕ) :
    Tracks (.failed reading (scheduled before key reason reading) :: .attempted suppressed now :: log)
      (some (scheduled before key reason reading)) := by
  refine ⟨reading, .attempted suppressed now :: sinceCleared log, by simp, ?_, ?_⟩
  · intro reading' record' hmem
    cases before with
    | none =>
      have hnone : sinceCleared log = [] := htracks
      simp [hnone] at hmem
    | some existing =>
      obtain ⟨last, rest, hsince, hrest, -⟩ := htracks
      rw [hsince] at hmem
      simp only [List.mem_cons, reduceCtorEq, false_or] at hmem
      rcases hmem with heq | hmem
      · cases heq
        rw [hbefore _ rfl]
        simp
      · exact hrest reading' record' hmem
  · rw [sinceCleared_failed, sinceCleared_attempted]
    cases before with
    | none =>
      have hnone : sinceCleared log = [] := htracks
      rw [hnone]
      exact counts_firstAttempt key reason hreading suppressed now
    | some existing =>
      obtain ⟨last, rest, -, -, hcounts⟩ := htracks
      exact counts_nextAttempt hcounts (hbefore _ rfl) key reason hreading suppressed now

end ReconnectEvent

/-! ## Opening a path leaves the records alone -/

structure SameAttempts (before after : QuicTransportAdapter ρ) : Prop where
  attempts : after.reconnectAttempts = before.reconnectAttempts
  clock : after.host.clock = before.host.clock

instance : Background (ρ := ρ) SameAttempts where
  refl _ := ⟨rfl, rfl⟩
  trans _ _ _ h₁ h₂ := ⟨h₂.attempts.trans h₁.attempts, h₂.clock.trans h₁.clock⟩
  host _ _ _ := ⟨rfl, rfl⟩
  relays _ _ := ⟨rfl, rfl⟩
  events _ _ := ⟨rfl, rfl⟩

theorem SameAttempts.find {before after : QuicTransportAdapter ρ} (h : SameAttempts before after)
    (key : SessionKey) : findReconnectAttempt after key = findReconnectAttempt before key := by
  rw [findReconnectAttempt, h.attempts, findReconnectAttempt]

section Hashing
variable [Primitives]

theorem realizeState_sameAttempts (peer : PeerId) (protocol : ProtocolId)
    (trafficClass : TrafficClass) (state : DaemonState) :
    Moves SameAttempts (realizeState peer protocol trafficClass state : FabricM ρ _) := by
  unfold realizeState
  dsimp only
  split_ifs
  · refine Moves.bind ?_ fun route => Moves.bind ?_ fun connection => ?_
    · unfold planRoute
      split
      · exact Moves.pure _
      · exact Moves.throw _
    · exact (connect_background (fun _ _ => ⟨rfl, rfl⟩) route).mapError _
    · exact Moves.get_bind fun adapter => refl adapter
  · exact Moves.throw _

theorem ensureState_error {config : DaemonConfig} {world opened : World ρ}
    {error : DaemonStateError}
    (h : LocalControlPlane.ensureState config world = .error error opened) : opened = world := by
  cases hfile : world.stateFile with
  | none =>
    rw [LocalControlPlane.ensureState_of_none hfile] at h
    cases h
  | some file =>
    cases hload : file.load with
    | error error =>
      rw [LocalControlPlane.ensureState_of_damaged hfile hload] at h
      cases h
      rfl
    | ok loaded =>
      rw [LocalControlPlane.ensureState_of_load hfile hload] at h
      cases h

theorem transaction_transport {α : Type} {R : QuicTransportAdapter ρ → QuicTransportAdapter ρ → Prop}
    [IsPreorder (QuicTransportAdapter ρ) R] {config : DaemonConfig}
    {work : DaemonState → FabricM ρ (DaemonState × α)} (hwork : ∀ state, Moves R (work state))
    (world : World ρ) :
    R world.transport (final (LocalControlPlane.transaction config work) world).transport := by
  cases hstate : LocalControlPlane.ensureState config world with
  | error error opened =>
    rw [final, LocalControlPlane.transaction, bind_of_error hstate, ensureState_error hstate]
    exact refl _
  | ok state opened =>
    have hmoves := hwork state world.transport
    have hopened := (LocalControlPlane.ensureState_ok hstate world.transport).2
    rw [final, LocalControlPlane.transaction_run hstate]
    rw [final] at hmoves
    cases hrun : work state world.transport <;>
      simpa [withTransport, zoom, hopened, hrun, save] using hmoves

theorem realizeBestPath_sameAttempts (config : DaemonConfig) (peer : PeerId)
    (protocol : ProtocolId) (trafficClass : TrafficClass) (world : World ρ) :
    SameAttempts world.transport
      (final (LocalControlPlane.realizeBestPath config peer protocol trafficClass) world).transport :=
  transaction_transport (realizeState_sameAttempts peer protocol trafficClass) world

/-! ## Calls -/

def TargetCall.run (call : TargetCall) : ControlM ρ TargetSessionOutcome :=
  ensureTargetSession call.config call.args call.state call.protocol

/-- What a verdict leads to; only `attempt` calls `realize_best_path`. -/
def carryOut (config : DaemonConfig) (key : SessionKey) (protocol : ProtocolId) (world : World ρ) :
    Verdict → EStateM.Result DaemonStateError (World ρ) TargetSessionOutcome
  | .reuse session => .ok (.reused session)
      (onTransportOf world (clearReconnectAttempt key (some "session already active")))
  | .invalid error => .error (.invalidSession error.text) world
  | .suppressed suppression => .ok (.suppressed ("suppressed:" ++ suppression.reason))
      (onTransportOf world (clearReconnectAttempt key (some "reconnect suppressed by policy")))
  | .failed attempt => .ok (.failed (failedStatus attempt)) (onTransportOf world ticked)
  | .backingOff attempt =>
    .ok (.backingOff (backoffStatus attempt world.transport.currentUnixSecs))
      (onTransportOf world ticked)
  | .attempt => attemptTarget config key protocol world.transport.currentUnixSecs
      (onTransportOf world ticked)

theorem reconnectTarget_run (config : DaemonConfig) (key : SessionKey) (protocol : ProtocolId)
    (world : World ρ) :
    reconnectTarget config key protocol world =
      carryOut config key protocol world (keyVerdict world.transport key) := by
  unfold reconnectTarget keyVerdict
  rw [bind_run, get_run]
  dsimp only
  cases world.transport.findReconnectSuppression key with
  | some suppression => rfl
  | none =>
    dsimp only
    rw [bind_run, modifyGet_run]
    dsimp only
    rw [bind_run, get_run]
    have hfind : findReconnectAttempt world.transport.ticked key =
        findReconnectAttempt world.transport key := rfl
    dsimp only
    rw [hfind]
    cases findReconnectAttempt world.transport key with
    | none => rfl
    | some attempt =>
      dsimp only
      cases attempt.state with
      | failed => rfl
      | backingOff =>
        dsimp only
        split_ifs <;> rfl

theorem TargetCall.run_eq {call : TargetCall} {key : SessionKey} (hfor : call.For key)
    (world : World ρ) :
    call.run world = carryOut call.config key ⟨call.protocol⟩ world
      (call.verdict key world.transport) := by
  unfold TargetCall.run ensureTargetSession TargetCall.verdict
  rw [bind_run, get_run]
  dsimp only
  cases hexisting : existingTargetSession call.args call.state world.transport call.protocol with
  | some session =>
    rw [← existingTargetSession_key hfor hexisting]
    rfl
  | none =>
    simp only [hfor.peer]
    cases hprotocol : ProtocolId.new call.protocol with
    | error error => rfl
    | ok protocol =>
      have hkey : (⟨key.peer, some protocol, parseClass call.args.connectClass⟩ : SessionKey) =
          key := by
        rw [protocolId_new hprotocol, ← hfor.protocol, hfor.trafficClass]
      dsimp only
      rw [hkey, protocolId_new hprotocol]
      exact reconnectTarget_run call.config key ⟨call.protocol⟩ world

def announced (key : SessionKey) (protocol : ProtocolId) (world : World ρ) : World ρ :=
  onTransportOf world (emitRuntimeEvent "reconnect.started" (peerSubject key.peer)
    (.object [("protocol", .string protocol.text), ("class", .string key.trafficClass.label)]))

theorem attemptTarget_run (config : DaemonConfig) (key : SessionKey) (protocol : ProtocolId)
    (now : ℕ) (world : World ρ) :
    attemptTarget config key protocol now world =
      match LocalControlPlane.realizeBestPath config key.peer protocol key.trafficClass
          (announced key protocol world) with
      | .ok session after => .ok (.active session)
          (onTransportOf after (clearReconnectAttempt key (some "reconnect succeeded")))
      | .error error after =>
        let scheduled := after.transport.scheduleReconnect key error.text reconnectMaxAttempts
          reconnectBaseBackoffSecs reconnectMaxBackoffSecs
        .ok (scheduledOutcome scheduled.1 now) { after with transport := scheduled.2 } := by
  have hstart : attemptTarget config key protocol now world = (attempt
      (LocalControlPlane.realizeBestPath config key.peer protocol key.trafficClass) >>= _)
        (announced key protocol world) := rfl
  rw [hstart]
  cases hrealize : LocalControlPlane.realizeBestPath config key.peer protocol key.trafficClass
      (announced key protocol world) with
  | ok session after =>
    rw [bind_of_ok (attempt_of_ok hrealize)]
    rfl
  | error error after =>
    rw [bind_of_ok (attempt_of_error hrealize)]
    rfl

inductive PlaneCall : Type → Type
  | existingTargetSession (args : Args) (state : DaemonState) (protocol : String) :
      PlaneCall (Option SessionSnapshot)
  | findReconnectSuppression (key : SessionKey) : PlaneCall (Option ReconnectSuppression)
  | currentUnixSecs : PlaneCall ℕ
  | findReconnectAttempt (key : SessionKey) : PlaneCall (Option RuntimeReconnectAttempt)
  | emitRuntimeEvent (eventType : String) (subject : RuntimeEventSubject) (details : Json) :
      PlaneCall Unit
  | realizeBestPath (config : DaemonConfig) (peer : PeerId) (protocol : ProtocolId)
      (trafficClass : TrafficClass) : PlaneCall SessionSnapshot
  | clearReconnectAttempt (key : SessionKey) (reason : Option String) : PlaneCall Unit
  | scheduleReconnect (key : SessionKey) (reason : String) : PlaneCall RuntimeReconnectAttempt

def PlaneCall.handle : ∀ {β : Type}, PlaneCall β → ControlM ρ β
  | _, .existingTargetSession args state protocol => do
    pure (Daemon.existingTargetSession args state (← get).transport protocol)
  | _, .findReconnectSuppression key => do
    pure ((← get).transport.findReconnectSuppression key)
  | _, .currentUnixSecs => modifyGet fun world =>
    (world.transport.currentUnixSecs, { world with transport := world.transport.ticked })
  | _, .findReconnectAttempt key => do
    pure (Daemon.findReconnectAttempt (← get).transport key)
  | _, .emitRuntimeEvent eventType subject details =>
    onAdapter (QuicTransportAdapter.emitRuntimeEvent eventType subject details)
  | _, .realizeBestPath config peer protocol trafficClass =>
    LocalControlPlane.realizeBestPath config peer protocol trafficClass
  | _, .clearReconnectAttempt key reason =>
    onAdapter (QuicTransportAdapter.clearReconnectAttempt key reason)
  | _, .scheduleReconnect key reason => modifyGet fun world =>
    let (scheduled, transport) := world.transport.scheduleReconnect key reason reconnectMaxAttempts
      reconnectBaseBackoffSecs reconnectMaxBackoffSecs
    (scheduled, { world with transport })

abbrev PlaneProgram := Program PlaneCall DaemonStateError DaemonStateError

def askPlane {β : Type} (c : PlaneCall β) : PlaneProgram β := Program.ask id c

namespace TargetCall
variable (config : DaemonConfig)

def attempting (key : SessionKey) (protocol : ProtocolId) (now : ℕ) :
    PlaneProgram TargetSessionOutcome := do
  askPlane (.emitRuntimeEvent "reconnect.started" (peerSubject key.peer)
    (.object [("protocol", .string protocol.text), ("class", .string key.trafficClass.label)]))
  match ← Program.attempt (.realizeBestPath config key.peer protocol key.trafficClass) with
  | .ok session => do
    askPlane (.clearReconnectAttempt key (some "reconnect succeeded"))
    pure (.active session)
  | .error error => do
    pure (scheduledOutcome (← askPlane (.scheduleReconnect key error.text)) now)

def reconnecting (key : SessionKey) (protocol : ProtocolId) :
    PlaneProgram TargetSessionOutcome := do
  match ← askPlane (.findReconnectSuppression key) with
  | some suppression => do
    askPlane (.clearReconnectAttempt key (some "reconnect suppressed by policy"))
    pure (.suppressed ("suppressed:" ++ suppression.reason))
  | none => do
    let now ← askPlane .currentUnixSecs
    match ← askPlane (.findReconnectAttempt key) with
    | none => attempting config key protocol now
    | some attempt =>
      match attempt.state with
      | .failed => pure (.failed (failedStatus attempt))
      | .backingOff =>
        if now < attempt.nextAttemptUnixSecs then pure (.backingOff (backoffStatus attempt now))
        else attempting config key protocol now

def program (call : TargetCall) : PlaneProgram TargetSessionOutcome := do
  match ← askPlane (.existingTargetSession call.args call.state call.protocol) with
  | some session => do
    askPlane (.clearReconnectAttempt session.key (some "session already active"))
    pure (.reused session)
  | none =>
    match targetPeer call.args call.state with
    | none => throw (.invalidSession
        "a peer is required or daemon state must contain at least one peer")
    | some target =>
      match ProtocolId.new call.protocol with
      | .error error => throw (.invalidSession error.text)
      | .ok protocol =>
        reconnecting call.config ⟨target, some protocol, parseClass call.args.connectClass⟩ protocol

theorem exec_askPlane {β : Type} (c : PlaneCall β) :
    (askPlane c).exec (PlaneCall.handle (ρ := ρ)) = c.handle := Program.exec_ask_id _ c

theorem exec_attempting (key : SessionKey) (protocol : ProtocolId) (now : ℕ) :
    (attempting config key protocol now).exec (PlaneCall.handle (ρ := ρ)) =
      attemptTarget config key protocol now := by
  simp only [attempting, attemptTarget, Program.exec_bind, exec_askPlane, Program.exec_attempt]
  refine congrArg _ (funext fun _ => congrArg _ (funext fun answer => ?_))
  cases answer with
  | ok session => simp only [Program.exec_bind, exec_askPlane]; rfl
  | error error => simp only [Program.exec_bind, exec_askPlane]; rfl

theorem exec_askPlane_bind {α β : Type} {c : PlaneCall β} {b : β} {world after : World ρ}
    (h : c.handle world = .ok b after) (f : β → PlaneProgram α) :
    (askPlane c >>= f).exec PlaneCall.handle world = (f b).exec PlaneCall.handle after := by
  rw [Program.exec_bind, exec_askPlane, bind_of_ok h]

theorem exec_reconnecting (key : SessionKey) (protocol : ProtocolId) :
    (reconnecting config key protocol).exec (PlaneCall.handle (ρ := ρ)) =
      reconnectTarget config key protocol := by
  funext world
  rw [reconnectTarget_run, keyVerdict, reconnecting, exec_askPlane_bind rfl]
  cases world.transport.findReconnectSuppression key with
  | some suppression => rfl
  | none =>
    dsimp only
    rw [exec_askPlane_bind rfl, exec_askPlane_bind rfl]
    have hfind : findReconnectAttempt world.transport.ticked key =
        findReconnectAttempt world.transport key := rfl
    dsimp only
    rw [hfind]
    cases findReconnectAttempt world.transport key with
    | none =>
      dsimp only
      rw [exec_attempting]
      rfl
    | some attempt =>
      dsimp only
      cases attempt.state with
      | failed => rfl
      | backingOff =>
        dsimp only
        split_ifs
        · rfl
        · rw [exec_attempting]
          rfl

theorem exec_program (call : TargetCall) :
    call.program.exec (PlaneCall.handle (ρ := ρ)) = call.run := by
  funext world
  rw [program, exec_askPlane_bind rfl, run, ensureTargetSession, bind_run, get_run]
  dsimp only
  cases existingTargetSession call.args call.state world.transport call.protocol with
  | some session => rfl
  | none =>
    dsimp only
    cases targetPeer call.args call.state with
    | none => rfl
    | some target =>
      dsimp only
      cases ProtocolId.new call.protocol with
      | error error => rfl
      | ok protocol =>
        dsimp only
        rw [exec_reconnecting]

end TargetCall

def logged : ℕ → List (CallEvent PlaneCall (World ρ)) → List ReconnectEvent → List ReconnectEvent
  | _, [], log => log
  | _, ⟨before, .currentUnixSecs, _⟩ :: rest, log =>
    logged before.transport.currentUnixSecs rest log
  | now, ⟨before, .realizeBestPath _ peer protocol trafficClass, _⟩ :: rest, log =>
    logged now rest (.attempted (before.transport.findReconnectSuppression
      ⟨peer, some protocol, trafficClass⟩).isSome now :: log)
  | now, ⟨before, .scheduleReconnect key reason, _⟩ :: rest, log =>
    logged now rest (.failed before.transport.currentUnixSecs (before.transport.scheduleReconnect
      key reason reconnectMaxAttempts reconnectBaseBackoffSecs reconnectMaxBackoffSecs).1 :: log)
  | now, ⟨_, .clearReconnectAttempt _ _, _⟩ :: rest, log => logged now rest (.cleared :: log)
  | now, _ :: rest, log => logged now rest log

/-- What a call for a session leaves on the log. -/
def TargetCall.log (call : TargetCall) (world : World ρ) (log : List ReconnectEvent) :
    List ReconnectEvent :=
  logged 0 (call.program.trace PlaneCall.handle world) log

/-- What the calls that follow a verdict leave on the log. -/
def Verdict.logs (config : DaemonConfig) (key : SessionKey) (protocol : ProtocolId)
    (world : World ρ) (log : List ReconnectEvent) : Verdict → List ReconnectEvent
  | .reuse _ | .suppressed _ => .cleared :: log
  | .invalid _ | .failed _ | .backingOff _ => log
  | .attempt => logged world.transport.currentUnixSecs ((TargetCall.attempting config key protocol
      world.transport.currentUnixSecs).trace PlaneCall.handle (onTransportOf world ticked)) log

theorem logged_reconnecting (config : DaemonConfig) (key : SessionKey) (protocol : ProtocolId)
    (world : World ρ) (log : List ReconnectEvent) (now : ℕ) :
    logged now ((TargetCall.reconnecting config key protocol).trace PlaneCall.handle world) log =
      (keyVerdict world.transport key).logs config key protocol world log := by
  unfold TargetCall.reconnecting keyVerdict
  rw [askPlane, Program.trace_ask_bind rfl]
  cases world.transport.findReconnectSuppression key with
  | some suppression => rfl
  | none =>
    dsimp only
    rw [askPlane, Program.trace_ask_bind rfl, askPlane, Program.trace_ask_bind rfl]
    have hfind : findReconnectAttempt world.transport.ticked key =
        findReconnectAttempt world.transport key := rfl
    dsimp only
    rw [hfind]
    cases findReconnectAttempt world.transport key with
    | none => rfl
    | some attempt =>
      dsimp only
      cases attempt.state with
      | failed => rfl
      | backingOff =>
        dsimp only
        split_ifs <;> rfl

theorem TargetCall.log_eq {call : TargetCall} {key : SessionKey} (hfor : call.For key)
    (world : World ρ) (log : List ReconnectEvent) :
    call.log world log =
      (call.verdict key world.transport).logs call.config key ⟨call.protocol⟩ world log := by
  unfold TargetCall.log TargetCall.program TargetCall.verdict
  rw [askPlane, Program.trace_ask_bind rfl]
  cases existingTargetSession call.args call.state world.transport call.protocol with
  | some session => rfl
  | none =>
    simp only [hfor.peer]
    cases hprotocol : ProtocolId.new call.protocol with
    | error error => rfl
    | ok protocol =>
      have hkey : (⟨key.peer, some protocol, parseClass call.args.connectClass⟩ : SessionKey) =
          key := by
        rw [protocolId_new hprotocol, ← hfor.protocol, hfor.trafficClass]
      dsimp only
      rw [hkey, protocolId_new hprotocol]
      exact logged_reconnecting call.config key ⟨call.protocol⟩ world log 0

theorem announced_run (key : SessionKey) (protocol : ProtocolId) (world : World ρ) :
    PlaneCall.handle (.emitRuntimeEvent "reconnect.started" (peerSubject key.peer)
      (.object [("protocol", .string protocol.text), ("class", .string key.trafficClass.label)]))
      world = .ok () (announced key protocol world) := rfl

omit [Primitives] in
theorem announced_suppression (key other : SessionKey) (protocol : ProtocolId) (world : World ρ) :
    (announced key protocol world).transport.findReconnectSuppression other =
      world.transport.findReconnectSuppression other := by
  have hquiet : Quiet world.transport (announced key protocol world).transport :=
    emitRuntimeEvent_quiet _ _ _ _
  rw [findReconnectSuppression, hquiet.suppressions, findReconnectSuppression]

section Attempting
variable {config : DaemonConfig} {key : SessionKey} {protocol : ProtocolId} {world after : World ρ}

theorem logged_attempting_of_ok {session : SessionSnapshot}
    (h : LocalControlPlane.realizeBestPath config key.peer protocol key.trafficClass
      (announced key protocol world) = .ok session after) (now : ℕ) (log : List ReconnectEvent) :
    logged now ((TargetCall.attempting config key protocol now).trace PlaneCall.handle world) log =
      .cleared :: .attempted (world.transport.findReconnectSuppression
        ⟨key.peer, some protocol, key.trafficClass⟩).isSome now :: log := by
  have hcall : PlaneCall.handle (.realizeBestPath config key.peer protocol key.trafficClass)
      (announced key protocol world) = .ok session after := h
  rw [TargetCall.attempting, askPlane, Program.trace_ask_bind (announced_run key protocol world),
    Program.trace_attempt_bind_of_ok hcall]
  dsimp only
  rw [askPlane, Program.trace_ask_bind rfl]
  simp only [logged, announced_suppression]
  rfl

theorem logged_attempting_of_error {error : DaemonStateError}
    (h : LocalControlPlane.realizeBestPath config key.peer protocol key.trafficClass
      (announced key protocol world) = .error error after) (now : ℕ) (log : List ReconnectEvent) :
    logged now ((TargetCall.attempting config key protocol now).trace PlaneCall.handle world) log =
      .failed after.transport.currentUnixSecs (after.transport.scheduleReconnect key error.text
        reconnectMaxAttempts reconnectBaseBackoffSecs reconnectMaxBackoffSecs).1 ::
      .attempted (world.transport.findReconnectSuppression
        ⟨key.peer, some protocol, key.trafficClass⟩).isSome now :: log := by
  have hcall : PlaneCall.handle (.realizeBestPath config key.peer protocol key.trafficClass)
      (announced key protocol world) = .error error after := h
  rw [TargetCall.attempting, askPlane, Program.trace_ask_bind (announced_run key protocol world),
    Program.trace_attempt_bind_of_error hcall]
  dsimp only
  rw [askPlane, Program.trace_ask_bind rfl]
  simp only [logged, announced_suppression]
  rfl

end Attempting

/-- What a `SystemTime` can hold: seconds in an `i64`, so below `2 ^ 63`. -/
def ClockInRange (clock : ℕ → ℕ) : Prop := ∀ reading, clock reading / 1000000000 < 2 ^ 63

/-- A run of calls for one key from a state without a record of it. Anything may happen
between the calls that leaves the key's record as it is. -/
inductive ReconnectRun (key : SessionKey) : List ReconnectEvent → World ρ → Prop
  | start {world : World ρ} (h : findReconnectAttempt world.transport key = none) :
    ReconnectRun key [] world
  | call {log : List ReconnectEvent} {world : World ρ} {call : TargetCall}
      (run : ReconnectRun key log world) (hfor : call.For key)
      (hclock : ClockInRange world.transport.host.clock) :
    ReconnectRun key (call.log world log) (final call.run world)
  | other {log : List ReconnectEvent} {world world' : World ρ} (run : ReconnectRun key log world)
      (h : findReconnectAttempt world'.transport key = findReconnectAttempt world.transport key) :
    ReconnectRun key log world'

/-! ## Runs -/

open ReconnectEvent

theorem TargetCall.run_tracks {call : TargetCall} {key : SessionKey} (hfor : call.For key)
    {world : World ρ} (hclock : ClockInRange world.transport.host.clock)
    {log : List ReconnectEvent} (horder : AllInOrder log)
    (htracks : Tracks log (findReconnectAttempt world.transport key)) :
    AllInOrder (call.log world log) ∧
      Tracks (call.log world log) (findReconnectAttempt (final call.run world).transport key) := by
  rw [final, call.run_eq hfor, call.log_eq hfor]
  cases hverdict : call.verdict key world.transport with
  | reuse session =>
    refine ⟨horder, ?_⟩
    simp only [carryOut, onTransportOf, find_clearReconnectAttempt]
    exact sinceCleared_cleared log
  | suppressed suppression =>
    refine ⟨horder, ?_⟩
    simp only [carryOut, onTransportOf, find_clearReconnectAttempt]
    exact sinceCleared_cleared log
  | invalid error => exact ⟨horder, htracks⟩
  | failed attempt => exact ⟨horder, htracks⟩
  | backingOff attempt => exact ⟨horder, htracks⟩
  | attempt =>
    have hkey := call.verdict_attempt hverdict
    have hin := inOrder_of_tracks htracks hkey
    have hown : (⟨key.peer, some ⟨call.protocol⟩, key.trafficClass⟩ : SessionKey) = key := by
      rw [← hfor.protocol]
    have hsuppression : ((onTransportOf world ticked).transport.findReconnectSuppression
        ⟨key.peer, some ⟨call.protocol⟩, key.trafficClass⟩).isSome =
          (world.transport.findReconnectSuppression key).isSome := by
      rw [hown]
      rfl
    let before := announced key ⟨call.protocol⟩ (onTransportOf world ticked)
    have hbefore : SameAttempts world.transport before.transport :=
      IsTrans.trans _ _ _ (ticked_background world.transport) (emitRuntimeEvent_background _ _ _ _)
    have hsame := IsTrans.trans _ _ _ hbefore (realizeBestPath_sameAttempts call.config key.peer
      ⟨call.protocol⟩ key.trafficClass before)
    simp only [carryOut, attemptTarget_run, Verdict.logs]
    cases hrealize : LocalControlPlane.realizeBestPath call.config key.peer ⟨call.protocol⟩
        key.trafficClass (announced key ⟨call.protocol⟩ (onTransportOf world ticked)) with
    | ok session after =>
      rw [logged_attempting_of_ok hrealize, hsuppression]
      refine ⟨⟨hin, horder⟩, ?_⟩
      simp only [onTransportOf, find_clearReconnectAttempt]
      exact sinceCleared_cleared _
    | error error after =>
      rw [final_of_error hrealize] at hsame
      have hreading : after.transport.currentUnixSecs < 2 ^ 63 := by
        rw [currentUnixSecs, currentUnixNanos, hsame.clock]
        exact hclock _
      rw [logged_attempting_of_error hrealize, hsuppression]
      refine ⟨⟨hin, horder⟩, ?_⟩
      simp only [find_scheduleReconnect, scheduleReconnect_fst, hsame.find key]
      refine tracks_scheduled htracks ?_ key error.text hreading _ _
      exact fun record hrecord => ((keyVerdict_attempt hkey).2 record hrecord).1

theorem ReconnectRun.tracks {key : SessionKey} {log : List ReconnectEvent} {world : World ρ}
    (h : ReconnectRun key log world) :
    AllInOrder log ∧ Tracks log (findReconnectAttempt world.transport key) := by
  induction h with
  | start h =>
    rw [h]
    exact ⟨trivial, rfl⟩
  | call _ hfor hclock ih => exact TargetCall.run_tracks hfor hclock ih.1 ih.2
  | other _ h ih =>
    rw [h]
    exact ih

/-- Along every run of calls for one key: between two clearings of its record there are at
most `RECONNECT_MAX_ATTEMPTS` attempts; none is made while the key is suppressed or after
a failure that gave up, and the attempt after the `k`-th failure waits out its backoff. -/
theorem reconnects_bounded {key : SessionKey} {log : List ReconnectEvent} {world : World ρ}
    (h : ReconnectRun key log world) :
    (∀ later segment earlier, log = later ++ (segment ++ earlier) → .cleared ∉ segment →
      segment.countP isAttempted ≤ reconnectMaxAttempts.toNat) ∧
    (∀ later suppressed now earlier, log = later ++ .attempted suppressed now :: earlier →
      suppressed = false ∧
      (∀ reading record, .failed reading record ∈ sinceCleared earlier → record.state ≠ .failed) ∧
      (∀ reading record rest, sinceCleared earlier = .failed reading record :: rest →
        reading + min (reconnectBaseBackoffSecs * 2 ^ ((sinceCleared earlier).countP isFailed - 1))
          reconnectMaxBackoffSecs ≤ now)) := by
  obtain ⟨horder, -⟩ := h.tracks
  constructor
  · rintro later segment earlier rfl hsegment
    exact horder.of_append.countP_le hsegment
  · rintro later suppressed now earlier rfl
    have hin := horder.of_append.1
    exact ⟨hin.allowed, hin.notFailed, hin.waited⟩

end Hashing

section Closed
attribute [local instance] Primitives.transparent
open ReconnectEvent

def targetCall : TargetCall where
  config := meshConfig
  args := targetArgs
  state := LocalControlPlane.grantedFixture
  protocol := "/quip/control/1"

def targetKey : SessionKey := ⟨fixtureWorkerPeer, some ⟨"/quip/control/1"⟩, .bulk⟩

def strandedWorld : World Unit := meshWorld LocalControlPlane.grantedFixture [] []

def atSecond (second : ℕ) (world : World Unit) : World Unit :=
  onTransportOf world fun transport =>
    { transport with host := { transport.host with clock := fun _ => second * 1000000000 } }

theorem atSecond_clock {second : ℕ} (h : second < 2 ^ 63) (world : World Unit) :
    ClockInRange (atSecond second world).transport.host.clock := by
  intro reading
  change second * 1000000000 / 1000000000 < 2 ^ 63
  rwa [Nat.mul_div_cancel second (by norm_num)]

theorem suppressReconnect_sameAttempts (key : SessionKey) (reason : String)
    (adapter : QuicTransportAdapter ρ) :
    SameAttempts adapter (adapter.suppressReconnect key reason) := by
  constructor <;> simp only [suppressReconnect, emitRuntimeEvent, ticked]

theorem ReconnectRun.atSecond {key : SessionKey} {log : List ReconnectEvent} {world : World Unit}
    (h : ReconnectRun key log world) (second : ℕ) : ReconnectRun key log (atSecond second world) :=
  .other h rfl

/-! The first call fails, the second comes too early, the third fails again, and before the fourth
the key is suppressed. -/

def firstWorld : World Unit := atSecond 1720000000 strandedWorld
def secondWorld : World Unit := atSecond 1720000003 (final targetCall.run firstWorld)
def thirdWorld : World Unit := atSecond 1720000008 (final targetCall.run secondWorld)

def fourthWorld : World Unit :=
  onTransportOf (atSecond 1720000030 (final targetCall.run thirdWorld))
    (suppressReconnect targetKey "no active capability grants")

def strandedLog : List ReconnectEvent :=
  targetCall.log fourthWorld (targetCall.log thirdWorld (targetCall.log secondWorld
    (targetCall.log firstWorld [])))

theorem strandedLog_run : ReconnectRun targetKey strandedLog (final targetCall.run fourthWorld) := by
  have hfor : targetCall.For targetKey := ⟨by decide +kernel, rfl, rfl⟩
  have hfirst : ReconnectRun targetKey [] firstWorld := .start rfl
  have hsecond : ReconnectRun targetKey _ secondWorld :=
    (hfirst.call hfor (atSecond_clock (by norm_num) strandedWorld)).atSecond 1720000003
  have hthird : ReconnectRun targetKey _ thirdWorld :=
    (hsecond.call hfor (atSecond_clock (by norm_num) _)).atSecond 1720000008
  have hlater := (hthird.call hfor (atSecond_clock (by norm_num) _)).atSecond 1720000030
  have hsuppressed : SameAttempts _ fourthWorld.transport :=
    suppressReconnect_sameAttempts targetKey "no active capability grants" _
  have hclock : ClockInRange fourthWorld.transport.host.clock := by
    rw [hsuppressed.clock]
    exact atSecond_clock (by norm_num) _
  have hfourth : ReconnectRun targetKey _ fourthWorld := .other hlater (hsuppressed.find targetKey)
  exact hfourth.call hfor hclock

theorem stranded_target_attempted_twice :
    strandedLog.countP isAttempted = 2 ∧ strandedLog.countP isFailed = 2 ∧
      strandedLog.head? = some .cleared ∧
      ∀ later suppressed now earlier, strandedLog = later ++ .attempted suppressed now :: earlier →
        suppressed = false ∧ ∀ reading record rest,
          sinceCleared earlier = .failed reading record :: rest → reading + min (5 * 2 ^
            ((sinceCleared earlier).countP isFailed - 1)) 300 ≤ now := by
  have hcounts : strandedLog.countP isAttempted = 2 ∧ strandedLog.countP isFailed = 2 ∧
      strandedLog.head? = some .cleared := by
    decide +kernel
  refine ⟨hcounts.1, hcounts.2.1, hcounts.2.2, fun later suppressed now earlier heq => ?_⟩
  obtain ⟨hallowed, -, hwaited⟩ :=
    (reconnects_bounded strandedLog_run).2 later suppressed now earlier heq
  exact ⟨hallowed, hwaited⟩

end Closed

end QuipNet.Daemon
