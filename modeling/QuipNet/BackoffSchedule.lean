import QuipNet.AdapterHistory
import QuipNet.Reconnects

/-!
# The backoff schedule of a key

The first schedule of a key and the later ones are computed by different branches of
`schedule_reconnect`. Along a run of the adapter that does not clear the key, its record is the
only one of the key, and one formula in the number of schedules gives its state and its delay.
Calls for other keys may come in between; they and this key do not touch each other's records.
-/

open Std
namespace QuipNet.Quic
open QuipNet.Library QuipNet.Library.Effect QuipNet.Transport
open QuicTransportAdapter

variable {ρ : Type}

def backoffSecs (n baseBackoffSecs maxBackoffSecs : ℕ) : ℕ :=
  min (saturate64 (baseBackoffSecs * 2 ^ min (n - 1) 16)) maxBackoffSecs

structure OnSchedule (n : ℕ) (maxAttempts : UInt32) (baseBackoffSecs maxBackoffSecs now : ℕ)
    (attempt : RuntimeReconnectAttempt) : Prop where
  count : attempt.attemptCount.toNat = n
  failed : attempt.state = .failed ↔ max maxAttempts.toNat 1 ≤ n
  last : attempt.lastAttemptUnixSecs = now
  next : baseBackoffSecs < 2 ^ 64 → attempt.nextAttemptUnixSecs =
    saturate64 (now + backoffSecs n baseBackoffSecs maxBackoffSecs)

def keyRecords (attempts : List RuntimeReconnectAttempt) (key : SessionKey) :
    List RuntimeReconnectAttempt :=
  attempts.filter fun attempt => attempt.key = key

/-- After `n` schedules since the last clearing, a key has no record or the one that counts them. -/
def CountsTo (attempts : List RuntimeReconnectAttempt) (key : SessionKey) : ℕ → Prop
  | 0 => keyRecords attempts key = []
  | n + 1 => ∃ attempt, keyRecords attempts key = [attempt] ∧ attempt.attemptCount.toNat = n + 1

theorem CountsTo.of_keyRecords {before after : List RuntimeReconnectAttempt} {key : SessionKey} {n : ℕ}
    (h : CountsTo before key n) (hrecords : keyRecords after key = keyRecords before key) :
    CountsTo after key n := by
  cases n with
  | zero => exact hrecords.trans h
  | succ n =>
    obtain ⟨attempt, hattempt, hcount⟩ := h
    exact ⟨attempt, hrecords.trans hattempt, hcount⟩

/-! ## One schedule -/

section Schedule
variable {key : SessionKey} (reason : String) (maxAttempts : UInt32)
  (baseBackoffSecs maxBackoffSecs now : ℕ)

theorem onSchedule_firstAttempt :
    OnSchedule 1 maxAttempts baseBackoffSecs maxBackoffSecs now
      (firstAttempt key reason maxAttempts baseBackoffSecs maxBackoffSecs now) where
  count := rfl
  failed := by
    have hmax : maxAttempts ≤ 1 ↔ max maxAttempts.toNat 1 ≤ 1 := by
      rw [UInt32.le_iff_toNat_le]
      exact ⟨fun h => Nat.max_le.2 ⟨h, le_rfl⟩, fun h => (Nat.max_le.1 h).1⟩
    rw [← hmax, firstAttempt]
    split_ifs with hfailed <;> simp [hfailed]
  last := rfl
  next := by
    intro hbase
    have hbackoff : backoffSecs 1 baseBackoffSecs maxBackoffSecs =
        min baseBackoffSecs maxBackoffSecs := by
      rw [backoffSecs, Nat.sub_self, Nat.zero_min, pow_zero, Nat.mul_one, saturate64,
        min_eq_left (Nat.le_sub_one_of_lt hbase)]
    rw [hbackoff]
    rfl

theorem onSchedule_nextAttempt {existing : RuntimeReconnectAttempt} {n : ℕ}
    (hcount : existing.attemptCount.toNat = n + 1) (hn : n + 2 < 2 ^ 32) :
    OnSchedule (n + 2) maxAttempts baseBackoffSecs maxBackoffSecs now
      (nextAttempt existing reason maxAttempts baseBackoffSecs maxBackoffSecs now) := by
  have hnext : (existing.attemptCount + 1).toNat = n + 2 := by
    rw [UInt32.toNat_add, hcount]
    exact Nat.mod_eq_of_lt hn
  refine ⟨hnext, ?_, rfl, ?_⟩
  · have hmax : existing.attemptCount + 1 ≥ maxAttempts ↔ max maxAttempts.toNat 1 ≤ n + 2 := by
      rw [ge_iff_le, UInt32.le_iff_toNat_le, hnext]
      exact ⟨fun h => Nat.max_le.2 ⟨h, Nat.le_add_left 1 (n + 1)⟩, fun h => (Nat.max_le.1 h).1⟩
    rw [← hmax]
    simp only [nextAttempt]
    split_ifs with hfailed <;> simp [hfailed]
  · intro _
    simp only [nextAttempt, hnext]
    rfl

theorem keyRecords_upsertAttempt {attempts : List RuntimeReconnectAttempt} {n : ℕ}
    (h : CountsTo attempts key n) (hn : n + 1 < 2 ^ 32) :
    ∃ attempt, keyRecords (upsertAttempt attempts key reason maxAttempts baseBackoffSecs
        maxBackoffSecs now).2 key = [attempt] ∧
      OnSchedule (n + 1) maxAttempts baseBackoffSecs maxBackoffSecs now attempt := by
  have hfind : (attempts.find? fun attempt => attempt.key = key) = (keyRecords attempts key).head? :=
    List.head?_filter.symm
  have hkey := key_upsertAttempt attempts key reason maxAttempts baseBackoffSecs maxBackoffSecs now
  have hrecorded : (keyRecords attempts key).length ≤ 1 →
      keyRecords (upsertAttempt attempts key reason maxAttempts baseBackoffSecs maxBackoffSecs now).2
        key = [(upsertAttempt attempts key reason maxAttempts baseBackoffSecs maxBackoffSecs now).1] := by
    rw [upsertAttempt_snd]
    apply filter_upsert_self
    exact decide_eq_true hkey
  cases n with
  | zero =>
    have hnone : keyRecords attempts key = [] := h
    refine ⟨_, hrecorded (by rw [hnone]; exact Nat.zero_le 1), ?_⟩
    rw [hnone, List.head?_nil] at hfind
    rw [upsertAttempt, hfind]
    exact onSchedule_firstAttempt reason maxAttempts baseBackoffSecs maxBackoffSecs now
  | succ n =>
    obtain ⟨existing, hexisting, hcount⟩ := h
    refine ⟨_, hrecorded (by rw [hexisting]; exact le_rfl), ?_⟩
    rw [hexisting, List.head?_cons] at hfind
    rw [upsertAttempt, hfind]
    exact onSchedule_nextAttempt reason maxAttempts baseBackoffSecs maxBackoffSecs now hcount hn

theorem keyRecords_upsertAttempt_of_ne {other : SessionKey} (hother : other ≠ key)
    (attempts : List RuntimeReconnectAttempt) :
    keyRecords (upsertAttempt attempts key reason maxAttempts baseBackoffSecs maxBackoffSecs now).2
      other = keyRecords attempts other := by
  have hkey := key_upsertAttempt attempts key reason maxAttempts baseBackoffSecs maxBackoffSecs now
  rw [upsertAttempt_snd]
  apply filter_upsert_of_neg
  · intro attempt hattempt
    rw [decide_eq_true_eq] at hattempt ⊢
    rw [hattempt]
    exact hother.symm
  · rw [hkey, decide_eq_true_eq]
    exact hother.symm

end Schedule

/-! ## Runs -/

namespace AdapterCall

def schedules (key : SessionKey) : AdapterCall → Bool
  | .scheduleReconnect other _ _ _ _ => other = key
  | _ => false

def clears (key : SessionKey) : AdapterCall → Bool
  | .clearReconnectAttempt other _ => other = key
  | _ => false

theorem eq_of_schedules {key : SessionKey} {call : AdapterCall} (h : call.schedules key = true) :
    ∃ reason maxAttempts baseBackoffSecs maxBackoffSecs,
      call = .scheduleReconnect key reason maxAttempts baseBackoffSecs maxBackoffSecs := by
  cases call with
  | scheduleReconnect other reason maxAttempts baseBackoffSecs maxBackoffSecs =>
    rw [← of_decide_eq_true h]
    exact ⟨reason, maxAttempts, baseBackoffSecs, maxBackoffSecs, rfl⟩
  | _ => cases h

end AdapterCall

theorem keyRecords_clearReconnectAttempt_of_ne {key other : SessionKey} (hother : other ≠ key)
    (outcomeReason : Option String) (adapter : QuicTransportAdapter ρ) :
    keyRecords (adapter.clearReconnectAttempt other outcomeReason).reconnectAttempts key =
      keyRecords adapter.reconnectAttempts key := by
  have hkept : keyRecords (adapter.reconnectAttempts.filter fun attempt => attempt.key ≠ other) key =
      keyRecords adapter.reconnectAttempts key := by
    rw [keyRecords, List.filter_filter]
    apply List.filter_congr
    intro attempt _
    by_cases hkey : attempt.key = key
    · simp [hkey, hother.symm]
    · simp [hkey]
  unfold clearReconnectAttempt
  split
  · exact hkept
  · rw [(emitRuntimeEvent_sameReconnects _ _ _ _).2]
    exact hkept

section Calls
variable [Primitives]

theorem AdapterCall.run_keyRecords {call : AdapterCall} {key : SessionKey}
    (hschedules : ¬ call.schedules key = true) (hclears : ¬ call.clears key = true)
    (adapter : QuicTransportAdapter ρ) :
    keyRecords (call.run adapter).reconnectAttempts key = keyRecords adapter.reconnectAttempts key := by
  cases call with
  | connect route => exact congrArg (keyRecords · key) ((connect_logs route).sameReconnects adapter).2
  | listen bind => rfl
  | updateSessionState id state closureReason stateReason =>
    exact congrArg (keyRecords · key)
      ((moveSession_logs id state closureReason stateReason).sameReconnects adapter).2
  | suppressReconnect other reason =>
    exact congrArg (keyRecords · key) (emitRuntimeEvent_sameReconnects _ _ _ _).2
  | clearReconnectSuppression other =>
    simp only [run, QuicTransportAdapter.clearReconnectSuppression]
    split
    · rfl
    · exact congrArg (keyRecords · key) (emitRuntimeEvent_sameReconnects _ _ _ _).2
  | updateListenerState id state stateReason => rfl
  | scheduleReconnect other reason maxAttempts baseBackoffSecs maxBackoffSecs =>
    have hother : key ≠ other := by
      rintro rfl
      exact hschedules (decide_eq_true rfl)
    simp only [run, Daemon.scheduleReconnect_attempts]
    exact keyRecords_upsertAttempt_of_ne reason maxAttempts baseBackoffSecs maxBackoffSecs _ hother _
  | clearReconnectAttempt other outcomeReason =>
    have hother : other ≠ key := fun h => hclears (decide_eq_true h)
    exact keyRecords_clearReconnectAttempt_of_ne hother outcomeReason adapter
  | recordRuntimeEvent eventType subject details =>
    exact congrArg (keyRecords · key) (emitRuntimeEvent_sameReconnects _ _ _ adapter).2
  | migrate session route =>
    exact congrArg (keyRecords · key) ((migrate_logs session route).sameReconnects adapter).2
  | closeSession session =>
    exact congrArg (keyRecords · key) ((closeSession_logs session).sameReconnects adapter).2

variable {key : SessionKey}

theorem AdapterCall.run_schedule {adapter : QuicTransportAdapter ρ} {n : ℕ}
    (h : CountsTo adapter.reconnectAttempts key n) (hn : n + 1 < 2 ^ 32) (reason : String)
    (maxAttempts : UInt32) (baseBackoffSecs maxBackoffSecs : ℕ) :
    ∃ attempt, keyRecords ((AdapterCall.scheduleReconnect key reason maxAttempts baseBackoffSecs
        maxBackoffSecs).run adapter).reconnectAttempts key = [attempt] ∧
      OnSchedule (n + 1) maxAttempts baseBackoffSecs maxBackoffSecs adapter.currentUnixSecs attempt := by
  simp only [run, Daemon.scheduleReconnect_attempts]
  exact keyRecords_upsertAttempt reason maxAttempts baseBackoffSecs maxBackoffSecs _ h hn

theorem runAdapterCalls_keyRecords {calls : List AdapterCall}
    (hcalls : ∀ call ∈ calls, ¬ call.schedules key = true ∧ ¬ call.clears key = true)
    (adapter : QuicTransportAdapter ρ) :
    keyRecords (runAdapterCalls calls adapter).reconnectAttempts key =
      keyRecords adapter.reconnectAttempts key := by
  induction calls generalizing adapter with
  | nil => rfl
  | cons call calls ih =>
    rw [List.forall_mem_cons] at hcalls
    exact (ih hcalls.2 (call.run adapter)).trans
      (AdapterCall.run_keyRecords hcalls.1.1 hcalls.1.2 adapter)

theorem runAdapterCalls_countsTo {calls : List AdapterCall}
    (hcalls : ∀ call ∈ calls, ¬ call.clears key = true) {adapter : QuicTransportAdapter ρ} {n : ℕ}
    (h : CountsTo adapter.reconnectAttempts key n)
    (hn : n + calls.countP (AdapterCall.schedules key) < 2 ^ 32) :
    CountsTo (runAdapterCalls calls adapter).reconnectAttempts key
      (n + calls.countP (AdapterCall.schedules key)) := by
  induction calls generalizing adapter n with
  | nil => exact h
  | cons call calls ih =>
    rw [List.forall_mem_cons] at hcalls
    by_cases hschedules : call.schedules key = true
    · rw [List.countP_cons_of_pos hschedules, ← Nat.add_assoc, Nat.add_right_comm] at hn ⊢
      refine ih hcalls.2 ?_ hn
      obtain ⟨reason, maxAttempts, baseBackoffSecs, maxBackoffSecs, rfl⟩ :=
        AdapterCall.eq_of_schedules hschedules
      obtain ⟨attempt, hattempt, hschedule⟩ := AdapterCall.run_schedule h
        (Nat.lt_of_le_of_lt (Nat.le_add_right _ _) hn) reason maxAttempts baseBackoffSecs maxBackoffSecs
      exact ⟨attempt, hattempt, hschedule.count⟩
    · rw [List.countP_cons_of_neg hschedules] at hn ⊢
      refine ih hcalls.2 ?_ hn
      exact h.of_keyRecords (AdapterCall.run_keyRecords hschedules hcalls.1 adapter)

/-- From an adapter that holds no record of the key, any calls that do not clear it: `n` schedules
of the key, the last one with the given numbers, and anything else before and after it. -/
theorem backoff_schedule {adapter : QuicTransportAdapter ρ}
    (hnone : ∀ attempt ∈ adapter.reconnectAttempts, attempt.key ≠ key) {before after : List AdapterCall}
    (hbefore : ∀ call ∈ before, ¬ call.clears key = true)
    (hafter : ∀ call ∈ after, ¬ call.schedules key = true ∧ ¬ call.clears key = true) {n : ℕ}
    (hcount : n = before.countP (AdapterCall.schedules key) + 1) (hn : n < 2 ^ 32) (reason : String)
    (maxAttempts : UInt32) (baseBackoffSecs maxBackoffSecs : UInt64) :
    let now := (runAdapterCalls before adapter).currentUnixSecs
    let last := AdapterCall.scheduleReconnect key reason maxAttempts baseBackoffSecs.toNat
      maxBackoffSecs.toNat
    let backoff := min (min (baseBackoffSecs.toNat * 2 ^ min (n - 1) 16) (2 ^ 64 - 1))
      maxBackoffSecs.toNat
    (∃ attempt, keyRecords (runAdapterCalls (before ++ last :: after) adapter).reconnectAttempts key =
        [attempt] ∧
      attempt.attemptCount.toNat = n ∧
      (attempt.state = .failed ↔ max maxAttempts.toNat 1 ≤ n) ∧
      attempt.lastAttemptUnixSecs = now ∧
      (now + backoff < 2 ^ 64 →
        attempt.nextAttemptUnixSecs = attempt.lastAttemptUnixSecs + backoff)) ∧
    ∀ (reached : QuicTransportAdapter ρ) (call : AdapterCall), call.schedules key = true →
      ∀ other, other ≠ key →
        keyRecords (call.run reached).reconnectAttempts other =
          keyRecords reached.reconnectAttempts other := by
  intro now last backoff
  refine ⟨?_, ?_⟩
  · have hzero : CountsTo adapter.reconnectAttempts key 0 := by
      apply List.filter_eq_nil_iff.2
      intro attempt hattempt
      simpa using hnone attempt hattempt
    have hbeforeCount := runAdapterCalls_countsTo hbefore hzero (by omega)
    obtain ⟨attempt, hattempt, hschedule⟩ := AdapterCall.run_schedule hbeforeCount (by omega) reason
      maxAttempts baseBackoffSecs.toNat maxBackoffSecs.toNat
    rw [Nat.zero_add, ← hcount] at hschedule
    refine ⟨attempt, ?_, hschedule.count, hschedule.failed, hschedule.last, ?_⟩
    · rw [← hattempt, runAdapterCalls, List.foldl_append, List.foldl_cons]
      exact runAdapterCalls_keyRecords hafter _
    · intro hclock
      have hsum : saturate64 (now + backoff) = now + backoff :=
        min_eq_left (Nat.le_sub_one_of_lt hclock)
      rw [hschedule.last]
      exact (hschedule.next baseBackoffSecs.toNat_lt).trans hsum
  · intro reached call hcall other hother
    obtain ⟨reason, maxAttempts, baseBackoffSecs, maxBackoffSecs, rfl⟩ :=
      AdapterCall.eq_of_schedules hcall
    simp only [AdapterCall.run, Daemon.scheduleReconnect_attempts]
    exact keyRecords_upsertAttempt_of_ne reason maxAttempts baseBackoffSecs maxBackoffSecs _ hother _

end Calls

section Closed
attribute [local instance] Primitives.transparent

def controlKey (peer : UInt8) : SessionKey := ⟨⟨[peer]⟩, some ⟨"/quip/control/1"⟩, .interactive⟩

def controlSchedule (peer : UInt8) : AdapterCall :=
  .scheduleReconnect (controlKey peer) "dial failed" 3 2 32

theorem third_control_schedule_failed :
    ∃ attempt, keyRecords (runAdapterCalls
        [controlSchedule 1, controlSchedule 2, controlSchedule 1,
          .clearReconnectAttempt (controlKey 2) none, controlSchedule 1]
        (Fabric.meshTransport [] [])).reconnectAttempts (controlKey 1) = [attempt] ∧
      attempt.attemptCount.toNat = 3 ∧ attempt.state = .failed ∧
      attempt.nextAttemptUnixSecs = attempt.lastAttemptUnixSecs + 8 := by
  have hnone : ∀ attempt ∈ (Fabric.meshTransport [] []).reconnectAttempts,
      attempt.key ≠ controlKey 1 := by
    simp [Fabric.meshTransport]
  have hbefore : ∀ call ∈ [controlSchedule 1, controlSchedule 2, controlSchedule 1,
      .clearReconnectAttempt (controlKey 2) none], ¬ call.clears (controlKey 1) = true := by
    decide
  have hafter : ∀ call ∈ ([] : List AdapterCall), ¬ call.schedules (controlKey 1) = true ∧
      ¬ call.clears (controlKey 1) = true := List.forall_mem_nil _
  obtain ⟨attempt, hattempt, hcount, hfailed, -, hbackoff⟩ :=
    (backoff_schedule hnone hbefore hafter (n := 3) (by decide) (by decide) "dial failed" 3 2 32).1
  refine ⟨attempt, hattempt, hcount, hfailed.2 (by decide), hbackoff ?_⟩
  decide

end Closed

end QuipNet.Quic
