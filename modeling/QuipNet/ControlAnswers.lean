import QuipNet.Library.Raises
import QuipNet.NodeInvariants

/-!
# Which requests are answered

The control thread answers every request until one makes it panic: the request to close or
upgrade a session whose id has the right length in bytes and cuts a character. A cycle that
fails ends the whole process. No request after either is answered.
-/

open Std
namespace QuipNet.Daemon
open QuipNet.Control QuipNet.DaemonApi QuipNet.Fabric QuipNet.Library QuipNet.Library.Effect
open QuipNet.Quic QuipNet.SessionIds QuipNet.Transport

variable {ρ : Type} [Primitives]

/-- A computation that does not panic. -/
abbrev Answers {α : Type} (m : ServerM ρ α) : Prop := Raises (fun refusal => refusal ≠ .panicked) m

section Answers
variable {α β : Type}

omit [Primitives]

theorem Answers.refuse (code : ErrorCode) (message : String) :
    Answers (refuse code message : ServerM ρ α) :=
  Raises.throw (by simp)

theorem Answers.onPlane (m : ControlM ρ α) : Answers (onPlane m) := Raises.mapError (by simp) m

theorem Answers.decoded (payload : String) (answer : Except String α) :
    Answers (decoded payload answer : ServerM ρ α) := by
  cases answer with
  | ok value => exact Raises.pure value
  | error error => exact Answers.refuse _ _

theorem Answers.modifyGet (f : World ρ → α × World ρ) : Answers (modifyGet f : ServerM ρ α) := by
  intro world refusal after h
  cases h

theorem Answers.map {m : ServerM ρ α} (hm : Answers m) (f : α → β) : Answers (f <$> m) :=
  Raises.bind hm fun a => Raises.pure (f a)

theorem Answers.mapM {g : α → ServerM ρ β} (hg : ∀ a, Answers (g a)) (items : List α) :
    Answers (items.mapM g) := by
  induction items with
  | nil => exact Raises.pure []
  | cons item rest ih =>
    rw [List.mapM_cons]
    refine Raises.bind (hg item) fun b => ?_
    exact Raises.bind ih fun results => Raises.pure _

theorem Answers.entries (sessions : List SessionSnapshot) :
    Answers (sessions.mapM runtimeSessionEntry : ServerM ρ _) :=
  Answers.mapM (fun _ => Raises.bind (Answers.modifyGet _) fun _ => Raises.pure _) sessions

theorem Answers.plane_then {m : ControlM ρ α} {f : α → ServerM ρ β} (hf : ∀ a, Answers (f a)) :
    Answers (Daemon.onPlane m >>= f) := Raises.bind (Answers.onPlane m) hf

theorem Answers.get_then {f : World ρ → ServerM ρ β} (hf : ∀ world, Answers (f world)) :
    Answers (get >>= f) := Raises.bind Raises.get hf

end Answers

section Answering
variable (surroundings : ServerSurroundings) (args : ServerArgs) (config : DaemonConfig)
  (localIdentity : IdentityKeypair)

theorem runtimeView_answers : Answers (runtimeView config : ServerM ρ _) := by
  refine Answers.plane_then fun state => ?_
  refine Answers.plane_then fun health => ?_
  exact Answers.get_then fun _ => Raises.pure _

omit [Primitives] in
theorem inspectedStateFile_answers :
    Answers (inspectedStateFile surroundings args : ServerM ρ _) := by
  refine Answers.get_then fun world => ?_
  split
  · exact Raises.pure _
  · exact Raises.throw (by simp)

theorem listenerEntries_answers : Answers (runtimeListenerEntries config : ServerM ρ _) := by
  refine Answers.plane_then fun listeners => ?_
  exact Answers.mapM (fun _ => Raises.bind (Answers.modifyGet _) fun _ => Raises.pure _) listeners

theorem runtimeSessions_answers : Answers (runtimeSessions config : ServerM ρ _) := by
  refine Answers.plane_then fun state => ?_
  exact Answers.get_then fun _ => Answers.entries _

theorem runtimeDiagnoseResult_answers (eventLimit : ℕ) :
    Answers (runtimeDiagnoseResult surroundings args config localIdentity eventLimit :
      ServerM ρ _) := by
  refine Answers.plane_then fun state => ?_
  refine Raises.bind (Raises.bind (runtimeView_answers config) fun _ => Raises.pure _) fun _ => ?_
  refine Raises.bind (Answers.plane_then fun _ => Raises.pure _) fun health => ?_
  refine Raises.bind (Raises.bind (inspectedStateFile_answers surroundings args)
    fun _ => Raises.pure _) fun _ => ?_
  refine Raises.bind (Answers.plane_then fun _ => Raises.pure _) fun identity => ?_
  refine Raises.bind (Raises.bind (runtimeView_answers config) fun _ => Raises.pure _) fun _ => ?_
  refine Answers.get_then fun world => ?_
  refine Raises.bind (Answers.entries _) fun sessions => ?_
  refine Raises.bind (listenerEntries_answers config) fun listeners => ?_
  refine Raises.bind (Answers.plane_then fun _ => Raises.pure _) fun paths => ?_
  exact Raises.bind (Answers.get_then fun _ => Raises.pure _) fun events => Raises.pure _

omit [Primitives] in
theorem stateExport_answers (payload : StateExportPayload) :
    Answers (stateExport surroundings args payload : ServerM ρ _) := by
  refine Raises.bind (Raises.mapError ?_ _) fun report => Raises.pure _
  intro error
  cases error <;> simp [backupRefusal]

omit [Primitives] in
theorem stateReset_answers (payload : StateResetPayload) :
    Answers (stateReset payload : ServerM ρ _) := by
  unfold stateReset
  split_ifs
  · exact Answers.refuse _ _
  · exact Answers.refuse _ _
  · exact Answers.plane_then fun _ => Raises.pure _

theorem reevaluateAfterSync_answers (source : SyncSource) (report : StateSyncReport) :
    Answers (reevaluateAfterSync config localIdentity source report : ServerM ρ Bool) := by
  unfold reevaluateAfterSync
  split_ifs
  · refine Raises.bind (Raises.attempt _) fun outcome => ?_
    split
    · exact Raises.pure _
    · exact Raises.bind (Raises.modify _) fun _ => Raises.throw (by simp)
  · exact Raises.pure _

theorem authoritySync_answers (source : SyncSource)
    (sync : ControlM ρ (DaemonState × StateSyncReport)) :
    Answers (authoritySync config localIdentity source sync) := by
  refine Raises.bind (Raises.modify _) fun _ => ?_
  refine Raises.bind (Raises.attempt _) fun outcome => ?_
  split
  · exact Raises.bind (Raises.modify _) fun _ => Raises.throw (by simp)
  · refine Raises.bind (reevaluateAfterSync_answers config localIdentity source _) fun _ => ?_
    refine Answers.plane_then fun health => ?_
    refine Answers.get_then fun world => ?_
    exact Raises.bind (Raises.modify _) fun _ => Raises.pure _

theorem sessionConnect_answers (payload : SessionConnectPayload) :
    Answers (sessionConnect config localIdentity payload : ServerM ρ _) := by
  refine Answers.plane_then fun _ => ?_
  split
  · exact Answers.refuse _ _
  · split
    · exact Answers.refuse _ _
    · exact Answers.plane_then fun _ => Raises.pure _

end Answering

/-! ## Panics -/

omit [Primitives] in
theorem parsed_panics_iff {α : Type} {value : String} {rest : SessionId → ServerM ρ α}
    (hrest : ∀ id, Answers (rest id)) (world : World ρ) :
    (∃ after, (parsedSessionId value >>= rest) world = .error .panicked after) ↔
      parseHexSessionId value = none := by
  cases hparse : parseHexSessionId value with
  | none =>
    refine iff_of_true ⟨world, bind_of_error ?_⟩ rfl
    rw [parsedSessionId, hparse]
    rfl
  | some outcome =>
    refine iff_of_false ?_ (by simp)
    rintro ⟨after, hpanic⟩
    have hanswers : Answers (parsedSessionId value >>= rest) := by
      refine Raises.bind ?_ hrest
      unfold parsedSessionId
      rw [hparse]
      cases outcome with
      | error detail => exact Answers.refuse _ _
      | ok id => exact Raises.pure id
    exact hanswers world _ after hpanic rfl

theorem sessionClose_panics_iff (config : DaemonConfig) (payload : SessionClosePayload) (world : World ρ) :
    (∃ after, (sessionClose config payload : ServerM ρ _) world = .error .panicked after) ↔
      parseHexSessionId payload.sessionId = none := by
  refine parsed_panics_iff (fun id => ?_) world
  refine Answers.plane_then fun _ => ?_
  exact Answers.get_then fun _ => Raises.pure _

theorem sessionUpgrade_panics_iff (config : DaemonConfig) (payload : SessionUpgradePayload) (world : World ρ) :
    (∃ after, (sessionUpgrade config payload : ServerM ρ _) world = .error .panicked after) ↔
      parseHexSessionId payload.sessionId = none := by
  refine parsed_panics_iff (fun id => ?_) world
  refine Answers.plane_then fun priorState => ?_
  split
  · exact Raises.throw (by simp)
  · exact Answers.plane_then fun _ => Raises.pure _

section Panics
variable [PayloadDecoder]

def namedSession (envelope : RequestEnvelope) : Option String :=
  match operations.lookup envelope.operation with
  | some .sessionClose =>
    (PayloadDecoder.sessionClose envelope.payload).toOption.map SessionClosePayload.sessionId
  | some .sessionUpgrade =>
    (PayloadDecoder.sessionUpgrade envelope.payload).toOption.map SessionUpgradePayload.sessionId
  | _ => none

/-- The request is for a session whose id has 32 bytes and cuts a character. -/
def Panics (request : HttpRequest) : Prop :=
  ∃ envelope value, readEnvelope request = .ok envelope ∧ namedSession envelope = some value ∧
    byteLength value.toList = 32 ∧ CutsCharacter value

def NodeStep.Panics : NodeStep → Prop
  | .request _ incoming => Daemon.Panics incoming
  | .cycle _ _ => False

variable (surroundings : ServerSurroundings) (args : ServerArgs) (config : DaemonConfig)
  (localIdentity : IdentityKeypair)

theorem Operation.run_answers {operation : Operation} (payload : Json)
    (h : operation ≠ .sessionClose ∧ operation ≠ .sessionUpgrade) :
    Answers (operation.run surroundings args config localIdentity payload :
      ServerM ρ ControlResult) := by
  cases operation with
  | runtimeStatus =>
    exact Answers.map (Raises.bind (runtimeView_answers config) fun _ => Raises.pure _) _
  | runtimeSessionsList => exact (runtimeSessions_answers config).map _
  | runtimeDiagnose =>
    refine Raises.bind (Answers.decoded _ _) fun request => ?_
    exact (runtimeDiagnoseResult_answers surroundings args config localIdentity _).map _
  | runtimeListenersList => exact (listenerEntries_answers config).map _
  | runtimePathsList => exact (Answers.plane_then fun _ => Raises.pure _).map _
  | runtimeHealth => exact (Answers.plane_then fun _ => Raises.pure _).map _
  | runtimeEventsList => exact (Answers.get_then fun _ => Raises.pure _).map _
  | authorityShow => exact Answers.map (Raises.bind (runtimeView_answers config) fun _ => Raises.pure _) _
  | authorityMembership => exact (Answers.plane_then fun _ => Raises.pure _).map _
  | authorityCapabilities => exact (Answers.plane_then fun _ => Raises.pure _).map _
  | authorityRevocations => exact (Answers.plane_then fun _ => Raises.pure _).map _
  | identityShow => exact (Answers.plane_then fun _ => Raises.pure _).map _
  | identityVerify => exact (Answers.plane_then fun _ => Raises.pure _).map _
  | stateShow =>
    exact Answers.map
      (Raises.bind (inspectedStateFile_answers surroundings args) fun _ => Raises.pure _) _
  | stateValidate =>
    exact Answers.map
      (Raises.bind (inspectedStateFile_answers surroundings args) fun _ => Raises.pure _) _
  | stateExport =>
    refine Raises.bind (Answers.decoded _ _) fun request => ?_
    exact (stateExport_answers surroundings args request).map _
  | stateReset =>
    refine Raises.bind (Answers.decoded _ _) fun request => ?_
    exact (stateReset_answers request).map _
  | authoritySyncSnapshot =>
    refine Raises.bind (Answers.decoded _ _) fun request => ?_
    exact (authoritySync_answers config localIdentity _ _).map _
  | authoritySyncOrigin =>
    refine Raises.bind (Answers.decoded _ _) fun request => ?_
    exact (authoritySync_answers config localIdentity _ _).map _
  | authoritySyncRevocationsOrigin =>
    refine Raises.bind (Answers.decoded _ _) fun request => ?_
    exact (authoritySync_answers config localIdentity _ _).map _
  | sessionConnect =>
    refine Raises.bind (Answers.decoded _ _) fun request => ?_
    exact (sessionConnect_answers config localIdentity request).map _
  | sessionClose => exact absurd rfl h.1
  | sessionUpgrade => exact absurd rfl h.2
  | sessionReconcile =>
    refine Raises.bind (Answers.decoded _ _) fun request => ?_
    exact (Answers.plane_then fun _ => Raises.pure _).map _

theorem dispatch_panics_iff (envelope : RequestEnvelope) (world : World ρ) :
    (∃ after, dispatch surroundings args config localIdentity envelope world =
      .error .panicked after) ↔
      ∃ value, namedSession envelope = some value ∧ parseHexSessionId value = none := by
  have hanswers {m : ServerM ρ ControlResult} (hm : Answers m) :
      ¬ ∃ after, m world = .error .panicked after := by
    rintro ⟨after, hpanic⟩
    exact hm world _ after hpanic rfl
  have hdecoded {α β : Type} (name : String) (answer : Except String α) (run : α → ServerM ρ β)
      (wrap : β → ControlResult) (session : α → String)
      (hrun : ∀ payload, (∃ after, run payload world = .error .panicked after) ↔
        parseHexSessionId (session payload) = none) :
      (∃ after, (do let payload ← decoded name answer; wrap <$> run payload : ServerM ρ _) world =
        .error .panicked after) ↔
        ∃ value, answer.toOption.map session = some value ∧ parseHexSessionId value = none := by
    cases answer with
    | error detail => simp [decoded, refuse, Except.toOption]
    | ok payload =>
      simp only [decoded, pure_bind, map_run, Except.toOption, Option.map_some,
        Option.some.injEq, exists_eq_left', ← hrun]
      cases run payload world <;> simp
  unfold dispatch namedSession
  cases hoperation : operations.lookup envelope.operation with
  | none => exact iff_of_false (hanswers (Answers.refuse _ _)) (by simp)
  | some operation =>
    cases operation with
    | sessionClose =>
      exact hdecoded _ _ _ _ _ fun payload => sessionClose_panics_iff config payload world
    | sessionUpgrade =>
      exact hdecoded _ _ _ _ _ fun payload => sessionUpgrade_panics_iff config payload world
    | _ =>
      refine iff_of_false (hanswers ?_) (by simp)
      exact Operation.run_answers surroundings args config localIdentity _ (by simp)

theorem routeControlRequest_eq_none_iff (request : HttpRequest) (world : World ρ) :
    (routeControlRequest surroundings args config localIdentity request world).1 = none ↔
      Panics request := by
  unfold routeControlRequest Panics
  cases hread : readEnvelope request with
  | error response => simp
  | ok envelope =>
    have hdispatch := dispatch_panics_iff surroundings args config localIdentity envelope world
    simp only [parseHexSessionId, parseText_eq_none_iff] at hdispatch
    simp only [Except.ok.injEq, exists_and_left, exists_eq_left', Option.map_eq_none_iff]
    rw [← hdispatch]
    cases houtcome : dispatch surroundings args config localIdentity envelope world with
    | ok result after => simp [responseTo]
    | error refusal after => cases refusal <;> simp [responseTo]

def NodeStep.Fails (node : Node ρ) : NodeStep → Prop
  | .request _ _ => False
  | .cycle surroundings trigger => ∃ error after,
      runCycle surroundings config localIdentity args.toArgs trigger node.world = .error error after

def Node.Serves (node : Node ρ) : Prop := (node.running && node.answering) = true

theorem Node.step_serves (node : Node ρ) (step : NodeStep) :
    (node.step args config localIdentity step).2.Serves ↔
      node.Serves ∧ ¬ step.Panics ∧ ¬ step.Fails args config localIdentity node := by
  unfold Node.Serves Node.step
  cases step with
  | cycle surroundings trigger =>
    simp only [NodeStep.Panics, NodeStep.Fails]
    cases hrunning : node.running with
    | false => simp [hrunning]
    | true => cases runCycle surroundings config localIdentity args.toArgs trigger node.world <;> simp
  | request surroundings request =>
    have hnone := routeControlRequest_eq_none_iff surroundings args config localIdentity request
      node.world
    simp only [NodeStep.Panics, NodeStep.Fails, not_false_eq_true, and_true, ← hnone]
    cases hserves : node.running && node.answering with
    | false => simp [hserves]
    | true =>
      rw [Bool.and_eq_true] at hserves
      simp [hserves.1, Option.isSome_iff_ne_none]

/-- A step of the run panics, or fails on the node that it finds. -/
def EndsServing (node : Node ρ) (steps : List NodeStep) : Prop :=
  ∃ before step after, steps = before ++ step :: after ∧
    (step.Panics ∨ step.Fails args config localIdentity (node.run args config localIdentity before))

theorem endsServing_cons (node : Node ρ) (step : NodeStep) (rest : List NodeStep) :
    EndsServing args config localIdentity node (step :: rest) ↔
      (step.Panics ∨ step.Fails args config localIdentity node) ∨
        EndsServing args config localIdentity (node.step args config localIdentity step).2 rest := by
  constructor
  · rintro ⟨before, other, after, hsteps, hends⟩
    cases before with
    | nil =>
      cases hsteps
      exact .inl hends
    | cons first before =>
      cases hsteps
      exact .inr ⟨before, other, after, rfl, hends⟩
  · rintro (hends | ⟨before, other, after, rfl, hends⟩)
    · exact ⟨[], step, rest, rfl, hends⟩
    · exact ⟨step :: before, other, after, rfl, hends⟩

theorem Node.run_serves (node : Node ρ) (steps : List NodeStep) :
    (node.run args config localIdentity steps).Serves ↔
      node.Serves ∧ ¬ EndsServing args config localIdentity node steps := by
  induction steps generalizing node with
  | nil => simp [Node.run, EndsServing]
  | cons step rest ih =>
    have hrest : (node.run args config localIdentity (step :: rest)).Serves ↔ _ :=
      ih (node.step args config localIdentity step).2
    rw [hrest, Node.step_serves, endsServing_cons]
    tauto

end Panics

end QuipNet.Daemon
