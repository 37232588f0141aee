import QuipNet.NodeInterleavings

/-!
# The diagnosis

`runtime.diagnose` reports an issue for each thing that is wrong and calls the node healthy
when there is none. What it sees of the sessions includes the sixteen closed last, and these
stay on the ledger, so a node that has closed a session is not healthy again in this run.
-/

open Std
namespace QuipNet.Daemon
open QuipNet.Control QuipNet.DaemonApi QuipNet.Fabric QuipNet.Library QuipNet.Library.Effect
open QuipNet.Quic QuipNet.SessionIds QuipNet.Transport
open QuicTransportAdapter

variable {ρ : Type}

/-! ## Classification -/

theorem issueIf_eq_nil_iff {condition : Bool} {code severity layer summary : String} :
    issueIf condition code severity layer summary = [] ↔ condition = false := by
  unfold issueIf
  split_ifs <;> simp_all

theorem mem_issueIf {condition : Bool} {code severity layer summary : String}
    {issue : RuntimeDiagnosisIssue} :
    issue ∈ issueIf condition code severity layer summary ↔
      condition = true ∧ issue = ⟨code, severity, layer, summary⟩ := by
  unfold issueIf
  split_ifs <;> simp_all

theorem runtimePrimaryClassification_eq_healthy_iff (issues : List RuntimeDiagnosisIssue) :
    runtimePrimaryClassification issues = "healthy" ↔ issues = [] := by
  unfold runtimePrimaryClassification
  cases issues with
  | nil => simp
  | cons issue rest =>
    simp only [List.isEmpty_cons, Bool.false_eq_true, if_false, reduceCtorEq, iff_false]
    split <;> decide

/-! ## Levels -/

theorem runtimeHealthLevelLabel_eq_ready_iff (level : RuntimeHealthLevel) :
    runtimeHealthLevelLabel level = "ready" ↔ level = .ready := by
  cases level <;> decide

theorem runtimeRollupHealth_eq_ready_iff (levels : List RuntimeHealthLevel) :
    runtimeRollupHealth levels = .ready ↔ ∀ level ∈ levels, level = .ready := by
  unfold runtimeRollupHealth
  simp only [List.contains_iff_mem]
  constructor
  · intro h level hlevel
    split_ifs at h with hfailed hsuppressed hdegraded
    cases level with
    | ready => rfl
    | degraded => exact absurd hlevel hdegraded
    | failed => exact absurd hlevel hfailed
    | suppressed => exact absurd hlevel hsuppressed
  · intro h
    have habsent : ∀ level, level ≠ .ready → level ∉ levels := fun level hne hmem => hne (h level hmem)
    rw [if_neg (habsent _ (by decide)), if_neg (habsent _ (by decide)),
      if_neg (habsent _ (by decide))]

theorem reconnectState_eq_idle_iff (adapter : QuicTransportAdapter ρ) :
    adapter.transportHealth.reconnectState = .idle ↔
      adapter.reconnectSuppressions = [] ∧ adapter.reconnectAttempts = [] := by
  unfold transportHealth
  dsimp only
  constructor
  · intro h
    split_ifs at h with hsuppressed hactive hfailed
    refine ⟨List.length_eq_zero_iff.1 (by omega), ?_⟩
    rw [List.eq_nil_iff_forall_not_mem]
    intro attempt hattempt
    cases hstate : attempt.state with
    | backingOff =>
      exact hactive (List.length_pos_of_mem
        (List.mem_filter.2 ⟨hattempt, decide_eq_true hstate⟩))
    | failed => exact hfailed (List.any_eq_true.2 ⟨attempt, hattempt, decide_eq_true hstate⟩)
  · rintro ⟨hsuppressions, hattempts⟩
    simp [hsuppressions, hattempts]

/-! ## Readings -/

section Entries
variable {α β : Type} {g : α → ServerM ρ β} {P : α → β → Prop}

theorem entries_run
    (hg : ∀ item world, ∃ result, P item result ∧
      g item world = .ok result { world with transport := world.transport.ticked })
    (items : List α) (world : World ρ) :
    ∃ results readings, List.Forall₂ P items results ∧ items.mapM g world =
      .ok results { world with transport := world.transport.withReadings readings } := by
  induction items generalizing world with
  | nil => exact ⟨[], world.transport.host.readings, .nil, rfl⟩
  | cons item rest ih =>
    obtain ⟨result, hresult, hfirst⟩ := hg item world
    obtain ⟨results, readings, hresults, hrest⟩ :=
      ih { world with transport := world.transport.ticked }
    refine ⟨result :: results, readings, .cons hresult hresults, ?_⟩
    rw [List.mapM_cons, bind_of_ok hfirst, bind_of_ok hrest]
    rfl

end Entries

theorem sessionEntries_run (sessions : List SessionSnapshot) (world : World ρ) :
    ∃ entries readings, (sessions.mapM runtimeSessionEntry : ServerM ρ _) world =
      .ok entries { world with transport := world.transport.withReadings readings } ∧
      entries.map RuntimeSessionEntry.state = sessions.map fun session => session.state.label := by
  obtain ⟨entries, readings, hstates, hrun⟩ := entries_run
    (ρ := ρ) (g := runtimeSessionEntry) (P := fun session entry => entry.state = session.state.label)
    (fun session world => ⟨_, rfl, rfl⟩) sessions world
  refine ⟨entries, readings, hrun, ?_⟩
  clear hrun
  induction hstates with
  | nil => rfl
  | cons hstate _ ih => rw [List.map_cons, List.map_cons, hstate, ih]

theorem listenerEntries_run (listeners : List RuntimeListenerSnapshot) (world : World ρ) :
    ∃ entries readings, (listeners.mapM runtimeListenerEntry : ServerM ρ _) world =
      .ok entries { world with transport := world.transport.withReadings readings } := by
  obtain ⟨entries, readings, -, hrun⟩ := entries_run (ρ := ρ)
    (g := runtimeListenerEntry) (P := fun _ _ => True) (fun listener world => ⟨_, trivial, rfl⟩) listeners world
  exact ⟨entries, readings, hrun⟩

/-! ## What the diagnosis reads -/

section Loaded
variable [Primitives] {config : DaemonConfig} {held : DaemonState} {world : World ρ}
  (surroundings : ServerSurroundings) (args : ServerArgs) (localIdentity : IdentityKeypair)

def loadedState (config : DaemonConfig) (held : DaemonState) : DaemonState :=
  LocalControlPlane.prepared config { held with activeSessions := [] }

def reportedHealth (state : DaemonState) (transport : QuicTransportAdapter ρ) :
    RuntimeHealthReport :=
  state.healthReport transport.transportHealth
    (transport.activeListeners.map (reportedListener state)) (state.runtimePaths transport)

theorem ensureState_loaded (h : world.stateFile = some (.durable held)) :
    LocalControlPlane.ensureState config world = .ok (loadedState config held) world :=
  LocalControlPlane.ensureState_of_load h rfl

theorem syncRuntimeSessions_loaded (h : world.stateFile = some (.durable held)) :
    LocalControlPlane.syncRuntimeSessions config world =
      .ok { loadedState config held with activeSessions := world.transport.activeSessions } world := by
  rw [LocalControlPlane.syncRuntimeSessions, bind_of_ok (ensureState_loaded h)]
  rfl

theorem runtimeListeners_loaded (h : world.stateFile = some (.durable held)) :
    LocalControlPlane.runtimeListeners config world =
      .ok (world.transport.activeListeners.map (reportedListener (loadedState config held))) world := by
  rw [LocalControlPlane.runtimeListeners, bind_of_ok (ensureState_loaded h)]
  rfl

theorem runtimePaths_loaded (h : world.stateFile = some (.durable held)) :
    LocalControlPlane.runtimePaths config world =
      .ok ((loadedState config held).runtimePaths world.transport) world := by
  rw [LocalControlPlane.runtimePaths, bind_of_ok (ensureState_loaded h)]
  rfl

theorem runtimeHealth_loaded (h : world.stateFile = some (.durable held)) :
    LocalControlPlane.runtimeHealth config world =
      .ok (reportedHealth (loadedState config held) world.transport) world := by
  rw [LocalControlPlane.runtimeHealth, bind_of_ok (ensureState_loaded h), bind_of_ok (get_run _),
    bind_of_ok (runtimeListeners_loaded h), bind_of_ok (runtimePaths_loaded h)]
  rfl

theorem runtimeView_loaded (h : world.stateFile = some (.durable held)) :
    (runtimeView config : ServerM ρ _) world =
      .ok ({ loadedState config held with activeSessions := world.transport.activeSessions },
        reportedHealth (loadedState config held) world.transport,
        latestAuthorityStatus world.transport
          { loadedState config held with activeSessions := world.transport.activeSessions }
          (reportedHealth (loadedState config held) world.transport)) world := by
  rw [runtimeView, onPlane, bind_of_ok (mapError_of_ok _ (syncRuntimeSessions_loaded h)), onPlane,
    bind_of_ok (mapError_of_ok _ (runtimeHealth_loaded h))]
  rfl

structure Diagnosed (config : DaemonConfig) (localIdentity : IdentityKeypair) (held : DaemonState)
    (transport : QuicTransportAdapter ρ) (result : RuntimeDiagnoseResult) : Prop where
  issues : result.issues = runtimeDiagnosisIssues result.status result.health result.state
    result.identity result.sessions result.paths
  classification : result.primaryClassification = runtimePrimaryClassification result.issues
  authority : result.status.authority = latestAuthorityStatus transport
    { loadedState config held with activeSessions := transport.activeSessions }
    (reportedHealth (loadedState config held) transport)
  readiness : result.health.daemonReadiness =
    runtimeHealthLevelLabel (reportedHealth (loadedState config held) transport).daemonReadiness
  reconnect : result.health.reconnectState =
    runtimeReconnectStateLabel transport.transportHealth.reconnectState
  activePaths : result.health.activePaths =
    (reportedHealth (loadedState config held) transport).activePaths
  present : result.state.present = true
  valid : result.state.valid = true
  identity : result.identity.matchResult =
    if (mismatchReasons localIdentity (loadedState config held)).isEmpty then "match" else "mismatch"
  sessions : result.sessions.map RuntimeSessionEntry.state =
    (runtimeSessionInventory
      { loadedState config held with activeSessions := transport.activeSessions } transport).map
        fun session => session.state.label
  paths : result.paths = ((loadedState config held).runtimePaths transport).map runtimePathEntry

theorem runtimeDiagnoseResult_loaded (h : world.stateFile = some (.durable held)) (eventLimit : ℕ) :
    ∃ result after, (runtimeDiagnoseResult surroundings args config localIdentity eventLimit :
        ServerM ρ _) world = .ok result after ∧
      Diagnosed config localIdentity held world.transport result := by
  obtain ⟨sessions, readings, hsessions, hstates⟩ := sessionEntries_run (runtimeSessionInventory
    { loadedState config held with activeSessions := world.transport.activeSessions }
      world.transport) world
  let read : World ρ := { world with transport := world.transport.withReadings readings }
  have hread : read.stateFile = some (.durable held) := h
  obtain ⟨listeners, later, hlisteners⟩ := listenerEntries_run
    (read.transport.activeListeners.map (reportedListener (loadedState config held))) read
  let again : World ρ := { read with transport := read.transport.withReadings later }
  have hagain : again.stateFile = some (.durable held) := h
  obtain ⟨status, hstatus, hauthority⟩ : ∃ status,
      (runtimeStatusResult args config localIdentity : ServerM ρ _) world = .ok status world ∧
        status.authority = latestAuthorityStatus world.transport
          { loadedState config held with activeSessions := world.transport.activeSessions }
          (reportedHealth (loadedState config held) world.transport) := by
    rw [runtimeStatusResult, bind_of_ok (runtimeView_loaded h)]
    exact ⟨_, rfl, rfl⟩
  obtain ⟨authority, hauthorityShow⟩ : ∃ authority,
      (authorityShowResult args config : ServerM ρ _) world = .ok authority world := by
    rw [authorityShowResult, bind_of_ok (runtimeView_loaded h)]
    exact ⟨_, rfl⟩
  obtain ⟨shown, hshown, hpresent, hvalid⟩ : ∃ shown,
      (stateShowResult surroundings args : ServerM ρ _) world = .ok shown world ∧
        shown.present = true ∧ shown.valid = true := by
    rw [stateShowResult, inspectedStateFile, bind_assoc, bind_of_ok (get_run _), h]
    exact ⟨_, rfl, rfl, rfl⟩
  obtain ⟨checked, hchecked, hreadiness, hreconnect, hactivePaths⟩ : ∃ checked,
      (runtimeHealthResult config : ServerM ρ _) world = .ok checked world ∧
        checked.daemonReadiness = runtimeHealthLevelLabel
          (reportedHealth (loadedState config held) world.transport).daemonReadiness ∧
        checked.reconnectState =
          runtimeReconnectStateLabel world.transport.transportHealth.reconnectState ∧
        checked.activePaths =
          (reportedHealth (loadedState config held) world.transport).activePaths := by
    rw [runtimeHealthResult, onPlane, bind_of_ok (mapError_of_ok _ (runtimeHealth_loaded h))]
    exact ⟨_, rfl, rfl, rfl, rfl⟩
  obtain ⟨verified, hverified, hmatched⟩ : ∃ verified,
      (identityVerifyResult args config localIdentity : ServerM ρ _) world = .ok verified world ∧
        verified.matchResult =
          if (mismatchReasons localIdentity (loadedState config held)).isEmpty then "match"
          else "mismatch" := by
    rw [identityVerifyResult, onPlane, bind_of_ok (mapError_of_ok _ (ensureState_loaded h))]
    refine ⟨_, rfl, ?_⟩
    dsimp only
  have hlistened : (runtimeListenerEntries config : ServerM ρ _) read = .ok listeners again := by
    rw [runtimeListenerEntries, onPlane,
      bind_of_ok (mapError_of_ok _ (runtimeListeners_loaded hread))]
    exact hlisteners
  rw [runtimeDiagnoseResult, onPlane, bind_of_ok (mapError_of_ok _ (syncRuntimeSessions_loaded h)),
    bind_of_ok hstatus, bind_of_ok hchecked, bind_of_ok hshown, bind_of_ok hverified,
    bind_of_ok hauthorityShow, bind_of_ok (get_run _), bind_of_ok hsessions,
    bind_of_ok hlistened, runtimePathEntries, onPlane, bind_assoc,
    bind_of_ok (mapError_of_ok _ (runtimePaths_loaded hagain)), pure_bind, runtimeEventEntries,
    bind_assoc, bind_of_ok (get_run _)]
  exact ⟨_, _, rfl, rfl, rfl, hauthority, hreadiness, hreconnect, hactivePaths, hpresent, hvalid,
    hmatched, hstates, rfl⟩

end Loaded

/-! ## Successful diagnoses -/

section Successful
variable [Primitives] {config : DaemonConfig} {world after : World ρ}
  {surroundings : ServerSurroundings} {args : ServerArgs} {localIdentity : IdentityKeypair}

omit [Primitives] in
theorem exists_durable {file : Option StateFile} (hpresent : file.isSome)
    (hundamaged : ¬ IsDamaged file) : ∃ held, file = some (.durable held) := by
  obtain ⟨contents, rfl⟩ := Option.isSome_iff_exists.1 hpresent
  cases contents with
  | durable held => exact ⟨held, rfl⟩
  | damaged error => exact absurd ⟨error, rfl⟩ hundamaged

theorem durable_of_syncRuntimeSessions {state : DaemonState} {synced : World ρ}
    (h : (onPlane (LocalControlPlane.syncRuntimeSessions config) : ServerM ρ _) world =
      .ok state synced) : ∃ held, synced.stateFile = some (.durable held) := by
  obtain ⟨loaded, opened, hload, hrest⟩ := bind_eq_ok (mapError_eq_ok h)
  cases hrest
  have hpresent : synced.stateFile.isSome := by
    cases hfile : world.stateFile with
    | none =>
      rw [LocalControlPlane.ensureState_of_none hfile] at hload
      cases hload
      rfl
    | some file =>
      have hread : OnlyRead config world synced := ensureState_observed.of_ok hload
      rcases hread.stateFile with hsame | ⟨hnone, -⟩
      · rw [hsame, hfile]
        rfl
      · rw [hfile] at hnone
        cases hnone
  exact exists_durable hpresent (not_isDamaged_of_follows (P := fun _ => True) (follows_of_ensureState hload))

theorem runtimeDiagnoseResult_ok {eventLimit : ℕ} {result : RuntimeDiagnoseResult}
    (h : runtimeDiagnoseResult surroundings args config localIdentity eventLimit world =
      .ok result after) :
    result.issues = runtimeDiagnosisIssues result.status result.health result.state
        result.identity result.sessions result.paths ∧
      result.primaryClassification = runtimePrimaryClassification result.issues ∧
      result.state.present = true ∧ result.state.valid = true ∧
      ∀ session ∈ world.transport.recentTerminalSessions 16,
        ∃ entry ∈ result.sessions, entry.state = session.state.label := by
  obtain ⟨state, synced, hsync, h⟩ := bind_eq_ok h
  obtain ⟨status, world₁, hstatus, h⟩ := bind_eq_ok h
  obtain ⟨health, world₂, hhealth, h⟩ := bind_eq_ok h
  obtain ⟨durableState, world₃, hstate, h⟩ := bind_eq_ok h
  obtain ⟨identity, world₄, hidentity, h⟩ := bind_eq_ok h
  obtain ⟨authorityShow, world₅, hauthority, h⟩ := bind_eq_ok h
  obtain ⟨_, _, hget, h⟩ := bind_eq_ok h
  cases hget
  obtain ⟨sessions, world₆, hsessions, h⟩ := bind_eq_ok h
  obtain ⟨listeners, world₇, -, h⟩ := bind_eq_ok h
  obtain ⟨paths, world₈, -, h⟩ := bind_eq_ok h
  obtain ⟨events, world₉, -, h⟩ := bind_eq_ok h
  cases h
  have hread₀ : OnlyRead config world synced :=
    (onPlane_moves syncRuntimeSessions_observed).of_ok hsync
  have hread₁ : OnlyRead config synced world₁ :=
    (runtimeStatusResult_observed args localIdentity).of_ok hstatus
  have hread₂ : OnlyRead config world₁ world₂ := runtimeHealthResult_observed.of_ok hhealth
  have hread₃ : OnlyRead config world₂ world₃ :=
    (stateShowResult_clocked surroundings args).of_ok hstate
  have hread₄ : OnlyRead config world₃ world₄ :=
    (identityVerifyResult_observed args localIdentity).of_ok hidentity
  have hread₅ : OnlyRead config world₄ world₅ := (authorityShowResult_observed args).of_ok hauthority
  have hearly : OnlyRead config synced world₂ := IsTrans.trans _ _ _ hread₁ hread₂
  have hlate : OnlyRead config world₂ world₅ :=
    IsTrans.trans _ _ _ (IsTrans.trans _ _ _ hread₃ hread₄) hread₅
  obtain ⟨held, hheld⟩ := durable_of_syncRuntimeSessions hsync
  have hfile : world₂.stateFile = some (.durable held) := by
    rcases hearly.stateFile with hsame | ⟨hnone, -⟩
    · exact hsame.trans hheld
    · rw [hheld] at hnone
      cases hnone
  have hshown : durableState.present = true ∧ durableState.valid = true := by
    rw [stateShowResult, inspectedStateFile, bind_assoc, bind_of_ok (get_run _), hfile] at hstate
    cases hstate
    exact ⟨rfl, rfl⟩
  refine ⟨rfl, rfl, hshown.1, hshown.2, ?_⟩
  intro session hsession
  obtain ⟨listed, readings, hlisted, hstates⟩ := sessionEntries_run
    (runtimeSessionInventory state world₅.transport) world₅
  rw [hlisted] at hsessions
  cases hsessions
  have hmem : session ∈ runtimeSessionInventory state world₅.transport := by
    obtain ⟨earlier, hearlier⟩ := (IsTrans.trans _ _ _ hread₀
      (IsTrans.trans _ _ _ hearly hlate) : OnlyRead config world world₅).transport
    rw [runtimeSessionInventory, List.mem_insertionSort, List.mem_append, hearlier]
    exact .inr hsession
  have hlabel : session.state.label ∈ sessions.map RuntimeSessionEntry.state := by
    rw [hstates]
    exact List.mem_map_of_mem hmem
  exact List.mem_map.1 hlabel

theorem closed_session_reported {eventLimit : ℕ} {result : RuntimeDiagnoseResult}
    (hkept : WellKept world.transport) (hledger : world.transport.terminalSessions ≠ [])
    (h : runtimeDiagnoseResult surroundings args config localIdentity eventLimit world =
      .ok result after) :
    (∃ issue ∈ result.issues, issue.code = "recently_closed_sessions_present") ∧
      result.primaryClassification ≠ "healthy" := by
  obtain ⟨hissues, hclassification, -, -, hsessions⟩ := runtimeDiagnoseResult_ok h
  obtain ⟨record, hrecord⟩ : ∃ record, record ∈ world.transport.terminalSessions.reverse.take 16 := by
    apply List.exists_mem_of_ne_nil
    simp [List.take_eq_nil_iff, hledger]
  have hclosed := hkept.ledger_closed record (List.mem_reverse.1 (List.mem_of_mem_take hrecord))
  obtain ⟨entry, hentry, hlabel⟩ := hsessions record.snapshot (List.mem_map_of_mem hrecord)
  have hany : (result.sessions.any fun session => session.state == "closed") = true := by
    refine List.any_eq_true.2 ⟨entry, hentry, ?_⟩
    rw [hlabel, hclosed]
    rfl
  have hissue : (⟨"recently_closed_sessions_present", "warn", "runtime",
      "recently closed runtime sessions are present in terminal history"⟩ :
        RuntimeDiagnosisIssue) ∈ result.issues := by
    rw [hissues]
    simp only [runtimeDiagnosisIssues, sessionIssues, List.mem_append, mem_issueIf, hany, true_and,
      or_true, true_or]
  refine ⟨⟨_, hissue, rfl⟩, ?_⟩
  rw [hclassification, ne_eq, runtimePrimaryClassification_eq_healthy_iff]
  exact List.ne_nil_of_mem hissue

end Successful

/-- Once a session is on the ledger, no run makes the daemon call itself healthy again. -/
theorem closed_node_never_healthy [Primitives] [PayloadDecoder] (args : ServerArgs)
    {config : DaemonConfig} (localIdentity : IdentityKeypair) (node : Node ρ)
    (hkept : WellKept node.world.transport) (hledger : node.world.transport.terminalSessions ≠ [])
    (steps : List NodeStep) (surroundings : ServerSurroundings) (eventLimit : ℕ)
    {result : RuntimeDiagnoseResult} {after : World ρ}
    (h : runtimeDiagnoseResult surroundings args config localIdentity eventLimit
      (node.run args config localIdentity steps).world = .ok result after) :
    (∃ issue ∈ result.issues, issue.code = "recently_closed_sessions_present") ∧
      result.primaryClassification ≠ "healthy" := by
  have hreaches : Reaches node.world.transport
      (node.run args config localIdentity steps).world.transport :=
    Node.run_reaches args localIdentity steps node
  exact closed_session_reported (hreaches.wellKept hkept) (hreaches.ledger_ne_nil hledger) h

section Closed
attribute [local instance] Primitives.transparent diagnoseDecoder

theorem closedWorld_wellKept : WellKept (closedWorld []).transport where
  keyed := ⟨by decide +kernel, by decide +kernel⟩
  listeners id listener hfound := by
    change (∅ : TreeMap String RuntimeListenerSnapshot)[id]? = some listener at hfound
    simp at hfound
  ledger_length := by decide +kernel
  ledger_nodup := by decide +kernel
  ledger_closed := by decide +kernel
  events_length := by decide +kernel

theorem closed_node_diagnosed :
    let node : Node Unit := { world := closedWorld [] }
    let steps : List NodeStep := [.cycle fixtureSurroundings.toSurroundings .stateChanged]
    ∃ result after, runtimeDiagnoseResult fixtureSurroundings fixtureServerArgs meshConfig
        fixtureIdentity 16 (node.run fixtureServerArgs meshConfig fixtureIdentity steps).world =
          .ok result after ∧ result.primaryClassification ≠ "healthy" := by
  intro node steps
  have hquiet : Quiet fixtureServerArgs steps := by
    intro step hstep
    rw [List.mem_singleton.1 hstep]
    exact ⟨rfl, rfl⟩
  have hrun : FreshRun (unread node.world.stateFile)
      (unread (node.run fixtureServerArgs meshConfig fixtureIdentity steps).world.stateFile) :=
    Node.run_fresh fixtureServerArgs fixtureIdentity hquiet node
  obtain ⟨held, hheld, -⟩ := hrun.continuedBy _ rfl
  obtain ⟨result, after, hdiagnosed, -⟩ := runtimeDiagnoseResult_loaded fixtureSurroundings
    fixtureServerArgs fixtureIdentity hheld 16
  have hledger : (closedWorld []).transport.terminalSessions ≠ [] := by decide +kernel
  exact ⟨result, after, hdiagnosed, (closed_node_never_healthy fixtureServerArgs fixtureIdentity
    node closedWorld_wellKept hledger steps fixtureSurroundings 16 hdiagnosed).2⟩

end Closed

/-! ## Healthy nodes -/

/-- The latest reevaluation, if it is still among the last events, left no denial and no
mismatch. -/
def Unflagged (transport : QuicTransportAdapter ρ) : Prop :=
  ∀ event, latestReevaluation transport = some event →
    (event.details.get "local_policy_denied").bind Json.asBool ≠ some true ∧
      (event.details.get "authority_subject_mismatch").bind Json.asBool ≠ some true

instance (transport : QuicTransportAdapter ρ) : Decidable (Unflagged transport) :=
  inferInstanceAs (Decidable (∀ event ∈ latestReevaluation transport,
    (event.details.get "local_policy_denied").bind Json.asBool ≠ some true ∧
      (event.details.get "authority_subject_mismatch").bind Json.asBool ≠ some true))

/-- A node that nothing is wrong with, given the state that it loads. -/
@[mk_iff] structure Sound [Primitives] (localIdentity : IdentityKeypair) (state : DaemonState)
    (transport : QuicTransportAdapter ρ) : Prop where
  identity : localIdentity.peerId.toText = state.localPeerId.toText
  membership : localIdentity.peerId.toText = state.membership.subjectPeerId.toText
  matched : state.authoritySubjectMismatch state.localPeerId = false
  permitted : state.denyReason state.localPeerId = none
  unflagged : Unflagged transport
  suppressions : transport.reconnectSuppressions = []
  attempts : transport.reconnectAttempts = []
  ledger : transport.terminalSessions = []
  sessions : ∀ session ∈ transport.activeSessions, session.state ≠ .failed ∧
    session.state ≠ .degraded ∧ session.state ≠ .closed ∧ session.state ≠ .closing

instance [Primitives] (localIdentity : IdentityKeypair) (state : DaemonState)
    (transport : QuicTransportAdapter ρ) : Decidable (Sound localIdentity state transport) :=
  decidable_of_iff _ (sound_iff localIdentity state transport).symm

theorem mismatchReasons_isEmpty_iff [Primitives] (localIdentity : IdentityKeypair)
    (state : DaemonState) : (mismatchReasons localIdentity state).isEmpty = true ↔
      localIdentity.peerId.toText = state.localPeerId.toText ∧
        localIdentity.peerId.toText = state.membership.subjectPeerId.toText := by
  rw [List.isEmpty_iff, mismatchReasons, List.append_eq_nil_iff]
  refine and_congr ?_ ?_ <;> split_ifs <;> simp_all

theorem authorityIssues_eq_nil_iff (authority : AuthoritySyncStatus) :
    authorityIssues authority = [] ↔ authority.authoritySubjectMismatch = false ∧
      authority.localPolicyDenied = false ∧ authority.syncStatus = "in_sync" ∧
        authority.health = "ready" := by
  simp only [authorityIssues, List.append_eq_nil_iff, issueIf_eq_nil_iff, Bool.and_eq_false_iff,
    Bool.not_eq_false', Bool.or_eq_false_iff, bne_eq_false_iff_eq]
  cases authority.localPolicyDenied <;> simp

theorem getD_flag_eq_false_iff (recorded : Option Bool) (held : Bool) (h : held = false) :
    recorded.getD held = false ↔ recorded ≠ some true := by
  cases recorded with
  | none => simp [h]
  | some flag => cases flag <;> simp

theorem latestAuthorityStatus_silent_iff (transport : QuicTransportAdapter ρ) (state : DaemonState)
    (report : RuntimeHealthReport) :
    authorityIssues (latestAuthorityStatus transport state report) = [] ↔
      report.authoritySubjectStatus ≠ "mismatched" ∧ report.authorityDenyReason = none ∧
        report.authoritySyncHealth = .ready ∧ Unflagged transport := by
  have hsynced : (healthAuthorityStatus state report).syncStatus = "in_sync" ↔
      report.authoritySubjectStatus ≠ "mismatched" ∧ report.authorityDenyReason = none := by
    unfold healthAuthorityStatus
    split_ifs with hmismatch hdenied
    · simp [hmismatch]
    · simp [Option.isSome_iff_ne_none.1 hdenied]
    · simpa [hmismatch] using hdenied
  have hready : (healthAuthorityStatus state report).health = "ready" ↔
      report.authoritySyncHealth = .ready :=
    runtimeHealthLevelLabel_eq_ready_iff report.authoritySyncHealth
  have hflags : report.authoritySubjectStatus ≠ "mismatched" ∧ report.authorityDenyReason = none →
      (healthAuthorityStatus state report).authoritySubjectMismatch = false ∧
        (healthAuthorityStatus state report).localPolicyDenied = false := by
    rintro ⟨hmatched, hpermitted⟩
    exact ⟨decide_eq_false hmatched, by simp [healthAuthorityStatus, hpermitted]⟩
  rw [authorityIssues_eq_nil_iff]
  unfold latestAuthorityStatus Unflagged
  cases hlatest : latestReevaluation transport with
  | none =>
    simp only [hsynced, hready, reduceCtorEq, false_implies, implies_true, and_true]
    constructor
    · rintro ⟨-, -, ⟨hmatched, hpermitted⟩, hlevel⟩
      exact ⟨hmatched, hpermitted, hlevel⟩
    · rintro ⟨hmatched, hpermitted, hlevel⟩
      obtain ⟨hmismatch, hdenied⟩ := hflags ⟨hmatched, hpermitted⟩
      exact ⟨hmismatch, hdenied, ⟨hmatched, hpermitted⟩, hlevel⟩
  | some event =>
    simp only [Option.some.injEq, forall_eq', withReevaluation, hsynced, hready]
    constructor
    · rintro ⟨hmismatch, hdenied, ⟨hmatched, hpermitted⟩, hlevel⟩
      obtain ⟨hheld, hallowed⟩ := hflags ⟨hmatched, hpermitted⟩
      exact ⟨hmatched, hpermitted, hlevel, (getD_flag_eq_false_iff _ _ hallowed).1 hdenied,
        (getD_flag_eq_false_iff _ _ hheld).1 hmismatch⟩
    · rintro ⟨hmatched, hpermitted, hlevel, hdenied, hmismatch⟩
      obtain ⟨hheld, hallowed⟩ := hflags ⟨hmatched, hpermitted⟩
      exact ⟨(getD_flag_eq_false_iff _ _ hheld).2 hmismatch,
        (getD_flag_eq_false_iff _ _ hallowed).2 hdenied, ⟨hmatched, hpermitted⟩, hlevel⟩

/-! ### The runtime -/

theorem healthIssues_eq_nil_iff {health : RuntimeHealthResult} {state : RuntimeReconnectState}
    (h : health.reconnectState = runtimeReconnectStateLabel state) :
    healthIssues health = [] ↔
      health.daemonReadiness = "ready" ∧ state ≠ .suppressed ∧ state ≠ .failed := by
  simp only [healthIssues, List.append_eq_nil_iff, issueIf_eq_nil_iff, bne_eq_false_iff_eq,
    beq_eq_false_iff_ne, h, and_assoc]
  cases state <;> simp [runtimeReconnectStateLabel]

theorem label_eq_iff (a b : RuntimeSessionState) : a.label = b.label ↔ a = b := by
  cases a <;> cases b <;> decide

section Reported
variable [Primitives] (state : DaemonState) (transport : QuicTransportAdapter ρ)

theorem pathManager_ready :
    (reportedHealth state transport).pathManagerHealth = .ready ∧
      transport.activeSessions.length ≤ (reportedHealth state transport).activePaths := by
  obtain ⟨terminals, hcount, -⟩ := countP_active_paths state transport
  have hpaths : (reportedHealth state transport).activePaths =
      transport.activeSessions.length + terminals.length := hcount
  refine ⟨?_, by omega⟩
  change pathManagerHealth transport.activeSessions.length
    (reportedHealth state transport).activePaths = .ready
  rw [hpaths, pathManagerHealth, if_neg (by omega), if_neg (by omega)]

theorem authoritySync_ready_iff :
    (reportedHealth state transport).authoritySyncHealth = .ready ↔
      state.authoritySubjectMismatch state.localPeerId = false ∧
        state.denyReason state.localPeerId = none := by
  change (if state.authoritySubjectMismatch state.localPeerId = true then RuntimeHealthLevel.failed
    else if (state.denyReason state.localPeerId).isSome = true then .suppressed else .ready) =
      .ready ↔ _
  split_ifs with hmismatch hdenied
  · simp [hmismatch]
  · simp [Option.isSome_iff_ne_none.1 hdenied]
  · simpa [hmismatch] using hdenied

theorem authoritySubject_matched_iff :
    (reportedHealth state transport).authoritySubjectStatus ≠ "mismatched" ↔
      state.authoritySubjectMismatch state.localPeerId = false := by
  change (if state.authoritySubjectMismatch state.localPeerId = true then "mismatched"
    else "matched") ≠ "mismatched" ↔ _
  split_ifs with hmismatch <;> simp [hmismatch]

theorem daemonReadiness_ready_iff :
    (reportedHealth state transport).daemonReadiness = .ready ↔
      (reportedHealth state transport).authoritySyncHealth = .ready ∧
        transport.transportHealth.reconnectState = .idle := by
  have hreconnect : runtimeReconnectHealthLevel transport.transportHealth.reconnectState = .ready ↔
      transport.transportHealth.reconnectState = .idle := by
    cases transport.transportHealth.reconnectState <;> decide
  have hready := (pathManager_ready state transport).1
  change runtimeRollupHealth [(reportedHealth state transport).authoritySyncHealth, .ready,
    (reportedHealth state transport).pathManagerHealth,
    runtimeReconnectHealthLevel transport.transportHealth.reconnectState] = .ready ↔ _
  rw [runtimeRollupHealth_eq_ready_iff, hready]
  simp [hreconnect]

variable {state transport}

omit [Primitives] in
/-- Nothing but a session puts a failed path on the list. -/
theorem failed_path_of_session (hsuppressions : transport.reconnectSuppressions = [])
    (hattempts : transport.reconnectAttempts = []) (hledger : transport.terminalSessions = [])
    {path : RuntimePathSnapshot} (hpath : path ∈ state.runtimePaths transport)
    (hfailed : path.state = .failed) : ∃ session ∈ transport.activeSessions,
      session.state = .failed ∨ session.state = .closing ∨ session.state = .closed := by
  have hrealized : state.realizedPaths transport =
      transport.activeSessions.map state.sessionEntry := by
    have hrecent : transport.recentTerminalSessions 16 = [] := by
      simp [recentTerminalSessions, hledger]
    rw [DaemonState.realizedPaths, hsuppressions, hattempts, hrecent]
    rfl
  obtain ⟨candidates, hperm, -⟩ := runtimePaths_perm state transport
  rw [hperm.mem_iff, hrealized, List.mem_append, List.mem_map, List.mem_map] at hpath
  rcases hpath with ⟨session, hsession, rfl⟩ | ⟨item, -, rfl⟩
  · refine ⟨session, hsession, ?_⟩
    change runtimePathStateFromSession session.state = .failed at hfailed
    cases hstate : session.state <;> simp_all [runtimePathStateFromSession]
  · cases hfailed

end Reported

/-! ### The verdict -/

section Verdict
variable [Primitives] {config : DaemonConfig} {localIdentity : IdentityKeypair} {held : DaemonState}
  {transport : QuicTransportAdapter ρ} {result : RuntimeDiagnoseResult}

theorem Diagnosed.any_state (h : Diagnosed config localIdentity held transport result)
    (state : RuntimeSessionState) :
    (result.sessions.any fun session => session.state == state.label) = false ↔
      (∀ session ∈ transport.activeSessions, session.state ≠ state) ∧
        ∀ session ∈ transport.recentTerminalSessions 16, session.state ≠ state := by
  have hany : (result.sessions.any fun session => session.state == state.label) =
      (result.sessions.map RuntimeSessionEntry.state).any (· == state.label) := by
    rw [List.any_map]
    rfl
  rw [hany, h.sessions, List.any_map, List.any_eq_false, runtimeSessionInventory]
  simp only [List.mem_insertionSort, List.mem_append, Function.comp_apply, beq_iff_eq, label_eq_iff,
    or_imp, forall_and]

theorem Diagnosed.sessions_eq_nil_iff (h : Diagnosed config localIdentity held transport result) :
    result.sessions = [] ↔
      transport.activeSessions = [] ∧ transport.recentTerminalSessions 16 = [] := by
  rw [← List.map_eq_nil_iff, h.sessions, List.map_eq_nil_iff, runtimeSessionInventory,
    ← List.length_eq_zero_iff, List.length_insertionSort, List.length_eq_zero_iff,
    List.append_eq_nil_iff]

theorem Diagnosed.sessionIssues_eq_nil_iff
    (h : Diagnosed config localIdentity held transport result) (hkept : WellKept transport) :
    sessionIssues result.health.activePaths result.sessions = [] ↔
      transport.terminalSessions = [] ∧ ∀ session ∈ transport.activeSessions,
        session.state ≠ .failed ∧ session.state ≠ .degraded ∧ session.state ≠ .closed ∧
          session.state ≠ .closing := by
  have hrecent : transport.recentTerminalSessions 16 = [] ↔ transport.terminalSessions = [] := by
    simp [recentTerminalSessions, List.take_eq_nil_iff]
  have hclosed : ∀ session ∈ transport.recentTerminalSessions 16, session.state = .closed := by
    intro session hsession
    obtain ⟨record, hrecord, rfl⟩ := List.mem_map.1 hsession
    exact hkept.ledger_closed record (List.mem_reverse.1 (List.mem_of_mem_take hrecord))
  have hpaths := (pathManager_ready (loadedState config held) transport).2
  rw [← h.activePaths] at hpaths
  have hfailed := h.any_state .failed
  have hdegraded := h.any_state .degraded
  have hterminal := h.any_state .closed
  have hclosing := h.any_state .closing
  simp only [RuntimeSessionState.label] at hfailed hdegraded hterminal hclosing
  simp only [sessionIssues, List.append_eq_nil_iff, issueIf_eq_nil_iff, hfailed, hdegraded,
    hterminal, hclosing, Bool.and_eq_false_iff, Bool.not_eq_false', beq_eq_false_iff_ne]
  constructor
  · rintro ⟨⟨⟨⟨⟨hf, -⟩, ⟨hd, -⟩⟩, ⟨hc, hledger⟩⟩, ⟨hclosings, -⟩⟩, -⟩
    have hempty : transport.recentTerminalSessions 16 = [] :=
      List.eq_nil_iff_forall_not_mem.2 fun session hsession =>
        hledger session hsession (hclosed session hsession)
    exact ⟨hrecent.1 hempty, fun session hsession =>
      ⟨hf session hsession, hd session hsession, hc session hsession, hclosings session hsession⟩⟩
  · rintro ⟨hledger, hsound⟩
    have hempty := hrecent.2 hledger
    have hnone : ∀ state, ∀ session ∈ transport.recentTerminalSessions 16,
        session.state ≠ state := by
      rw [hempty]
      simp
    refine ⟨⟨⟨⟨⟨fun session hsession => (hsound session hsession).1, hnone _⟩,
      fun session hsession => (hsound session hsession).2.1, hnone _⟩,
      fun session hsession => (hsound session hsession).2.2.1, hnone _⟩,
      fun session hsession => (hsound session hsession).2.2.2, hnone _⟩, ?_⟩
    rw [List.isEmpty_iff, h.sessions_eq_nil_iff, ← List.length_eq_zero_iff]
    by_cases hlive : transport.activeSessions.length = 0
    · exact .inl ⟨hlive, hempty⟩
    · exact .inr (by omega)

theorem Diagnosed.pathIssues_eq_nil (h : Diagnosed config localIdentity held transport result)
    (hsound : Sound localIdentity (loadedState config held) transport) :
    pathIssues result.paths = [] := by
  rw [pathIssues, issueIf_eq_nil_iff, h.paths, List.any_map, List.any_eq_false]
  intro path hpath hlabel
  have hfailed : path.state = .failed := by
    cases hstate : path.state <;> simp_all [runtimePathEntry, runtimePathStateLabel]
  obtain ⟨session, hsession, hstate⟩ := failed_path_of_session hsound.suppressions hsound.attempts
    hsound.ledger hpath hfailed
  obtain ⟨hnotFailed, -, hnotClosed, hnotClosing⟩ := hsound.sessions session hsession
  rcases hstate with hstate | hstate | hstate
  · exact hnotFailed hstate
  · exact hnotClosing hstate
  · exact hnotClosed hstate

/-- A node is diagnosed healthy exactly when it is sound. -/
theorem Diagnosed.healthy_iff (h : Diagnosed config localIdentity held transport result)
    (hkept : WellKept transport) : result.primaryClassification = "healthy" ↔
      Sound localIdentity (loadedState config held) transport := by
  have hdurable : durableIssues result.state result.identity = [] ↔
      (mismatchReasons localIdentity (loadedState config held)).isEmpty = true := by
    simp only [durableIssues, List.append_eq_nil_iff, issueIf_eq_nil_iff, h.present, h.valid,
      h.identity]
    split_ifs with hempty <;> simp [hempty]
  have hhealth : healthIssues result.health = [] ↔
      (reportedHealth (loadedState config held) transport).daemonReadiness = .ready := by
    rw [healthIssues_eq_nil_iff h.reconnect, h.readiness, runtimeHealthLevelLabel_eq_ready_iff,
      daemonReadiness_ready_iff]
    constructor
    · exact And.left
    · rintro ⟨hsync, hidle⟩
      simp [hsync, hidle]
  rw [h.classification, runtimePrimaryClassification_eq_healthy_iff, h.issues,
    runtimeDiagnosisIssues]
  simp only [List.append_eq_nil_iff, hdurable, mismatchReasons_isEmpty_iff, h.authority,
    latestAuthorityStatus_silent_iff, hhealth, daemonReadiness_ready_iff,
    reconnectState_eq_idle_iff, authoritySubject_matched_iff, authoritySync_ready_iff,
    h.sessionIssues_eq_nil_iff hkept]
  constructor
  · rintro ⟨⟨⟨⟨⟨hidentity, hmembership⟩, hmatched, hpermitted, -, hunflagged⟩, -, hsuppressions,
      hattempts⟩, hledger, hsessions⟩, -⟩
    exact ⟨hidentity, hmembership, hmatched, hpermitted, hunflagged, hsuppressions, hattempts,
      hledger, hsessions⟩
  · intro hsound
    exact ⟨⟨⟨⟨⟨hsound.identity, hsound.membership⟩, hsound.matched, hsound.permitted,
      ⟨hsound.matched, hsound.permitted⟩, hsound.unflagged⟩,
      ⟨hsound.matched, hsound.permitted⟩, hsound.suppressions, hsound.attempts⟩, hsound.ledger,
      hsound.sessions⟩, h.pathIssues_eq_nil hsound⟩

end Verdict

/-- Whatever was asked of a node before, a diagnosis calls it healthy exactly when it is
sound. -/
theorem healthy_iff_sound [Primitives] [PayloadDecoder] (args : ServerArgs) {config : DaemonConfig}
    (localIdentity : IdentityKeypair) (file : Option StateFile) (adapter : QuicTransportAdapter ρ)
    (steps : List NodeStep) (surroundings : ServerSurroundings) (eventLimit : ℕ)
    {held : DaemonState} :
    let started : Node ρ := { world := ⟨file, adapter.unused⟩ }
    let reached := (started.run args config localIdentity steps).world
    reached.stateFile = some (.durable held) →
      ∃ result after, runtimeDiagnoseResult surroundings args config localIdentity eventLimit
          reached = .ok result after ∧
        (result.primaryClassification = "healthy" ↔
          Sound localIdentity (loadedState config held) reached.transport) := by
  intro started reached hheld
  have hreaches : Reaches adapter.unused reached.transport :=
    Node.run_reaches args localIdentity steps started
  obtain ⟨result, after, hrun, hdiagnosed⟩ :=
    runtimeDiagnoseResult_loaded surroundings args localIdentity hheld eventLimit
  exact ⟨result, after, hrun, hdiagnosed.healthy_iff (hreaches.wellKept (wellKept_unused adapter))⟩

section Closed
attribute [local instance] Primitives.transparent diagnoseDecoder

def connectingArgs : ServerArgs :=
  { fixtureServerArgs with
    connectProtocol := some "/quip/control/1"
    connectPeer := some fixtureWorkerPeer.toText
    connectClass := "bulk" }

def connectingAdapter : QuicTransportAdapter RelayLog :=
  { edgeAdapter (fun _ => true) with localIdentity := some fixtureIdentity }

def connectingSteps : List NodeStep :=
  [.cycle fixtureSurroundings.toSurroundings .startup,
    .cycle fixtureSurroundings.toSurroundings .stateChanged]

theorem connected_node_healthy :
    let reached := (Node.run connectingArgs meshConfig fixtureIdentity connectingSteps
      { world := ⟨some (.durable LocalControlPlane.grantedFixture), connectingAdapter.unused⟩ }).world
    reached.transport.activeSessions.map SessionSnapshot.peer = [fixtureWorkerPeer] ∧
      (latestReevaluation reached.transport).isSome = true ∧
      ∃ result after, runtimeDiagnoseResult fixtureSurroundings connectingArgs meshConfig
        fixtureIdentity 16 reached = .ok result after ∧
          result.primaryClassification = "healthy" := by
  intro reached
  have hconnected : (reached.transport.activeSessions.map SessionSnapshot.peer =
      [fixtureWorkerPeer] ∧ (latestReevaluation reached.transport).isSome = true) ∧
      fileLoads (fun held => Sound fixtureIdentity (loadedState meshConfig held) reached.transport)
        reached.stateFile = true := by
    decide +kernel
  obtain ⟨⟨hpeers, hreevaluated⟩, hloads⟩ := hconnected
  obtain ⟨held, hheld, hsound⟩ := exists_of_fileLoads hloads
  obtain ⟨result, after, hrun, hiff⟩ := @healthy_iff_sound RelayLog _ _ connectingArgs meshConfig
    fixtureIdentity (some (.durable LocalControlPlane.grantedFixture)) connectingAdapter
    connectingSteps fixtureSurroundings 16 held hheld
  exact ⟨hpeers, hreevaluated, result, after, hrun, hiff.2 (of_decide_eq_true hsound)⟩

end Closed

end QuipNet.Daemon
