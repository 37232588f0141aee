import QuipNet.Cycle
import QuipNet.Seeding

/-!
# The watcher of the authority snapshot

The daemon compares the fingerprints of three files with the baseline it took last.
Its loop is a step relation: the reads of the snapshot file, the takings of the
baseline and the detections are steps of their own, and another process may write
the file between any two of them. What a seed or a sync has read is recorded.
-/

open Std
namespace QuipNet.Daemon
open QuipNet.Control QuipNet.Fabric QuipNet.Library.Effect

variable {ρ : Type}

structure FileMetadata where
  len : ℕ
  modified : Option ℕ
deriving DecidableEq, Repr

structure FileFingerprint where
  present : Bool
  len : Option ℕ
  modified : Option ℕ
deriving DecidableEq, Repr

def fileFingerprint : Option FileMetadata → FileFingerprint
  | some metadata => ⟨true, some metadata.len, metadata.modified⟩
  | none => ⟨false, none, none⟩

structure WatchArgs extends Args where
  statePath : String := "~/.quip/net/state.json"
  networkChangeTriggerPath : Option String := none
  forceNetworkReprobe : Bool := false
  oneShot : Bool := false

/-! ## The monitor -/

structure DaemonTriggerMonitor where
  statePath : String
  authoritySnapshotPath : Option String
  networkChangeTriggerPath : Option String
  stateFingerprint : FileFingerprint
  authoritySnapshotFingerprint : Option FileFingerprint
  networkChangeTriggerFingerprint : Option FileFingerprint
deriving DecidableEq, Repr

namespace DaemonTriggerMonitor

variable (metadata : String → Option FileMetadata)

def new (args : WatchArgs) : DaemonTriggerMonitor where
  statePath := args.statePath
  authoritySnapshotPath := args.authoritySnapshot
  networkChangeTriggerPath := args.networkChangeTriggerPath
  stateFingerprint := fileFingerprint (metadata args.statePath)
  authoritySnapshotFingerprint := args.authoritySnapshot.map fun path => fileFingerprint (metadata path)
  networkChangeTriggerFingerprint :=
    args.networkChangeTriggerPath.map fun path => fileFingerprint (metadata path)

def refreshBaseline (monitor : DaemonTriggerMonitor) : DaemonTriggerMonitor :=
  { monitor with
    stateFingerprint := fileFingerprint (metadata monitor.statePath)
    authoritySnapshotFingerprint :=
      monitor.authoritySnapshotPath.map fun path => fileFingerprint (metadata path)
    networkChangeTriggerFingerprint :=
      monitor.networkChangeTriggerPath.map fun path => fileFingerprint (metadata path) }

def changed (path : Option String) (baseline : Option FileFingerprint) : Option FileFingerprint :=
  match path with
  | none => none
  | some path =>
    let current := fileFingerprint (metadata path)
    if baseline ≠ some current then some current else none

/-- The network trigger comes before the state file and the state file before the
snapshot; only the fingerprint that is reported is moved. -/
def detectTrigger (monitor : DaemonTriggerMonitor) : Option CycleTrigger × DaemonTriggerMonitor :=
  match changed metadata monitor.networkChangeTriggerPath monitor.networkChangeTriggerFingerprint with
  | some current => (some .networkChangeRequested,
      { monitor with networkChangeTriggerFingerprint := some current })
  | none =>
    let currentState := fileFingerprint (metadata monitor.statePath)
    if monitor.stateFingerprint ≠ currentState then
      (some .stateChanged, { monitor with stateFingerprint := currentState })
    else
      match changed metadata monitor.authoritySnapshotPath monitor.authoritySnapshotFingerprint with
      | some current => (some .authoritySnapshotChanged,
          { monitor with authoritySnapshotFingerprint := some current })
      | none => (none, monitor)

theorem detectTrigger_snapshot {monitor monitor' : DaemonTriggerMonitor}
    {trigger : Option CycleTrigger} (h : monitor.detectTrigger metadata = (trigger, monitor')) :
    monitor'.authoritySnapshotPath = monitor.authoritySnapshotPath ∧
      (trigger = some .authoritySnapshotChanged ∧
          monitor'.authoritySnapshotFingerprint =
            monitor.authoritySnapshotPath.map (fun path => fileFingerprint (metadata path)) ∨
        trigger ≠ some .authoritySnapshotChanged ∧
          monitor'.authoritySnapshotFingerprint = monitor.authoritySnapshotFingerprint) := by
  unfold detectTrigger at h
  split at h
  · cases h
    exact ⟨rfl, .inr ⟨by simp, rfl⟩⟩
  · dsimp only at h
    split_ifs at h
    · cases h
      exact ⟨rfl, .inr ⟨by simp, rfl⟩⟩
    · split at h
      · rename_i current hcurrent
        cases h
        refine ⟨rfl, .inl ⟨rfl, ?_⟩⟩
        unfold changed at hcurrent
        split at hcurrent
        · cases hcurrent
        · rename_i path hpath
          dsimp only at hcurrent
          split_ifs at hcurrent
          cases hcurrent
          simp [hpath]
      · cases h
        exact ⟨rfl, .inr ⟨by simp, rfl⟩⟩

end DaemonTriggerMonitor

/-! ## The loop -/

/-- One version of the snapshot file and what `load_authority_snapshot` makes of it. -/
structure SnapshotFile where
  metadata : FileMetadata
  loaded : Except DaemonStateError AuthorityArtifactSnapshot

def SnapshotFile.fingerprint (file : SnapshotFile) : FileFingerprint :=
  fileFingerprint (some file.metadata)

inductive Phase
  | initializing
  | binding
  | creatingMonitor
  | preparing (trigger : CycleTrigger)
  | cycling (trigger : CycleTrigger)
  | refreshing
  | waiting
  | stopped
deriving DecidableEq, Repr

/-- `others` are the files that are not the snapshot, `versions` everything the snapshot
file has been and `reads` the versions that a seed or a sync has read, newest first. -/
structure LoopState (ρ : Type) where
  world : World ρ
  snapshot : Option SnapshotFile
  others : String → Option FileMetadata
  monitor : Option DaemonTriggerMonitor
  phase : Phase
  versions : List SnapshotFile
  reads : List SnapshotFile

namespace LoopState

def metadata (s : LoopState ρ) (args : WatchArgs) (path : String) : Option FileMetadata :=
  if args.authoritySnapshot = some path then s.snapshot.map SnapshotFile.metadata
  else s.others path

def surroundings (s : LoopState ρ) (args : WatchArgs) (base : Surroundings) : Surroundings where
  loadAuthoritySnapshot path :=
    if args.authoritySnapshot = some path then
      match s.snapshot with
      | some file => file.loaded
      | none => .error (.io "No such file or directory (os error 2)")
    else base.loadAuthoritySnapshot path
  originAt := base.originAt

def Starts (s : LoopState ρ) : Prop :=
  s.phase = .initializing ∧ s.monitor = none ∧ s.reads = [] ∧ s.versions = s.snapshot.toList

def UpToDate (s : LoopState ρ) : Prop :=
  ∀ file, s.snapshot = some file → s.reads.head? = some file

def TakesBaseline (s : LoopState ρ) : Prop := s.phase = .creatingMonitor ∨ s.phase = .refreshing

end LoopState

def initializeReads (args : Args) : Bool :=
  args.authoritySnapshot.isSome && args.authorityOrigin.isNone

def prepareReads (args : Args) : CycleTrigger → Bool
  | .authoritySnapshotChanged => args.authoritySnapshot.isSome
  | .startup | .intervalElapsed =>
    args.sync && args.authoritySnapshot.isSome && args.authorityOrigin.isNone
  | _ => false

def withRead (reads : Bool) (s : LoopState ρ) : List SnapshotFile :=
  if reads then s.snapshot.toList ++ s.reads else s.reads

/-! ## What the baseline says -/

section Baseline
variable {args : WatchArgs} {s s' : LoopState ρ}

/-- The present contents of the file are read before they count as known: where the
baseline is the present fingerprint, they were read or the sync that the detection
started is about to read them. -/
def Merged (s : LoopState ρ) : Prop :=
  ∀ monitor file, s.monitor = some monitor → s.snapshot = some file →
    monitor.authoritySnapshotFingerprint = some file.fingerprint →
      file ∈ s.reads ∨ s.phase = .preparing .authoritySnapshotChanged

structure Faithful (args : WatchArgs) (s : LoopState ρ) : Prop where
  known : ∀ file, s.snapshot = some file → file ∈ s.versions
  path : ∀ monitor, s.monitor = some monitor → monitor.authoritySnapshotPath = args.authoritySnapshot
  baseline : ∀ monitor fingerprint, s.monitor = some monitor →
    monitor.authoritySnapshotFingerprint = some fingerprint →
      args.authoritySnapshot.isSome ∧ (fingerprint = fileFingerprint none ∨
        ∃ version ∈ s.versions, fingerprint = version.fingerprint)

theorem snapshotFingerprint_eq (args : WatchArgs) (s : LoopState ρ) :
    (args.authoritySnapshot.map fun path => fileFingerprint (s.metadata args path)) =
      args.authoritySnapshot.map fun _ => fileFingerprint (s.snapshot.map SnapshotFile.metadata) := by
  cases hpath : args.authoritySnapshot with
  | none => rfl
  | some path => simp [LoopState.metadata, hpath]

theorem Faithful.congr (h : Faithful args s) (hsnapshot : s'.snapshot = s.snapshot)
    (hversions : s'.versions = s.versions) (hmonitor : s'.monitor = s.monitor) :
    Faithful args s' := by
  constructor
  · rw [hsnapshot, hversions]
    exact h.known
  · rw [hmonitor]
    exact h.path
  · rw [hmonitor, hversions]
    exact h.baseline

theorem Merged.congr (h : Merged s) (hsnapshot : s'.snapshot = s.snapshot)
    (hmonitor : s'.monitor = s.monitor) (hreads : s.reads ⊆ s'.reads)
    (hphase : s.phase ≠ .preparing .authoritySnapshotChanged) : Merged s' := by
  intro monitor file hm hs hbaseline
  rw [hmonitor] at hm
  rw [hsnapshot] at hs
  exact .inl (hreads ((h monitor file hm hs hbaseline).resolve_right hphase))

theorem Faithful.taken (h : Faithful args s) {monitor : DaemonTriggerMonitor} {phase : Phase}
    (hpath : monitor.authoritySnapshotPath = args.authoritySnapshot)
    (hfingerprint : monitor.authoritySnapshotFingerprint =
      args.authoritySnapshot.map fun path => fileFingerprint (s.metadata args path)) :
    Faithful args { s with monitor := some monitor, phase } := by
  refine ⟨h.known, ?_, ?_⟩
  · rintro _ ⟨⟩
    exact hpath
  · rintro _ fingerprint ⟨⟩ hsome
    rw [hfingerprint, snapshotFingerprint_eq] at hsome
    obtain ⟨path, hpath', rfl⟩ := Option.map_eq_some_iff.mp hsome
    refine ⟨by simp [hpath'], ?_⟩
    cases hfile : s.snapshot with
    | none => exact .inl rfl
    | some file => exact .inr ⟨file, h.known file hfile, rfl⟩

theorem Faithful.write (h : Faithful args s) (file : SnapshotFile) :
    Faithful args { s with snapshot := some file, versions := file :: s.versions } := by
  refine ⟨?_, h.path, ?_⟩
  · rintro _ ⟨⟩
    exact List.mem_cons_self
  · intro monitor fingerprint hmonitor hsome
    obtain ⟨hwatched, hnone | ⟨version, hmem, heq⟩⟩ := h.baseline monitor fingerprint hmonitor hsome
    · exact ⟨hwatched, .inl hnone⟩
    · exact ⟨hwatched, .inr ⟨version, List.mem_cons_of_mem _ hmem, heq⟩⟩

theorem Merged.write (h : Faithful args s) {file : SnapshotFile}
    (hfresh : ∀ version ∈ s.versions, version.fingerprint ≠ file.fingerprint) :
    Merged { s with snapshot := some file, versions := file :: s.versions } := by
  rintro monitor _ hmonitor ⟨⟩ hbaseline
  obtain ⟨-, hnone | ⟨version, hmem, heq⟩⟩ := h.baseline monitor _ hmonitor hbaseline
  · cases hnone
  · exact absurd heq.symm (hfresh version hmem)

theorem subset_withRead (reads : Bool) (s : LoopState ρ) : s.reads ⊆ withRead reads s := by
  unfold withRead
  split_ifs
  · exact List.subset_append_right _ _
  · exact List.Subset.refl _

theorem mem_withRead {file : SnapshotFile} (h : s.snapshot = some file) :
    file ∈ withRead true s := by
  simp [withRead, h]

end Baseline

/-- Steps of other processes: a write of the snapshot file, with a fingerprint that the
file never had, and changes of anything else outside the daemon. -/
inductive OtherStep : LoopState ρ → LoopState ρ → Prop
  | write {s : LoopState ρ} {file : SnapshotFile}
      (hfresh : ∀ version ∈ s.versions, version.fingerprint ≠ file.fingerprint) :
    OtherStep s { s with snapshot := some file, versions := file :: s.versions }
  | touch {s : LoopState ρ} {world : World ρ} {others : String → Option FileMetadata} :
    OtherStep s { s with world, others }

section Loop
variable [Primitives] (base : Surroundings) (config : DaemonConfig)
  (localIdentity : IdentityKeypair) (args : WatchArgs)

def finishCycle (trigger : CycleTrigger)
    (prepared : CyclePreparation × Option LocalControlPlane.NetcheckReprobeReport × DaemonState) :
    ControlM ρ DaemonCycleReport := do
  let (preparation, reprobeReport, _) := prepared
  let _ ← LocalControlPlane.syncRuntimeSessions config
  let authorityReevaluationReport ← reevaluateForTrigger config localIdentity trigger
  let state ← LocalControlPlane.syncRuntimeSessions config
  let (state, reconcileReport) ← reconcileForCycle config args.toArgs state
  let (state, activeSession, connectStatus) ← connectForCycle config args.toArgs state
  pure { trigger, preparation, reprobeReport, state, authorityReevaluationReport,
         reconcileReport, activeSession, connectStatus }

theorem runCycle_eq (surroundings : Surroundings) (trigger : CycleTrigger) :
    (runCycle surroundings config localIdentity args.toArgs trigger : ControlM ρ _) =
      prepareStateForTrigger surroundings config localIdentity args.toArgs trigger >>=
        finishCycle config localIdentity args trigger := rfl

/-- One step of the daemon. Its own saves may change the files other than the snapshot. -/
inductive DaemonStep : LoopState ρ → LoopState ρ → Prop
  | initializeState {s : LoopState ρ} {state : DaemonState} {world : World ρ}
      {others : String → Option FileMetadata} (hphase : s.phase = .initializing)
      (hrun : Daemon.initializeState (s.surroundings args base) config localIdentity args.toArgs s.world =
        .ok state world) :
    DaemonStep s { s with world, others, phase := .binding,
                          reads := withRead (initializeReads args.toArgs) s }
  | bindIdentity {s : LoopState ρ} {state : DaemonState} {world : World ρ}
      {others : String → Option FileMetadata} (hphase : s.phase = .binding)
      (hrun : LocalControlPlane.ensureIdentityBoundState config localIdentity s.world =
        .ok state world) :
    DaemonStep s { s with world, others, phase := .creatingMonitor }
  | createMonitor {s : LoopState ρ} (hphase : s.phase = .creatingMonitor) :
    DaemonStep s { s with
      monitor := some (.new (s.metadata args) args)
      phase := .preparing (if args.forceNetworkReprobe then .networkChangeRequested else .startup) }
  | prepare {s : LoopState ρ} {trigger : CycleTrigger}
      {prepared : CyclePreparation × Option LocalControlPlane.NetcheckReprobeReport × DaemonState}
      {world : World ρ} {others : String → Option FileMetadata}
      (hphase : s.phase = .preparing trigger)
      (hrun : prepareStateForTrigger (s.surroundings args base) config localIdentity args.toArgs
        trigger s.world = .ok prepared world) :
    DaemonStep s { s with world, others, phase := .cycling trigger,
                          reads := withRead (prepareReads args.toArgs trigger) s }
  | finishCycle {s : LoopState ρ} {trigger : CycleTrigger}
      {prepared : CyclePreparation × Option LocalControlPlane.NetcheckReprobeReport × DaemonState}
      {report : DaemonCycleReport} {world : World ρ} {others : String → Option FileMetadata}
      (hphase : s.phase = .cycling trigger)
      (hrun : Daemon.finishCycle config localIdentity args trigger prepared s.world =
        .ok report world) :
    DaemonStep s { s with world, others, phase := if args.oneShot then .stopped else .refreshing }
  | refreshBaseline {s : LoopState ρ} {monitor : DaemonTriggerMonitor}
      (hphase : s.phase = .refreshing) (hmonitor : s.monitor = some monitor) :
    DaemonStep s { s with monitor := some (monitor.refreshBaseline (s.metadata args)),
                          phase := .waiting }
  | detectTrigger {s : LoopState ρ} {monitor monitor' : DaemonTriggerMonitor}
      {trigger : Option CycleTrigger} (hphase : s.phase = .waiting)
      (hmonitor : s.monitor = some monitor)
      (hdetect : monitor.detectTrigger (s.metadata args) = (trigger, monitor')) :
    DaemonStep s { s with monitor := some monitor',
                          phase := (trigger.map Phase.preparing).getD .waiting }
  | elapse {s : LoopState ρ} (hphase : s.phase = .waiting) :
    DaemonStep s { s with phase := .preparing .intervalElapsed }
  | interrupt {s : LoopState ρ} (hphase : s.phase = .waiting) :
    DaemonStep s { s with phase := .stopped }

/-- Interleavings in which every step of the daemon is taken in a state that the guard
admits. -/
inductive LoopRun (guard : LoopState ρ → Prop) (start : LoopState ρ) : LoopState ρ → Prop
  | refl : LoopRun guard start start
  | daemon {s s' : LoopState ρ} (run : LoopRun guard start s)
      (hstep : DaemonStep base config localIdentity args s s') (hguard : guard s) :
    LoopRun guard start s'
  | other {s s' : LoopState ρ} (run : LoopRun guard start s) (hstep : OtherStep s s') :
    LoopRun guard start s'

end Loop

section Other
variable {args : WatchArgs} {s s' start : LoopState ρ}

theorem OtherStep.faithful (hstep : OtherStep s s') (h : Faithful args s) : Faithful args s' := by
  cases hstep with
  | @write file _ => exact h.write file
  | touch => exact h.congr rfl rfl rfl

theorem OtherStep.merged (hstep : OtherStep s s') (hfaithful : Faithful args s) (h : Merged s) :
    Merged s' := by
  cases hstep with
  | write hfresh => exact Merged.write hfaithful hfresh
  | touch => exact h

theorem LoopState.Starts.faithful (h : start.Starts) : Faithful args start := by
  obtain ⟨-, hmonitor, -, hversions⟩ := h
  refine ⟨?_, ?_, ?_⟩
  · intro file hfile
    simp [hversions, hfile]
  · simp [hmonitor]
  · simp [hmonitor]

end Other

section Reads
variable [Primitives] (base : Surroundings) (config : DaemonConfig)
  (localIdentity : IdentityKeypair) (args : WatchArgs) (s s' : LoopState ρ)

theorem initializeState_congr (h : initializeReads args.toArgs = false) :
    (initializeState (s.surroundings args base) config localIdentity args.toArgs : ControlM ρ _) =
      initializeState (s'.surroundings args base) config localIdentity args.toArgs := by
  unfold initializeState seedOrSync
  cases hpath : args.authoritySnapshot with
  | none => cases args.authorityOrigin <;> rfl
  | some path =>
    cases horigin : args.authorityOrigin with
    | none => simp [initializeReads, hpath, horigin] at h
    | some origin => rfl

theorem prepareStateForTrigger_congr {trigger : CycleTrigger}
    (h : prepareReads args.toArgs trigger = false) :
    (prepareStateForTrigger (s.surroundings args base) config localIdentity args.toArgs trigger :
        ControlM ρ _) =
      prepareStateForTrigger (s'.surroundings args base) config localIdentity args.toArgs trigger := by
  have hrefresh : (args.sync && args.authoritySnapshot.isSome && args.authorityOrigin.isNone) = false →
      (refreshState (s.surroundings args base) config localIdentity args.toArgs : ControlM ρ _) =
        refreshState (s'.surroundings args base) config localIdentity args.toArgs := by
    intro hnone
    unfold refreshState syncOrRefresh
    cases hsync : args.sync with
    | false => rfl
    | true =>
      cases hpath : args.authoritySnapshot with
      | none => cases args.authorityOrigin <;> rfl
      | some path =>
        cases horigin : args.authorityOrigin with
        | none => simp [hsync, hpath, horigin] at hnone
        | some origin => rfl
  cases trigger with
  | stateChanged => rfl
  | networkChangeRequested => rfl
  | startup => simp only [prepareStateForTrigger, hrefresh h]
  | intervalElapsed => simp only [prepareStateForTrigger, hrefresh h]
  | authoritySnapshotChanged =>
    simp only [prepareReads, Option.isSome_eq_false_iff, Option.isNone_iff_eq_none] at h
    simp only [prepareStateForTrigger, syncChangedSnapshot, h]

end Reads

section Runs
variable [Primitives] {base : Surroundings} {config : DaemonConfig}
  {localIdentity : IdentityKeypair} {args : WatchArgs} {s s' start : LoopState ρ}

theorem DaemonStep.faithful (hstep : DaemonStep base config localIdentity args s s')
    (h : Faithful args s) : Faithful args s' := by
  cases hstep with
  | initializeState => exact h.congr rfl rfl rfl
  | bindIdentity => exact h.congr rfl rfl rfl
  | createMonitor => exact h.taken rfl rfl
  | prepare => exact h.congr rfl rfl rfl
  | finishCycle => exact h.congr rfl rfl rfl
  | @refreshBaseline monitor _ hmonitor =>
    have hpath := h.path monitor hmonitor
    refine h.taken hpath ?_
    rw [← hpath]
    rfl
  | @detectTrigger monitor monitor' trigger _ hmonitor hdetect =>
    obtain ⟨hpath, ⟨-, htaken⟩ | ⟨-, hkept⟩⟩ :=
      DaemonTriggerMonitor.detectTrigger_snapshot _ hdetect
    · rw [h.path monitor hmonitor] at hpath htaken
      exact h.taken hpath htaken
    · refine ⟨h.known, ?_, ?_⟩
      · rintro _ ⟨⟩
        rw [hpath]
        exact h.path monitor hmonitor
      · rintro _ fingerprint ⟨⟩ hsome
        rw [hkept] at hsome
        exact h.baseline monitor fingerprint hmonitor hsome
  | elapse => exact h.congr rfl rfl rfl
  | interrupt => exact h.congr rfl rfl rfl

/-- A step of the daemon keeps what is known to be read, unless it takes the baseline of a
file that was written since the last read. -/
theorem DaemonStep.merged (hstep : DaemonStep base config localIdentity args s s')
    (hfaithful : Faithful args s) (h : Merged s) (hguard : s.TakesBaseline → s.UpToDate) :
    Merged s' := by
  cases hstep with
  | initializeState hphase => exact h.congr rfl rfl (subset_withRead _ _) (by simp [hphase])
  | bindIdentity hphase => exact h.congr rfl rfl (List.Subset.refl _) (by simp [hphase])
  | createMonitor hphase =>
    intro monitor file _ hfile _
    exact .inl (List.mem_of_mem_head? (hguard (.inl hphase) file hfile))
  | @prepare trigger prepared world others hphase hrun =>
    intro monitor file hmonitor hfile hbaseline
    left
    rcases h monitor file hmonitor hfile hbaseline with hread | hpending
    · exact subset_withRead _ _ hread
    · rw [hphase] at hpending
      cases hpending
      have hwatched := (hfaithful.baseline monitor _ hmonitor hbaseline).1
      change file ∈ withRead (args.authoritySnapshot.isSome) s
      rw [hwatched]
      exact mem_withRead hfile
  | finishCycle hphase => exact h.congr rfl rfl (List.Subset.refl _) (by simp [hphase])
  | refreshBaseline hphase =>
    intro monitor file _ hfile _
    exact .inl (List.mem_of_mem_head? (hguard (.inr hphase) file hfile))
  | @detectTrigger monitor monitor' trigger hphase hmonitor hdetect =>
    rintro _ file ⟨⟩ hfile hbaseline
    obtain ⟨-, ⟨htrigger, -⟩ | ⟨-, hkept⟩⟩ :=
      DaemonTriggerMonitor.detectTrigger_snapshot _ hdetect
    · right
      simp [htrigger]
    · rw [hkept] at hbaseline
      exact .inl ((h monitor file hmonitor hfile hbaseline).resolve_right (by simp [hphase]))
  | elapse hphase => exact h.congr rfl rfl (List.Subset.refl _) (by simp [hphase])
  | interrupt hphase => exact h.congr rfl rfl (List.Subset.refl _) (by simp [hphase])

theorem LoopRun.faithful {guard : LoopState ρ → Prop}
    (hrun : LoopRun base config localIdentity args guard start s) (hstart : start.Starts) :
    Faithful args s := by
  induction hrun with
  | refl => exact hstart.faithful
  | daemon _ hstep _ ih => exact hstep.faithful ih
  | other _ hstep ih => exact hstep.faithful ih

theorem DaemonStep.reads_of_pending (hstep : DaemonStep base config localIdentity args s s')
    (hphase : s.phase = .preparing .authoritySnapshotChanged)
    (hwatched : args.authoritySnapshot.isSome) {file : SnapshotFile}
    (hfile : s.snapshot = some file) : file ∈ s'.reads := by
  cases hstep with
  | @prepare trigger prepared world others hprepare hrun =>
    rw [hphase] at hprepare
    cases hprepare
    change file ∈ withRead (args.authoritySnapshot.isSome) s
    rw [hwatched]
    exact mem_withRead hfile
  | initializeState h => simp [hphase] at h
  | bindIdentity h => simp [hphase] at h
  | createMonitor h => simp [hphase] at h
  | finishCycle h => simp [hphase] at h
  | refreshBaseline h => simp [hphase] at h
  | detectTrigger h => simp [hphase] at h
  | elapse h => simp [hphase] at h
  | interrupt h => simp [hphase] at h

/-- In every interleaving in which the file is not written between the daemon's last read
and the next taking of the baseline: where the baseline is the present fingerprint, the
present contents were read, or the change was just detected and the very next step of the
daemon reads them. -/
theorem baseline_merged (hstart : start.Starts)
    (hrun : LoopRun base config localIdentity args
      (fun s => s.TakesBaseline → s.UpToDate) start s) :
    ∀ monitor file, s.monitor = some monitor → s.snapshot = some file →
      monitor.authoritySnapshotFingerprint = some file.fingerprint →
        file ∈ s.reads ∨ s.phase = .preparing .authoritySnapshotChanged ∧
          ∀ s', DaemonStep base config localIdentity args s s' → file ∈ s'.reads := by
  have hmerged : Merged s := by
    induction hrun with
    | refl =>
      intro monitor file hmonitor
      simp [hstart.2.1] at hmonitor
    | daemon hrun hstep hguard ih => exact hstep.merged (hrun.faithful hstart) ih hguard
    | other hrun hstep ih =>
      have hfaithful := hrun.faithful hstart
      exact hstep.merged hfaithful ih
  intro monitor file hmonitor hfile hbaseline
  rcases hmerged monitor file hmonitor hfile hbaseline with hread | hpending
  · exact .inl hread
  · have hwatched := ((hrun.faithful hstart).baseline monitor _ hmonitor hbaseline).1
    exact .inr ⟨hpending, fun s' hstep => hstep.reads_of_pending hpending hwatched hfile⟩

theorem DaemonStep.merged_iff (hstep : DaemonStep base config localIdentity args s s')
    (hfaithful : Faithful args s) (htakes : s.TakesBaseline)
    (hwatched : args.authoritySnapshot.isSome) {file : SnapshotFile} (hfile : s.snapshot = some file) :
    Merged s' ↔ file ∈ s.reads := by
  obtain ⟨path, hpath⟩ := Option.isSome_iff_exists.mp hwatched
  have hpresent : (args.authoritySnapshot.map fun path => fileFingerprint (s.metadata args path)) =
      some file.fingerprint := by
    rw [snapshotFingerprint_eq, hpath, hfile]
    rfl
  cases hstep with
  | createMonitor hphase =>
    constructor
    · intro h
      refine (h _ file rfl hfile hpresent).resolve_right ?_
      split_ifs <;> simp
    · rintro hread _ other ⟨⟩ hother -
      rw [hfile] at hother
      cases hother
      exact .inl hread
  | @refreshBaseline monitor hphase hmonitor =>
    rw [← hfaithful.path monitor hmonitor] at hpresent
    constructor
    · intro h
      exact (h _ file rfl hfile hpresent).resolve_right (by simp)
    · rintro hread _ other ⟨⟩ hother -
      rw [hfile] at hother
      cases hother
      exact .inl hread
  | initializeState h => simp [LoopState.TakesBaseline, h] at htakes
  | bindIdentity h => simp [LoopState.TakesBaseline, h] at htakes
  | prepare h => simp [LoopState.TakesBaseline, h] at htakes
  | finishCycle h => simp [LoopState.TakesBaseline, h] at htakes
  | detectTrigger h => simp [LoopState.TakesBaseline, h] at htakes
  | elapse h => simp [LoopState.TakesBaseline, h] at htakes
  | interrupt h => simp [LoopState.TakesBaseline, h] at htakes

end Runs

section Closed
attribute [local instance] Primitives.transparent

def watchArgs : WatchArgs := { toArgs := seedArgs }

def snapshotFile (len : ℕ) (revocations : List RevocationRecord) : SnapshotFile :=
  ⟨⟨len, some 1720000000⟩, .ok (memberSnapshot revocations)⟩

def watchStart : LoopState Unit where
  world := meshWorld (fixtureDaemonState "mesh") [] []
  snapshot := some (snapshotFile 1024 [])
  others _ := none
  monitor := none
  phase := .initializing
  versions := [snapshotFile 1024 []]
  reads := []

theorem watchStart_starts : watchStart.Starts := ⟨rfl, rfl, rfl, rfl⟩

theorem watchStart_binds : ∃ state bound seeded world,
    initializeState (watchStart.surroundings watchArgs (snapshotAt (memberSnapshot []))) meshConfig
      fixtureIdentity watchArgs.toArgs watchStart.world = .ok state seeded ∧
    LocalControlPlane.ensureIdentityBoundState meshConfig fixtureIdentity seeded =
      .ok bound world := by
  have hok : okWith (fun _ _ => true) ((initializeState (watchStart.surroundings watchArgs
      (snapshotAt (memberSnapshot []))) meshConfig fixtureIdentity watchArgs.toArgs >>= fun _ =>
        LocalControlPlane.ensureIdentityBoundState meshConfig fixtureIdentity) watchStart.world) =
          true := by
    decide +kernel
  obtain ⟨bound, world, hrun, -⟩ := exists_of_okWith hok
  obtain ⟨state, seeded, hseed, hbind⟩ := bind_eq_ok hrun
  exact ⟨state, bound, seeded, world, hseed, hbind⟩

def watchState (world : World Unit) (file : SnapshotFile) (versions : List SnapshotFile)
    (phase : Phase) (monitor : Option DaemonTriggerMonitor) : LoopState Unit where
  world := world
  snapshot := some file
  others _ := none
  monitor := monitor
  phase := phase
  versions := versions
  reads := [snapshotFile 1024 []]

def watchMonitor (file : SnapshotFile) : DaemonTriggerMonitor where
  statePath := watchArgs.statePath
  authoritySnapshotPath := some "authority.json"
  networkChangeTriggerPath := none
  stateFingerprint := fileFingerprint none
  authoritySnapshotFingerprint := some file.fingerprint
  networkChangeTriggerFingerprint := none

theorem createMonitor_step (world : World Unit) (file : SnapshotFile) (versions : List SnapshotFile) :
    DaemonStep (snapshotAt (memberSnapshot [])) meshConfig fixtureIdentity watchArgs
      (watchState world file versions .creatingMonitor none)
      (watchState world file versions (.preparing .startup) (some (watchMonitor file))) := by
  have hnew : DaemonTriggerMonitor.new
      ((watchState world file versions .creatingMonitor none).metadata watchArgs) watchArgs =
        watchMonitor file := by
    simp [DaemonTriggerMonitor.new, LoopState.metadata, watchMonitor, watchArgs, seedArgs,
      watchState, SnapshotFile.fingerprint]
  have hstep : DaemonStep (snapshotAt (memberSnapshot [])) meshConfig fixtureIdentity watchArgs
      (watchState world file versions .creatingMonitor none) _ := .createMonitor rfl
  rw [hnew] at hstep
  exact hstep

theorem seeded_snapshot_in_baseline : ∃ s : LoopState Unit,
    LoopRun (snapshotAt (memberSnapshot [])) meshConfig fixtureIdentity watchArgs
      (fun s => s.TakesBaseline → s.UpToDate) watchStart s ∧
      s.monitor = some (watchMonitor (snapshotFile 1024 [])) ∧
      snapshotFile 1024 [] ∈ s.reads := by
  obtain ⟨state, bound, seeded, world, hseed, hbind⟩ := watchStart_binds
  let file := snapshotFile 1024 []
  have hinitialize : DaemonStep (snapshotAt (memberSnapshot [])) meshConfig fixtureIdentity watchArgs
      watchStart (watchState seeded file [file] .binding none) := .initializeState rfl hseed
  have hidentity : DaemonStep (snapshotAt (memberSnapshot [])) meshConfig fixtureIdentity watchArgs
      (watchState seeded file [file] .binding none)
      (watchState world file [file] .creatingMonitor none) := .bindIdentity rfl hbind
  have hcreate := createMonitor_step world file [file]
  have hrun : LoopRun (snapshotAt (memberSnapshot [])) meshConfig fixtureIdentity watchArgs
      (fun s => s.TakesBaseline → s.UpToDate) watchStart
      (watchState world file [file] (.preparing .startup) (some (watchMonitor file))) := by
    refine ((LoopRun.refl.daemon hinitialize ?_).daemon hidentity ?_).daemon hcreate ?_
    · simp [LoopState.TakesBaseline, watchStart]
    · simp [LoopState.TakesBaseline, watchState]
    · rintro - other ⟨⟩
      rfl
  refine ⟨_, hrun, rfl, ?_⟩
  refine (baseline_merged watchStart_starts hrun _ file rfl rfl rfl).resolve_right ?_
  rintro ⟨hphase, -⟩
  cases hphase

/-- The authority writes a revocation after the seed read the file and before the monitor
is made: the new contents are the baseline and nobody has read them. -/
theorem unread_revocation_in_baseline : ∃ (s : LoopState Unit) (monitor : DaemonTriggerMonitor)
    (file : SnapshotFile), watchStart.Starts ∧ watchArgs.sync = false ∧
      LoopRun (snapshotAt (memberSnapshot [])) meshConfig fixtureIdentity watchArgs
        (fun _ => True) watchStart s ∧
      s.monitor = some monitor ∧ s.snapshot = some file ∧
      monitor.authoritySnapshotFingerprint = some file.fingerprint ∧
      file ∉ s.reads ∧ s.phase = .preparing .startup := by
  obtain ⟨state, bound, seeded, world, hseed, hbind⟩ := watchStart_binds
  let file := snapshotFile 1024 []
  let revoked := snapshotFile 1536 [peerRevocation fixtureWorkerPeer]
  have hinitialize : DaemonStep (snapshotAt (memberSnapshot [])) meshConfig fixtureIdentity watchArgs
      watchStart (watchState seeded file [file] .binding none) := .initializeState rfl hseed
  have hwrite : OtherStep (watchState seeded file [file] .binding none)
      (watchState seeded revoked [revoked, file] .binding none) := by
    refine .write fun version hversion => ?_
    rw [List.mem_singleton.mp hversion]
    simp [SnapshotFile.fingerprint, fileFingerprint, file, revoked, snapshotFile]
  have hidentity : DaemonStep (snapshotAt (memberSnapshot [])) meshConfig fixtureIdentity watchArgs
      (watchState seeded revoked [revoked, file] .binding none)
      (watchState world revoked [revoked, file] .creatingMonitor none) := .bindIdentity rfl hbind
  have hrun : LoopRun (snapshotAt (memberSnapshot [])) meshConfig fixtureIdentity watchArgs
      (fun _ => True) watchStart
      (watchState world revoked [revoked, file] (.preparing .startup) (some (watchMonitor revoked))) :=
    (((LoopRun.refl.daemon hinitialize trivial).other hwrite).daemon hidentity trivial).daemon
      (createMonitor_step world revoked [revoked, file]) trivial
  refine ⟨_, _, revoked, watchStart_starts, rfl, hrun, rfl, rfl, rfl, ?_, rfl⟩
  intro hread
  have heq : revoked = file := List.mem_singleton.mp hread
  have hlen : revoked.metadata.len = file.metadata.len := by rw [heq]
  simp [file, revoked, snapshotFile] at hlen

end Closed

end QuipNet.Daemon
