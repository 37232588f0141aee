import QuipNet.NodeInvariants

/-!
# Requests and cycles at the same time

The control thread and the main loop work on one state file and take no lock. Each reads the
file and later writes a state that continues what it read, whatever the other has written in
between; a reset and an export onto the file replace it. A request or a cycle that is not
interrupted is such a run of its thread.
-/

open Std
namespace QuipNet.Daemon
open QuipNet.Control QuipNet.DaemonApi QuipNet.Fabric QuipNet.Library QuipNet.Library.Effect
open QuipNet.Library.SharedCell QuipNet.Quic QuipNet.Transport
open LocalControlPlane (reprobedState)

variable {ρ : Type} {P : List RevocationRecord → Prop} {Replaces : Option StateFile → Prop}

/-! ## What the threads do to the file -/

/-- A thread that has read the file writes a state that continues it, and may go on from the
one or stop; or it replaces the file. -/
inductive NodeWrites (P : List RevocationRecord → Prop) (Replaces : Option StateFile → Prop) :
    Option StateFile → Option StateFile → Option (Option StateFile) → Prop
  | saved {held : Option StateFile} {state : DaemonState} {next : Option (Option StateFile)}
      (hfollows : Follows P state held) (hnext : next = none ∨ next = some (some state.saved)) :
      NodeWrites P Replaces held (some state.saved) next
  | replaced {held file : Option StateFile} (h : Replaces file) :
      NodeWrites P Replaces held file none

def nodeProtocol (P : List RevocationRecord → Prop) (Replaces : Option StateFile → Prop) :
    Protocol (Option StateFile) (Option StateFile) :=
  ⟨fun file held => held = file, NodeWrites P Replaces⟩

abbrev NodeFile := State DaemonThread (Option StateFile) (Option StateFile)

def unread (file : Option StateFile) : NodeFile := ⟨file, fun _ => none⟩

def Removed (file : Option StateFile) : Prop := file = none

def RemovedOrBundle (file : Option StateFile) : Prop := file = none ∨ IsDamaged file

section Protocol
variable {guard : Option StateFile → Option StateFile → Prop} {start : NodeFile}
  {file held : Option StateFile} {pending : DaemonThread → Option (Option StateFile)}

theorem run_reads (h : Run (nodeProtocol P Replaces) guard start ⟨file, pending⟩)
    (thread : DaemonThread) (hidle : pending thread = none) :
    Run (nodeProtocol P Replaces) guard start
      ⟨file, Function.update pending thread (some file)⟩ := h.read thread rfl hidle

theorem run_saves (h : Run (nodeProtocol P Replaces) guard start ⟨file, pending⟩)
    (thread : DaemonThread) {state : DaemonState} (hfollows : Follows P state held)
    (hheld : pending thread = some held) (hguard : guard file held) :
    Run (nodeProtocol P Replaces) guard start
      ⟨some state.saved, Function.update pending thread none⟩ :=
  h.write thread (.saved hfollows (.inl rfl)) hheld hguard

end Protocol

/-! ## What is kept, however the threads interleave -/

def ContinuedBy (file later : Option StateFile) : Prop :=
  ∀ held, file = some (.durable held) →
    ∃ state, later = some (.durable state) ∧ held.Continues (fun _ => True) state

instance : IsPreorder (Option StateFile) ContinuedBy where
  refl _ held h := ⟨held, h, .refl held⟩
  trans _ _ _ h₁ h₂ held h := by
    obtain ⟨middle, hmiddle, hkept⟩ := h₁ held h
    obtain ⟨state, hstate, hcontinues⟩ := h₂ middle hmiddle
    exact ⟨state, hstate, hkept.trans hcontinues⟩

theorem continuedBy_saved {state : DaemonState} {held : Option StateFile}
    (h : Follows (fun _ => True) state held) : ContinuedBy held (some state.saved) := by
  rintro known rfl
  have hsaved : state.Continues (fun _ => True) { state with
    schemaVersion := daemonStateSchemaVersion, activeSessions := [] } := .of_same rfl rfl rfl rfl
  exact ⟨_, rfl, DaemonState.Continues.trans h hsaved⟩

/-- The threads replace nothing, and write over no state with facts that they have not read. -/
abbrev FreshRun : NodeFile → NodeFile → Prop :=
  Run (nodeProtocol (fun _ => True) fun _ => False) ContinuedBy

theorem FreshRun.continuedBy {start later : NodeFile} (h : FreshRun start later) :
    ContinuedBy start.content later.content := by
  refine Run.moves ?_ h
  intro file held written next hfresh hwrite
  cases hwrite with
  | saved hfollows => exact IsTrans.trans (r := ContinuedBy) _ _ _ hfresh (continuedBy_saved hfollows)
  | replaced h => exact h.elim

theorem fileHas_of_run (hreplaces : ∀ file, Replaces file → FileHas P file)
    {guard : Option StateFile → Option StateFile → Prop} {file : Option StateFile} {later : NodeFile}
    (h : Run (nodeProtocol P Replaces) guard (unread file) later) (hfile : FileHas P file) :
    FileHas P later.content := by
  refine (Run.keeps (I := FileHas P) (J := FileHas P) ?_ ?_ h hfile fun _ _ hnone => by cases hnone).1
  · rintro content held hcontent rfl
    exact hcontent
  · intro held written next hheld hwrite
    cases hwrite with
    | @saved state _ hfollows hnext =>
      have hsaved : FileHas P (some state.saved) :=
        fileHas_saved (property_of_follows hfollows hheld)
      refine ⟨hsaved, ?_⟩
      rintro _ ⟨⟩
      rcases hnext with hnone | hsome
      · cases hnone
      · cases hsome
        exact hsaved
    | replaced h =>
      refine ⟨hreplaces written h, ?_⟩
      rintro _ ⟨⟩

/-! ## A thread that is not interrupted -/

/-- Whatever the others have read, the thread takes the file from the one world to the other. -/
def Interleaves (thread : DaemonThread) (P : List RevocationRecord → Prop)
    (Replaces : Option StateFile → Prop) (before after : World ρ) : Prop :=
  ∀ pending : DaemonThread → Option (Option StateFile), pending thread = none →
    Run (nodeProtocol P Replaces) ContinuedBy ⟨before.stateFile, pending⟩ ⟨after.stateFile, pending⟩

theorem interleaves_write (thread : DaemonThread) {world : World ρ} {file : Option StateFile}
    (h : NodeWrites P Replaces world.stateFile file none) :
    Interleaves thread P Replaces world { world with stateFile := file } := by
  intro pending hidle
  have hread : Run (nodeProtocol P Replaces) ContinuedBy ⟨world.stateFile, pending⟩ _ :=
    run_reads .refl thread hidle
  have hwritten := hread.write thread h (Function.update_self ..) (refl (r := ContinuedBy) _)
  rwa [Function.update_idem, ← hidle, Function.update_eq_self] at hwritten

theorem interleaves_operated [Primitives] (thread : DaemonThread) (config : DaemonConfig)
    (h : P []) : Operated config P (Interleaves (ρ := ρ) thread P Replaces) where
  nothing := h
  refl _ _ _ := .refl
  trans _ _ _ h₁ h₂ pending hidle := (h₁ pending hidle).trans (h₂ pending hidle)
  ticked _ _ _ := .refl
  called _ _ _ _ := .refl
  created world hnone := by
    apply interleaves_write
    rw [hnone]
    exact .saved h (.inl rfl)
  saved world state hfollows := interleaves_write thread (.saved hfollows (.inl rfl))

section Steps
variable [Primitives] [PayloadDecoder] (args : ServerArgs) {config : DaemonConfig}
  (localIdentity : IdentityKeypair)

def NodeStep.thread : NodeStep → DaemonThread
  | .request _ _ => .controlServer
  | .cycle _ _ => .mainLoop

theorem Node.step_interleaves (hnothing : P []) {step : NodeStep}
    (hfeed : SurroundingsFeed P step.surroundings)
    (hreset : step.resets = true → Replaces none)
    (hexport : step.exportsOver args = true → ∀ error, Replaces (some (.damaged error)))
    (node : Node ρ) : Interleaves step.thread P Replaces node.world
      (node.step args config localIdentity step).2.world := by
  have : Operated config P (Interleaves (ρ := ρ) step.thread P Replaces) :=
    interleaves_operated step.thread config hnothing
  refine Node.step_fed args localIdentity hfeed ⟨?_, ?_⟩ node
  · intro hresets world
    exact interleaves_write step.thread (.replaced (hreset hresets))
  · intro hexports world error
    exact interleaves_write step.thread (.replaced (hexport hexports error))

/-- Requests and cycles one after the other, too, are a run of the two threads. -/
theorem Node.run_interleaves (hnothing : P []) {steps : List NodeStep}
    (hfeed : ∀ step ∈ steps, SurroundingsFeed P step.surroundings)
    (hreset : ∀ step ∈ steps, step.resets = true → Replaces none)
    (hexport : ∀ step ∈ steps, step.exportsOver args = true →
      ∀ error, Replaces (some (.damaged error)))
    (node : Node ρ) : Run (nodeProtocol P Replaces) ContinuedBy (unread node.world.stateFile)
      (unread (node.run args config localIdentity steps).world.stateFile) := by
  induction steps generalizing node with
  | nil => exact .refl
  | cons step rest ih =>
    have hfirst : Interleaves step.thread P Replaces node.world
        (node.step args config localIdentity step).2.world :=
      Node.step_interleaves args localIdentity hnothing (hfeed step List.mem_cons_self)
        (hreset step List.mem_cons_self) (hexport step List.mem_cons_self) node
    refine Relation.ReflTransGen.trans (hfirst (fun _ => none) rfl) ?_
    exact ih (fun step hstep => hfeed step (List.mem_cons_of_mem _ hstep))
      (fun step hstep => hreset step (List.mem_cons_of_mem _ hstep))
      (fun step hstep => hexport step (List.mem_cons_of_mem _ hstep)) _

/-- No step of the run resets the state file or exports onto it. -/
def Quiet (steps : List NodeStep) : Prop :=
  ∀ step ∈ steps, step.resets = false ∧ step.exportsOver args = false

theorem Node.run_fresh {steps : List NodeStep} (h : Quiet args steps) (node : Node ρ) :
    FreshRun (unread node.world.stateFile)
      (unread (node.run args config localIdentity steps).world.stateFile) := by
  refine Node.run_interleaves args localIdentity trivial
    (fun step _ => surroundingsFeed_any step.surroundings) ?_ ?_ node
  · intro step hstep hreset
    rw [(h step hstep).1] at hreset
    cases hreset
  · intro step hstep hexport
    rw [(h step hstep).2] at hexport
    cases hexport

end Steps

/-! ## Results -/

section Closed
attribute [local instance] Primitives.transparent diagnoseDecoder

theorem crossing_writes (held : DaemonState) : ∃ pending,
    FreshRun (unread (some (.durable held)))
      ⟨some (reprobedState "link up" held).saved, pending⟩ := by
  let closed : DaemonState := { held with activeSessions := [] }
  have hclosed : Follows (fun _ => True) closed (some (.durable held)) := .of_same rfl rfl rfl rfl
  have hread : FreshRun (unread (some (.durable held))) _ :=
    run_reads (run_reads .refl .mainLoop rfl) .controlServer rfl
  have hclosing := run_saves hread .controlServer hclosed rfl (refl (r := ContinuedBy) _)
  -- what the main loop has read is still as good as what is there
  have hfresh : ContinuedBy (some closed.saved) (some (.durable held)) := by
    rintro known ⟨⟩
    exact ⟨held, rfl, .of_same rfl rfl rfl rfl⟩
  have hcontinues : Follows (fun _ => True) (reprobedState "link up" held)
      (some (.durable held)) := reprobedState_continues "link up" held
  exact ⟨_, run_saves hclosing .mainLoop hcontinues rfl hfresh⟩

end Closed

end QuipNet.Daemon
