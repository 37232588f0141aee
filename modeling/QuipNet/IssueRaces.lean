import QuipNet.AuthorityStore

/-!
# Concurrent issue commands

Several `authority issue` processes work on one state file and share no lock. Each reads
the file to draw a sequence, reads it again to persist its artifact, and writes the whole
file back. `IssueStep` is one of these accesses of one process. What the runs keep is
proved for runs in which no process meets a file that another one has changed under it:
the counter it drew from has not moved when it reads the file again, and the file it
overwrites is the one it read. The file has one slot for the enrollment token and one for
the membership of each subject, so no process may write to the slot of another artifact that
was printed before.
-/

open Std
namespace QuipNet.Authority
open QuipNet.Control QuipNet.Library QuipNet.Relay

inductive IssuePhase
  | drawn (artifact : IssuedArtifact)
  | holding (artifact : IssuedArtifact) (decoded : AuthorityState)

/-- The state file, the commands that are running, and the artifacts that were printed,
the newest first. -/
structure IssueSystem (T : Type) where
  file : AuthorityState
  phase : T → Option IssuePhase
  reported : List IssuedArtifact

def IssueSystem.start (T : Type) (file : AuthorityState) : IssueSystem T := ⟨file, fun _ => none, []⟩

section Steps
variable [Primitives] {T : Type} [DecidableEq T]

/-- One access of the process `t`; a command that draws no sequence makes its artifact at any
time before it persists it. -/
inductive IssueStep (guard : IssueSystem T → IssuePhase → Prop) :
    IssueSystem T → IssueSystem T → Prop
  | draw {s : IssueSystem T} (t : T) (command : ArtifactCommand) (artifact : IssuedArtifact)
      (hidle : s.phase t = none) (hartifact : issuedArtifact s.file command = some artifact) :
      IssueStep guard s { s with phase := Function.update s.phase t (some (.drawn artifact)) }
  | reread {s : IssueSystem T} (t : T) (artifact : IssuedArtifact)
      (hphase : s.phase t = some (.drawn artifact)) (hguard : guard s (.drawn artifact)) :
      IssueStep guard s { s with
        phase := Function.update s.phase t (some (.holding artifact s.file)) }
  | write {s : IssueSystem T} (t : T) (artifact : IssuedArtifact) (decoded after : AuthorityState)
      (hphase : s.phase t = some (.holding artifact decoded))
      (hguard : guard s (.holding artifact decoded))
      (hpersist : persistIssuedArtifact decoded artifact = some after) :
      IssueStep guard s ⟨after, Function.update s.phase t none, artifact :: s.reported⟩
  | abandon {s : IssueSystem T} (t : T) :
      IssueStep guard s { s with phase := Function.update s.phase t none }

def IssueRun (guard : IssueSystem T → IssuePhase → Prop) : IssueSystem T → IssueSystem T → Prop :=
  Relation.ReflTransGen (IssueStep guard)

variable {guard : IssueSystem T → IssuePhase → Prop} {s₀ : IssueSystem T} {file : AuthorityState}
  {phase : T → Option IssuePhase} {reported : List IssuedArtifact}

theorem IssueRun.draw (h : IssueRun guard s₀ ⟨file, phase, reported⟩) (t : T)
    {command : ArtifactCommand} {artifact : IssuedArtifact}
    (hartifact : issuedArtifact file command = some artifact) (hidle : phase t = none) :
    IssueRun guard s₀ ⟨file, Function.update phase t (some (.drawn artifact)), reported⟩ :=
  h.tail (.draw t command artifact hidle hartifact)

theorem IssueRun.reread (h : IssueRun guard s₀ ⟨file, phase, reported⟩) (t : T)
    {artifact : IssuedArtifact} (hphase : phase t = some (.drawn artifact))
    (hguard : guard ⟨file, phase, reported⟩ (.drawn artifact)) :
    IssueRun guard s₀ ⟨file, Function.update phase t (some (.holding artifact file)), reported⟩ :=
  h.tail (.reread t artifact hphase hguard)

theorem IssueRun.write (h : IssueRun guard s₀ ⟨file, phase, reported⟩) (t : T)
    {artifact : IssuedArtifact} {decoded after : AuthorityState}
    (hpersist : persistIssuedArtifact decoded artifact = some after)
    (hphase : phase t = some (.holding artifact decoded))
    (hguard : guard ⟨file, phase, reported⟩ (.holding artifact decoded)) :
    IssueRun guard s₀ ⟨after, Function.update phase t none, artifact :: reported⟩ :=
  h.tail (.write t artifact decoded after hphase hguard hpersist)

end Steps

/-! ## Artifacts in the file -/

/-- The served token has the hints of the store in the place of its own. -/
def Holds (stored : AuthorityState) : IssuedArtifact → Prop
  | .enrollmentToken value => stored.snapshot.enrollmentToken =
      some { value with bootstrapHints := stored.bootstrapHints }
  | .membership subjectSeed _ value =>
      ⟨subjectSeed, value.subjectPeerId.toText, value⟩ ∈ stored.members
  | .capability value => value ∈ stored.capabilityGrants
  | .revocation value => value ∈ stored.revocations

/-- The file has one enrollment token, and one membership for each subject. -/
def Supersedes : IssuedArtifact → IssuedArtifact → Prop
  | .enrollmentToken _, .enrollmentToken _ => True
  | .membership newer _ _, .membership older _ _ => newer = older
  | _, _ => False

/-- The counter has not moved since the sequence was drawn; the file has not changed since it
was decoded, and no other printed artifact has the slot that is written. -/
def Undisturbed {T : Type} (s : IssueSystem T) : IssuePhase → Prop
  | .drawn artifact => Fresh s.file artifact
  | .holding artifact decoded =>
    decoded = s.file ∧ ∀ other ∈ s.reported, Supersedes artifact other → other = artifact

theorem persistIssuedArtifact_holds {stored after : AuthorityState} (h : Consistent stored)
    {artifact : IssuedArtifact} (hfresh : Fresh stored artifact)
    (hpersist : persistIssuedArtifact stored artifact = some after) : Holds after artifact := by
  cases artifact with
  | enrollmentToken value =>
    cases hpersist
    rfl
  | membership subjectSeed active value =>
    cases hpersist
    change _ ∈ upsertMember stored.members _
    rw [upsertMember_eq]
    exact mem_upsert_self _ _ _
  | capability value =>
    obtain rfl := persistIssuedArtifact_capability h hfresh hpersist
    exact List.mem_append_right _ (List.mem_singleton_self value)
  | revocation value =>
    obtain rfl := persistIssuedArtifact_revocation h.toNumbered hfresh hpersist
    exact List.mem_append_right _ (List.mem_singleton_self value)

/-- Only the token and the membership of a subject are ever replaced. -/
theorem persistIssuedArtifact_keeps {stored after : AuthorityState} (h : Consistent stored)
    {artifact : IssuedArtifact} (hfresh : Fresh stored artifact)
    (hpersist : persistIssuedArtifact stored artifact = some after) {other : IssuedArtifact}
    (hother : Holds stored other) : Holds after other ∨ Supersedes artifact other := by
  have htoken : ∀ value, Holds stored (.enrollmentToken value) →
      stored.snapshot.enrollmentToken.map (fun token =>
        { token with bootstrapHints := stored.bootstrapHints }) =
        some { value with bootstrapHints := stored.bootstrapHints } := by
    intro value hvalue
    rw [show stored.snapshot.enrollmentToken = _ from hvalue]
    rfl
  cases artifact with
  | enrollmentToken value =>
    cases hpersist
    cases other with
    | enrollmentToken _ => exact .inr trivial
    | membership _ _ _ => exact .inl hother
    | capability _ => exact .inl hother
    | revocation _ => exact .inl hother
  | membership subjectSeed active value =>
    cases hpersist
    cases other with
    | enrollmentToken token => exact .inl (htoken token hother)
    | membership seed _ _ =>
      by_cases hseed : subjectSeed = seed
      · exact .inr hseed
      · refine .inl ?_
        change _ ∈ upsertMember stored.members _
        rw [upsertMember_eq]
        exact mem_upsert_of_mem _ hother (by simpa using Ne.symm hseed)
    | capability _ => exact .inl hother
    | revocation _ => exact .inl hother
  | capability value =>
    obtain rfl := persistIssuedArtifact_capability h hfresh hpersist
    refine .inl ?_
    cases other with
    | enrollmentToken token => exact htoken token hother
    | membership _ _ _ => exact hother
    | capability _ => exact List.mem_append_left _ hother
    | revocation _ => exact hother
  | revocation value =>
    obtain rfl := persistIssuedArtifact_revocation h.toNumbered hfresh hpersist
    refine .inl ?_
    cases other with
    | enrollmentToken token => exact htoken token hother
    | membership _ _ _ => exact hother
    | capability _ => exact hother
    | revocation _ => exact List.mem_append_left _ hother

/-! ## Runs -/

/-- A file that was decoded to persist an artifact has its sequence as the next one. -/
def HoldingFresh {T : Type} (phase : T → Option IssuePhase) : Prop :=
  ∀ t artifact decoded, phase t = some (.holding artifact decoded) → Fresh decoded artifact

theorem HoldingFresh.update {T : Type} [DecidableEq T] {phase : T → Option IssuePhase}
    (h : HoldingFresh phase) (t : T) {next : Option IssuePhase}
    (hnext : ∀ artifact decoded, next = some (.holding artifact decoded) → Fresh decoded artifact) :
    HoldingFresh (Function.update phase t next) := by
  intro t' artifact decoded hphase
  by_cases ht : t' = t
  · subst ht
    rw [Function.update_self] at hphase
    exact hnext artifact decoded hphase
  · rw [Function.update_of_ne ht] at hphase
    exact h t' artifact decoded hphase

structure Serialized {T : Type} (s : IssueSystem T) : Prop where
  file : Consistent s.file
  holding : HoldingFresh s.phase
  reported : ∀ artifact ∈ s.reported, Holds s.file artifact

section Runs
variable [Primitives] {T : Type} [DecidableEq T]

theorem IssueStep.serialized {s s' : IssueSystem T} (h : Serialized s)
    (hstep : IssueStep Undisturbed s s') : Serialized s' := by
  cases hstep with
  | draw t command artifact hidle hartifact =>
    refine { h with holding := h.holding.update t ?_ }
    intro artifact' decoded hphase
    cases hphase
  | reread t artifact hphase hguard =>
    refine { h with holding := h.holding.update t ?_ }
    intro artifact' decoded hphase'
    cases hphase'
    exact hguard
  | write t artifact decoded after hphase hguard hpersist =>
    obtain ⟨rfl, hslot⟩ := hguard
    have hfresh := h.holding t artifact s.file hphase
    refine ⟨persistIssuedArtifact_consistent h.file hfresh hpersist, h.holding.update t ?_, ?_⟩
    · intro artifact' decoded hphase'
      cases hphase'
    · have hnew := persistIssuedArtifact_holds h.file hfresh hpersist
      intro other hother
      rcases List.mem_cons.mp hother with rfl | hother
      · exact hnew
      · rcases persistIssuedArtifact_keeps h.file hfresh hpersist (h.reported other hother) with
          hkept | hsupersedes
        · exact hkept
        · rwa [hslot other hother hsupersedes]
  | abandon t =>
    refine { h with holding := h.holding.update t ?_ }
    intro artifact' decoded hphase
    cases hphase

theorem IssueRun.serialized {s s' : IssueSystem T} (h : Serialized s)
    (hrun : IssueRun Undisturbed s s') : Serialized s' := by
  induction hrun with
  | refl => exact h
  | tail _ hstep ih => exact hstep.serialized ih

end Runs

section Closed
attribute [local instance] Primitives.transparent

def revokeCommand (label : String) : ArtifactCommand :=
  .revocation "mesh" "default" (seededKeypair label).peerId "administrative" none 1700000100

def unissued : AuthorityState := storeAfter "mesh" "default" [] []

def revocationOf (label : String) : RevocationRecord :=
  .issue (seededKeypair ("authority:" ++ "default")) (.derive "mesh")
    (.peer (seededKeypair label).peerId) .administrative 1700000100 1700000100 1 none

theorem issuedArtifact_revokeCommand (label : String) :
    issuedArtifact unissued (revokeCommand label) = some (.revocation (revocationOf label)) := rfl

def grantCommand : ArtifactCommand :=
  .capability "mesh" "default" (some "worker") none ["storage.read"] [] [] 600 1700000100

def tokenCommand : ArtifactCommand :=
  .enrollmentToken "mesh" "default" (some "worker") [] [] 600 1700000100

end Closed

end QuipNet.Authority
