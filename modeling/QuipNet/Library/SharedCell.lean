import Mathlib

/-!
# Threads over one shared cell without a lock

Threads work on a shared cell in operations that read it once and may later write
it as a whole. Between the two, other threads may have written. A pending
operation knows the facts of the content it read, and what it writes has at least
those. Facts are then never lost if no write happens over a content with facts
that its operation does not know.
-/

namespace QuipNet.Library.SharedCell

/-- The operations over a cell: which pending operation a read starts, and what a
pending operation writes and whether it goes on. -/
structure Protocol (C P : Type) where
  Reads : C → P → Prop
  Writes : P → C → Option P → Prop

structure State (T C P : Type) where
  content : C
  pending : T → Option P

variable {T C P F : Type} [DecidableEq T]

/-- One step of a thread; a write is only made where the guard allows it. -/
inductive Step (protocol : Protocol C P) (guard : C → P → Prop) :
    State T C P → State T C P → Prop
  | read {s : State T C P} (t : T) (p : P) (hidle : s.pending t = none)
      (hread : protocol.Reads s.content p) :
      Step protocol guard s ⟨s.content, Function.update s.pending t (some p)⟩
  | write {s : State T C P} (t : T) (p : P) (c : C) (next : Option P)
      (hpending : s.pending t = some p) (hguard : guard s.content p)
      (hwrite : protocol.Writes p c next) :
      Step protocol guard s ⟨c, Function.update s.pending t next⟩
  | abandon {s : State T C P} (t : T) :
      Step protocol guard s ⟨s.content, Function.update s.pending t none⟩

def Run (protocol : Protocol C P) (guard : C → P → Prop) : State T C P → State T C P → Prop :=
  Relation.ReflTransGen (Step protocol guard)

theorem Run.read {protocol : Protocol C P} {guard : C → P → Prop} {s : State T C P} {c : C}
    {pending : T → Option P} (h : Run protocol guard s ⟨c, pending⟩) (t : T) {p : P}
    (hread : protocol.Reads c p) (hidle : pending t = none) :
    Run protocol guard s ⟨c, Function.update pending t (some p)⟩ :=
  h.tail (.read t p hidle hread)

theorem Run.write {protocol : Protocol C P} {guard : C → P → Prop} {s : State T C P} {c : C}
    {pending : T → Option P} (h : Run protocol guard s ⟨c, pending⟩) (t : T) {p : P} {c' : C}
    {next : Option P} (hwrite : protocol.Writes p c' next) (hpending : pending t = some p)
    (hguard : guard c p) : Run protocol guard s ⟨c', Function.update pending t next⟩ :=
  h.tail (.write t p c' next hpending hguard hwrite)

def free : C → P → Prop := fun _ _ => True

/-- The operation knows every fact of the content it is about to replace. -/
def UpToDate (facts : C → Set F) (knows : P → Set F) : C → P → Prop :=
  fun c p => facts c ⊆ knows p

variable {protocol : Protocol C P} {guard : C → P → Prop} {facts : C → Set F} {knows : P → Set F}

theorem Run.mono {guard' : C → P → Prop} (hguard : ∀ c p, guard c p → guard' c p)
    {s s' : State T C P} (h : Run protocol guard s s') : Run protocol guard' s s' := by
  induction h with
  | refl => exact .refl
  | tail _ hstep ih =>
    refine ih.tail ?_
    cases hstep with
    | read t p hidle hread => exact .read t p hidle hread
    | write t p c next hpending hallowed hwrite =>
      exact .write t p c next hpending (hguard _ _ hallowed) hwrite
    | abandon t => exact .abandon t

theorem Run.moves {R : C → C → Prop} [IsPreorder C R]
    (hwrites : ∀ c p c' next, guard c p → protocol.Writes p c' next → R c c')
    {s s' : State T C P} (h : Run protocol guard s s') : R s.content s'.content := by
  induction h with
  | refl => exact refl _
  | tail _ hstep ih =>
    refine IsTrans.trans _ _ _ ih ?_
    cases hstep with
    | read => exact refl _
    | write t p c next hpending hguard hwrite => exact hwrites _ p c next hguard hwrite
    | abandon => exact refl _

/-- What reads hand on to the pending operations, and these to what they write. -/
theorem Run.keeps {I : C → Prop} {J : P → Prop} (hreads : ∀ c p, I c → protocol.Reads c p → J p)
    (hwrites : ∀ p c next, J p → protocol.Writes p c next → I c ∧ ∀ q ∈ next, J q)
    {s s' : State T C P} (h : Run protocol guard s s') (hcontent : I s.content)
    (hpending : ∀ t, ∀ p ∈ s.pending t, J p) :
    I s'.content ∧ ∀ t, ∀ p ∈ s'.pending t, J p := by
  induction h with
  | refl => exact ⟨hcontent, hpending⟩
  | @tail s s' _ hstep ih =>
    obtain ⟨hcontent, hpending⟩ := ih
    -- the thread of the step has another pending operation, the others keep theirs
    have hupdate : ∀ t (next : Option P), (∀ q ∈ next, J q) →
        ∀ other, ∀ q ∈ Function.update s.pending t next other, J q := by
      intro t next hnext other q hq
      by_cases hother : other = t
      · rw [hother, Function.update_self] at hq
        exact hnext q hq
      · rw [Function.update_of_ne hother] at hq
        exact hpending other q hq
    cases hstep with
    | read t p hidle hread =>
      refine ⟨hcontent, hupdate t (some p) ?_⟩
      rintro _ ⟨⟩
      exact hreads _ p hcontent hread
    | write t p c next hp hguard hwrite =>
      obtain ⟨hwritten, hnext⟩ := hwrites p c next (hpending t p hp) hwrite
      exact ⟨hwritten, hupdate t next hnext⟩
    | abandon t =>
      refine ⟨hcontent, hupdate t none ?_⟩
      rintro _ ⟨⟩

theorem Run.facts_subset (hwrites : ∀ p c next, protocol.Writes p c next → knows p ⊆ facts c)
    {s s' : State T C P} (h : Run protocol (UpToDate facts knows) s s') :
    facts s.content ⊆ facts s'.content := by
  have : IsPreorder C fun c c' => facts c ⊆ facts c' :=
    { refl := fun _ => subset_rfl, trans := fun _ _ _ => subset_trans }
  exact h.moves (R := fun c c' => facts c ⊆ facts c') fun c p c' next hguard hwrite =>
    hguard.trans (hwrites p c' next hwrite)

/-! ## One thread alone -/

inductive SoloStep (protocol : Protocol C P) : C × Option P → C × Option P → Prop
  | read {c : C} {p : P} (hread : protocol.Reads c p) : SoloStep protocol (c, none) (c, some p)
  | write {c c' : C} {p : P} {next : Option P} (hwrite : protocol.Writes p c' next) :
      SoloStep protocol (c, some p) (c', next)
  | abandon {c : C} {p : Option P} : SoloStep protocol (c, p) (c, none)

/-- What a thread does alone is a run in which the others do nothing. -/
theorem Run.of_solo (t : T) {s : State T C P} {x : C × Option P}
    (h : Relation.ReflTransGen (SoloStep protocol) (s.content, s.pending t) x) :
    Run protocol free s ⟨x.1, Function.update s.pending t x.2⟩ := by
  induction h with
  | refl =>
    rw [Function.update_eq_self]
    exact .refl
  | tail _ hstep ih =>
    refine ih.tail ?_
    cases hstep with
    | @read c p hread =>
      have hnext : Step protocol free ⟨c, Function.update s.pending t none⟩ _ :=
        .read t p (by simp) hread
      rwa [Function.update_idem] at hnext
    | @write c c' p next hwrite =>
      have hnext : Step protocol free ⟨c, Function.update s.pending t (some p)⟩ _ :=
        .write t p c' next (by simp) trivial hwrite
      rwa [Function.update_idem] at hnext
    | @abandon c p =>
      have hnext : Step protocol free ⟨c, Function.update s.pending t p⟩ _ := .abandon t
      rwa [Function.update_idem] at hnext

end QuipNet.Library.SharedCell
