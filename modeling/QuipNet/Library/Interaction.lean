import QuipNet.Library.Effect

/-!
# Programs that call an interface

A `Program` over an interface `C` makes calls of `C` one after the other and ends
with a value or an error; the answer to a call is a value or an error of the
interface, which the program may catch. A handler says what each call does to a
state. `exec` runs a program through its handler, and `trace` lists the calls it
makes with the states before and after each. `expand` replaces every call by a
program over a finer interface, and the finer trace is the trace of those bodies
one after the other.
-/

namespace QuipNet.Library

inductive Program (C : Type → Type) (δ ε α : Type) : Type 1
  | value (a : α)
  | error (e : ε)
  | call {β : Type} (c : C β) (next : Except δ β → Program C δ ε α)

structure CallEvent (C : Type → Type) (σ : Type) : Type 1 where
  before : σ
  {answer : Type}
  call : C answer
  after : σ

namespace Program
open Effect

variable {C D : Type → Type} {δ δ' ε ε' α β σ : Type}

def andThen : Program C δ ε α → (Except ε α → Program C δ ε' β) → Program C δ ε' β
  | .value a, f => f (.ok a)
  | .error e, f => f (.error e)
  | .call c next, f => .call c fun answer => (next answer).andThen f

def onOk (f : α → Program C δ ε β) : Except ε α → Program C δ ε β
  | .ok a => f a
  | .error e => .error e

instance : Monad (Program C δ ε) where
  pure := .value
  bind p f := p.andThen (onOk f)

instance : MonadExcept ε (Program C δ ε) where
  throw := .error
  tryCatch p f := p.andThen fun
    | .ok a => .value a
    | .error e => f e

def attempt (c : C β) : Program C δ ε (Except δ β) := .call c .value

def ask (wrap : δ → ε) (c : C β) : Program C δ ε β := .call c fun
  | .ok b => .value b
  | .error e => .error (wrap e)

def exec (handle : ∀ {β : Type}, C β → EStateM δ σ β) : Program C δ ε α → EStateM ε σ α
  | .value a => pure a
  | .error e => throw e
  | .call c next => fun s =>
    match handle c s with
    | .ok b s' => (next (.ok b)).exec handle s'
    | .error e s' => (next (.error e)).exec handle s'

def trace (handle : ∀ {β : Type}, C β → EStateM δ σ β) :
    Program C δ ε α → σ → List (CallEvent C σ)
  | .value _, _ => []
  | .error _, _ => []
  | .call c next, s =>
    match handle c s with
    | .ok b s' => ⟨s, c, s'⟩ :: (next (.ok b)).trace handle s'
    | .error e s' => ⟨s, c, s'⟩ :: (next (.error e)).trace handle s'

/-- Every call by the program that carries it out. -/
def expand (body : ∀ {β : Type}, C β → Program D δ' δ β) : Program C δ ε α → Program D δ' ε α
  | .value a => .value a
  | .error e => .error e
  | .call c next => (body c).andThen fun answer => (next answer).expand body

def Only (S : ∀ {β : Type}, C β → Prop) : Program C δ ε α → Prop
  | .value _ => True
  | .error _ => True
  | .call c next => S c ∧ ∀ answer, (next answer).Only S

section Only
variable {S : ∀ {β : Type}, C β → Prop}

theorem only_bind {p : Program C δ ε α} {f : α → Program C δ ε β} (hp : p.Only S)
    (hf : ∀ a, (f a).Only S) : (p >>= f).Only S := by
  change (p.andThen (onOk f)).Only S
  induction p with
  | value a => exact hf a
  | error e => trivial
  | call c next ih => exact ⟨hp.1, fun answer => ih answer (hp.2 answer)⟩

theorem only_ask {wrap : δ → ε} {c : C β} (h : S c) : (ask wrap c).Only S := by
  refine ⟨h, ?_⟩
  intro answer
  cases answer <;> trivial

theorem only_foldlM {γ : Type} {f : α → γ → Program C δ ε α} (hf : ∀ a item, (f a item).Only S)
    (items : List γ) (a : α) : (items.foldlM f a).Only S := by
  induction items generalizing a with
  | nil => trivial
  | cons item rest ih =>
    rw [List.foldlM_cons]
    exact only_bind (hf a item) ih

end Only

/-! ## Running -/

section Run
variable (handle : ∀ {β : Type}, C β → EStateM δ σ β)

theorem exec_andThen (p : Program C δ ε α) (f : Except ε α → Program C δ ε' β) (s : σ) :
    (p.andThen f).exec handle s =
      match p.exec handle s with
      | .ok a s' => (f (.ok a)).exec handle s'
      | .error e s' => (f (.error e)).exec handle s' := by
  induction p generalizing s with
  | value a => rfl
  | error e => rfl
  | call c next ih =>
    simp only [andThen, exec]
    cases handle c s with
    | ok b s' => exact ih _ s'
    | error e s' => exact ih _ s'

theorem exec_bind (p : Program C δ ε α) (f : α → Program C δ ε β) :
    (p >>= f).exec handle = p.exec handle >>= fun a => (f a).exec handle := by
  funext s
  refine (exec_andThen handle p (onOk f) s).trans ?_
  rw [bind_run]
  cases p.exec handle s <;> rfl

@[simp] theorem exec_pure (a : α) :
    (pure a : Program C δ ε α).exec handle = (pure a : EStateM ε σ α) := rfl

@[simp] theorem exec_throw (e : ε) :
    (throw e : Program C δ ε α).exec handle = (throw e : EStateM ε σ α) := rfl

@[simp] theorem exec_ask (wrap : δ → ε) (c : C β) :
    (ask wrap c).exec handle = mapError wrap (handle c) := by
  funext s
  unfold ask mapError exec
  cases handle c s <;> rfl

theorem exec_ask_id (c : C β) : (ask id c : Program C δ δ β).exec handle = handle c := by
  funext s
  unfold ask exec
  cases handle c s <;> rfl

@[simp] theorem exec_attempt (c : C β) :
    (attempt c : Program C δ ε (Except δ β)).exec handle = Effect.attempt (handle c) := by
  funext s
  unfold attempt Effect.attempt exec
  cases handle c s <;> rfl

theorem exec_foldlM {γ : Type} (f : α → γ → Program C δ ε α) (items : List γ) (a : α) :
    (items.foldlM f a).exec handle = items.foldlM (fun a item => (f a item).exec handle) a := by
  induction items generalizing a with
  | nil => rfl
  | cons item rest ih =>
    rw [List.foldlM_cons, List.foldlM_cons, exec_bind]
    simp only [ih]

theorem moves_exec {R : σ → σ → Prop} [IsPreorder σ R]
    (h : ∀ {β : Type} (c : C β), Moves R (handle c)) (p : Program C δ ε α) :
    Moves R (p.exec handle) := by
  induction p with
  | value a => exact Moves.pure a
  | error e => exact Moves.throw e
  | call c next ih =>
    intro s
    have hcall := h c s
    cases hrun : handle c s with
    | ok b s' =>
      rw [final_of_ok hrun] at hcall
      have hnext := ih (.ok b) s'
      simp only [final, exec, hrun] at hnext ⊢
      exact IsTrans.trans _ _ _ hcall hnext
    | error e s' =>
      rw [final_of_error hrun] at hcall
      have hnext := ih (.error e) s'
      simp only [final, exec, hrun] at hnext ⊢
      exact IsTrans.trans _ _ _ hcall hnext

/-! ## The calls of a run -/

theorem trace_andThen (p : Program C δ ε α) (f : Except ε α → Program C δ ε' β) (s : σ) :
    (p.andThen f).trace handle s = p.trace handle s ++
      match p.exec handle s with
      | .ok a s' => (f (.ok a)).trace handle s'
      | .error e s' => (f (.error e)).trace handle s' := by
  induction p generalizing s with
  | value a => rfl
  | error e => rfl
  | call c next ih =>
    simp only [andThen, trace, exec]
    cases handle c s with
    | ok b s' => exact congrArg (_ :: ·) (ih _ s')
    | error e s' => exact congrArg (_ :: ·) (ih _ s')

theorem trace_ask_bind {handle : ∀ {β : Type}, C β → EStateM δ σ β} {wrap : δ → ε} {c : C β}
    {b : β} {s s' : σ} (h : handle c s = .ok b s') (f : β → Program C δ ε α) :
    (ask wrap c >>= f).trace handle s = ⟨s, c, s'⟩ :: (f b).trace handle s' := by
  change ((ask wrap c).andThen (onOk f)).trace handle s = _
  simp only [ask, andThen, trace, h, onOk]

theorem trace_attempt_bind_of_ok {handle : ∀ {β : Type}, C β → EStateM δ σ β} {c : C β} {b : β}
    {s s' : σ} (h : handle c s = .ok b s') (f : Except δ β → Program C δ ε α) :
    (attempt c >>= f).trace handle s = ⟨s, c, s'⟩ :: (f (.ok b)).trace handle s' := by
  change ((attempt c).andThen (onOk f)).trace handle s = _
  simp only [attempt, andThen, trace, h, onOk]

theorem trace_attempt_bind_of_error {handle : ∀ {β : Type}, C β → EStateM δ σ β} {c : C β} {e : δ}
    {s s' : σ} (h : handle c s = .error e s') (f : Except δ β → Program C δ ε α) :
    (attempt c >>= f).trace handle s = ⟨s, c, s'⟩ :: (f (.error e)).trace handle s' := by
  change ((attempt c).andThen (onOk f)).trace handle s = _
  simp only [attempt, andThen, trace, h, onOk]

/-- Every call that the program makes from `s` satisfies `P`. -/
def Along (P : CallEvent C σ → Prop) (p : Program C δ ε α) (s : σ) : Prop :=
  ∀ event ∈ p.trace handle s, P event

variable {handle} {P : CallEvent C σ → Prop}

theorem along_value (a : α) (s : σ) : Along handle P (.value a : Program C δ ε α) s := by
  simp [Along, trace]

theorem along_error (e : ε) (s : σ) : Along handle P (.error e : Program C δ ε α) s := by
  simp [Along, trace]

theorem along_call {c : C β} {next : Except δ β → Program C δ ε α} {s : σ}
    (hcall : P ⟨s, c, final (handle c) s⟩)
    (hok : ∀ b s', handle c s = .ok b s' → Along handle P (next (.ok b)) s')
    (herror : ∀ e s', handle c s = .error e s' → Along handle P (next (.error e)) s') :
    Along handle P (.call c next) s := by
  unfold Along at *
  simp only [trace]
  cases hrun : handle c s with
  | ok b s' =>
    rw [final_of_ok hrun] at hcall
    exact List.forall_mem_cons.2 ⟨hcall, hok b s' hrun⟩
  | error e s' =>
    rw [final_of_error hrun] at hcall
    exact List.forall_mem_cons.2 ⟨hcall, herror e s' hrun⟩

theorem along_ask {wrap : δ → ε} {c : C β} {s : σ} (h : P ⟨s, c, final (handle c) s⟩) :
    Along handle P (ask wrap c) s :=
  along_call h (fun b s' _ => along_value b s') fun e s' _ => along_error (wrap e) s'

theorem along_attempt {c : C β} {s : σ} (h : P ⟨s, c, final (handle c) s⟩) :
    Along handle P (attempt c : Program C δ ε (Except δ β)) s :=
  along_call h (fun b s' _ => along_value (Except.ok b) s') fun e s' _ =>
    along_value (Except.error e) s'

theorem along_andThen {p : Program C δ ε α} {f : Except ε α → Program C δ ε' β} {s : σ}
    (hp : Along handle P p s)
    (hok : ∀ a s', p.exec handle s = .ok a s' → Along handle P (f (.ok a)) s')
    (herror : ∀ e s', p.exec handle s = .error e s' → Along handle P (f (.error e)) s') :
    Along handle P (p.andThen f) s := by
  intro event hevent
  rw [trace_andThen] at hevent
  rcases List.mem_append.1 hevent with hfirst | hrest
  · exact hp event hfirst
  · cases hrun : p.exec handle s with
    | ok a s' =>
      rw [hrun] at hrest
      exact hok a s' hrun event hrest
    | error e s' =>
      rw [hrun] at hrest
      exact herror e s' hrun event hrest

theorem along_bind {p : Program C δ ε α} {f : α → Program C δ ε β} {s : σ}
    (hp : Along handle P p s)
    (hf : ∀ a s', p.exec handle s = .ok a s' → Along handle P (f a) s') :
    Along handle P (p >>= f) s :=
  along_andThen hp hf fun e s' _ => along_error e s'

theorem along_of_only {S : ∀ {β : Type}, C β → Prop}
    (hS : ∀ (s : σ) {β : Type} (c : C β), S c → P ⟨s, c, final (handle c) s⟩)
    {p : Program C δ ε α} (hp : p.Only S) (s : σ) : Along handle P p s := by
  induction p generalizing s with
  | value a => exact along_value a s
  | error e => exact along_error e s
  | call c next ih =>
    exact along_call (hS s c hp.1) (fun b s' _ => ih _ (hp.2 _) s') fun e s' _ => ih _ (hp.2 _) s'

/-- A loop, by what is known before each turn of the items left. -/
theorem along_foldlM {γ : Type} {f : α → γ → Program C δ ε α} {I : α → List γ → σ → Prop}
    (hturn : ∀ a item rest s, I a (item :: rest) s → Along handle P (f a item) s ∧
      ∀ a' s', (f a item).exec handle s = .ok a' s' → I a' rest s')
    {a : α} {items : List γ} {s : σ} (h : I a items s) : Along handle P (items.foldlM f a) s := by
  induction items generalizing a s with
  | nil => exact along_value a s
  | cons item rest ih =>
    obtain ⟨hfirst, hrest⟩ := hturn a item rest s h
    rw [List.foldlM_cons]
    exact along_bind hfirst fun a' s' hrun => ih (hrest a' s' hrun)

/-! ## Finer traces -/

/-- If the bodies carry out the calls, the finer program does the same. -/
theorem exec_expand {handle' : ∀ {β : Type}, D β → EStateM δ' σ β}
    {body : ∀ {β : Type}, C β → Program D δ' δ β}
    (hbody : ∀ {β : Type} (c : C β), (body c).exec handle' = handle c)
    (p : Program C δ ε α) : (p.expand body).exec handle' = p.exec handle := by
  funext s
  induction p generalizing s with
  | value a => rfl
  | error e => rfl
  | call c next ih =>
    simp only [expand, exec, exec_andThen, hbody]
    cases handle c s with
    | ok b s' => exact ih (.ok b) s'
    | error e s' => exact ih (.error e) s'

theorem trace_expand {handle' : ∀ {β : Type}, D β → EStateM δ' σ β}
    {body : ∀ {β : Type}, C β → Program D δ' δ β}
    (hbody : ∀ {β : Type} (c : C β), (body c).exec handle' = handle c)
    (p : Program C δ ε α) (s : σ) :
    (p.expand body).trace handle' s =
      (p.trace handle s).flatMap fun event => (body event.call).trace handle' event.before := by
  induction p generalizing s with
  | value a => rfl
  | error e => rfl
  | call c next ih =>
    simp only [expand, trace_andThen, hbody, trace]
    cases handle c s with
    | ok b s' => simp only [ih, List.flatMap_cons]
    | error e s' => simp only [ih, List.flatMap_cons]

theorem along_expand {handle' : ∀ {β : Type}, D β → EStateM δ' σ β}
    {body : ∀ {β : Type}, C β → Program D δ' δ β}
    (hbody : ∀ {β : Type} (c : C β), (body c).exec handle' = handle c)
    {Q : CallEvent D σ → Prop}
    (hfine : ∀ event, P event → Along handle' Q (body event.call) event.before)
    {p : Program C δ ε α} {s : σ} (h : Along handle P p s) :
    Along handle' Q (p.expand body) s := by
  intro fine hmem
  rw [trace_expand hbody] at hmem
  obtain ⟨event, hevent, hfineMem⟩ := List.mem_flatMap.1 hmem
  exact hfine event (h event hevent) fine hfineMem

/-! ## The states of a run -/

def states (handle : ∀ {β : Type}, C β → EStateM δ σ β) (p : Program C δ ε α) (s : σ) : List σ :=
  s :: (p.trace handle s).map CallEvent.after

theorem pairwise_states {R : σ → σ → Prop} [IsPreorder σ R] {p : Program C δ ε α} {s : σ}
    (h : Along handle (fun event => R event.before event.after) p s) :
    (p.states handle s).Pairwise R := by
  induction p generalizing s with
  | value a => exact List.pairwise_singleton R s
  | error e => exact List.pairwise_singleton R s
  | call c next ih =>
    -- the rest starts in the state that this call leaves
    have hlink : ∀ (answer : Except δ _) (s' : σ), R s s' →
        ((next answer).states handle s').Pairwise R →
        (s :: (next answer).states handle s').Pairwise R := by
      intro answer s' hstep hrest
      refine List.pairwise_cons.2 ⟨?_, hrest⟩
      intro later hlater
      rcases List.mem_cons.1 hlater with rfl | hlater
      · exact hstep
      · exact IsTrans.trans _ _ _ hstep ((List.pairwise_cons.1 hrest).1 later hlater)
    unfold Along at h
    simp only [trace] at h
    simp only [states, trace]
    cases hrun : handle c s with
    | ok b s' =>
      simp only [hrun, List.forall_mem_cons] at h
      exact hlink (.ok b) s' h.1 (ih _ h.2)
    | error e s' =>
      simp only [hrun, List.forall_mem_cons] at h
      exact hlink (.error e) s' h.1 (ih _ h.2)

/-! ## One program after the other -/

/-- The programs of the operations in turn, whatever the earlier ones ended with. -/
def inTurn {ι : Type} (program : ι → Program C δ ε Unit) : List ι → Program C δ ε Unit
  | [] => .value ()
  | op :: rest => (program op).andThen fun _ => inTurn program rest

/-- Each operation meets the condition in the state in which its turn comes. -/
def Meets (handle : ∀ {β : Type}, C β → EStateM δ σ β) {ι : Type}
    (program : ι → Program C δ ε Unit) (condition : ι → σ → Prop) : List ι → σ → Prop
  | [], _ => True
  | op :: rest, s => condition op s ∧
      Meets handle program condition rest (final ((program op).exec handle) s)

theorem along_inTurn {ι : Type} {program : ι → Program C δ ε Unit} {condition : ι → σ → Prop}
    (h : ∀ op s, condition op s → Along handle P (program op) s) {ops : List ι} {s : σ}
    (hmeets : Meets handle program condition ops s) :
    Along handle P (inTurn program ops) s := by
  induction ops generalizing s with
  | nil => exact along_value () s
  | cons op rest ih =>
    obtain ⟨hop, hrest⟩ := hmeets
    refine along_andThen (h op s hop) ?_ ?_
    · intro a s' hrun
      rw [final_of_ok hrun] at hrest
      exact ih hrest
    · intro e s' hrun
      rw [final_of_error hrun] at hrest
      exact ih hrest

end Run

end Program

end QuipNet.Library
