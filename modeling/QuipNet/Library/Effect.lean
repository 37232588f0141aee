import Mathlib

/-!
# Fallible computations that keep their state

`EStateM ε σ α` models a method that mutates its receiver and may return an
error: the mutations made before the error remain. `final` is the state left
behind in either case, `attempt` turns an error into a value, and `zoom` runs a
computation on a component of a larger state. `Moves R m` says that every run of
`m` relates its first state to its last one by `R`; for a preorder `R` it is
closed under sequencing and under loops.
-/

namespace QuipNet.Library.Effect

variable {ε ε' σ τ α β : Type}

def final (m : EStateM ε σ α) (s : σ) : σ :=
  match m s with
  | .ok _ s' => s'
  | .error _ s' => s'

theorem final_of_ok {m : EStateM ε σ α} {s s' : σ} {a : α} (h : m s = .ok a s') :
    final m s = s' := by
  simp only [final, h]

theorem final_of_error {m : EStateM ε σ α} {s s' : σ} {e : ε} (h : m s = .error e s') :
    final m s = s' := by
  simp only [final, h]

@[simp] theorem pure_run (a : α) (s : σ) : (pure a : EStateM ε σ α) s = .ok a s := rfl

@[simp] theorem throw_run (e : ε) (s : σ) : (throw e : EStateM ε σ α) s = .error e s := rfl

@[simp] theorem get_run (s : σ) : (get : EStateM ε σ σ) s = .ok s s := rfl

@[simp] theorem modify_run (f : σ → σ) (s : σ) :
    (modify f : EStateM ε σ PUnit) s = .ok ⟨⟩ (f s) := rfl

@[simp] theorem modifyGet_run (f : σ → α × σ) (s : σ) :
    (modifyGet f : EStateM ε σ α) s = .ok (f s).1 (f s).2 := rfl

@[simp] theorem bind_run (m : EStateM ε σ α) (f : α → EStateM ε σ β) (s : σ) :
    (m >>= f) s = match m s with
      | .ok a s' => f a s'
      | .error e s' => .error e s' := rfl

@[simp] theorem map_run (f : α → β) (m : EStateM ε σ α) (s : σ) :
    (f <$> m) s = match m s with
      | .ok a s' => .ok (f a) s'
      | .error e s' => .error e s' := rfl

theorem bind_of_ok {m : EStateM ε σ α} {f : α → EStateM ε σ β} {s s' : σ} {a : α}
    (h : m s = .ok a s') : (m >>= f) s = f a s' := by
  simp only [bind, EStateM.bind, h]

theorem bind_of_error {m : EStateM ε σ α} {f : α → EStateM ε σ β} {s s' : σ} {e : ε}
    (h : m s = .error e s') : (m >>= f) s = .error e s' := by
  simp only [bind, EStateM.bind, h]

theorem final_bind_of_ok {m : EStateM ε σ α} {f : α → EStateM ε σ β} {s s' : σ} {a : α}
    (h : m s = .ok a s') : final (m >>= f) s = final (f a) s' := by
  rw [final, bind_of_ok h, final]

theorem final_map (f : α → β) (m : EStateM ε σ α) (s : σ) : final (f <$> m) s = final m s := by
  unfold final
  rw [map_run]
  cases m s <;> rfl

theorem bind_eq_ok {m : EStateM ε σ α} {f : α → EStateM ε σ β} {s s'' : σ} {b : β}
    (h : (m >>= f) s = .ok b s'') : ∃ a s', m s = .ok a s' ∧ f a s' = .ok b s'' := by
  cases hm : m s with
  | ok a s' => exact ⟨a, s', rfl, (bind_of_ok hm).symm.trans h⟩
  | error e s' =>
    rw [bind_of_error hm] at h
    cases h

theorem map_eq_ok {f : α → β} {m : EStateM ε σ α} {s s' : σ} {b : β}
    (h : (f <$> m) s = .ok b s') : ∃ a, m s = .ok a s' ∧ b = f a := by
  rw [map_run] at h
  cases hm : m s with
  | ok a after =>
    rw [hm] at h
    cases h
    exact ⟨a, rfl, rfl⟩
  | error e after =>
    rw [hm] at h
    cases h

def okWith (test : α → σ → Bool) : EStateM.Result ε σ α → Bool
  | .ok a s => test a s
  | .error _ _ => false

theorem exists_of_okWith {test : α → σ → Bool} {result : EStateM.Result ε σ α}
    (h : okWith test result = true) : ∃ a s, result = .ok a s ∧ test a s = true := by
  cases result with
  | ok a s => exact ⟨a, s, rfl, h⟩
  | error e s => cases h

def errorWith (test : ε → σ → Bool) : EStateM.Result ε σ α → Bool
  | .ok _ _ => false
  | .error e s => test e s

theorem exists_of_errorWith {test : ε → σ → Bool} {result : EStateM.Result ε σ α}
    (h : errorWith test result = true) : ∃ e s, result = .error e s ∧ test e s = true := by
  cases result with
  | ok a s => cases h
  | error e s => exact ⟨e, s, rfl, h⟩

/-- `match m.await { Ok(a) => .., Err(e) => .. }` reads the outcome of `m`. -/
def attempt (m : EStateM ε σ α) : EStateM ε' σ (Except ε α) := fun s =>
  match m s with
  | .ok a s' => .ok (.ok a) s'
  | .error e s' => .ok (.error e) s'

def mapError (wrap : ε → ε') (m : EStateM ε σ α) : EStateM ε' σ α := fun s =>
  match m s with
  | .ok a s' => .ok a s'
  | .error e s' => .error (wrap e) s'

def zoom (get : τ → σ) (put : σ → τ → τ) (m : EStateM ε σ α) : EStateM ε τ α := fun t =>
  match m (get t) with
  | .ok a s => .ok a (put s t)
  | .error e s => .error e (put s t)

theorem attempt_of_ok {m : EStateM ε σ α} {s s' : σ} {a : α} (h : m s = .ok a s') :
    (attempt m : EStateM ε' σ (Except ε α)) s = .ok (.ok a) s' := by
  simp only [attempt, h]

theorem attempt_of_error {m : EStateM ε σ α} {s s' : σ} {e : ε} (h : m s = .error e s') :
    (attempt m : EStateM ε' σ (Except ε α)) s = .ok (.error e) s' := by
  simp only [attempt, h]

theorem mapError_of_ok {m : EStateM ε σ α} {s s' : σ} {a : α} (wrap : ε → ε')
    (h : m s = .ok a s') : mapError wrap m s = .ok a s' := by
  simp only [mapError, h]

theorem mapError_of_error {m : EStateM ε σ α} {s s' : σ} {e : ε} (wrap : ε → ε')
    (h : m s = .error e s') : mapError wrap m s = .error (wrap e) s' := by
  simp only [mapError, h]

theorem mapError_eq_ok {m : EStateM ε σ α} {s s' : σ} {a : α} {wrap : ε → ε'}
    (h : mapError wrap m s = .ok a s') : m s = .ok a s' := by
  cases hm : m s with
  | ok b after =>
    rw [mapError_of_ok wrap hm] at h
    cases h
    rfl
  | error e after =>
    rw [mapError_of_error wrap hm] at h
    cases h

theorem final_mapError (wrap : ε → ε') (m : EStateM ε σ α) (s : σ) :
    final (mapError wrap m) s = final m s := by
  unfold final mapError
  cases m s <;> rfl

theorem final_zoom (get : τ → σ) (put : σ → τ → τ) (m : EStateM ε σ α) (t : τ) :
    final (zoom get put m) t = put (final m (get t)) t := by
  unfold final zoom
  cases m (get t) <;> rfl

def Moves (R : σ → σ → Prop) (m : EStateM ε σ α) : Prop := ∀ s, R s (final m s)

theorem Moves.of_ok {R : σ → σ → Prop} {m : EStateM ε σ α} (hm : Moves R m) {s s' : σ} {a : α}
    (h : m s = .ok a s') : R s s' := final_of_ok h ▸ hm s

theorem Moves.of_error {R : σ → σ → Prop} {m : EStateM ε σ α} (hm : Moves R m) {s s' : σ} {e : ε}
    (h : m s = .error e s') : R s s' := final_of_error h ▸ hm s

theorem Moves.mono {R S : σ → σ → Prop} (hRS : ∀ s s', R s s' → S s s') {m : EStateM ε σ α}
    (hm : Moves R m) : Moves S m := fun s => hRS _ _ (hm s)

theorem Moves.modify {R : σ → σ → Prop} {f : σ → σ} (hf : ∀ s, R s (f s)) :
    Moves R (modify f : EStateM ε σ PUnit) := hf

theorem Moves.modifyGet {R : σ → σ → Prop} {f : σ → α × σ} (hf : ∀ s, R s (f s).2) :
    Moves R (modifyGet f : EStateM ε σ α) := hf

theorem Moves.get_bind {R : σ → σ → Prop} {f : σ → EStateM ε σ α}
    (hf : ∀ s, R s (final (f s) s)) : Moves R (get >>= f) := hf

theorem Moves.map {R : σ → σ → Prop} {m : EStateM ε σ α} (hm : Moves R m) (f : α → β) :
    Moves R (f <$> m) := by
  intro s
  rw [final_map]
  exact hm s

section Preorder
variable {R : σ → σ → Prop} [IsPreorder σ R]

theorem Moves.pure (a : α) : Moves R (pure a : EStateM ε σ α) := fun s => refl s

theorem Moves.throw (e : ε) : Moves R (throw e : EStateM ε σ α) := fun s => refl s

theorem Moves.bind {m : EStateM ε σ α} {f : α → EStateM ε σ β} (hm : Moves R m)
    (hf : ∀ a, Moves R (f a)) : Moves R (m >>= f) := by
  intro s
  have h := hm s
  cases hms : m s with
  | ok a s' =>
    rw [final_of_ok hms] at h
    have hrest := hf a s'
    rw [final] at hrest ⊢
    rw [bind_of_ok hms]
    exact IsTrans.trans _ _ _ h hrest
  | error e s' =>
    rw [final_of_error hms] at h
    rwa [final_of_error (bind_of_error hms)]

end Preorder

theorem Moves.attempt {R : σ → σ → Prop} {m : EStateM ε σ α} (hm : Moves R m) :
    Moves R (attempt m : EStateM ε' σ (Except ε α)) := by
  intro s
  have h := hm s
  unfold final Effect.attempt at *
  cases hms : m s <;> simpa only [hms] using h

theorem Moves.mapError {R : σ → σ → Prop} {m : EStateM ε σ α} (hm : Moves R m) (wrap : ε → ε') :
    Moves R (mapError wrap m) := by
  intro s
  rw [final_mapError]
  exact hm s

def Returns (Q : α → Prop) (m : EStateM ε σ α) : Prop := ∀ s a s', m s = .ok a s' → Q a

theorem Returns.pure {Q : α → Prop} {a : α} (ha : Q a) : Returns Q (pure a : EStateM ε σ α) := by
  intro s b s' h
  cases h
  exact ha

theorem Returns.throw {Q : α → Prop} (e : ε) : Returns Q (throw e : EStateM ε σ α) := by
  intro s a s' h
  cases h

theorem Returns.bind {Q : β → Prop} {m : EStateM ε σ α} {f : α → EStateM ε σ β}
    (hf : ∀ a, Returns Q (f a)) : Returns Q (m >>= f) := by
  intro s b s'' h
  obtain ⟨a, s', -, hfa⟩ := bind_eq_ok h
  exact hf a s' b s'' hfa

/-! ## Answers without a state -/

theorem Returns.zoom {Q : α → Prop} {m : EStateM ε σ α} (hm : Returns Q m) (get : τ → σ)
    (put : σ → τ → τ) : Returns Q (zoom get put m) := by
  intro t a t' h
  unfold Effect.zoom at h
  cases hrun : m (get t) with
  | ok value after =>
    rw [hrun] at h
    cases h
    exact hm _ _ _ hrun
  | error error after =>
    rw [hrun] at h
    cases h

theorem except_bind_eq_ok {x : Except ε α} {f : α → Except ε β} {b : β} (h : (x >>= f) = .ok b) :
    ∃ a, x = .ok a ∧ f a = .ok b := by
  cases x with
  | ok a => exact ⟨a, rfl, h⟩
  | error e => cases h

theorem except_mapError_eq_ok {x : Except ε α} {wrap : ε → ε'} {a : α}
    (h : x.mapError wrap = .ok a) : x = .ok a := by
  cases x with
  | ok b =>
    cases h
    rfl
  | error e => cases h

end QuipNet.Library.Effect
