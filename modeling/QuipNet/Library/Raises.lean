import QuipNet.Library.Loop

/-!
# The errors of a computation

`Raises E m` says that `m` fails with an error of `E` only. A handled failure raises
nothing, and a loop raises what its turns raise, as long as they keep what a turn needs.
-/

namespace QuipNet.Library.Effect

variable {ε ε' σ α β : Type} {E : ε → Prop}

def Raises (E : ε → Prop) (m : EStateM ε σ α) : Prop := ∀ s e s', m s = .error e s' → E e

theorem Raises.pure (a : α) : Raises E (pure a : EStateM ε σ α) := by
  intro s e s' h
  cases h

theorem Raises.throw {e : ε} (he : E e) : Raises E (throw e : EStateM ε σ α) := by
  intro s e' s' h
  cases h
  exact he

theorem Raises.get : Raises E (get : EStateM ε σ σ) := by
  intro s e s' h
  cases h

theorem Raises.modify (f : σ → σ) : Raises E (modify f : EStateM ε σ PUnit) := by
  intro s e s' h
  cases h

theorem Raises.bind {m : EStateM ε σ α} {f : α → EStateM ε σ β} (hm : Raises E m)
    (hf : ∀ a, Raises E (f a)) : Raises E (m >>= f) := by
  intro s e s'' h
  cases hms : m s with
  | ok a s' =>
    rw [bind_of_ok hms] at h
    exact hf a s' e s'' h
  | error e' s' =>
    rw [bind_of_error hms] at h
    cases h
    exact hm s e s'' hms

theorem Raises.mapError {wrap : ε' → ε} (hwrap : ∀ e, E (wrap e)) (m : EStateM ε' σ α) :
    Raises E (mapError wrap m) := by
  intro s e s' h
  unfold Effect.mapError at h
  cases hms : m s with
  | ok a after => simp [hms] at h
  | error e' after =>
    simp only [hms, EStateM.Result.error.injEq] at h
    rw [← h.1]
    exact hwrap e'

theorem Raises.attempt (m : EStateM ε' σ α) :
    Raises E (attempt m : EStateM ε σ (Except ε' α)) := by
  intro s e s' h
  unfold Effect.attempt at h
  cases hms : m s <;> simp [hms] at h

theorem Raises.foldlM {I : β → Prop} {f : β → α → EStateM ε σ β}
    (hraises : ∀ b a, I b → Raises E (f b a)) (hkeeps : ∀ b a, I b → Returns I (f b a))
    (items : List α) {b : β} (hb : I b) : Raises E (items.foldlM f b) := by
  induction items generalizing b with
  | nil => exact Raises.pure b
  | cons a rest ih =>
    intro s e s'' h
    rw [List.foldlM_cons] at h
    cases hfirst : f b a s with
    | ok b' s' =>
      rw [bind_of_ok hfirst] at h
      exact ih (hkeeps b a hb s b' s' hfirst) s' e s'' h
    | error e' s' =>
      rw [bind_of_error hfirst] at h
      cases h
      exact hraises b a hb s e s'' hfirst

end QuipNet.Library.Effect
