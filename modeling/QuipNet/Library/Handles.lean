import Mathlib

/-!
# Handles of an outside resource kept in a table

A table holds at most one handle for each key. The outside world opens handles,
each one at most once, and closes them. `Replaces k next times` is a step that puts
`next` under the key `k`, where `next` is freshly opened if there is one, and closes
the handle that was there `times` times. The table accounts for the outside world
when its handles are exactly the live ones, each under one key.
-/

namespace QuipNet.Library

@[ext]
structure Handles (K H : Type) where
  table : K → Option H
  opened : List H
  closed : List H

namespace Handles

variable {K H : Type}

def live (s : Handles K H) : Set H := {h | h ∈ s.opened ∧ h ∉ s.closed}

def held (s : Handles K H) : Set H := {h | ∃ k, s.table k = some h}

structure Accounted (s : Handles K H) : Prop where
  live_eq_held : s.live = s.held
  closed_opened : ∀ h ∈ s.closed, h ∈ s.opened
  unique : ∀ ⦃k k' h⦄, s.table k = some h → s.table k' = some h → k = k'

theorem Accounted.live_of_table {s : Handles K H} (hs : s.Accounted) {k : K} {h : H}
    (hk : s.table k = some h) : h ∈ s.opened ∧ h ∉ s.closed := by
  have hheld : h ∈ s.held := ⟨k, hk⟩
  rw [← hs.live_eq_held] at hheld
  exact hheld

variable [DecidableEq K]

structure Replaces (k : K) (next : Option H) (times : ℕ) (s s' : Handles K H) : Prop where
  table : s'.table = Function.update s.table k next
  fresh : ∀ h ∈ next, h ∉ s.opened
  opened : s'.opened = s.opened ++ next.toList
  closed : s'.closed = s.closed ++ (s.table k).toList.flatMap (List.replicate times)

variable {k : K} {next : Option H} {times : ℕ} {s s' : Handles K H}

theorem Replaces.mem_closed (h : Replaces k next times s s') (htimes : 0 < times) (x : H) :
    x ∈ s'.closed ↔ x ∈ s.closed ∨ s.table k = some x := by
  rw [h.closed, List.mem_append]
  cases s.table k with
  | none => simp
  | some y =>
    simp only [Option.toList_some, List.flatMap_cons, List.flatMap_nil, List.append_nil,
      List.mem_replicate, Option.some.injEq]
    constructor
    · rintro (hx | ⟨-, rfl⟩)
      · exact .inl hx
      · exact .inr rfl
    · rintro (hx | rfl)
      · exact .inl hx
      · exact .inr ⟨by omega, rfl⟩

theorem Replaces.mem_opened (h : Replaces k next times s s') (x : H) :
    x ∈ s'.opened ↔ x ∈ s.opened ∨ next = some x := by
  rw [h.opened, List.mem_append, Option.mem_toList]

theorem Replaces.accounted (h : Replaces k next times s s') (htimes : 0 < times)
    (hs : s.Accounted) : s'.Accounted := by
  refine ⟨?_, ?_, ?_⟩
  · ext x
    simp only [live, Set.mem_ofPred_eq, h.mem_opened, h.mem_closed htimes, held, h.table]
    constructor
    · rintro ⟨hx | hx, hopen⟩
      · -- an old handle that is not closed is under a key other than `k`
        have hheld : x ∈ s.held := by
          rw [← hs.live_eq_held]
          exact ⟨hx, fun hc => hopen (.inl hc)⟩
        obtain ⟨k', hk'⟩ := hheld
        refine ⟨k', ?_⟩
        rw [Function.update_of_ne, hk']
        rintro rfl
        exact hopen (.inr hk')
      · exact ⟨k, by rw [Function.update_self, hx]⟩
    · rintro ⟨k', hk'⟩
      by_cases hkk : k' = k
      · subst hkk
        rw [Function.update_self] at hk'
        have hfresh := h.fresh x hk'
        refine ⟨.inr hk', ?_⟩
        rintro (hc | ht)
        · exact hfresh (hs.closed_opened x hc)
        · exact hfresh (hs.live_of_table ht).1
      · rw [Function.update_of_ne hkk] at hk'
        obtain ⟨hopened, hnot⟩ := hs.live_of_table hk'
        refine ⟨.inl hopened, ?_⟩
        rintro (hc | ht)
        · exact hnot hc
        · exact hkk (hs.unique hk' ht)
  · intro x hx
    rw [h.mem_opened]
    rcases (h.mem_closed htimes x).1 hx with hc | ht
    · exact .inl (hs.closed_opened x hc)
    · exact .inl (hs.live_of_table ht).1
  · intro k₁ k₂ x h₁ h₂
    rw [h.table] at h₁ h₂
    by_cases hk₁ : k₁ = k <;> by_cases hk₂ : k₂ = k
    · rw [hk₁, hk₂]
    · subst hk₁
      rw [Function.update_self] at h₁
      rw [Function.update_of_ne hk₂] at h₂
      exact absurd (hs.live_of_table h₂).1 (h.fresh x h₁)
    · subst hk₂
      rw [Function.update_self] at h₂
      rw [Function.update_of_ne hk₁] at h₁
      exact absurd (hs.live_of_table h₁).1 (h.fresh x h₂)
    · rw [Function.update_of_ne hk₁] at h₁
      rw [Function.update_of_ne hk₂] at h₂
      exact hs.unique h₁ h₂

/-- A step that closes what it replaces once, or replaces nothing, closes no handle a
second time. -/
theorem Replaces.closed_nodup (h : Replaces k next times s s')
    (htimes : times = 1 ∨ s.table k = none) (hs : s.Accounted) (hnodup : s.closed.Nodup) :
    s'.closed.Nodup := by
  rw [h.closed]
  cases hk : s.table k with
  | none => simpa using hnodup
  | some x =>
    obtain rfl : times = 1 := htimes.resolve_right (by simp [hk])
    have hx := (hs.live_of_table hk).2
    simp only [Option.toList_some, List.flatMap_cons, List.flatMap_nil, List.append_nil,
      List.replicate_one]
    exact List.nodup_append.2 ⟨hnodup, List.nodup_singleton x, by
      rintro a ha b hb rfl
      rw [List.mem_singleton] at hb
      exact hx (hb ▸ ha)⟩

end Handles

end QuipNet.Library
