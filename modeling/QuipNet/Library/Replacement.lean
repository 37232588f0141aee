import Mathlib

/-!
# Replacing a keyed list

A list is replaced by another one, and the two are compared by a key: how many items came
and went, and whether an item differs from the one that was held under its key.
-/

namespace QuipNet.Library

variable {α κ : Type} [DecidableEq κ] (key : α → κ)

def withoutCounterpart (items others : List α) : List α :=
  items.filter fun item => !others.any fun other => key item = key other

theorem length_withoutCounterpart (items others : List α) :
    (withoutCounterpart key items others).length +
      ((items.map key).filter fun k => decide (k ∈ others.map key)).length = items.length := by
  have hmatched : ((items.map key).filter fun k => decide (k ∈ others.map key)).length =
      (items.filter fun item => others.any fun other => key item = key other).length := by
    rw [List.filter_map, List.length_map]
    congr 2
    funext item
    rw [Function.comp_apply, Bool.eq_iff_iff, decide_eq_true_eq, List.mem_map, List.any_eq_true]
    simp only [decide_eq_true_eq, eq_comm (a := key item)]
  rw [hmatched, withoutCounterpart, Nat.add_comm]
  exact (List.length_eq_length_filter_add _).symm

theorem length_add_removed {current incoming : List α} (hcurrent : (current.map key).Nodup)
    (hincoming : (incoming.map key).Nodup) :
    incoming.length + (withoutCounterpart key current incoming).length =
      current.length + (withoutCounterpart key incoming current).length := by
  have hshared : ((current.map key).filter fun k => decide (k ∈ incoming.map key)).length =
      ((incoming.map key).filter fun k => decide (k ∈ current.map key)).length := by
    refine List.Perm.length_eq ?_
    rw [List.perm_ext_iff_of_nodup (hcurrent.filter _) (hincoming.filter _)]
    intro k
    rw [List.mem_filter, List.mem_filter, decide_eq_true_eq, decide_eq_true_eq, and_comm]
  have hkept := length_withoutCounterpart key current incoming
  have hcame := length_withoutCounterpart key incoming current
  omega

/-- Some item differs from an item of `held` under its key. -/
def Contradicts (items held : List α) : Prop :=
  ∃ item ∈ items, ∃ existing ∈ held, key existing = key item ∧ existing ≠ item

def SelfConsistent (items : List α) : Prop := ¬ Contradicts key items items

theorem exists_first_differs_iff {items held : List α} (hheld : SelfConsistent key held) :
    (∃ item ∈ items, ∃ existing, held.find? (fun other => decide (key other = key item)) =
      some existing ∧ existing ≠ item) ↔ Contradicts key items held := by
  constructor
  · rintro ⟨item, hitem, existing, hfound, hdiffers⟩
    have hkey := List.find?_some hfound
    rw [decide_eq_true_eq] at hkey
    exact ⟨item, hitem, existing, List.mem_of_find?_eq_some hfound, hkey, hdiffers⟩
  · rintro ⟨item, hitem, existing, hexisting, hkey, hdiffers⟩
    cases hfound : held.find? fun other => decide (key other = key item) with
    | none =>
      have hnone := List.find?_eq_none.1 hfound existing hexisting
      exact absurd (decide_eq_true hkey) hnone
    | some first =>
      refine ⟨item, hitem, first, hfound, ?_⟩
      rintro rfl
      exact hheld ⟨first, List.mem_of_find?_eq_some hfound, existing, hexisting, hkey, hdiffers⟩

end QuipNet.Library
