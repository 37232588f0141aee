import Mathlib

/-!
# Filling a list from a source

`addUncovered` walks over a source and appends an entry for each item that no entry of the
list covers, the appended ones included. `Fills` says which items were taken.
-/

namespace QuipNet.Library

variable {α β : Type} (covers : β → α → Bool) (entry : α → β)

def addUncovered (listed : List β) (items : List α) : List β :=
  items.foldl (fun listed item =>
    if listed.any fun other => covers other item then listed else listed ++ [entry item]) listed

/-- The items that were taken: none is covered by the list or by an item before it, and
every other item is covered. -/
structure Fills (listed : List β) (items added : List α) : Prop where
  sublist : added.Sublist items
  uncovered : ∀ item ∈ added, ∀ other ∈ listed, covers other item = false
  pairwise : added.Pairwise fun a b => covers (entry a) b = false
  covered : ∀ item ∈ items, item ∈ added ∨ ∃ other ∈ listed ++ added.map entry,
    covers other item = true

theorem exists_fills (listed : List β) (items : List α) :
    ∃ added, addUncovered covers entry listed items = listed ++ added.map entry ∧
      Fills covers entry listed items added := by
  induction items generalizing listed with
  | nil =>
    refine ⟨[], by simp [addUncovered], List.Sublist.refl [], ?_, List.Pairwise.nil, ?_⟩
    · simp
    · simp
  | cons item rest ih =>
    by_cases hcovered : (listed.any fun other => covers other item) = true
    · obtain ⟨added, heq, hfills⟩ := ih listed
      have hstep : addUncovered covers entry listed (item :: rest) =
          addUncovered covers entry listed rest := by
        rw [addUncovered, List.foldl_cons, if_pos hcovered]
        rfl
      refine ⟨added, hstep.trans heq, hfills.sublist.cons item, hfills.uncovered, hfills.pairwise, ?_⟩
      intro other hother
      rcases List.mem_cons.1 hother with rfl | hrest
      · obtain ⟨by', hby, hcovers⟩ := List.any_eq_true.1 hcovered
        exact .inr ⟨by', List.mem_append_left _ hby, hcovers⟩
      · exact hfills.covered other hrest
    · obtain ⟨added, heq, hfills⟩ := ih (listed ++ [entry item])
      have hstep : addUncovered covers entry listed (item :: rest) =
          addUncovered covers entry (listed ++ [entry item]) rest := by
        rw [addUncovered, List.foldl_cons, if_neg hcovered]
        rfl
      have hall : listed ++ [entry item] ++ added.map entry =
          listed ++ (item :: added).map entry := by simp
      refine ⟨item :: added, (hstep.trans heq).trans hall, hfills.sublist.cons_cons item, ?_, ?_, ?_⟩
      · intro other hother before hbefore
        rcases List.mem_cons.1 hother with rfl | hadded
        · by_contra hcovers
          exact hcovered (List.any_eq_true.2 ⟨before, hbefore, by simpa using hcovers⟩)
        · exact hfills.uncovered other hadded before (List.mem_append_left _ hbefore)
      · refine List.pairwise_cons.2 ⟨?_, hfills.pairwise⟩
        intro other hother
        exact hfills.uncovered other hother (entry item)
          (List.mem_append_right _ (List.mem_singleton_self _))
      · intro other hother
        rcases List.mem_cons.1 hother with rfl | hrest
        · exact .inl List.mem_cons_self
        · rcases hfills.covered other hrest with hadded | hcovers
          · exact .inl (List.mem_cons_of_mem _ hadded)
          · rw [hall] at hcovers
            exact .inr hcovers

end QuipNet.Library
