import Mathlib

/-!
# Words that do not overlap

A word between two fields that are not framed. Where no word begins inside another one, the
fields can be told apart unless one of them contains a word.
-/

namespace QuipNet.Library

variable {α κ : Type}

/-- A word is comparable with a tail of a word only when it is that very word. -/
def NonOverlapping (word : κ → List α) : Prop :=
  ∀ k k' i, i < (word k).length → ((word k).drop i <+: word k' ∨ word k' <+: (word k).drop i) →
    i = 0 ∧ k = k'

theorem NonOverlapping.append_eq {word : κ → List α} (h : NonOverlapping word) {k k' : κ}
    {skipped rest rest' : List α} (heq : word k ++ rest = skipped ++ (word k' ++ rest')) :
    (skipped = [] ∧ k = k' ∧ rest = rest') ∨
      ∃ between, skipped = word k ++ between ∧ rest = between ++ (word k' ++ rest') := by
  rcases List.append_eq_append_iff.1 heq with ⟨between, hskipped, hrest⟩ | ⟨tail, hword, htail⟩
  · exact .inr ⟨between, hskipped, hrest⟩
  · by_cases hnil : tail = []
    · subst hnil
      rw [List.append_nil] at hword
      exact .inr ⟨[], by rw [hword, List.append_nil], htail.symm⟩
    · left
      have hdrop : (word k).drop skipped.length = tail := by
        rw [hword, List.drop_left]
      have hlength : skipped.length < (word k).length := by
        rw [hword, List.length_append]
        exact Nat.lt_add_of_pos_right (List.length_pos_of_ne_nil hnil)
      have hcomparable : tail <+: word k' ∨ word k' <+: tail :=
        List.prefix_or_prefix_of_prefix ⟨rest, htail.symm⟩ (List.prefix_append _ _)
      obtain ⟨hzero, hk⟩ := h k k' skipped.length hlength (by rwa [hdrop])
      have hskipped := List.eq_nil_of_length_eq_zero hzero
      subst hk hskipped
      exact ⟨rfl, rfl, List.append_cancel_left heq⟩

/-- Equal concatenations come from equal parts, or the part before the word of one side reaches
into the part after the word of the other. -/
theorem NonOverlapping.append_word_eq_iff {word : κ → List α} (h : NonOverlapping word) {k k' : κ}
    {first first' rest rest' : List α} :
    first ++ (word k ++ rest) = first' ++ (word k' ++ rest') ↔
      (first = first' ∧ k = k' ∧ rest = rest') ∨
      (∃ between, first' = first ++ (word k ++ between) ∧ rest = between ++ (word k' ++ rest')) ∨
      ∃ between, first = first' ++ (word k' ++ between) ∧ rest' = between ++ (word k ++ rest) := by
  constructor
  · intro heq
    rcases List.append_eq_append_iff.1 heq with ⟨skipped, hfirst, hrest⟩ | ⟨skipped, hfirst, hrest⟩
    · rcases h.append_eq hrest with ⟨rfl, hk, hsame⟩ | ⟨between, rfl, hreach⟩
      · exact .inl ⟨by rw [hfirst, List.append_nil], hk, hsame⟩
      · exact .inr (.inl ⟨between, hfirst, hreach⟩)
    · rcases h.append_eq hrest with ⟨rfl, hk, hsame⟩ | ⟨between, rfl, hreach⟩
      · exact .inl ⟨by rw [hfirst, List.append_nil], hk.symm, hsame.symm⟩
      · exact .inr (.inr ⟨between, hfirst, hreach⟩)
  · rintro (⟨rfl, rfl, rfl⟩ | ⟨between, rfl, rfl⟩ | ⟨between, rfl, rfl⟩)
    · rfl
    · simp only [List.append_assoc]
    · simp only [List.append_assoc]

end QuipNet.Library
