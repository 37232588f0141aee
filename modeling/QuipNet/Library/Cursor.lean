import QuipNet.Library.MergeNew

/-!
# Copies of a numbered log

The items of a log carry increasing numbers. A copy covers the log when it has only
items of it, and all of them up to the greatest number it has. Such a copy may ask for
the items above that number alone: together with what it has they are the whole log.
-/

namespace QuipNet.Library

variable {α : Type} (number : α → ℕ)

def InOrder (log : List α) : Prop := log.Pairwise fun a b => number a < number b

structure Covers (log copy : List α) : Prop where
  subset : copy ⊆ log
  downward : ∀ a ∈ log, ∀ b ∈ copy, number a ≤ number b → a ∈ copy

variable {number}

theorem InOrder.concat {log : List α} (h : InOrder number log) {a : α}
    (ha : ∀ b ∈ log, number b < number a) : InOrder number (log ++ [a]) := by
  rw [InOrder, List.pairwise_append]
  refine ⟨h, List.pairwise_singleton _ a, ?_⟩
  intro b hb c hc
  rw [List.mem_singleton.1 hc]
  exact ha b hb

theorem InOrder.eq_of_number_eq {log : List α} (h : InOrder number log) {a b : α} (ha : a ∈ log)
    (hb : b ∈ log) (hab : number a = number b) : a = b := by
  have hnodup : (log.map number).Nodup := List.pairwise_map.2 (h.imp Nat.ne_of_lt)
  exact List.inj_on_of_nodup_map hnodup ha hb hab

theorem Covers.refl (log : List α) : Covers number log log :=
  ⟨List.Subset.refl log, fun _ ha _ _ _ => ha⟩

theorem Covers.nil (log : List α) : Covers number log [] :=
  ⟨List.nil_subset log, fun _ _ _ hb => absurd hb List.not_mem_nil⟩

theorem Covers.of_subset {log copy : List α} (hcopy : copy ⊆ log) (hlog : log ⊆ copy) :
    Covers number log copy := ⟨hcopy, fun _ ha _ _ _ => hlog ha⟩

theorem Covers.concat {log copy : List α} (h : Covers number log copy) {a : α}
    (ha : ∀ b ∈ log, number b < number a) : Covers number (log ++ [a]) copy := by
  refine ⟨fun b hb => List.mem_append_left _ (h.subset hb), ?_⟩
  intro b hb c hc hle
  rcases List.mem_append.1 hb with hold | hnew
  · exact h.downward b hold c hc hle
  · have hlt := ha c (h.subset hc)
    rw [List.mem_singleton.1 hnew] at hle
    omega

section Merging
variable {same : α → α → Bool} (hsame : ∀ a b, same a b = true → number a = number b)
include hsame

theorem subset_mergeNew {log copy incoming : List α} (hlog : InOrder number log)
    (hcopy : copy ⊆ log) (hincoming : incoming ⊆ log) :
    incoming ⊆ (mergeNew same copy incoming).1 := by
  intro a ha
  obtain ⟨b, hb, hab⟩ := exists_of_mem_incoming same copy ha
  rcases hab with rfl | hab
  · exact hb
  · have hlogged : b ∈ log := by
      rcases mem_mergeNew same hb with hold | hnew
      · exact hcopy hold
      · exact hincoming hnew
    rwa [← hlog.eq_of_number_eq hlogged (hincoming ha) (hsame b a hab)]

theorem Covers.mergeNew {log copy incoming : List α} (hlog : InOrder number log)
    (hcopy : Covers number log copy) (hincoming : Covers number log incoming) :
    Covers number log (mergeNew same copy incoming).1 := by
  have hnew := subset_mergeNew hsame hlog hcopy.subset hincoming.subset
  have hold := (prefix_mergeNew same copy incoming).subset
  refine ⟨?_, ?_⟩
  · intro a ha
    rcases mem_mergeNew same ha with h | h
    · exact hcopy.subset h
    · exact hincoming.subset h
  · intro a ha b hb hle
    rcases mem_mergeNew same hb with h | h
    · exact hold (hcopy.downward a ha b h hle)
    · exact hnew (hincoming.downward a ha b h hle)

theorem Covers.subset_mergeAbove {log served copy : List α} (hlog : InOrder number log)
    (hserved : served ⊆ log) (hcopy : Covers number log copy) :
    served ⊆ (Library.mergeNew same copy (served.filter fun a =>
      ((copy.map number).max?.map fun greatest => decide (greatest < number a)).getD true)).1 := by
  intro a ha
  set above := served.filter fun a =>
    ((copy.map number).max?.map fun greatest => decide (greatest < number a)).getD true with habove
  have hsubset : above ⊆ log := fun _ h => hserved (List.mem_filter.1 h).1
  by_cases hknown : ∃ b ∈ copy, number a ≤ number b
  · obtain ⟨b, hb, hle⟩ := hknown
    exact (prefix_mergeNew same copy above).subset (hcopy.downward a (hserved ha) b hb hle)
  · apply subset_mergeNew hsame hlog hcopy.subset hsubset
    rw [habove, List.mem_filter]
    refine ⟨ha, ?_⟩
    cases hmax : (copy.map number).max? with
    | none => rfl
    | some greatest =>
      obtain ⟨b, hb, rfl⟩ := List.mem_map.1 (List.max?_mem hmax)
      have hlt : number b < number a := by
        by_contra hge
        exact hknown ⟨b, hb, Nat.not_lt.1 hge⟩
      simpa using hlt

theorem Covers.complete {log copy : List α} (hlog : InOrder number log)
    (hcopy : Covers number log copy) :
    log ⊆ (Library.mergeNew same copy (log.filter fun a =>
      ((copy.map number).max?.map fun greatest => decide (greatest < number a)).getD true)).1 :=
  hcopy.subset_mergeAbove hsame hlog (List.Subset.refl log)

/-- A copy that asks an older log goes on covering the log. -/
theorem Covers.mergeAbove {log served copy : List α} (hlog : InOrder number log)
    (hserved : Covers number log served) (hcopy : Covers number log copy) :
    Covers number log (Library.mergeNew same copy (served.filter fun a =>
      ((copy.map number).max?.map fun greatest => decide (greatest < number a)).getD true)).1 := by
  have hall := hcopy.subset_mergeAbove hsame hlog hserved.subset
  set above := served.filter fun a =>
    ((copy.map number).max?.map fun greatest => decide (greatest < number a)).getD true with habove
  have hasked : above ⊆ served := fun _ h => (List.mem_filter.1 h).1
  constructor
  · intro a ha
    rcases mem_mergeNew same ha with hold | hnew
    · exact hcopy.subset hold
    · exact hserved.subset (hasked hnew)
  · intro a ha b hb hle
    rcases mem_mergeNew same hb with hold | hnew
    · exact (prefix_mergeNew same copy above).subset (hcopy.downward a ha b hold hle)
    · exact hall (hserved.downward a ha b (hasked hnew) hle)

end Merging

theorem Covers.of_initial {log copy : List α} (hlog : InOrder number log) (h : copy <+: log) :
    Covers number log copy := by
  obtain ⟨rest, rfl⟩ := h
  refine ⟨List.subset_append_left copy rest, ?_⟩
  intro a ha b hb hle
  rcases List.mem_append.1 ha with hold | hnew
  · exact hold
  · have hlt := (List.pairwise_append.1 hlog).2.2 b hb a hnew
    omega

theorem Covers.mem_iff {log copy : List α} (h : Covers number log copy) {a : α} (ha : a ∈ log) :
    a ∈ copy ↔ ∃ greatest ∈ (copy.map number).max?, number a ≤ greatest := by
  constructor
  · intro hmem
    have hnumber := List.mem_map_of_mem (f := number) hmem
    obtain ⟨greatest, hgreatest⟩ := Option.isSome_iff_exists.1 (List.isSome_max?_of_mem hnumber)
    exact ⟨greatest, hgreatest, (List.max?_le_iff hgreatest).1 le_rfl _ hnumber⟩
  · rintro ⟨greatest, hgreatest, hle⟩
    obtain ⟨b, hb, rfl⟩ := List.mem_map.1 (List.max?_mem hgreatest)
    exact h.downward a ha b hb hle

end QuipNet.Library
