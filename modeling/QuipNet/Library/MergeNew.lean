import Mathlib

/-!
# Appending what is not there yet

`mergeNew same current incoming` walks over `incoming` and appends each item that
`same` does not identify with an item already in the list, counting the appended
ones. Nothing of `current` is removed or reordered.
-/

namespace QuipNet.Library

variable {α : Type} (same : α → α → Bool)

def pushNew (merged : List α × ℕ) (item : α) : List α × ℕ :=
  if merged.1.any (fun existing => same existing item) then merged
  else (merged.1 ++ [item], merged.2 + 1)

def mergeNew (current incoming : List α) : List α × ℕ :=
  incoming.foldl (pushNew same) (current, 0)

theorem prefix_foldl_pushNew (incoming : List α) (merged : List α × ℕ) :
    merged.1 <+: (incoming.foldl (pushNew same) merged).1 := by
  induction incoming generalizing merged with
  | nil => exact List.prefix_rfl
  | cons item rest ih =>
    have hstep : merged.1 <+: (pushNew same merged item).1 := by
      unfold pushNew
      split
      · exact List.prefix_rfl
      · exact List.prefix_append _ _
    exact hstep.trans (ih (pushNew same merged item))

theorem prefix_mergeNew (current incoming : List α) :
    current <+: (mergeNew same current incoming).1 :=
  prefix_foldl_pushNew same incoming (current, 0)

theorem mem_foldl_pushNew {incoming : List α} {merged : List α × ℕ} {item : α}
    (h : item ∈ (incoming.foldl (pushNew same) merged).1) :
    item ∈ merged.1 ∨ item ∈ incoming := by
  induction incoming generalizing merged with
  | nil => exact Or.inl h
  | cons first rest ih =>
    rcases ih h with hmerged | hrest
    · unfold pushNew at hmerged
      split at hmerged
      · exact Or.inl hmerged
      · rcases List.mem_append.1 hmerged with hold | hnew
        · exact Or.inl hold
        · exact Or.inr (List.mem_cons.2 (Or.inl (List.mem_singleton.1 hnew)))
    · exact Or.inr (List.mem_cons_of_mem _ hrest)

theorem mem_mergeNew {current incoming : List α} {item : α}
    (h : item ∈ (mergeNew same current incoming).1) : item ∈ current ∨ item ∈ incoming :=
  mem_foldl_pushNew same h

theorem exists_of_mem_incoming (current : List α) {incoming : List α} {item : α}
    (h : item ∈ incoming) :
    ∃ kept ∈ (mergeNew same current incoming).1, kept = item ∨ same kept item = true := by
  unfold mergeNew
  generalize (current, 0) = merged
  induction incoming generalizing merged with
  | nil => cases h
  | cons first rest ih =>
    rcases List.mem_cons.1 h with rfl | hrest
    · have hpushed : ∃ kept ∈ (pushNew same merged item).1, kept = item ∨ same kept item = true := by
        unfold pushNew
        split_ifs with hknown
        · obtain ⟨kept, hkept, hsame⟩ := List.any_eq_true.1 hknown
          exact ⟨kept, hkept, .inr hsame⟩
        · exact ⟨item, List.mem_append_right _ (List.mem_singleton_self item), .inl rfl⟩
      obtain ⟨kept, hkept, hsame⟩ := hpushed
      exact ⟨kept, (prefix_foldl_pushNew same rest _).subset hkept, hsame⟩
    · exact ih hrest (pushNew same merged first)

theorem mem_map_mergeNew {β : Type} {f : α → β} (hf : ∀ a b, same a b = true → f a = f b)
    (current incoming : List α) (b : β) :
    b ∈ (mergeNew same current incoming).1.map f ↔ b ∈ current.map f ∨ b ∈ incoming.map f := by
  simp only [List.mem_map]
  constructor
  · intro ⟨item, hitem, hb⟩
    rcases mem_mergeNew same hitem with hcurrent | hincoming
    · exact .inl ⟨item, hcurrent, hb⟩
    · exact .inr ⟨item, hincoming, hb⟩
  · intro h
    rcases h with ⟨item, hitem, hb⟩ | ⟨item, hitem, hb⟩
    · exact ⟨item, (prefix_mergeNew same current incoming).subset hitem, hb⟩
    · obtain ⟨kept, hkept, hsame⟩ := exists_of_mem_incoming same current hitem
      refine ⟨kept, hkept, ?_⟩
      rcases hsame with rfl | hsame
      · exact hb
      · rw [hf kept item hsame, hb]

theorem mergeNew_of_known {current incoming : List α}
    (h : ∀ item ∈ incoming, ∃ existing ∈ current, same existing item = true) :
    mergeNew same current incoming = (current, 0) := by
  unfold mergeNew
  induction incoming with
  | nil => rfl
  | cons first rest ih =>
    obtain ⟨existing, hexisting, hsame⟩ := h first List.mem_cons_self
    have hknown : (current.any fun existing => same existing first) = true :=
      List.any_eq_true.2 ⟨existing, hexisting, hsame⟩
    rw [List.foldl_cons, pushNew, if_pos hknown]
    exact ih fun item hitem => h item (List.mem_cons_of_mem first hitem)

theorem mergeNew_mergeNew (hrefl : ∀ a, same a a = true) (current incoming : List α) :
    mergeNew same (mergeNew same current incoming).1 incoming =
      ((mergeNew same current incoming).1, 0) := by
  apply mergeNew_of_known
  intro item hitem
  obtain ⟨kept, hkept, hsame⟩ := exists_of_mem_incoming same current hitem
  rcases hsame with rfl | hsame
  · exact ⟨kept, hkept, hrefl kept⟩
  · exact ⟨kept, hkept, hsame⟩

/-- What is appended comes from `incoming`, and no two items of it are identified. -/
theorem exists_foldl_pushNew (incoming : List α) (merged : List α × ℕ) :
    ∃ added, (incoming.foldl (pushNew same) merged).1 = merged.1 ++ added ∧ added ⊆ incoming ∧
      added.Pairwise (fun a b => same a b = false) ∧
      ∀ item ∈ added, ∀ existing ∈ merged.1, same existing item = false := by
  induction incoming generalizing merged with
  | nil => exact ⟨[], by simp, by simp, .nil, by simp⟩
  | cons item rest ih =>
    by_cases hknown : (merged.1.any fun existing => same existing item) = true
    · obtain ⟨added, heq, hsubset, hpairwise, hnew⟩ := ih merged
      refine ⟨added, ?_, List.subset_cons_of_subset item hsubset, hpairwise, hnew⟩
      rw [List.foldl_cons, pushNew, if_pos hknown, heq]
    · obtain ⟨added, heq, hsubset, hpairwise, hnew⟩ := ih (merged.1 ++ [item], merged.2 + 1)
      have hitem : ∀ existing ∈ merged.1, same existing item = false := by
        simpa using hknown
      refine ⟨item :: added, ?_, ?_, ?_, ?_⟩
      · rw [List.foldl_cons, pushNew, if_neg hknown, heq]
        simp
      · exact List.cons_subset_cons item hsubset
      · refine List.pairwise_cons.mpr ⟨fun other hother => ?_, hpairwise⟩
        exact hnew other hother item (by simp)
      · intro other hother existing hexisting
        rcases List.mem_cons.mp hother with rfl | hother
        · exact hitem existing hexisting
        · exact hnew other hother existing (by simp [hexisting])

theorem exists_mergeNew (current incoming : List α) :
    ∃ added, (mergeNew same current incoming).1 = current ++ added ∧ added ⊆ incoming ∧
      added.Pairwise fun a b => same a b = false := by
  obtain ⟨added, heq, hsubset, hpairwise, -⟩ := exists_foldl_pushNew same incoming (current, 0)
  exact ⟨added, heq, hsubset, hpairwise⟩

/-- A property of the items that were there holds of the merged list if and only if it
holds of every incoming item that no earlier one is identified with. -/
theorem forall_foldl_pushNew_iff {P : α → Prop}
    (htrans : ∀ a b c, same a b = true → same b c = true → same a c = true) (incoming : List α)
    (merged : List α × ℕ) (hmerged : ∀ item ∈ merged.1, P item) :
    (∀ item ∈ (incoming.foldl (pushNew same) merged).1, P item) ↔
      ∀ earlier item later, incoming = earlier ++ item :: later →
        P item ∨ ∃ existing ∈ merged.1 ++ earlier, same existing item = true := by
  induction incoming generalizing merged with
  | nil => simpa using hmerged
  | cons first rest ih =>
    by_cases hknown : (merged.1.any fun existing => same existing first) = true
    · obtain ⟨known, hmem, hsame⟩ := List.any_eq_true.1 hknown
      rw [List.foldl_cons, pushNew, if_pos hknown, ih merged hmerged]
      constructor
      · intro h earlier item later hsplit
        cases earlier with
        | nil =>
          obtain ⟨rfl, -⟩ := List.cons.inj hsplit
          exact .inr ⟨known, List.mem_append_left [] hmem, hsame⟩
        | cons a earlier =>
          refine (h earlier item later (List.cons.inj hsplit).2).imp_right ?_
          rintro ⟨existing, hexisting, hitem⟩
          refine ⟨existing, ?_, hitem⟩
          simp only [List.mem_append, List.mem_cons] at hexisting ⊢
          exact hexisting.imp_right .inr
      · intro h earlier item later hsplit
        refine (h (first :: earlier) item later (by rw [hsplit]; rfl)).imp_right ?_
        rintro ⟨existing, hexisting, hitem⟩
        simp only [List.mem_append, List.mem_cons] at hexisting ⊢
        rcases hexisting with hold | rfl | hearlier
        · exact ⟨existing, .inl hold, hitem⟩
        · exact ⟨known, .inl hmem, htrans known existing item hsame hitem⟩
        · exact ⟨existing, .inr hearlier, hitem⟩
    · have hpush : (first :: rest).foldl (pushNew same) merged =
          rest.foldl (pushNew same) (merged.1 ++ [first], merged.2 + 1) := by
        rw [List.foldl_cons, pushNew, if_neg hknown]
      have hfirst : ∀ existing ∈ merged.1, same existing first ≠ true := by
        intro existing hexisting hsame
        exact hknown (List.any_eq_true.2 ⟨existing, hexisting, hsame⟩)
      rw [hpush]
      constructor
      · intro h earlier item later hsplit
        have hp : P first := h first
          ((prefix_foldl_pushNew same rest _).subset (List.mem_append_right _ (by simp)))
        cases earlier with
        | nil =>
          obtain ⟨rfl, -⟩ := List.cons.inj hsplit
          exact .inl hp
        | cons a earlier =>
          obtain ⟨rfl, hrest⟩ := List.cons.inj hsplit
          have hpushed : ∀ item ∈ merged.1 ++ [first], P item := by
            simpa [or_imp, forall_and] using ⟨hmerged, hp⟩
          simpa using (ih (merged.1 ++ [first], merged.2 + 1) hpushed).1 h earlier item later hrest
      · intro h
        have hp : P first := by
          refine (h [] first rest rfl).resolve_right ?_
          rintro ⟨existing, hexisting, hsame⟩
          exact hfirst existing (by simpa using hexisting) hsame
        have hpushed : ∀ item ∈ merged.1 ++ [first], P item := by
          simpa [or_imp, forall_and] using ⟨hmerged, hp⟩
        refine (ih (merged.1 ++ [first], merged.2 + 1) hpushed).2 ?_
        intro earlier item later hrest
        simpa using h (first :: earlier) item later (by rw [hrest]; rfl)

theorem forall_mergeNew_iff {P : α → Prop}
    (htrans : ∀ a b c, same a b = true → same b c = true → same a c = true)
    {current : List α} (hcurrent : ∀ item ∈ current, P item) (incoming : List α) :
    (∀ item ∈ (mergeNew same current incoming).1, P item) ↔
      ∀ earlier item later, incoming = earlier ++ item :: later →
        P item ∨ ∃ existing ∈ current ++ earlier, same existing item = true :=
  forall_foldl_pushNew_iff same htrans incoming (current, 0) hcurrent

theorem length_foldl_pushNew (incoming : List α) (merged : List α × ℕ) :
    (incoming.foldl (pushNew same) merged).1.length + merged.2 =
      merged.1.length + (incoming.foldl (pushNew same) merged).2 := by
  induction incoming generalizing merged with
  | nil => rfl
  | cons item rest ih =>
    have hrest := ih (pushNew same merged item)
    rw [List.foldl_cons]
    unfold pushNew at hrest ⊢
    split_ifs at hrest ⊢ with hknown
    · exact hrest
    · simp only [List.length_append, List.length_singleton] at hrest
      omega

/-- A merge may be filtered first, where identified items are kept or dropped together. -/
theorem filter_foldl_pushNew {p : α → Bool} (hp : ∀ a b, same a b = true → p a = p b)
    (incoming : List α) (merged : List α × ℕ) (count : ℕ) :
    (incoming.foldl (pushNew same) merged).1.filter p =
      ((incoming.filter p).foldl (pushNew same) (merged.1.filter p, count)).1 := by
  induction incoming generalizing merged count with
  | nil => rfl
  | cons item rest ih =>
    by_cases hitem : p item = true
    · have hany : (merged.1.filter p).any (fun existing => same existing item) =
          merged.1.any fun existing => same existing item := by
        rw [List.any_filter, Bool.eq_iff_iff, List.any_eq_true, List.any_eq_true]
        constructor
        · rintro ⟨existing, hexisting, hsame⟩
          exact ⟨existing, hexisting, (Bool.and_eq_true_iff.1 hsame).2⟩
        · rintro ⟨existing, hexisting, hsame⟩
          exact ⟨existing, hexisting, by rw [hp existing item hsame, hitem, hsame]; rfl⟩
      rw [List.filter_cons_of_pos hitem, List.foldl_cons, List.foldl_cons]
      by_cases hknown : merged.1.any (fun existing => same existing item) = true
      · have hpush : pushNew same merged item = merged := if_pos hknown
        have hpushed : pushNew same (merged.1.filter p, count) item = (merged.1.filter p, count) :=
          if_pos (hany.trans hknown)
        rw [hpush, hpushed]
        exact ih merged count
      · have hpush : pushNew same merged item = (merged.1 ++ [item], merged.2 + 1) := if_neg hknown
        have hpushed : pushNew same (merged.1.filter p, count) item =
            (merged.1.filter p ++ [item], count + 1) :=
          if_neg fun h => hknown (hany.symm.trans h)
        rw [hpush, hpushed, ih (merged.1 ++ [item], merged.2 + 1) (count + 1), List.filter_append,
          List.filter_cons_of_pos hitem, List.filter_nil]
    · rw [List.filter_cons_of_neg hitem, List.foldl_cons, ih (pushNew same merged item) count]
      have hdropped : (pushNew same merged item).1.filter p = merged.1.filter p := by
        unfold pushNew
        split_ifs
        · rfl
        · rw [List.filter_append, List.filter_cons_of_neg hitem, List.filter_nil, List.append_nil]
      rw [hdropped]

theorem filter_mergeNew {p : α → Bool} (hp : ∀ a b, same a b = true → p a = p b)
    (current incoming : List α) :
    (mergeNew same current incoming).1.filter p =
      (mergeNew same (current.filter p) (incoming.filter p)).1 :=
  filter_foldl_pushNew same hp incoming (current, 0) 0

theorem mergeNew_of_count_eq_zero {current incoming : List α}
    (h : (mergeNew same current incoming).2 = 0) : (mergeNew same current incoming).1 = current := by
  have hlength := length_foldl_pushNew same incoming (current, 0)
  refine ((prefix_mergeNew same current incoming).eq_of_length ?_).symm
  unfold mergeNew at h ⊢
  rw [h] at hlength
  exact hlength.symm

end QuipNet.Library
