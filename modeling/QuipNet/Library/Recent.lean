import Mathlib

/-!
# Buffers that keep the most recent items

A buffer of `n` items that drops from the front holds the last `n` items that were
pushed. A ledger that first removes the entries with the key of the new one holds, of
the last item pushed for each key, the `n` most recent ones.
-/

namespace QuipNet.Library

variable {α κ : Type}

theorem rtake_suffix (n : ℕ) (items : List α) : items.rtake n <:+ items := List.drop_suffix _ _

theorem length_rtake (n : ℕ) (items : List α) : (items.rtake n).length = min n items.length := by
  rw [List.rtake, List.length_drop]
  omega

theorem rtake_of_length_le {n : ℕ} {items : List α} (h : items.length ≤ n) :
    items.rtake n = items := by
  rw [List.rtake, Nat.sub_eq_zero_of_le h, List.drop_zero]

theorem rtake_append_of_le_length {n : ℕ} (older : List α) {newer : List α}
    (h : n ≤ newer.length) : (older ++ newer).rtake n = newer.rtake n := by
  have hdrop : (older ++ newer).length - n = older.length + (newer.length - n) := by
    rw [List.length_append]
    omega
  rw [List.rtake, List.rtake, hdrop, List.drop_length_add_append]

def push (n : ℕ) (buffer : List α) (item : α) : List α := (buffer ++ [item]).rtake n

theorem push_rtake (n : ℕ) (items : List α) (item : α) :
    push n (items.rtake n) item = push n items item := by
  unfold push
  rcases Nat.le_total items.length n with hshort | hlong
  · rw [rtake_of_length_le hshort]
  · have hlength : n ≤ (items.rtake n ++ [item]).length := by
      rw [List.length_append, length_rtake]
      omega
    have hsplit : items ++ [item] = items.take (items.length - n) ++ (items.rtake n ++ [item]) := by
      rw [← List.append_assoc, List.rtake, List.take_append_drop]
    rw [hsplit, rtake_append_of_le_length _ hlength]

theorem foldl_push (n : ℕ) (items pushed : List α) :
    pushed.foldl (push n) (items.rtake n) = (items ++ pushed).rtake n := by
  induction pushed generalizing items with
  | nil => rw [List.foldl_nil, List.append_nil]
  | cons item pushed ih =>
    rw [List.foldl_cons, push_rtake, List.append_cons, ← ih (items ++ [item])]
    rfl

/-! ## Ledgers -/

variable [DecidableEq κ]

/-- The item that was pushed last for each key, in the order of these pushes. -/
def lastForKey (key : α → κ) (items : List α) : List α := items.pwFilter fun a b => key a ≠ key b

theorem nodup_lastForKey (key : α → κ) (items : List α) : ((lastForKey key items).map key).Nodup := by
  rw [List.Nodup, List.pairwise_map]
  exact List.pairwise_pwFilter items

theorem lastForKey_cons_of_pos {key : α → κ} {first : α} {items : List α}
    (h : ∀ item ∈ lastForKey key items, key first ≠ key item) :
    lastForKey key (first :: items) = first :: lastForKey key items :=
  List.pwFilter_cons_of_pos h

theorem lastForKey_cons_of_neg {key : α → κ} {first : α} {items : List α}
    (h : ¬ ∀ item ∈ lastForKey key items, key first ≠ key item) :
    lastForKey key (first :: items) = lastForKey key items :=
  List.pwFilter_cons_of_neg h

theorem lastForKey_concat (key : α → κ) (items : List α) (item : α) :
    lastForKey key (items ++ [item]) =
      (lastForKey key items).filter (fun other => key other ≠ key item) ++ [item] := by
  induction items with
  | nil => rfl
  | cons first items ih =>
    rw [List.cons_append]
    by_cases hitem : key first = key item
    · have hlater : ¬ ∀ other ∈ lastForKey key (items ++ [item]), key first ≠ key other := by
        intro h
        refine h item ?_ hitem
        rw [ih]
        exact List.mem_append_right _ (List.mem_singleton_self item)
      rw [lastForKey_cons_of_neg hlater, ih]
      by_cases hkept : ∀ other ∈ lastForKey key items, key first ≠ key other
      · rw [lastForKey_cons_of_pos hkept, List.filter_cons_of_neg (by simpa using hitem)]
      · rw [lastForKey_cons_of_neg hkept]
    · by_cases hkept : ∀ other ∈ lastForKey key items, key first ≠ key other
      · have hlater : ∀ other ∈ lastForKey key (items ++ [item]), key first ≠ key other := by
          intro other hother
          rw [ih] at hother
          rcases List.mem_append.mp hother with hold | hnew
          · exact hkept other (List.mem_filter.mp hold).1
          · rwa [List.mem_singleton.mp hnew]
        rw [lastForKey_cons_of_pos hlater, lastForKey_cons_of_pos hkept, ih,
          List.filter_cons_of_pos (by simpa using hitem), List.cons_append]
      · have hlater : ¬ ∀ other ∈ lastForKey key (items ++ [item]), key first ≠ key other := by
          intro h
          refine hkept fun other hother heq => ?_
          refine h other ?_ heq
          rw [ih]
          refine List.mem_append_left _ (List.mem_filter.mpr ⟨hother, ?_⟩)
          simpa [← heq] using hitem
        rw [lastForKey_cons_of_neg hlater, lastForKey_cons_of_neg hkept, ih]

def pushKeyed (n : ℕ) (key : α → κ) (ledger : List α) (item : α) : List α :=
  push n (ledger.filter fun other => key other ≠ key item) item

theorem length_filter_of_nodup {key : α → κ} {ledger : List α} (h : (ledger.map key).Nodup)
    (k : κ) : ledger.length ≤ (ledger.filter fun other => key other ≠ k).length + 1 := by
  induction ledger with
  | nil => simp
  | cons first ledger ih =>
    rw [List.map_cons, List.nodup_cons] at h
    have hrest := ih h.2
    by_cases hfirst : key first = k
    · have hall : ledger.filter (fun other => key other ≠ k) = ledger := by
        refine List.filter_eq_self.mpr fun other hother => ?_
        refine decide_eq_true fun heq => h.1 ?_
        rw [hfirst, ← heq]
        exact List.mem_map_of_mem hother
      rw [List.filter_cons_of_neg (by simpa using hfirst), hall, List.length_cons]
    · rw [List.filter_cons_of_pos (by simpa using hfirst), List.length_cons, List.length_cons]
      omega

theorem pushKeyed_rtake (n : ℕ) {key : α → κ} {items : List α} (h : (items.map key).Nodup)
    (item : α) : pushKeyed n key (items.rtake n) item = pushKeyed n key items item := by
  unfold pushKeyed push
  rcases Nat.le_total items.length n with hshort | hlong
  · rw [rtake_of_length_le hshort]
  · have hnodup : ((items.rtake n).map key).Nodup :=
      h.sublist ((rtake_suffix n items).sublist.map key)
    have hfiltered := length_filter_of_nodup hnodup (key item)
    rw [length_rtake, min_eq_left hlong] at hfiltered
    have hlength : n ≤ ((items.rtake n).filter (fun other => key other ≠ key item) ++
        [item]).length := by
      rw [List.length_append, List.length_singleton]
      exact hfiltered
    have hsplit : items.filter (fun other => key other ≠ key item) ++ [item] =
        (items.take (items.length - n)).filter (fun other => key other ≠ key item) ++
          ((items.rtake n).filter (fun other => key other ≠ key item) ++ [item]) := by
      rw [← List.append_assoc, ← List.filter_append, List.rtake, List.take_append_drop]
    rw [hsplit, rtake_append_of_le_length _ hlength]

theorem foldl_pushKeyed (n : ℕ) (key : α → κ) (items pushed : List α) :
    pushed.foldl (pushKeyed n key) ((lastForKey key items).rtake n) =
      (lastForKey key (items ++ pushed)).rtake n := by
  induction pushed generalizing items with
  | nil => rw [List.foldl_nil, List.append_nil]
  | cons item pushed ih =>
    rw [List.foldl_cons, pushKeyed_rtake n (nodup_lastForKey key items), List.append_cons,
      ← ih (items ++ [item]), lastForKey_concat]
    rfl

theorem mem_pushKeyed {n : ℕ} {key : α → κ} {ledger : List α} {item other : α}
    (h : other ∈ pushKeyed n key ledger item) : other ∈ ledger ∨ other = item := by
  have hmem := (rtake_suffix _ _).subset h
  rw [List.mem_append, List.mem_singleton] at hmem
  exact hmem.imp_left fun hold => (List.mem_filter.1 hold).1

theorem nodup_pushKeyed {n : ℕ} {key : α → κ} {ledger : List α} (h : (ledger.map key).Nodup)
    (item : α) : ((pushKeyed n key ledger item).map key).Nodup := by
  refine List.Nodup.sublist ((rtake_suffix _ _).sublist.map key) ?_
  rw [List.map_append, List.map_singleton]
  refine (h.sublist (List.filter_sublist.map key)).append (List.nodup_singleton _) ?_
  intro k hold hnew
  obtain ⟨other, hother, rfl⟩ := List.mem_map.1 hold
  rw [List.mem_singleton] at hnew
  exact of_decide_eq_true (List.mem_filter.1 hother).2 hnew

theorem pushKeyed_ne_nil {n : ℕ} (hn : 0 < n) (key : α → κ) (ledger : List α) (item : α) :
    pushKeyed n key ledger item ≠ [] := by
  rw [← List.length_pos_iff, pushKeyed, push, length_rtake, List.length_append]
  simp [hn]

theorem length_pushKeyed_le (n : ℕ) (key : α → κ) (ledger : List α) (item : α) :
    (pushKeyed n key ledger item).length ≤ n := by
  rw [pushKeyed, push, length_rtake]
  exact min_le_left _ _

theorem length_push_le (n : ℕ) (buffer : List α) (item : α) : (push n buffer item).length ≤ n := by
  rw [push, length_rtake]
  exact min_le_left _ _

theorem foldl_keeps {β : Type} {f : List α → β → List α} {P : List α → Prop} {pushed : List β}
    (hf : ∀ held, ∀ item ∈ pushed, P held → P (f held item)) {held : List α} (h : P held) :
    P (pushed.foldl f held) := by
  induction pushed generalizing held with
  | nil => exact h
  | cons item rest ih =>
    exact ih (fun held item hitem => hf held item (List.mem_cons_of_mem _ hitem))
      (hf held item List.mem_cons_self h)

end QuipNet.Library
