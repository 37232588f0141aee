import Mathlib

/-!
# Lists that are keyed by a projection

Replacing an item in place by one of the same key, or appending an item of a new
key, keeps the keys of a list pairwise distinct.
-/

namespace QuipNet.Library

variable {α κ : Type}

/-- The first item that passes the test is replaced; where none does, the new one is
appended. -/
def upsert (test : α → Bool) (item : α) (items : List α) : List α :=
  if items.any test then
    items.replaceF fun existing => if test existing then some item else none
  else items ++ [item]

theorem upsert_cases (test : α → Bool) (item : α) (items : List α) :
    (items.find? test = none ∧ upsert test item items = items ++ [item]) ∨
      ∃ before found after, items = before ++ found :: after ∧ items.find? test = some found ∧
        test found = true ∧ (∀ a ∈ before, ¬ test a = true) ∧
        upsert test item items = before ++ item :: after := by
  induction items with
  | nil => exact .inl ⟨rfl, rfl⟩
  | cons a rest ih =>
    by_cases ha : test a = true
    · refine .inr ⟨[], a, rest, rfl, List.find?_cons_of_pos ha, ha, List.forall_mem_nil _, ?_⟩
      rw [upsert, List.any_cons, ha, Bool.true_or, if_pos rfl, List.replaceF_cons, if_pos ha]
      rfl
    · have hrest : upsert test item (a :: rest) = a :: upsert test item rest := by
        unfold upsert
        rw [List.any_cons, Bool.eq_false_of_not_eq_true ha, Bool.false_or, List.replaceF_cons,
          if_neg ha]
        split_ifs <;> rfl
      rw [hrest, List.find?_cons_of_neg ha]
      rcases ih with ⟨hnone, happended⟩ | ⟨before, found, after, rfl, hfind, hfound, hbefore, hreplaced⟩
      · exact .inl ⟨hnone, by rw [happended]; rfl⟩
      · refine .inr ⟨a :: before, found, after, rfl, hfind, hfound, ?_, by rw [hreplaced]; rfl⟩
        exact List.forall_mem_cons.2 ⟨ha, hbefore⟩

theorem mem_upsert {test : α → Bool} {item b : α} {items : List α} (h : b ∈ upsert test item items) :
    b = item ∨ b ∈ items := by
  rcases upsert_cases test item items with
    ⟨-, hupsert⟩ | ⟨before, found, after, rfl, -, -, -, hupsert⟩
  · rw [hupsert, List.mem_append, List.mem_singleton] at h
    exact h.symm
  · rw [hupsert, List.mem_append, List.mem_cons] at h
    rw [List.mem_append, List.mem_cons]
    tauto

theorem mem_upsert_self (test : α → Bool) (item : α) (items : List α) :
    item ∈ upsert test item items := by
  rcases upsert_cases test item items with ⟨-, hupsert⟩ | ⟨before, -, after, -, -, -, -, hupsert⟩
  · rw [hupsert]
    exact List.mem_append_right items (List.mem_singleton_self item)
  · rw [hupsert]
    exact List.mem_append_right before List.mem_cons_self

theorem mem_upsert_of_find?_ne {test : α → Bool} {b : α} (item : α) {items : List α} (hb : b ∈ items)
    (hfind : items.find? test ≠ some b) : b ∈ upsert test item items := by
  rcases upsert_cases test item items with
    ⟨-, hupsert⟩ | ⟨before, found, after, rfl, hfound, -, -, hupsert⟩
  · rw [hupsert]
    exact List.mem_append_left [item] hb
  · have hne : b ≠ found := by
      rintro rfl
      exact hfind hfound
    rw [hupsert]
    simp only [List.mem_append, List.mem_cons, hne, false_or] at hb ⊢
    tauto

theorem mem_upsert_of_mem {test : α → Bool} {b : α} (item : α) {items : List α} (hb : b ∈ items)
    (htest : ¬ test b = true) : b ∈ upsert test item items := by
  apply mem_upsert_of_find?_ne item hb
  intro hfind
  exact htest (List.find?_some hfind)

theorem find?_upsert_self {test : α → Bool} {item : α} (hitem : test item = true) (items : List α) :
    (upsert test item items).find? test = some item := by
  rcases upsert_cases test item items with
    ⟨hnone, hupsert⟩ | ⟨before, -, after, -, -, -, hbefore, hupsert⟩
  · rw [hupsert, List.find?_append, hnone, Option.none_or, List.find?_cons_of_pos hitem]
  · rw [hupsert, List.find?_append, List.find?_eq_none.2 hbefore, Option.none_or,
      List.find?_cons_of_pos hitem]

theorem filter_upsert_self {test : α → Bool} {item : α} {items : List α} (hitem : test item = true)
    (h : (items.filter test).length ≤ 1) : (upsert test item items).filter test = [item] := by
  rcases upsert_cases test item items with
    ⟨hnone, hupsert⟩ | ⟨before, found, after, rfl, -, hfound, hbefore, hupsert⟩
  · rw [hupsert, List.filter_append, List.filter_eq_nil_iff.2 (List.find?_eq_none.1 hnone),
      List.nil_append, List.filter_cons_of_pos hitem, List.filter_nil]
  · rw [List.filter_append, List.filter_cons_of_pos hfound, List.length_append,
      List.length_cons] at h
    have hafter : after.filter test = [] := List.eq_nil_of_length_eq_zero (by omega)
    rw [hupsert, List.filter_append, List.filter_eq_nil_iff.2 hbefore, List.nil_append,
      List.filter_cons_of_pos hitem, hafter]

theorem filter_upsert_of_neg {test selected : α → Bool} {item : α}
    (htest : ∀ a, test a = true → ¬ selected a = true) (hitem : ¬ selected item = true)
    (items : List α) : (upsert test item items).filter selected = items.filter selected := by
  rcases upsert_cases test item items with
    ⟨-, hupsert⟩ | ⟨before, found, after, rfl, -, hfound, -, hupsert⟩
  · rw [hupsert, List.filter_append, List.filter_cons_of_neg hitem, List.filter_nil,
      List.append_nil]
  · rw [hupsert, List.filter_append, List.filter_append, List.filter_cons_of_neg hitem,
      List.filter_cons_of_neg (htest found hfound)]

theorem nodup_map_upsert {test : α → Bool} {key : α → κ} {item : α} {items : List α}
    (htest : ∀ a, test a = true ↔ key a = key item) (h : (items.map key).Nodup) :
    ((upsert test item items).map key).Nodup := by
  rcases upsert_cases test item items with
    ⟨hnone, hupsert⟩ | ⟨before, found, after, rfl, -, hfound, -, hupsert⟩
  · rw [hupsert, List.map_append, List.map_singleton]
    refine h.append (List.nodup_singleton _) ?_
    intro k hk hitem
    obtain ⟨a, ha, rfl⟩ := List.mem_map.mp hk
    rw [List.mem_singleton] at hitem
    exact List.find?_eq_none.1 hnone a ha ((htest a).mpr hitem)
  · rw [List.map_append, List.map_cons, (htest found).mp hfound] at h
    rw [hupsert, List.map_append, List.map_cons]
    exact h

end QuipNet.Library
