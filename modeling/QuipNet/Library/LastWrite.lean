import Mathlib

/-!
# The last write for a key

A loop that inserts a value for each item that has a key leaves, for each key, the value
of the last item with that key. In a list whose keys are distinct, the first item with a
key is the last one and the only one.
-/

open Std
namespace QuipNet.Library

variable {ι κ υ : Type}

section Last
variable [DecidableEq κ]

def lastFor (keyOf : ι → Option κ) (items : List ι) (key : κ) : Option ι :=
  items.reverse.find? fun item => keyOf item = some key

theorem lastFor_append_singleton (keyOf : ι → Option κ) (items : List ι) (item : ι) (key : κ) :
    lastFor keyOf (items ++ [item]) key =
      if keyOf item = some key then some item else lastFor keyOf items key := by
  rw [lastFor, List.reverse_append, List.reverse_singleton, List.singleton_append,
    List.find?_cons]
  by_cases hkey : keyOf item = some key
  · simp [hkey]
  · simp only [hkey, decide_false, if_false]
    rfl

theorem find?_eq_lastFor {keyOf : ι → κ} {items : List ι}
    (h : items.Pairwise fun a b => keyOf a ≠ keyOf b) (key : κ) :
    (items.find? fun item => keyOf item = key) = lastFor (fun item => some (keyOf item)) items key := by
  induction items using List.reverseRecOn with
  | nil => rfl
  | append_singleton rest item ih =>
    obtain ⟨hrest, -, hapart⟩ := List.pairwise_append.1 h
    rw [lastFor_append_singleton, List.find?_append, ih hrest]
    by_cases hkey : keyOf item = key
    · have hnone : lastFor (fun item => some (keyOf item)) rest key = none := by
        rw [← ih hrest, List.find?_eq_none]
        intro other hother hsame
        rw [decide_eq_true_eq] at hsame
        exact hapart other hother item (List.mem_singleton_self item) (hsame.trans hkey.symm)
      simp [hnone, hkey]
    · simp [hkey]

theorem filter_key_eq_singleton {keyOf : ι → κ} {items : List ι}
    (h : items.Pairwise fun a b => keyOf a ≠ keyOf b) {item : ι} (hitem : item ∈ items) :
    items.filter (fun other => keyOf other = keyOf item) = [item] := by
  induction items with
  | nil => cases hitem
  | cons first rest ih =>
    obtain ⟨hfirst, hrest⟩ := List.pairwise_cons.1 h
    rcases List.mem_cons.1 hitem with rfl | hmem
    · have hnone : rest.filter (fun other => keyOf other = keyOf item) = [] := by
        rw [List.filter_eq_nil_iff]
        intro other hother hsame
        exact hfirst other hother (of_decide_eq_true hsame).symm
      rw [List.filter_cons_of_pos (by simp), hnone]
    · rw [List.filter_cons_of_neg (by simpa using hfirst item hmem)]
      exact ih hrest hmem

end Last

variable [Ord κ] [TransOrd κ] [LawfulEqOrd κ] [DecidableEq κ]

theorem getElem?_foldl_insert {σ : Type} {step : σ → ι → σ} (table : σ → TreeMap κ υ)
    (keyOf : ι → Option κ) (valueOf : κ → ι → υ)
    (hstep : ∀ state item, table (step state item) =
      (keyOf item).elim (table state) fun key => (table state).insert key (valueOf key item))
    (items : List ι) (state : σ) (key : κ) :
    (table (items.foldl step state))[key]? =
      ((lastFor keyOf items key).map (valueOf key)).or (table state)[key]? := by
  induction items using List.reverseRecOn with
  | nil => rfl
  | append_singleton rest item ih =>
    rw [List.foldl_append, List.foldl_cons, List.foldl_nil, hstep, lastFor_append_singleton]
    cases hkey : keyOf item with
    | none => simp [ih]
    | some other =>
      rw [Option.elim_some, TreeMap.getElem?_insert]
      by_cases hsame : other = key
      · simp [hsame]
      · have hcompare : compare other key ≠ .eq := fun heq => hsame (LawfulEqOrd.eq_of_compare heq)
        simp [hsame, hcompare, ih]

theorem getElem?_foldl_keep {σ : Type} {step : σ → ι → σ} (table : σ → TreeMap κ υ)
    (keyOf : ι → κ) (valueOf : ι → υ)
    (hstep : ∀ state item, table (step state item) =
      (table state).insert (keyOf item) (((table state)[keyOf item]?).getD (valueOf item)))
    (items : List ι) (state : σ) (key : κ) :
    (table (items.foldl step state))[key]? =
      (table state)[key]?.or ((items.find? fun item => keyOf item = key).map valueOf) := by
  induction items generalizing state with
  | nil => simp
  | cons item rest ih =>
    rw [List.foldl_cons, ih, hstep, TreeMap.getElem?_insert, List.find?_cons]
    by_cases hsame : keyOf item = key
    · cases htable : (table state)[key]? with
      | none => simp [hsame, htable]
      | some value => simp [hsame, htable]
    · have hcompare : compare (keyOf item) key ≠ .eq :=
        fun heq => hsame (LawfulEqOrd.eq_of_compare heq)
      simp [hsame, hcompare]

end QuipNet.Library
