import Mathlib

/-!
# The first item of least cost

A choice by cost alone meets a further condition exactly when every item that fails the
condition is outdone by one that meets it: by a cheaper item, or by an earlier one that
costs the same.
-/

namespace QuipNet.Library

variable {α β : Type} [LinearOrder β] {f : α → β} {items : List α}

/-- The items before the chosen one cost more, and those after it no less. -/
theorem argmin_split {first : α} (h : items.argmin f = some first) :
    ∃ before after, items = before ++ first :: after ∧ (∀ item ∈ before, f first < f item) ∧
      ∀ item ∈ after, f first ≤ f item := by
  induction items with
  | nil => cases h
  | cons head tail ih =>
    rw [List.argmin_cons] at h
    cases htail : tail.argmin f with
    | none =>
      rw [htail] at h
      cases h
      rw [List.argmin_eq_none] at htail
      exact ⟨[], [], by rw [htail]; rfl, by simp, by simp⟩
    | some least =>
      rw [htail] at h
      dsimp only at h
      split_ifs at h with hcheaper
      · cases h
        obtain ⟨before, after, rfl, hbefore, hafter⟩ := ih htail
        refine ⟨head :: before, after, rfl, ?_, hafter⟩
        intro item hitem
        rcases List.mem_cons.1 hitem with rfl | hitem
        · exact hcheaper
        · exact hbefore item hitem
      · cases h
        refine ⟨[], tail, rfl, by simp, ?_⟩
        intro item hitem
        exact (not_lt.1 hcheaper).trans (List.le_of_mem_argmin hitem htail)

/-- `first` meets `p` and costs least among those that do; the ones before it cost more. -/
def LeadsWhere (p : α → Bool) (f : α → β) (items : List α) (first : α) : Prop :=
  ∃ before after, items = before ++ first :: after ∧ p first = true ∧
    (∀ item ∈ before, p item = true → f first < f item) ∧
    ∀ item ∈ after, p item = true → f first ≤ f item

section Leads
variable {p : α → Bool}

theorem leadsWhere_of_argmin {first : α} (h : (items.filter p).argmin f = some first) :
    LeadsWhere p f items first := by
  obtain ⟨cheaper, rest, hsplit, hcheaper, hrest⟩ := argmin_split h
  obtain ⟨before, middle, rfl, rfl, hmiddle⟩ := List.filter_eq_append_iff.1 hsplit
  obtain ⟨skipped, after, rfl, hskipped, hfirst, rfl⟩ := List.filter_eq_cons_iff.1 hmiddle
  refine ⟨before ++ skipped, after, by rw [List.append_assoc], hfirst, ?_, ?_⟩
  · intro item hitem hp
    rcases List.mem_append.1 hitem with hbefore | hskip
    · exact hcheaper item (List.mem_filter.2 ⟨hbefore, hp⟩)
    · exact absurd hp (hskipped item hskip)
  · intro item hitem hp
    exact hrest item (List.mem_filter.2 ⟨hitem, hp⟩)

theorem LeadsWhere.mono {g : α → β} {first : α} (h : LeadsWhere p f items first)
    (hfirst : g first = f first) (hle : ∀ item ∈ items, p item = true → f item ≤ g item) :
    LeadsWhere p g items first := by
  obtain ⟨before, after, rfl, hp, hbefore, hafter⟩ := h
  refine ⟨before, after, rfl, hp, ?_, ?_⟩
  · intro item hitem hmeets
    rw [hfirst]
    exact (hbefore item hitem hmeets).trans_le (hle item (by simp [hitem]) hmeets)
  · intro item hitem hmeets
    rw [hfirst]
    exact (hafter item hitem hmeets).trans (hle item (by simp [hitem]) hmeets)

theorem LeadsWhere.mem {first : α} (h : LeadsWhere p f items first) :
    first ∈ items ∧ p first = true := by
  obtain ⟨before, after, rfl, hp, -⟩ := h
  exact ⟨by simp, hp⟩

theorem LeadsWhere.congr {g : α → β} {first : α}
    (h : ∀ item ∈ items, p item = true → f item = g item) :
    LeadsWhere p f items first ↔ LeadsWhere p g items first := by
  constructor
  · intro hleads
    have hsame := h first hleads.mem.1 hleads.mem.2
    exact hleads.mono hsame.symm fun item hitem hmeets => (h item hitem hmeets).le
  · intro hleads
    have hsame := h first hleads.mem.1 hleads.mem.2
    exact hleads.mono hsame fun item hitem hmeets => (h item hitem hmeets).ge

theorem LeadsWhere.unique {first first' : α} (h : LeadsWhere p f items first)
    (h' : LeadsWhere p f items first') : first = first' := by
  obtain ⟨before, after, rfl, hfirst, hbefore, hafter⟩ := h
  obtain ⟨before', after', hsplit, hfirst', hbefore', hafter'⟩ := h'
  rcases List.append_eq_append_iff.1 hsplit with ⟨between, hbetween, htail⟩ | ⟨between, hbetween, htail⟩
  · cases between with
    | nil => exact (List.cons.inj htail).1
    | cons middle between =>
      obtain ⟨rfl, hrest⟩ := List.cons.inj htail
      have hcheaper := hbefore' first (by rw [hbetween]; simp) hfirst
      have hdearer := hafter first' (by rw [hrest]; simp) hfirst'
      exact absurd hcheaper (not_lt.2 hdearer)
  · cases between with
    | nil => exact (List.cons.inj htail).1.symm
    | cons middle between =>
      obtain ⟨rfl, hrest⟩ := List.cons.inj htail
      have hcheaper := hbefore first' (by rw [hbetween]; simp) hfirst'
      have hdearer := hafter' first (by rw [hrest]; simp) hfirst
      exact absurd hcheaper (not_lt.2 hdearer)

theorem argmin_filter_iff {first : α} :
    (items.filter p).argmin f = some first ↔ LeadsWhere p f items first := by
  constructor
  · exact leadsWhere_of_argmin
  · intro h
    have hmem : first ∈ items.filter p := List.mem_filter.2 h.mem
    cases hleast : (items.filter p).argmin f with
    | none =>
      rw [List.argmin_eq_none.1 hleast] at hmem
      cases hmem
    | some least => rw [(leadsWhere_of_argmin hleast).unique h]

end Leads

def OutdoesOthers (f : α → β) (P : α → Prop) (items : List α) : Prop :=
  ∀ before item after, items = before ++ item :: after → ¬ P item →
    (∃ other ∈ before, P other ∧ f other ≤ f item) ∨ ∃ other ∈ after, P other ∧ f other < f item

theorem exists_argmin_iff {P : α → Prop} (hexists : ∃ item ∈ items, P item) :
    (∃ first, items.argmin f = some first ∧ P first) ↔ OutdoesOthers f P items := by
  constructor
  · intro ⟨first, hfirst, hmeets⟩ before item after hitems hfails
    obtain ⟨cheaper, rest, hsplit, hcheaper, hrest⟩ := argmin_split hfirst
    rw [hitems] at hsplit
    rcases List.append_eq_append_iff.1 hsplit with ⟨between, hbetween, htail⟩ | ⟨between, hbetween, htail⟩
    · cases between with
      | nil =>
        cases htail
        exact absurd hmeets hfails
      | cons middle between =>
        cases htail
        right
        refine ⟨first, List.mem_append_right _ List.mem_cons_self, hmeets, hcheaper _ ?_⟩
        rw [hbetween]
        exact List.mem_append_right _ List.mem_cons_self
    · cases between with
      | nil =>
        cases htail
        exact absurd hmeets hfails
      | cons middle between =>
        cases htail
        left
        refine ⟨first, ?_, hmeets, hrest _ (List.mem_append_right _ List.mem_cons_self)⟩
        rw [hbetween]
        exact List.mem_append_right _ List.mem_cons_self
  · intro houtdoes
    obtain ⟨some', hsome, -⟩ := hexists
    cases hfirst : items.argmin f with
    | none =>
      rw [List.argmin_eq_none] at hfirst
      rw [hfirst] at hsome
      cases hsome
    | some first =>
      refine ⟨first, rfl, ?_⟩
      by_contra hfails
      obtain ⟨before, after, hsplit, hbefore, hafter⟩ := argmin_split hfirst
      rcases houtdoes before first after hsplit hfails with
        ⟨other, hother, -, hcost⟩ | ⟨other, hother, -, hcost⟩
      · exact absurd hcost (not_le.2 (hbefore other hother))
      · exact absurd hcost (not_lt.2 (hafter other hother))

end QuipNet.Library
