import QuipNet.Library.Effect

/-!
# Loops over independent items

A loop `items.foldlM f` whose body works on one item at a time. When the items are
pairwise independent, an item that was ready when the loop began is ready when its
turn comes, and what its turn achieved is still there at the end. A loop that
fails has an item that failed, and nothing after that item was touched; one that
succeeds and logs has logged an entry for each item. A loop that collects results
needs no state, and the last result is about pure steps and the states between them.
-/

namespace QuipNet.Library.Effect

variable {ε σ α β : Type} {f : β → α → EStateM ε σ β}

theorem foldlM_append_of_error {first rest : List α} {b : β} {s s' : σ} {e : ε}
    (h : first.foldlM f b s = .error e s') : (first ++ rest).foldlM f b s = .error e s' := by
  rw [List.foldlM_append]
  exact bind_of_error h

theorem Moves.foldlM_mem {R : σ → σ → Prop} [IsPreorder σ R] {items : List α}
    (hf : ∀ b, ∀ a ∈ items, Moves R (f b a)) (b : β) : Moves R (items.foldlM f b) := by
  induction items generalizing b with
  | nil => exact Moves.pure b
  | cons a rest ih =>
    apply Moves.bind (hf b a List.mem_cons_self)
    intro b'
    exact ih (fun b a ha => hf b a (List.mem_cons_of_mem _ ha)) b'

theorem Moves.mapM {R : σ → σ → Prop} [IsPreorder σ R] {g : α → EStateM ε σ β}
    (hg : ∀ a, Moves R (g a)) (items : List α) : Moves R (items.mapM g) := by
  induction items with
  | nil => exact Moves.pure []
  | cons a rest ih =>
    rw [List.mapM_cons]
    refine Moves.bind (hg a) fun b => ?_
    exact Moves.bind ih fun results => Moves.pure _

theorem foldlM_keeps {P : σ → Prop} {items : List α}
    (hf : ∀ b, ∀ a ∈ items, ∀ s, P s → P (final (f b a) s)) (b : β) {s : σ} (hs : P s) :
    P (final (items.foldlM f b) s) := by
  have : IsPreorder σ fun s₁ s₂ => P s₁ → P s₂ :=
    { refl := fun _ h => h, trans := fun _ _ _ h₁ h₂ h => h₂ (h₁ h) }
  have hmoves : Moves (fun s₁ s₂ => P s₁ → P s₂) (items.foldlM f b) := Moves.foldlM_mem hf b
  exact hmoves s hs

theorem Returns.foldlM {P : β → Prop} (hf : ∀ b a, P b → Returns P (f b a)) (items : List α) {b : β}
    (hb : P b) : Returns P (items.foldlM f b) := by
  induction items generalizing b with
  | nil => exact Returns.pure hb
  | cons a rest ih =>
    intro s b'' s'' h
    obtain ⟨b', s', hfirst, hrest⟩ := bind_eq_ok h
    exact ih (hf b a hb s b' s' hfirst) s' b'' s'' hrest

section Independent
variable {D : α → α → Prop} {Ready Done : α → σ → Prop}

/-- How a loop over independent items ends: every item is done, or one failed
when it was its turn, those before it are done and those after it still ready. -/
theorem foldlM_cases
    (hdone : ∀ a b s b' s', Ready a s → f b a s = .ok b' s' → Done a s')
    (hready : ∀ a a', D a a' → ∀ b s, Ready a' s → Ready a' (final (f b a) s))
    (hkept : ∀ a a', D a a' → ∀ b s, Done a s → Done a (final (f b a') s))
    {items : List α} (hitems : items.Pairwise D) (b : β) (s : σ) (hs : ∀ a ∈ items, Ready a s) :
    (∃ b' s', items.foldlM f b s = .ok b' s' ∧ ∀ a ∈ items, Done a s') ∨
      ∃ done a rest e s', items = done ++ a :: rest ∧ items.foldlM f b s = .error e s' ∧
        (∀ x ∈ done, Done x s') ∧ (∀ x ∈ rest, Ready x s') ∧
        ∃ b₁ s₁, Ready a s₁ ∧ f b₁ a s₁ = .error e s' := by
  induction items generalizing b s with
  | nil => exact .inl ⟨b, s, rfl, by simp⟩
  | cons a rest ih =>
    have ha := hs a List.mem_cons_self
    obtain ⟨hindependent, hrest⟩ := List.pairwise_cons.1 hitems
    have hreadyRest : ∀ x ∈ rest, Ready x (final (f b a) s) := fun x hx =>
      hready a x (hindependent x hx) b s (hs x (List.mem_cons_of_mem _ hx))
    cases hrun : f b a s with
    | error e s' =>
      rw [final_of_error hrun] at hreadyRest
      exact .inr ⟨[], a, rest, e, s', rfl, bind_of_error hrun, by simp, hreadyRest, b, s, ha, hrun⟩
    | ok b' s' =>
      rw [final_of_ok hrun] at hreadyRest
      have hfirst : (a :: rest).foldlM f b s = rest.foldlM f b' s' := bind_of_ok hrun
      -- the first item stays done while the rest of the loop runs
      have hdoneFirst := foldlM_keeps (fun b₁ x hx => hkept a x (hindependent x hx) b₁) b'
        (hdone a b s b' s' ha hrun)
      rcases ih hrest b' s' hreadyRest with
        ⟨b'', s'', hok, hall⟩ | ⟨done, x, tail, e, s'', rfl, herror, hall, htail, hfailed⟩
      · rw [final_of_ok hok] at hdoneFirst
        refine .inl ⟨b'', s'', hfirst.trans hok, ?_⟩
        simpa using ⟨hdoneFirst, hall⟩
      · rw [final_of_error herror] at hdoneFirst
        refine .inr ⟨a :: done, x, tail, e, s'', rfl, hfirst.trans herror, ?_, htail, hfailed⟩
        simpa using ⟨hdoneFirst, hall⟩

theorem foldlM_logs {γ : Type} (log : β → List γ) (Inv : β → Prop) (Ready : α → σ → Prop)
    (Logged : α → γ → σ → Prop)
    (hturn : ∀ a b s b' s', Inv b → Ready a s → f b a s = .ok b' s' →
      Inv b' ∧ ∃ entry, log b' = log b ++ [entry] ∧ Logged a entry s')
    (hready : ∀ a a', D a a' → ∀ b s, Ready a' s → Ready a' (final (f b a) s))
    (hkept : ∀ a a', D a a' → ∀ entry b s, Logged a entry s → Logged a entry (final (f b a') s))
    {items : List α} (hitems : items.Pairwise D) {b b' : β} {s s' : σ} (hb : Inv b)
    (hs : ∀ a ∈ items, Ready a s) (h : items.foldlM f b s = .ok b' s') :
    Inv b' ∧ ∃ entries, log b' = log b ++ entries ∧
      List.Forall₂ (fun a entry => Logged a entry s') items entries := by
  induction items generalizing b s with
  | nil =>
    cases h
    exact ⟨hb, [], (List.append_nil _).symm, .nil⟩
  | cons a rest ih =>
    obtain ⟨b₁, s₁, hfirst, hrest⟩ := bind_eq_ok h
    obtain ⟨hindependent, hpairs⟩ := List.pairwise_cons.1 hitems
    obtain ⟨hb₁, entry, hentry, hlogged⟩ :=
      hturn a b s b₁ s₁ hb (hs a List.mem_cons_self) hfirst
    have hs₁ : ∀ x ∈ rest, Ready x s₁ := by
      intro x hx
      have hstill := hready a x (hindependent x hx) b s (hs x (List.mem_cons_of_mem _ hx))
      rwa [final_of_ok hfirst] at hstill
    have hlast := foldlM_keeps (fun b₂ x hx => hkept a x (hindependent x hx) entry b₂) b₁ hlogged
    rw [final_of_ok hrest] at hlast
    obtain ⟨hb', entries, hentries, hall⟩ := ih hpairs hb₁ hs₁ hrest
    refine ⟨hb', entry :: entries, ?_, .cons hlast hall⟩
    rw [hentries, hentry, List.append_assoc]
    rfl

end Independent

theorem exists_mem_of_forall₂ {γ : Type} {R : α → γ → Prop} {items : List α} {entries : List γ}
    (h : List.Forall₂ R items entries) : ∀ entry ∈ entries, ∃ item ∈ items, R item entry := by
  induction h with
  | nil => simp
  | cons hfirst _ ih =>
    intro entry hentry
    rcases List.mem_cons.1 hentry with rfl | hlater
    · exact ⟨_, List.mem_cons_self, hfirst⟩
    · obtain ⟨item, hitem, hrest⟩ := ih entry hlater
      exact ⟨item, List.mem_cons_of_mem _ hitem, hrest⟩

theorem exists_mem_of_forall₂' {γ : Type} {R : α → γ → Prop} {items : List α} {entries : List γ}
    (h : List.Forall₂ R items entries) : ∀ item ∈ items, ∃ entry ∈ entries, R item entry :=
  exists_mem_of_forall₂ h.flip

theorem mapM_eq_ok_iff {g : α → Except ε β} {items : List α} {results : List β} :
    items.mapM g = .ok results ↔
      List.Forall₂ (fun item result => g item = .ok result) items results := by
  induction items generalizing results with
  | nil =>
    rw [List.mapM_nil, List.forall₂_nil_left_iff]
    exact ⟨fun h => by cases h; rfl, fun h => by rw [h]; rfl⟩
  | cons item rest ih =>
    rw [List.mapM_cons, List.forall₂_cons_left_iff]
    constructor
    · intro h
      obtain ⟨result, hitem, h⟩ := except_bind_eq_ok h
      obtain ⟨collected, hrest, h⟩ := except_bind_eq_ok h
      cases h
      exact ⟨result, collected, hitem, ih.1 hrest, rfl⟩
    · rintro ⟨result, collected, hitem, hrest, rfl⟩
      rw [hitem, ih.2 hrest]
      rfl

theorem mapM_isOk_iff {g : α → Except ε β} {items : List α} :
    (∃ results, items.mapM g = .ok results) ↔ ∀ item ∈ items, ∃ result, g item = .ok result := by
  simp only [mapM_eq_ok_iff]
  induction items with
  | nil => simp
  | cons item rest ih =>
    simp only [List.forall₂_cons_left_iff, List.forall_mem_cons, ← ih]
    constructor
    · rintro ⟨-, result, results, hitem, hrest, rfl⟩
      exact ⟨⟨result, hitem⟩, results, hrest⟩
    · rintro ⟨⟨result, hitem⟩, results, hrest⟩
      exact ⟨result :: results, result, results, hitem, hrest, rfl⟩

/-- Where a step keeps the invariant exactly when it is allowed, a run keeps it
throughout exactly when each of its steps is allowed in the state it starts from. -/
theorem forall_prefix_foldl_iff {step : σ → α → σ} {Inv : σ → Prop} {Allowed : σ → α → Prop}
    (hstep : ∀ s a, Inv s → (Inv (step s a) ↔ Allowed s a)) {s : σ} (hs : Inv s) (items : List α) :
    (∀ done, done <+: items → Inv (done.foldl step s)) ↔
      ∀ done a, done ++ [a] <+: items → Allowed (done.foldl step s) a := by
  constructor
  · intro hinv done a hdone
    have hbefore := hinv done ((List.prefix_append done [a]).trans hdone)
    have hafter := hinv (done ++ [a]) hdone
    rw [List.foldl_concat] at hafter
    exact (hstep _ a hbefore).1 hafter
  · intro hallowed done
    induction done using List.reverseRecOn with
    | nil => exact fun _ => hs
    | append_singleton done a ih =>
      intro hdone
      rw [List.foldl_concat]
      have hbefore := ih ((List.prefix_append done [a]).trans hdone)
      exact (hstep _ a hbefore).2 (hallowed done a hdone)

end QuipNet.Library.Effect
