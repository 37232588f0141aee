import QuipNet.Authority
import QuipNet.Library.Loop

/-!
# Bootstrap hints along runs of the authority

`upsert_bootstrap_hint` compares two named hints by their peers and any other two by their
addresses. An anonymous hint with the right addresses is then replaced by a named one although
the peer has a hint further on, and the peer is in the list twice.
-/

namespace QuipNet.Authority
open QuipNet.Control QuipNet.Library QuipNet.Library.Effect

/-- No two hints of the list name the same peer. -/
def Apart (hints : List BootstrapHint) : Prop :=
  hints.Pairwise fun earlier later => ∀ peer, earlier.peerId = some peer → later.peerId ≠ some peer

/-- No anonymous hint with the addresses of `hint` stands before a hint of its peer. -/
def Unshadowed (hints : List BootstrapHint) (hint : BootstrapHint) : Prop :=
  ∀ peer, hint.peerId = some peer → hints.Pairwise fun earlier later =>
    later.peerId = some peer → earlier.peerId = none → earlier.addresses ≠ hint.addresses

def hintsAfter (upserts : List BootstrapHint) : List BootstrapHint :=
  upserts.foldl upsertBootstrapHint []

def Replaces (hints : List BootstrapHint) (hint held : BootstrapHint) : Prop :=
  hints.find? (fun existing => sameEndpoint existing hint) = some held

/-- After these upserts the list is keyed by peer: the last hint upserted for a peer is the one
that the list holds for it, unless a later upsert replaced it. -/
structure KeyedByPeer (upserts : List BootstrapHint) : Prop where
  apart : Apart (hintsAfter upserts)
  last : ∀ earlier hint later peer, upserts = earlier ++ hint :: later → hint.peerId = some peer →
    (∀ other ∈ later, other.peerId ≠ some peer) →
      (∀ held ∈ hintsAfter upserts, held.peerId = some peer → held = hint) ∧
      (hint ∈ hintsAfter upserts ∨ ∃ between other rest, later = between ++ other :: rest ∧
        Replaces (hintsAfter (earlier ++ hint :: between)) other hint)

section Step
variable {hints : List BootstrapHint} {hint : BootstrapHint} {peer : PeerId}

theorem distinct_symm {earlier later : BootstrapHint}
    (h : ∀ peer, earlier.peerId = some peer → later.peerId ≠ some peer) :
    ∀ peer, later.peerId = some peer → earlier.peerId ≠ some peer :=
  fun peer hlater hearlier => h peer hearlier hlater

theorem Apart.eq_of_mem (h : Apart hints) {held held' : BootstrapHint} (hheld : held ∈ hints)
    (hheld' : held' ∈ hints) (hpeer : held.peerId = some peer) (hpeer' : held'.peerId = some peer) :
    held = held' := by
  by_contra hne
  have hsymm : Std.Symm fun earlier later : BootstrapHint =>
      ∀ peer, earlier.peerId = some peer → later.peerId ≠ some peer := ⟨fun _ _ => distinct_symm⟩
  exact List.Pairwise.forall h hheld hheld' hne peer hpeer hpeer'

theorem sameEndpoint_iff (hpeer : hint.peerId = some peer) (existing : BootstrapHint) :
    sameEndpoint existing hint = true ↔ existing.peerId = some peer ∨
      existing.peerId = none ∧ existing.addresses = hint.addresses := by
  unfold sameEndpoint
  cases hexisting : existing.peerId <;> simp [hpeer]

theorem unnamed_of_unmatched (hpeer : hint.peerId = some peer)
    (hunmatched : ∀ existing ∈ hints, ¬ sameEndpoint existing hint = true) :
    ∀ existing ∈ hints, existing.peerId ≠ some peer := by
  intro existing hexisting hsame
  exact hunmatched existing hexisting ((sameEndpoint_iff hpeer existing).2 (.inl hsame))

theorem unshadowed_of_unnamed (hpeer : hint.peerId = some peer)
    (hunnamed : ∀ existing ∈ hints, existing.peerId ≠ some peer) : Unshadowed hints hint := by
  intro other hother
  rw [hpeer, Option.some.injEq] at hother
  subst hother
  exact List.pairwise_of_forall_mem_list fun _ _ later hlater hsame =>
    absurd hsame (hunnamed later hlater)

section Found
variable {before after : List BootstrapHint} {found : BootstrapHint}

theorem apart_insert_iff (hrest : Apart (before ++ after)) :
    Apart (before ++ hint :: after) ↔ ∀ other ∈ before ++ after, ∀ peer,
      hint.peerId = some peer → other.peerId ≠ some peer := by
  rw [Apart, List.pairwise_middle distinct_symm, List.pairwise_cons]
  exact and_iff_left hrest

/-- The first match is the peer's own hint, or it is anonymous; what decides is whether the peer
has a hint after it. -/
theorem unshadowed_found_iff (hapart : Apart (before ++ found :: after))
    (hpeer : hint.peerId = some peer) (hfound : sameEndpoint found hint = true)
    (hbefore : ∀ existing ∈ before, ¬ sameEndpoint existing hint = true) :
    Unshadowed (before ++ found :: after) hint ↔ ∀ later ∈ after, later.peerId ≠ some peer := by
  constructor
  · intro hclear later hlater hsame
    rcases (sameEndpoint_iff hpeer found).1 hfound with hnamed | ⟨hnone, haddresses⟩
    · have hdistinct := (List.pairwise_cons.1 (List.pairwise_append.1 hapart).2.1).1 later hlater
      exact hdistinct peer hnamed hsame
    · have hpairs := (List.pairwise_append.1 (hclear peer hpeer)).2.1
      exact (List.pairwise_cons.1 hpairs).1 later hlater hsame hnone haddresses
  · intro hafter other hother
    obtain rfl : peer = other := Option.some.inj (hpeer.symm.trans hother)
    have hfirst := unshadowed_of_unnamed hpeer (unnamed_of_unmatched hpeer hbefore) peer hpeer
    have hrest := unshadowed_of_unnamed hpeer hafter peer hpeer
    refine List.pairwise_append.2 ⟨hfirst, List.pairwise_cons.2 ⟨?_, hrest⟩, ?_⟩
    · intro later hlater hsame
      exact absurd hsame (hafter later hlater)
    · intro earlier hearlier _ _ _ hnone haddresses
      exact hbefore earlier hearlier ((sameEndpoint_iff hpeer earlier).2 (.inr ⟨hnone, haddresses⟩))

end Found

theorem apart_upsert_iff (h : Apart hints) :
    Apart (upsertBootstrapHint hints hint) ↔ Unshadowed hints hint := by
  unfold upsertBootstrapHint
  rcases upsert_cases (fun existing => sameEndpoint existing hint) hint hints with
    ⟨hnone, hupsert⟩ | ⟨before, found, after, rfl, -, hfound, hbefore, hupsert⟩
  · rw [hupsert, apart_insert_iff (by rwa [List.append_nil]), List.append_nil]
    have hunmatched := List.find?_eq_none.1 hnone
    cases hpeer : hint.peerId with
    | none => simp [Unshadowed, hpeer]
    | some peer =>
      have hunnamed := unnamed_of_unmatched hpeer hunmatched
      refine iff_of_true ?_ (unshadowed_of_unnamed hpeer hunnamed)
      rintro other hother _ ⟨⟩
      exact hunnamed other hother
  · have hrest : Apart (before ++ after) :=
      h.sublist ((List.sublist_cons_self found after).append_left before)
    rw [hupsert, apart_insert_iff hrest]
    cases hpeer : hint.peerId with
    | none => simp [Unshadowed, hpeer]
    | some peer =>
      rw [unshadowed_found_iff h hpeer hfound hbefore]
      have hunnamed := unnamed_of_unmatched hpeer hbefore
      constructor
      · intro hall later hlater
        exact hall later (List.mem_append_right before hlater) peer rfl
      · rintro hafter other hother _ ⟨⟩
        exact (List.mem_append.1 hother).elim (hunnamed other) (hafter other)

end Step

section Runs
variable {earlier later : List BootstrapHint} {hint : BootstrapHint}

theorem hintsAfter_concat (upserts : List BootstrapHint) (hint : BootstrapHint) :
    hintsAfter (upserts ++ [hint]) = upsertBootstrapHint (hintsAfter upserts) hint :=
  List.foldl_concat _ _ _ _

theorem held_or_replaced (earlier : List BootstrapHint) (hint : BootstrapHint)
    (later : List BootstrapHint) :
    hint ∈ hintsAfter (earlier ++ hint :: later) ∨ ∃ between other rest,
      later = between ++ other :: rest ∧
        Replaces (hintsAfter (earlier ++ hint :: between)) other hint := by
  induction later using List.reverseRecOn with
  | nil =>
    left
    rw [hintsAfter_concat]
    exact mem_upsert_self _ hint _
  | append_singleton later last ih =>
    rcases ih with hheld | ⟨between, other, rest, rfl, hreplaced⟩
    · by_cases hreplaced : Replaces (hintsAfter (earlier ++ hint :: later)) last hint
      · exact .inr ⟨later, last, [], rfl, hreplaced⟩
      · left
        rw [← List.cons_append, ← List.append_assoc, hintsAfter_concat]
        exact mem_upsert_of_find?_ne last hheld hreplaced
    · exact .inr ⟨between, other, rest ++ [last], by simp, hreplaced⟩

theorem held_eq_last {peer : PeerId} (hapart : Apart (hintsAfter (earlier ++ [hint])))
    (hpeer : hint.peerId = some peer) (hlater : ∀ other ∈ later, other.peerId ≠ some peer) :
    ∀ held ∈ hintsAfter (earlier ++ hint :: later), held.peerId = some peer → held = hint := by
  induction later using List.reverseRecOn with
  | nil =>
    intro held hheld hsame
    refine hapart.eq_of_mem hheld ?_ hsame hpeer
    rw [hintsAfter_concat]
    exact mem_upsert_self _ hint _
  | append_singleton later last ih =>
    intro held hheld hsame
    rw [← List.cons_append, ← List.append_assoc, hintsAfter_concat] at hheld
    rcases mem_upsert hheld with rfl | hold
    · exact absurd hsame (hlater held (by simp))
    · exact ih (fun other hother => hlater other (List.mem_append_left _ hother)) held hold hsame

theorem keyedByPeer_of_apart {upserts : List BootstrapHint}
    (h : ∀ done, done <+: upserts → Apart (hintsAfter done)) : KeyedByPeer upserts where
  apart := h upserts (List.prefix_refl upserts)
  last := by
    rintro earlier hint later peer rfl hpeer hlater
    have hprefix : earlier ++ [hint] <+: earlier ++ hint :: later := ⟨later, by simp⟩
    exact ⟨held_eq_last (h _ hprefix) hpeer hlater, held_or_replaced earlier hint later⟩

/-- The list is keyed by peer all along exactly when no upsert meets an anonymous hint with its
addresses before the hint of its peer. -/
theorem bootstrap_hints_keyed_iff (upserts : List BootstrapHint) :
    (∀ done, done <+: upserts → KeyedByPeer done) ↔
      ∀ done hint, done ++ [hint] <+: upserts → Unshadowed (hintsAfter done) hint := by
  have hstep : ∀ hints hint, Apart hints →
      (Apart (upsertBootstrapHint hints hint) ↔ Unshadowed hints hint) :=
    fun _ _ => apart_upsert_iff
  have hempty : Apart [] := List.Pairwise.nil
  have hruns : (∀ done, done <+: upserts → Apart (hintsAfter done)) ↔
      ∀ done hint, done ++ [hint] <+: upserts → Unshadowed (hintsAfter done) hint :=
    forall_prefix_foldl_iff hstep hempty upserts
  rw [← hruns]
  constructor
  · intro hkeyed done hdone
    exact (hkeyed done hdone).apart
  · intro hapart done hdone
    exact keyedByPeer_of_apart fun first hfirst => hapart first (hfirst.trans hdone)

end Runs

section Closed

def hintAt (peerId : Option PeerId) (address : String) : BootstrapHint := ⟨peerId, [address], ∅⟩

/-- The third upsert takes the place of the anonymous hint, and the peer keeps its old one. -/
theorem peer_upserted_twice :
    let upserts := [hintAt none "https://x:8443", hintAt (some ⟨[1]⟩) "https://y:8443",
      hintAt (some ⟨[1]⟩) "https://x:8443"]
    ¬ KeyedByPeer upserts := by
  intro upserts hkeyed
  have hlist : hintsAfter upserts = [hintAt (some ⟨[1]⟩) "https://x:8443",
      hintAt (some ⟨[1]⟩) "https://y:8443"] := rfl
  have hapart := hkeyed.apart
  rw [hlist] at hapart
  exact (List.pairwise_cons.1 hapart).1 _ (List.mem_singleton_self _) ⟨[1]⟩ rfl rfl

end Closed

end QuipNet.Authority
