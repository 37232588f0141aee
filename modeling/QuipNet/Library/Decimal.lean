import Mathlib

/-!
# Decimal numbers of a fixed width

The digits of a number after as many zeros as the width asks for. Numbers of one width are
ordered as their texts are, whatever follows.
-/

namespace QuipNet.Library

/-- The last `width` decimal digits of `n`. -/
def fixedDigits : ℕ → ℕ → List Char
  | 0, _ => []
  | width + 1, n => fixedDigits width (n / 10) ++ [Nat.digitChar (n % 10)]

@[simp] theorem length_fixedDigits (width n : ℕ) : (fixedDigits width n).length = width := by
  induction width generalizing n with
  | zero => rfl
  | succ width ih => simp [fixedDigits, ih]

theorem fixedDigits_zero (width : ℕ) : fixedDigits width 0 = List.replicate width '0' := by
  induction width with
  | zero => rfl
  | succ width ih =>
    rw [fixedDigits, Nat.zero_div, ih, List.replicate_succ']
    rfl

theorem fixedDigits_eq_padded {width n : ℕ} (hwidth : 0 < width) (hn : n < 10 ^ width) :
    fixedDigits width n =
      List.replicate (width - (Nat.toDigits 10 n).length) '0' ++ Nat.toDigits 10 n := by
  induction width generalizing n with
  | zero => exact absurd hwidth (lt_irrefl 0)
  | succ width ih =>
    rw [fixedDigits, Nat.toDigits_eq_if (by decide)]
    split_ifs with hsmall
    · rw [Nat.div_eq_of_lt hsmall, Nat.mod_eq_of_lt hsmall, fixedDigits_zero]
      rfl
    · have hquotient : n / 10 < 10 ^ width := by
        rw [pow_succ] at hn
        exact Nat.div_lt_of_lt_mul (by rwa [Nat.mul_comm])
      have hpos : 0 < width := by
        rcases Nat.eq_zero_or_pos width with rfl | hpos
        · omega
        · exact hpos
      rw [ih hpos hquotient, List.length_append, List.length_singleton, Nat.add_sub_add_right,
        List.append_assoc]

theorem digitChar_lt_digitChar {m n : ℕ} (h : m < n) (hn : n < 10) :
    Nat.digitChar m < Nat.digitChar n := by
  change (Nat.digitChar m).toNat < (Nat.digitChar n).toNat
  rw [Nat.toNat_digitChar_of_lt_ten (h.trans hn), Nat.toNat_digitChar_of_lt_ten hn]
  exact Nat.add_lt_add_left h _

section Order
variable {a b c d : List Char}

theorem append_lt_append_of_lt (hlength : a.length = b.length) (h : a < b) : a ++ c < b ++ d := by
  induction a generalizing b with
  | nil =>
    rw [List.length_nil, eq_comm, List.length_eq_zero_iff] at hlength
    subst hlength
    exact absurd h (lt_irrefl _)
  | cons first rest ih =>
    cases b with
    | nil => cases hlength
    | cons first' rest' =>
      simp only [List.cons_append, List.cons_lt_cons_iff] at h ⊢
      refine h.imp id fun ⟨hfirst, hrest⟩ => ⟨hfirst, ih (Nat.succ.inj hlength) hrest⟩

theorem fixedDigits_lt {width m n : ℕ} (h : m < n) (hn : n < 10 ^ width) :
    fixedDigits width m < fixedDigits width n := by
  induction width generalizing m n with
  | zero => omega
  | succ width ih =>
    have hquotient : n / 10 < 10 ^ width := by
      rw [pow_succ] at hn
      exact Nat.div_lt_of_lt_mul (by rwa [Nat.mul_comm])
    unfold fixedDigits
    rcases Nat.lt_or_ge (m / 10) (n / 10) with hlt | hge
    · exact append_lt_append_of_lt (by simp) (ih hlt hquotient)
    · have hsame : m / 10 = n / 10 := by omega
      rw [hsame]
      apply List.append_left_lt
      have hdigit : m % 10 < n % 10 := by omega
      exact List.cons_lt_cons_iff.2 (.inl (digitChar_lt_digitChar hdigit (Nat.mod_lt _ (by decide))))

theorem fixedDigits_append_lt {width m n : ℕ} (hn : n < 10 ^ width) (separator : Char)
    (h : m < n ∨ m = n ∧ c < d) :
    fixedDigits width m ++ separator :: c < fixedDigits width n ++ separator :: d := by
  rcases h with hlt | ⟨rfl, hrest⟩
  · exact append_lt_append_of_lt (by simp) (fixedDigits_lt hlt hn)
  · exact List.append_left_lt (List.cons_lt_cons_iff.2 (.inr ⟨rfl, hrest⟩))

end Order

end QuipNet.Library
