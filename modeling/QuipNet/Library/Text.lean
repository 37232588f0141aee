import Mathlib

/-!
# Text as lists of characters

Splitting at a separator, slicing by byte offsets and reading numerals, as a string library
over UTF-8 does it: offsets count bytes, and a slice that cuts a character in two has no
result.
-/

namespace QuipNet.Library

/-! ## Splitting -/

def splitOnce (separator : Char) (text : List Char) : Option (List Char × List Char) :=
  if separator ∈ text then
    some (text.takeWhile (· ≠ separator), (text.dropWhile (· ≠ separator)).tail)
  else none

section Splitting
variable {separator : Char}

theorem splitOnce_append {before : List Char} (h : separator ∉ before) (after : List Char) :
    splitOnce separator (before ++ separator :: after) = some (before, after) := by
  have hne : ∀ c ∈ before, decide (c ≠ separator) = true := by
    intro c hc
    exact decide_eq_true fun heq => h (heq ▸ hc)
  rw [splitOnce, if_pos (by simp), List.takeWhile_append_of_pos hne, List.dropWhile_append_of_pos hne]
  simp

theorem not_mem_of_mem_splitOn {text part : List Char} (h : part ∈ text.splitOn separator) :
    separator ∉ part := by
  induction text generalizing part with
  | nil =>
    rw [List.splitOn_nil, List.mem_singleton] at h
    rw [h]
    exact List.not_mem_nil
  | cons c rest ih =>
    rw [List.splitOn_cons_eq_if_modifyHead] at h
    split_ifs at h with hc
    · rcases List.mem_cons.1 h with rfl | hrest
      · exact List.not_mem_nil
      · exact ih hrest
    · cases hparts : rest.splitOn separator with
      | nil => exact absurd hparts (List.splitOn_ne_nil separator rest)
      | cons first parts =>
        rw [hparts, List.modifyHead_cons] at h
        rcases List.mem_cons.1 h with rfl | hrest
        · have hfirst : separator ∉ first := ih (by rw [hparts]; exact List.mem_cons_self)
          have hne : separator ≠ c := fun heq => hc (by rw [heq]; exact beq_self_eq_true c)
          exact List.not_mem_cons_of_ne_of_not_mem hne hfirst
        · exact ih (by rw [hparts]; exact List.mem_cons_of_mem _ hrest)

end Splitting

/-! ## Replacing -/

/-- `replace` of the matches found from left to right; `skip` characters of a match are still
to be dropped. -/
def replaceFrom (pattern replacement : List Char) : ℕ → List Char → List Char
  | _, [] => []
  | skip + 1, _ :: rest => replaceFrom pattern replacement skip rest
  | 0, c :: rest =>
    if pattern.isPrefixOf (c :: rest) then
      replacement ++ replaceFrom pattern replacement (pattern.length - 1) rest
    else c :: replaceFrom pattern replacement 0 rest

def replaceAll (pattern replacement text : List Char) : List Char :=
  replaceFrom pattern replacement 0 text

theorem replaceFrom_self {pattern : List Char} (hpattern : pattern ≠ []) (skip : ℕ)
    (text : List Char) : replaceFrom pattern pattern skip text = text.drop skip := by
  induction text generalizing skip with
  | nil => rw [replaceFrom, List.drop_nil]
  | cons c rest ih =>
    cases skip with
    | succ skip => rw [replaceFrom, ih, List.drop_succ_cons]
    | zero =>
      rw [replaceFrom, List.drop_zero]
      split_ifs with hmatch
      · rw [ih]
        obtain ⟨after, hafter⟩ := List.isPrefixOf_iff_prefix.1 hmatch
        obtain ⟨first, others, rfl⟩ := List.exists_cons_of_ne_nil hpattern
        rw [List.cons_append] at hafter
        rw [List.length_cons, Nat.add_sub_cancel, ← (List.cons.inj hafter).2, List.drop_left,
          List.cons_append, ← (List.cons.inj hafter).1]
      · rw [ih, List.drop_zero]

theorem replaceAll_self {pattern : List Char} (hpattern : pattern ≠ []) (text : List Char) :
    replaceAll pattern pattern text = text :=
  replaceFrom_self hpattern 0 text

/-! ## Byte offsets -/

def byteLength (text : List Char) : ℕ := (text.map Char.utf8Size).sum

@[simp] theorem byteLength_nil : byteLength [] = 0 := rfl

@[simp] theorem byteLength_cons (c : Char) (text : List Char) :
    byteLength (c :: text) = c.utf8Size + byteLength text := by
  simp [byteLength]

@[simp] theorem byteLength_append (before after : List Char) :
    byteLength (before ++ after) = byteLength before + byteLength after := by
  simp [byteLength]

/-- The text up to a byte offset and the text from there, if the offset is the boundary of a
character. -/
def splitAtByte : ℕ → List Char → Option (List Char × List Char)
  | 0, text => some ([], text)
  | _ + 1, [] => none
  | offset + 1, c :: rest =>
    if c.utf8Size ≤ offset + 1 then
      (splitAtByte (offset + 1 - c.utf8Size) rest).map fun parts => (c :: parts.1, parts.2)
    else none

theorem splitAtByte_append {n : ℕ} {before after : List Char} (h : byteLength before = n) :
    splitAtByte n (before ++ after) = some (before, after) := by
  induction before generalizing n with
  | nil => rw [← h, byteLength_nil, List.nil_append, splitAtByte]
  | cons c rest ih =>
    have hpos := c.utf8Size_pos
    rw [byteLength_cons] at h
    obtain ⟨offset, rfl⟩ : ∃ offset, n = offset + 1 := ⟨n - 1, by omega⟩
    have hrest : byteLength rest = offset + 1 - c.utf8Size := by omega
    rw [List.cons_append, splitAtByte, if_pos (by omega), ih hrest]
    rfl

theorem of_splitAtByte {offset : ℕ} {text before after : List Char}
    (h : splitAtByte offset text = some (before, after)) :
    text = before ++ after ∧ byteLength before = offset := by
  induction text generalizing offset before with
  | nil =>
    cases offset with
    | zero =>
      cases h
      exact ⟨rfl, rfl⟩
    | succ offset => cases h
  | cons c rest ih =>
    cases offset with
    | zero =>
      cases h
      exact ⟨rfl, rfl⟩
    | succ offset =>
      rw [splitAtByte] at h
      split_ifs at h with hfits
      obtain ⟨⟨first, last⟩, hsplit, heq⟩ := Option.map_eq_some_iff.1 h
      obtain ⟨rfl, rfl⟩ := Prod.mk.inj heq
      obtain ⟨rfl, hlength⟩ := ih hsplit
      refine ⟨rfl, ?_⟩
      rw [byteLength_cons, hlength]
      omega

theorem splitAtByte_eq_some_iff {offset : ℕ} {text before after : List Char} :
    splitAtByte offset text = some (before, after) ↔
      text = before ++ after ∧ byteLength before = offset := by
  constructor
  · exact of_splitAtByte
  · rintro ⟨rfl, hlength⟩
    exact splitAtByte_append hlength

/-- `&text[start..stop]`, which panics where it has no result here. -/
def sliceBytes (text : List Char) (start stop : ℕ) : Option (List Char) := do
  let upTo ← splitAtByte stop text
  let parts ← splitAtByte start upTo.1
  pure parts.2

theorem sliceBytes_eq_some_iff {text slice : List Char} {start stop : ℕ} :
    sliceBytes text start stop = some slice ↔
      ∃ before after, text = before ++ slice ++ after ∧ byteLength before = start ∧
        byteLength before + byteLength slice = stop := by
  simp only [sliceBytes, Option.bind_eq_bind, Option.bind_eq_some_iff, Option.pure_def,
    Option.some.injEq, Prod.exists, splitAtByte_eq_some_iff]
  constructor
  · rintro ⟨upTo, after, ⟨rfl, hstop⟩, before, slice, ⟨rfl, hstart⟩, rfl⟩
    rw [byteLength_append] at hstop
    exact ⟨before, after, rfl, hstart, hstop⟩
  · rintro ⟨before, after, rfl, hstart, hstop⟩
    exact ⟨before ++ slice, after, ⟨rfl, by rw [byteLength_append, hstop]⟩, before, slice,
      ⟨rfl, hstart⟩, rfl⟩

theorem sliceBytes_append {start stop n : ℕ} {before tail : List Char}
    (hstart : byteLength before = start) (hstop : start + n = stop) :
    sliceBytes (before ++ tail) start stop = (splitAtByte n tail).map Prod.fst := by
  apply Option.ext
  intro slice
  rw [sliceBytes_eq_some_iff, Option.map_eq_some_iff]
  constructor
  · rintro ⟨first, after, htext, hfirst, hslice⟩
    have hsplit : splitAtByte start (before ++ tail) = some (before, tail) :=
      splitAtByte_append hstart
    rw [htext, List.append_assoc, splitAtByte_append hfirst, Option.some.injEq,
      Prod.mk.injEq] at hsplit
    obtain ⟨rfl, rfl⟩ := hsplit
    exact ⟨(slice, after), splitAtByte_append (by omega), rfl⟩
  · rintro ⟨⟨first, after⟩, hsplit, rfl⟩
    obtain ⟨rfl, hlength⟩ := splitAtByte_eq_some_iff.1 hsplit
    refine ⟨before, after, (List.append_assoc _ _ _).symm, hstart, ?_⟩
    dsimp only
    omega

/-! ## Numerals -/

def digitOf (radix : ℕ) (c : Char) : Option ℕ :=
  let value := if '0' ≤ c ∧ c ≤ '9' then c.toNat - '0'.toNat
    else if 'a' ≤ c ∧ c ≤ 'z' then c.toNat - 'a'.toNat + 10
    else if 'A' ≤ c ∧ c ≤ 'Z' then c.toNat - 'A'.toNat + 10
    else radix
  if value < radix then some value else none

def withoutPlus : List Char → List Char
  | '+' :: digits => digits
  | text => text

theorem withoutPlus_cons {c : Char} (h : c ≠ '+') (rest : List Char) :
    withoutPlus (c :: rest) = c :: rest := by
  unfold withoutPlus
  split
  · exact absurd (List.cons.inj ‹_›).1 h
  · rfl

def pushDigit (radix bound value : ℕ) (c : Char) : Option ℕ := do
  let digit ← digitOf radix c
  if value * radix + digit < bound then some (value * radix + digit) else none

/-- `from_str_radix` of an unsigned type: one leading plus sign may stand before the digits. -/
def fromStrRadix (radix bound : ℕ) (text : List Char) : Option ℕ :=
  if withoutPlus text = [] then none
  else (withoutPlus text).foldlM (pushDigit radix bound) 0

theorem digitOf_lt {radix digit : ℕ} {c : Char} (h : digitOf radix c = some digit) :
    digit < radix := by
  unfold digitOf at h
  dsimp only at h
  split_ifs at h <;> cases h <;> assumption

theorem digit_ascii {radix : ℕ} {c : Char} (h : (digitOf radix c).isSome = true) :
    c.utf8Size = 1 ∧ c ≠ '+' := by
  have hascii : c ≤ 'z' ∧ c ≠ '+' := by
    by_cases hdigit : '0' ≤ c ∧ c ≤ '9'
    · exact ⟨hdigit.2.trans (by decide), by rintro rfl; revert hdigit; decide⟩
    by_cases hlower : 'a' ≤ c ∧ c ≤ 'z'
    · exact ⟨hlower.2, by rintro rfl; revert hlower; decide⟩
    by_cases hupper : 'A' ≤ c ∧ c ≤ 'Z'
    · exact ⟨hupper.2.trans (by decide), by rintro rfl; revert hupper; decide⟩
    simp [digitOf, hdigit, hlower, hupper] at h
  refine ⟨?_, hascii.2⟩
  have hval : c.val ≤ 'z'.val := hascii.1
  exact Char.utf8Size_eq_one_iff.2 (UInt32.le_trans hval (by decide))

theorem foldlM_toDigits (bound n : ℕ) :
    (Nat.toDigits 10 n).foldlM (pushDigit 10 bound) 0 = if n < bound then some n else none := by
  have hdigit : ∀ d < 10, digitOf 10 (Nat.digitChar d) = some d := by decide
  induction n using Nat.strong_induction_on with
  | _ n ih =>
    rw [Nat.toDigits_eq_if (by omega)]
    split_ifs with hsmall hbound hbound
    · simp [pushDigit, hdigit n hsmall, hbound]
    · simp [pushDigit, hdigit n hsmall, hbound]
    all_goals
      rw [List.foldlM_append, ih (n / 10) (by omega)]
      have hvalue : n / 10 * 10 + n % 10 = n := by omega
    · rw [if_pos (by omega : n / 10 < bound)]
      simp [pushDigit, hdigit (n % 10) (Nat.mod_lt n (by omega)), hvalue, hbound]
    · by_cases hshort : n / 10 < bound
      · rw [if_pos hshort]
        simp [pushDigit, hdigit (n % 10) (Nat.mod_lt n (by omega)), hvalue, hbound]
      · rw [if_neg hshort]
        rfl

theorem fromStrRadix_repr (bound n : ℕ) :
    fromStrRadix 10 bound (Nat.repr n).toList = if n < bound then some n else none := by
  have hdigits : ∀ c ∈ Nat.toDigits 10 n, c.isDigit = true :=
    fun c hc => Nat.isDigit_of_mem_toDigits (by decide) (by decide) hc
  have hplus : withoutPlus (Nat.toDigits 10 n) = Nat.toDigits 10 n := by
    obtain ⟨first, rest, hcons⟩ := List.exists_cons_of_ne_nil (@Nat.toDigits_ne_nil n 10)
    rw [hcons] at hdigits ⊢
    apply withoutPlus_cons
    rintro rfl
    exact absurd (hdigits '+' List.mem_cons_self) (by decide)
  rw [fromStrRadix, Nat.toList_repr, hplus, if_neg Nat.toDigits_ne_nil, foldlM_toDigits]

end QuipNet.Library
