import QuipNet.Json

/-!
# The compact encoding determines the value

Two values whose compact encodings agree are equal. The first character of an encoding
tells its kind, strings and containers end at their own closing character, and a number
ends before the first character that is no digit. The encodings are compared together
with what follows them, which starts with no digit wherever a value can stand.
-/

namespace QuipNet
namespace Json

/-! ## Strings -/

def hexValue (c : Char) : ℕ := "0123456789abcdef".toList.idxOf c

theorem hexValue_hexDigit : ∀ n < 16, hexValue (hexDigit n) = n := by decide

def readChar : List Char → Option (Char × List Char)
  | '\\' :: 'u' :: _ :: _ :: high :: low :: rest =>
    some (Char.ofNat (16 * hexValue high + hexValue low), rest)
  | '\\' :: 'n' :: rest => some ('\n', rest)
  | '\\' :: 'r' :: rest => some ('\r', rest)
  | '\\' :: 't' :: rest => some ('\t', rest)
  | '\\' :: 'b' :: rest => some (Char.ofNat 8, rest)
  | '\\' :: 'f' :: rest => some (Char.ofNat 12, rest)
  | '\\' :: c :: rest => some (c, rest)
  | c :: rest => some (c, rest)
  | [] => none

theorem readChar_escapeChar (c : Char) (rest : List Char) :
    readChar (escapeChar c ++ rest) = some (c, rest) := by
  unfold escapeChar
  split_ifs with hquote hslash hn hr ht hb hf hcontrol
  · rw [hquote]; rfl
  · rw [hslash]; rfl
  · rw [hn]; rfl
  · rw [hr]; rfl
  · rw [ht]; rfl
  · rw [show c = Char.ofNat 8 by rw [← hb, Char.ofNat_toNat]]; rfl
  · rw [show c = Char.ofNat 12 by rw [← hf, Char.ofNat_toNat]]; rfl
  · have hchar : 16 * hexValue (hexDigit (c.toNat / 16)) + hexValue (hexDigit (c.toNat % 16)) =
        c.toNat := by
      rw [hexValue_hexDigit _ (by omega), hexValue_hexDigit _ (by omega)]
      omega
    simp only [List.cons_append, List.nil_append, readChar, hchar, Char.ofNat_toNat]
  · simp only [List.cons_append, List.nil_append]
    rw [readChar.eq_def]
    split <;> simp_all

theorem escapeChar_head (c : Char) : ∃ first rest, escapeChar c = first :: rest ∧ first ≠ '"' := by
  unfold escapeChar
  split_ifs with hquote
  case neg => exact ⟨c, [], rfl, hquote⟩
  all_goals exact ⟨'\\', _, rfl, by decide⟩

theorem escaped_append_inj {chars chars' : List Char} {rest rest' : List Char}
    (h : chars.flatMap escapeChar ++ '"' :: rest = chars'.flatMap escapeChar ++ '"' :: rest') :
    chars = chars' ∧ rest = rest' := by
  induction chars generalizing chars' with
  | nil =>
    cases chars' with
    | nil => exact ⟨rfl, (List.cons.inj h).2⟩
    | cons c' chars' =>
      obtain ⟨first, escaped, heq, hfirst⟩ := escapeChar_head c'
      rw [List.flatMap_cons, heq] at h
      exact absurd (List.cons.inj h).1.symm hfirst
  | cons c chars ih =>
    cases chars' with
    | nil =>
      obtain ⟨first, escaped, heq, hfirst⟩ := escapeChar_head c
      rw [List.flatMap_cons, heq] at h
      exact absurd (List.cons.inj h).1 hfirst
    | cons c' chars' =>
      have hread := congrArg readChar h
      simp only [List.flatMap_cons, List.append_assoc, readChar_escapeChar, Option.some.injEq,
        Prod.mk.injEq] at hread
      obtain ⟨rfl, htail⟩ := hread
      obtain ⟨rfl, hrest⟩ := ih htail
      exact ⟨rfl, hrest⟩

theorem quoted_append_inj {text text' : String} {rest rest' : List Char}
    (h : quoted text ++ rest = quoted text' ++ rest') : text = text' ∧ rest = rest' := by
  simp only [quoted, List.cons_append, List.append_assoc, List.nil_append, List.cons.injEq,
    true_and] at h
  obtain ⟨hchars, hrest⟩ := escaped_append_inj h
  exact ⟨String.toList_inj.mp hchars, hrest⟩

/-! ## Numbers -/

/-- A number that stands before this text ends where the text begins. -/
def NoDigitFirst (rest : List Char) : Prop := ∀ c, rest.head? = some c → c.isDigit = false

theorem takeWhile_digits {digits rest : List Char} (hdigits : ∀ c ∈ digits, c.isDigit = true)
    (hrest : NoDigitFirst rest) : (digits ++ rest).takeWhile Char.isDigit = digits := by
  rw [List.takeWhile_append_of_pos hdigits]
  cases rest with
  | nil => simp
  | cons c rest => simp [hrest c rfl]

theorem repr_append_inj {n n' : ℕ} {rest rest' : List Char} (hrest : NoDigitFirst rest)
    (hrest' : NoDigitFirst rest')
    (h : (Nat.repr n).toList ++ rest = (Nat.repr n').toList ++ rest') : n = n' ∧ rest = rest' := by
  rw [Nat.toList_repr, Nat.toList_repr] at h
  have hdigits : ∀ m, ∀ c ∈ Nat.toDigits 10 m, c.isDigit = true :=
    fun m c hc => Nat.isDigit_of_mem_toDigits (by decide) (by decide) hc
  have hsame : Nat.toDigits 10 n = Nat.toDigits 10 n' := by
    rw [← takeWhile_digits (hdigits n) hrest, ← takeWhile_digits (hdigits n') hrest', h]
  rw [hsame] at h
  refine ⟨?_, List.append_cancel_left h⟩
  rw [← Nat.ofDigitChars_ten_toDigits (n := n), hsame, Nat.ofDigitChars_ten_toDigits]

/-! ## Values -/

def kind : Json → ℕ
  | .null => 0
  | .bool _ => 1
  | .number _ => 2
  | .string _ => 3
  | .array _ => 4
  | .object _ => 5

def kindOfFirst (c : Char) : ℕ :=
  if c = 'n' then 0 else if c = 't' then 1 else if c = 'f' then 1 else if c.isDigit then 2
  else if c = '"' then 3 else if c = '[' then 4 else if c = Char.ofNat 0x7b then 5 else 6

theorem kindOfFirst_digit {c : Char} (h : c.isDigit = true) : kindOfFirst c = 2 := by
  have hne : ∀ other : Char, other.isDigit = false → c ≠ other := by
    rintro other hother rfl
    rw [h] at hother
    cases hother
  unfold kindOfFirst
  rw [if_neg (hne 'n' rfl), if_neg (hne 't' rfl), if_neg (hne 'f' rfl), if_pos h]

theorem compact_first (value : Json) :
    ∃ first rest, compact value = first :: rest ∧ kindOfFirst first = kind value := by
  cases value with
  | null => exact ⟨'n', _, rfl, rfl⟩
  | bool value =>
    cases value
    · exact ⟨'f', _, rfl, rfl⟩
    · exact ⟨'t', _, rfl, rfl⟩
  | number value =>
    have hne : Nat.toDigits 10 value ≠ [] := Nat.toDigits_ne_nil
    obtain ⟨first, rest, hdigits⟩ := List.exists_cons_of_ne_nil hne
    have hfirst : first.isDigit = true := by
      refine Nat.isDigit_of_mem_toDigits (b := 10) (n := value) (by decide) (by decide) ?_
      rw [hdigits]
      exact List.mem_cons_self
    refine ⟨first, rest, ?_, kindOfFirst_digit hfirst⟩
    rw [compact, Nat.toList_repr, hdigits]
  | string text => exact ⟨'"', _, rfl, rfl⟩
  | array items => exact ⟨'[', _, by rw [compact]; rfl, rfl⟩
  | object fields => exact ⟨Char.ofNat 0x7b, _, by rw [compact]; rfl, rfl⟩

theorem kind_eq_of_append {value value' : Json} {rest rest' : List Char}
    (h : compact value ++ rest = compact value' ++ rest') : kind value = kind value' := by
  obtain ⟨first, tail, heq, hkind⟩ := compact_first value
  obtain ⟨first', tail', heq', hkind'⟩ := compact_first value'
  rw [heq, heq'] at h
  rw [← hkind, ← hkind', (List.cons.inj h).1]

theorem compact_append_ne {value : Json} {c : Char} (hc : kindOfFirst c = 6)
    (rest rest' : List Char) : compact value ++ rest ≠ c :: rest' := by
  obtain ⟨first, tail, heq, hkind⟩ := compact_first value
  intro h
  rw [heq] at h
  rw [(List.cons.inj h).1, hc] at hkind
  cases value <;> cases hkind

def afterItem (rest : List Char) : List Json → List Char
  | [] => ']' :: rest
  | item :: items => ',' :: compactItems (item :: items) ++ ']' :: rest

def afterField (rest : List Char) : List (String × Json) → List Char
  | [] => Char.ofNat 0x7d :: rest
  | field :: fields => ',' :: compactFields (field :: fields) ++ Char.ofNat 0x7d :: rest

theorem compactItems_cons_append (item : Json) (items : List Json) (rest : List Char) :
    compactItems (item :: items) ++ ']' :: rest = compact item ++ afterItem rest items := by
  cases items with
  | nil => simp only [compactItems, afterItem]
  | cons next items => simp only [compactItems, afterItem, List.append_assoc, List.cons_append]

theorem compactFields_cons_append (name : String) (value : Json) (fields : List (String × Json))
    (rest : List Char) :
    compactFields ((name, value) :: fields) ++ Char.ofNat 0x7d :: rest =
      quoted name ++ ':' :: (compact value ++ afterField rest fields) := by
  cases fields with
  | nil => simp only [compactFields, afterField, List.append_assoc, List.cons_append]
  | cons next fields => simp only [compactFields, afterField, List.append_assoc, List.cons_append]

theorem noDigitFirst_afterItem (rest : List Char) (items : List Json) :
    NoDigitFirst (afterItem rest items) := by
  rintro c hc
  cases items <;> cases hc <;> rfl

theorem noDigitFirst_afterField (rest : List Char) (fields : List (String × Json)) :
    NoDigitFirst (afterField rest fields) := by
  rintro c hc
  cases fields <;> cases hc <;> rfl

mutual
theorem compact_append_inj (value value' : Json) {rest rest' : List Char}
    (hrest : NoDigitFirst rest) (hrest' : NoDigitFirst rest')
    (h : compact value ++ rest = compact value' ++ rest') : value = value' ∧ rest = rest' := by
  have hkind := kind_eq_of_append h
  match value, value' with
  | .null, .null => exact ⟨rfl, List.append_cancel_left h⟩
  | .bool b, .bool b' =>
    match b, b' with
    | true, true => exact ⟨rfl, List.append_cancel_left h⟩
    | false, false => exact ⟨rfl, List.append_cancel_left h⟩
    | true, false => exact absurd (List.cons.inj h).1 (by decide)
    | false, true => exact absurd (List.cons.inj h).1 (by decide)
  | .number n, .number n' =>
    obtain ⟨rfl, htail⟩ := repr_append_inj hrest hrest' h
    exact ⟨rfl, htail⟩
  | .string text, .string text' =>
    obtain ⟨rfl, htail⟩ := quoted_append_inj h
    exact ⟨rfl, htail⟩
  | .array items, .array items' =>
    simp only [compact, List.cons_append, List.append_assoc, List.nil_append, List.cons.injEq,
      true_and] at h
    obtain ⟨rfl, htail⟩ := compactItems_append_inj items items' h
    exact ⟨rfl, htail⟩
  | .object fields, .object fields' =>
    simp only [compact, List.cons_append, List.append_assoc, List.nil_append, List.cons.injEq,
      true_and] at h
    obtain ⟨rfl, htail⟩ := compactFields_append_inj fields fields' h
    exact ⟨rfl, htail⟩

theorem compactItems_append_inj (items items' : List Json) {rest rest' : List Char}
    (h : compactItems items ++ ']' :: rest = compactItems items' ++ ']' :: rest') :
    items = items' ∧ rest = rest' := by
  match items, items' with
  | [], [] => exact ⟨rfl, (List.cons.inj h).2⟩
  | [], item' :: items' =>
    rw [compactItems_cons_append] at h
    exact absurd h.symm (compact_append_ne rfl _ _)
  | item :: items, [] =>
    rw [compactItems_cons_append] at h
    exact absurd h (compact_append_ne rfl _ _)
  | item :: items, item' :: items' =>
    rw [compactItems_cons_append, compactItems_cons_append] at h
    obtain ⟨rfl, htail⟩ := compact_append_inj item item' (noDigitFirst_afterItem rest items)
      (noDigitFirst_afterItem rest' items') h
    match items, items' with
    | [], [] => exact ⟨rfl, (List.cons.inj htail).2⟩
    | [], _ :: _ => exact absurd (List.cons.inj htail).1 (by decide)
    | _ :: _, [] => exact absurd (List.cons.inj htail).1 (by decide)
    | next :: items, next' :: items' =>
      obtain ⟨hitems, hrest⟩ :=
        compactItems_append_inj (next :: items) (next' :: items') (List.cons.inj htail).2
      rw [hitems]
      exact ⟨rfl, hrest⟩

theorem compactFields_append_inj (fields fields' : List (String × Json)) {rest rest' : List Char}
    (h : compactFields fields ++ Char.ofNat 0x7d :: rest =
      compactFields fields' ++ Char.ofNat 0x7d :: rest') :
    fields = fields' ∧ rest = rest' := by
  match fields, fields' with
  | [], [] => exact ⟨rfl, (List.cons.inj h).2⟩
  | [], (name', value') :: fields' =>
    rw [compactFields_cons_append] at h
    exact absurd (List.cons.inj h).1 (by decide)
  | (name, value) :: fields, [] =>
    rw [compactFields_cons_append] at h
    exact absurd (List.cons.inj h).1 (by decide)
  | (name, value) :: fields, (name', value') :: fields' =>
    rw [compactFields_cons_append, compactFields_cons_append] at h
    obtain ⟨rfl, hvalue⟩ := quoted_append_inj h
    obtain ⟨rfl, htail⟩ := compact_append_inj value value' (noDigitFirst_afterField rest fields)
      (noDigitFirst_afterField rest' fields') (List.cons.inj hvalue).2
    match fields, fields' with
    | [], [] => exact ⟨rfl, (List.cons.inj htail).2⟩
    | [], _ :: _ => exact absurd (List.cons.inj htail).1 (by decide)
    | _ :: _, [] => exact absurd (List.cons.inj htail).1 (by decide)
    | next :: fields, next' :: fields' =>
      obtain ⟨hfields, hrest⟩ :=
        compactFields_append_inj (next :: fields) (next' :: fields') (List.cons.inj htail).2
      rw [hfields]
      exact ⟨rfl, hrest⟩
end

theorem compact_injective : Function.Injective compact := by
  intro value value' h
  have hend : NoDigitFirst [] := by
    intro c hc
    cases hc
  exact (compact_append_inj value value' hend hend (by rw [h])).1

end Json

theorem canonicalJson_injective : Function.Injective canonicalJson := by
  intro value value' h
  exact Json.compact_injective (String.ofList_injective (asBytes_injective h))

end QuipNet
