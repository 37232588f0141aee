import QuipNet.Model
import QuipNet.Library.Text

/-!
# The text of a session id

The relay and the daemon read a session id as sixteen pairs of bytes. A pair that cuts a
character makes them panic, and a pair may be a plus sign and one digit.
-/

namespace QuipNet.SessionIds
open QuipNet.Library

/-- The byte that the pair at the index stands for; no result where the slice panics. -/
def byteAt (text : List Char) (index : ℕ) : Option (Option UInt8) :=
  (sliceBytes text (2 * index) (2 * index + 2)).map fun digits =>
    (fromStrRadix 16 256 digits).map UInt8.ofNat

def parseSlots {ε : Type} (badDigits : ε) (text : List Char) :
    List (Fin 16) → Vector UInt8 16 → Option (Except ε (Vector UInt8 16))
  | [], id => some (.ok id)
  | index :: rest, id =>
    match byteAt text index with
    | none => none
    | some none => some (.error badDigits)
    | some (some byte) => parseSlots badDigits text rest (id.set index byte)

def parseText {ε : Type} (badLength badDigits : ε) (value : String) : Option (Except ε SessionId) :=
  if byteLength value.toList ≠ 32 then some (.error badLength)
  else (parseSlots badDigits value.toList (List.finRange 16) (Vector.replicate 16 0)).map fun result =>
    result.map SessionId.mk

/-- `parse_session_id` of the relay; the outer option is empty where it panics. -/
def parseSessionId (value : String) : Option (Option SessionId) :=
  (parseText () () value).map Except.toOption

def parseHexSessionId (value : String) : Option (Except String SessionId) :=
  parseText "session ids supplied to daemon API must be 32 hex characters"
    "session ids supplied to daemon API must be valid hex" value

def parseSessionPath (path : String) : Option (Option SessionId) :=
  if startsWith path "/sessions/" then
    parseSessionId (String.ofList (path.toList.drop "/sessions/".length))
  else some none

/-! ## The loop over the slots -/

section Slots
variable {ε : Type} {badDigits : ε} {text : List Char} {indices : List (Fin 16)}
  {start id : Vector UInt8 16}

theorem parseSlots_eq_ok_iff :
    parseSlots badDigits text indices start = some (.ok id) ↔
      (∀ index ∈ indices, byteAt text index = some (some id[index])) ∧
        ∀ index ∉ indices, id[index] = start[index] := by
  induction indices generalizing start with
  | nil =>
    simp only [parseSlots, Option.some.injEq, Except.ok.injEq, List.not_mem_nil, false_imp_iff,
      implies_true, not_false_eq_true, forall_const, true_and]
    constructor
    · rintro rfl index
      rfl
    · intro hsame
      apply Vector.ext
      intro i hi
      exact (hsame ⟨i, hi⟩).symm
  | cons first rest ih =>
    rw [List.forall_mem_cons]
    cases hbyte : byteAt text first with
    | none => simp [parseSlots, hbyte]
    | some digits =>
      cases digits with
      | none => simp [parseSlots, hbyte]
      | some byte =>
        simp only [parseSlots, hbyte, ih, Option.some.injEq]
        constructor
        · intro ⟨hrest, hother⟩
          have hfirst : byte = id[first] := by
            by_cases hmem : first ∈ rest
            · have hagain := hrest first hmem
              rw [hbyte, Option.some.injEq, Option.some.injEq] at hagain
              exact hagain
            · rw [hother first hmem]
              simp
          refine ⟨⟨hfirst, hrest⟩, ?_⟩
          intro index hindex
          rw [List.mem_cons, not_or] at hindex
          rw [hother index hindex.2]
          simp only [Fin.getElem_fin]
          exact Vector.getElem_set_ne _ _ fun heq => hindex.1 (Fin.ext heq.symm)
        · intro ⟨⟨hfirst, hrest⟩, hother⟩
          refine ⟨hrest, ?_⟩
          intro index hindex
          by_cases hsame : index = first
          · rw [hsame, ← hfirst]
            simp
          · rw [hother index (List.not_mem_cons_of_ne_of_not_mem hsame hindex)]
            simp only [Fin.getElem_fin]
            exact (Vector.getElem_set_ne _ _ fun heq => hsame (Fin.ext heq.symm)).symm

theorem parseSlots_stops {stop : Fin 16} (hstop : stop ∈ indices)
    (hsorted : indices.Pairwise (· < ·))
    (hearlier : ∀ index < stop, ∃ byte, byteAt text index = some (some byte))
    (hbad : ∀ byte, byteAt text stop ≠ some (some byte)) :
    parseSlots badDigits text indices start =
      (byteAt text stop).map fun _ => .error badDigits := by
  induction indices generalizing start with
  | nil => cases hstop
  | cons first rest ih =>
    obtain ⟨hfirst, hrest⟩ := List.pairwise_cons.1 hsorted
    rcases List.mem_cons.1 hstop with rfl | hmem
    · rw [parseSlots]
      cases hbyte : byteAt text stop with
      | none => rfl
      | some digits =>
        cases digits with
        | none => rfl
        | some byte => exact absurd hbyte (hbad byte)
    · obtain ⟨byte, hbyte⟩ := hearlier first (hfirst stop hmem)
      simp only [parseSlots, hbyte]
      exact ih hmem hrest

end Slots

/-! ## Pairs that are bytes -/

def IsHexDigit (c : Char) : Prop := (digitOf 16 c).isSome = true

instance (c : Char) : Decidable (IsHexDigit c) := inferInstanceAs (Decidable (_ = true))

def IsNumeral (pair : List Char) : Prop :=
  ∃ first second, pair = [first, second] ∧ (IsHexDigit first ∨ first = '+') ∧ IsHexDigit second

theorem byteLength_of_isNumeral {pair : List Char} (h : IsNumeral pair) : byteLength pair = 2 := by
  obtain ⟨first, second, rfl, hfirst, hsecond⟩ := h
  have hsize : first.utf8Size = 1 := by
    rcases hfirst with hdigit | rfl
    · exact (digit_ascii hdigit).1
    · rfl
  rw [byteLength_cons, byteLength_cons, hsize, (digit_ascii hsecond).1, byteLength_nil]

theorem fromStrRadix_digits {first second : Char} {high low : ℕ} (hfirst : digitOf 16 first = some high)
    (hsecond : digitOf 16 second = some low) :
    fromStrRadix 16 256 [first, second] = some (16 * high + low) := by
  have hplus : first ≠ '+' := (digit_ascii (by rw [hfirst]; rfl)).2
  have hhigh := digitOf_lt hfirst
  have hlow := digitOf_lt hsecond
  have hpushed : pushDigit 16 256 0 first = some high := by
    simp only [pushDigit, hfirst, Option.bind_eq_bind, Option.bind_some, zero_mul, zero_add]
    exact if_pos (by omega)
  have hboth : pushDigit 16 256 high second = some (high * 16 + low) := by
    simp only [pushDigit, hsecond, Option.bind_eq_bind, Option.bind_some]
    exact if_pos (by omega)
  simp only [fromStrRadix, withoutPlus_cons hplus, reduceCtorEq, if_false, List.foldlM_cons,
    List.foldlM_nil, hpushed, hboth, Option.bind_eq_bind, Option.bind_some, Option.pure_def, Option.some.injEq]
  omega

theorem fromStrRadix_plus (second : Char) :
    fromStrRadix 16 256 ['+', second] = digitOf 16 second := by
  have htext : withoutPlus ['+', second] = [second] := rfl
  simp only [fromStrRadix, htext, reduceCtorEq, if_false, List.foldlM_cons, List.foldlM_nil,
    pushDigit, zero_mul, zero_add]
  cases hdigit : digitOf 16 second with
  | none => rfl
  | some digit =>
    have hlow := digitOf_lt hdigit
    simp only [Option.bind_eq_bind, Option.bind_some, Option.pure_def]
    rw [if_pos (by omega)]
    rfl

theorem fromStrRadix_isSome_iff {pair : List Char} (h : byteLength pair = 2) :
    (∃ value, fromStrRadix 16 256 pair = some value) ↔ IsNumeral pair := by
  constructor
  · intro ⟨value, hvalue⟩
    match pair with
    | [] => cases h
    | [c] =>
      have hdigit : (digitOf 16 c).isSome = true := by
        by_contra hnone
        rw [Bool.not_eq_true, Option.isSome_eq_false_iff, Option.isNone_iff_eq_none] at hnone
        have hplus : c ≠ '+' := by
          rintro rfl
          exact absurd h (by decide)
        simp [fromStrRadix, withoutPlus_cons hplus, pushDigit, hnone] at hvalue
      rw [byteLength_cons, byteLength_nil, (digit_ascii hdigit).1] at h
      cases h
    | [first, second] =>
      refine ⟨first, second, rfl, ?_⟩
      by_cases hplus : first = '+'
      · subst hplus
        rw [fromStrRadix_plus] at hvalue
        exact ⟨.inr rfl, by rw [IsHexDigit, hvalue]; rfl⟩
      · simp only [fromStrRadix, withoutPlus_cons hplus, reduceCtorEq, if_false, List.foldlM_cons,
          List.foldlM_nil, Option.bind_eq_bind, Option.bind_eq_some_iff, pushDigit] at hvalue
        obtain ⟨-, ⟨high, hhigh, -⟩, -, ⟨low, hlow, -⟩, -⟩ := hvalue
        exact ⟨.inl (by rw [IsHexDigit, hhigh]; rfl), by rw [IsHexDigit, hlow]; rfl⟩
    | first :: second :: third :: rest =>
      have hfirst := first.utf8Size_pos
      have hsecond := second.utf8Size_pos
      have hthird := third.utf8Size_pos
      simp only [byteLength_cons] at h
      omega
  · rintro ⟨first, second, rfl, hfirst, hsecond⟩
    obtain ⟨low, hlow⟩ := Option.isSome_iff_exists.1 hsecond
    rcases hfirst with hfirst | rfl
    · obtain ⟨high, hhigh⟩ := Option.isSome_iff_exists.1 hfirst
      exact ⟨_, fromStrRadix_digits hhigh hlow⟩
    · exact ⟨low, by rw [fromStrRadix_plus, hlow]⟩

/-! ## Text as a sequence of pairs -/

section Pairs
variable {numerals : List (List Char)}

theorem byteLength_flatten (h : ∀ pair ∈ numerals, IsNumeral pair) :
    byteLength numerals.flatten = 2 * numerals.length := by
  induction numerals with
  | nil => rfl
  | cons pair rest ih =>
    obtain ⟨hpair, hrest⟩ := List.forall_mem_cons.1 h
    rw [List.flatten_cons, byteLength_append, byteLength_of_isNumeral hpair, ih hrest,
      List.length_cons]
    omega

theorem exists_numerals (text : List Char) : ∃ (numerals : List (List Char)) (tail : List Char),
    text = numerals.flatten ++ tail ∧ (∀ pair ∈ numerals, IsNumeral pair) ∧
      ∀ pair rest, tail = pair ++ rest → ¬ IsNumeral pair := by
  match text with
  | [] =>
    refine ⟨[], [], rfl, by simp, ?_⟩
    rintro pair rest hsplit ⟨first, second, rfl, -⟩
    cases hsplit
  | [c] =>
    refine ⟨[], [c], rfl, by simp, ?_⟩
    rintro pair rest hsplit ⟨first, second, rfl, -⟩
    cases hsplit
  | c :: d :: rest =>
    by_cases hnumeral : IsNumeral [c, d]
    · obtain ⟨numerals, tail, htext, hnumerals, htail⟩ := exists_numerals rest
      refine ⟨[c, d] :: numerals, tail, ?_, ?_, htail⟩
      · rw [htext]
        rfl
      · exact List.forall_mem_cons.2 ⟨hnumeral, hnumerals⟩
    · refine ⟨[], c :: d :: rest, rfl, by simp, ?_⟩
      rintro pair after hsplit hpair
      obtain ⟨first, second, rfl, hdigits⟩ := hpair
      obtain ⟨hfirst, hrest⟩ := List.cons.inj hsplit
      obtain ⟨hsecond, -⟩ := List.cons.inj hrest
      rw [hfirst, hsecond] at hnumeral
      exact hnumeral ⟨first, second, rfl, hdigits⟩

theorem byteAt_append (hnumerals : ∀ pair ∈ numerals, IsNumeral pair) (tail : List Char) :
    byteAt (numerals.flatten ++ tail) numerals.length =
      (splitAtByte 2 tail).map fun parts => (fromStrRadix 16 256 parts.1).map UInt8.ofNat := by
  rw [byteAt, sliceBytes_append (byteLength_flatten hnumerals) rfl, Option.map_map]
  rfl

theorem byteAt_numeral {before after : List (List Char)} {pair tail : List Char}
    (hbefore : ∀ pair ∈ before, IsNumeral pair) (hpair : IsNumeral pair) :
    byteAt ((before ++ pair :: after).flatten ++ tail) before.length =
      some ((fromStrRadix 16 256 pair).map UInt8.ofNat) := by
  rw [List.flatten_append, List.flatten_cons, List.append_assoc, List.append_assoc,
    byteAt_append hbefore, splitAtByte_append (byteLength_of_isNumeral hpair)]
  rfl

theorem exists_byteAt_of_lt (hnumerals : ∀ pair ∈ numerals, IsNumeral pair) (tail : List Char)
    {index : ℕ} (h : index < numerals.length) :
    ∃ byte, byteAt (numerals.flatten ++ tail) index = some (some byte) := by
  obtain ⟨before, pair, after, hsplit, hlength⟩ : ∃ before pair after,
      numerals = before ++ pair :: after ∧ before.length = index :=
    ⟨numerals.take index, numerals[index], numerals.drop (index + 1), by simp, by simp; omega⟩
  rw [hsplit, List.forall_mem_append, List.forall_mem_cons] at hnumerals
  obtain ⟨hbefore, hpair, -⟩ := hnumerals
  obtain ⟨value, hvalue⟩ :=
    (fromStrRadix_isSome_iff (byteLength_of_isNumeral hpair)).2 hpair
  refine ⟨UInt8.ofNat value, ?_⟩
  rw [hsplit, ← hlength, byteAt_numeral hbefore hpair, hvalue]
  rfl

end Pairs

/-! ## Accepted, refused, panicked -/

/-- Thirty-two hexadecimal digits. -/
def IsSessionIdText (value : String) : Prop :=
  value.toList.length = 32 ∧ ∀ c ∈ value.toList, IsHexDigit c

/-- Behind numerals there is a pair on character boundaries that is none. -/
def StopsAtPair (value : String) : Prop :=
  ∃ (numerals : List (List Char)) (pair rest : List Char),
    value.toList = numerals.flatten ++ (pair ++ rest) ∧ (∀ n ∈ numerals, IsNumeral n) ∧
      byteLength pair = 2 ∧ ¬ IsNumeral pair

section Outcomes
variable {ε : Type} {badLength badDigits : ε} {value : String}

theorem parseText_of_length (h : byteLength value.toList = 32) :
    parseText badLength badDigits value =
      (parseSlots badDigits value.toList (List.finRange 16) (Vector.replicate 16 0)).map
        fun result => result.map SessionId.mk :=
  if_neg (not_not.2 h)

theorem parseText_eq_ok_iff {id : SessionId} :
    parseText badLength badDigits value = some (.ok id) ↔
      byteLength value.toList = 32 ∧
        ∀ index : Fin 16, byteAt value.toList index = some (some id.bytes[index]) := by
  by_cases hlength : byteLength value.toList = 32
  · have hslots : parseSlots badDigits value.toList (List.finRange 16) (Vector.replicate 16 0) =
        some (.ok id.bytes) ↔ _ := parseSlots_eq_ok_iff
    simp only [List.mem_finRange, forall_const, not_true, IsEmpty.forall_iff,
      and_true] at hslots
    rw [parseText_of_length hlength, ← hslots]
    simp only [hlength, true_and, Option.map_eq_some_iff]
    constructor
    · rintro ⟨result, hresult, hid⟩
      cases result with
      | error error => cases hid
      | ok bytes =>
        cases hid
        exact hresult
    · intro hresult
      exact ⟨_, hresult, rfl⟩
  · simp [parseText, hlength]

theorem parseText_numerals {numerals : List (List Char)} (htext : value.toList = numerals.flatten)
    (hnumerals : ∀ n ∈ numerals, IsNumeral n) (hlength : byteLength value.toList = 32) :
    ∃ id, parseText badLength badDigits value = some (.ok id) := by
  have hcount : numerals.length = 16 := by
    have hbytes := byteLength_flatten hnumerals
    rw [← htext, hlength] at hbytes
    omega
  have hbyte : ∀ index : Fin 16, ∃ byte, byteAt value.toList index = some (some byte) := by
    intro index
    rw [htext, ← List.append_nil numerals.flatten]
    exact exists_byteAt_of_lt hnumerals [] (by rw [hcount]; exact index.isLt)
  choose byte hbyte using hbyte
  refine ⟨⟨Vector.ofFn byte⟩, parseText_eq_ok_iff.2 ⟨hlength, ?_⟩⟩
  intro index
  rw [hbyte index]
  simp

/-- Where the numerals end before the text does, the next pair decides. -/
theorem parseText_stops {numerals : List (List Char)} {tail : List Char}
    (htext : value.toList = numerals.flatten ++ tail) (hnumerals : ∀ n ∈ numerals, IsNumeral n)
    (hlength : byteLength value.toList = 32) (htail : tail ≠ [])
    (hnone : ∀ pair rest, tail = pair ++ rest → byteLength pair = 2 → ¬ IsNumeral pair) :
    parseText badLength badDigits value = (splitAtByte 2 tail).map fun _ => .error badDigits := by
  have hcount : numerals.length < 16 := by
    have hbytes := byteLength_flatten hnumerals
    have hpos : 0 < byteLength tail := by
      obtain ⟨c, rest, rfl⟩ := List.exists_cons_of_ne_nil htail
      rw [byteLength_cons]
      exact Nat.add_pos_left c.utf8Size_pos _
    rw [htext, byteLength_append] at hlength
    omega
  have hstop := byteAt_append hnumerals tail
  have hslots : parseSlots badDigits value.toList (List.finRange 16) (Vector.replicate 16 0) =
      (byteAt value.toList numerals.length).map fun _ => .error badDigits :=
    parseSlots_stops (List.mem_finRange ⟨numerals.length, hcount⟩)
      (List.pairwise_lt_finRange 16) ?_ ?_
  · rw [parseText_of_length hlength, hslots, htext, hstop]
    cases splitAtByte 2 tail <;> rfl
  · intro index hindex
    rw [htext]
    exact exists_byteAt_of_lt hnumerals tail hindex
  · intro byte hbyte
    rw [htext, hstop, Option.map_eq_some_iff] at hbyte
    obtain ⟨⟨pair, rest⟩, hsplit, hvalue⟩ := hbyte
    obtain ⟨rfl, hpair⟩ := splitAtByte_eq_some_iff.1 hsplit
    obtain ⟨number, hnumber, -⟩ := Option.map_eq_some_iff.1 hvalue
    exact hnone pair rest rfl hpair ((fromStrRadix_isSome_iff hpair).1 ⟨number, hnumber⟩)

def AllNumerals (value : String) : Prop :=
  ∃ numerals : List (List Char), value.toList = numerals.flatten ∧ ∀ n ∈ numerals, IsNumeral n

/-- Behind numerals the next pair ends inside a character. -/
def CutsCharacter (value : String) : Prop :=
  ∃ (numerals : List (List Char)) (tail : List Char), value.toList = numerals.flatten ++ tail ∧
    (∀ n ∈ numerals, IsNumeral n) ∧ tail ≠ [] ∧ splitAtByte 2 tail = none

theorem text_cases (value : String) : AllNumerals value ∨ StopsAtPair value ∨ CutsCharacter value := by
  obtain ⟨numerals, tail, htext, hnumerals, htail⟩ := exists_numerals value.toList
  by_cases hempty : tail = []
  · left
    refine ⟨numerals, ?_, hnumerals⟩
    rw [htext, hempty, List.append_nil]
  right
  cases hsplit : splitAtByte 2 tail with
  | none => exact .inr ⟨numerals, tail, htext, hnumerals, hempty, hsplit⟩
  | some parts =>
    left
    obtain ⟨hparts, hpair⟩ := splitAtByte_eq_some_iff.1 hsplit
    refine ⟨numerals, parts.1, parts.2, ?_, hnumerals, hpair, htail parts.1 parts.2 hparts⟩
    rw [htext, hparts]

theorem parseText_of_stopsAtPair (h : StopsAtPair value) (hlength : byteLength value.toList = 32) :
    parseText badLength badDigits value = some (.error badDigits) := by
  obtain ⟨numerals, pair, rest, htext, hnumerals, hpair, hno⟩ := h
  have hsplit : splitAtByte 2 (pair ++ rest) = some (pair, rest) := splitAtByte_append hpair
  have htail : pair ++ rest ≠ [] := by
    rintro hnil
    rw [(List.append_eq_nil_iff.1 hnil).1] at hpair
    cases hpair
  rw [parseText_stops htext hnumerals hlength htail, hsplit]
  · rfl
  · intro other after hother hlengthOther
    rw [hother, splitAtByte_append hlengthOther, Option.some.injEq, Prod.mk.injEq] at hsplit
    rw [hsplit.1]
    exact hno

theorem parseText_of_cutsCharacter (h : CutsCharacter value)
    (hlength : byteLength value.toList = 32) : parseText badLength badDigits value = none := by
  obtain ⟨numerals, tail, htext, hnumerals, htail, hnone⟩ := h
  rw [parseText_stops htext hnumerals hlength htail, hnone]
  · rfl
  · intro pair rest hsplit hpair
    rw [hsplit, splitAtByte_append hpair] at hnone
    cases hnone

theorem parseText_eq_none_iff : parseText badLength badDigits value = none ↔
    byteLength value.toList = 32 ∧ CutsCharacter value := by
  constructor
  · intro hnone
    have hlength : byteLength value.toList = 32 := by
      by_contra hne
      rw [parseText, if_pos hne] at hnone
      cases hnone
    refine ⟨hlength, ?_⟩
    rcases text_cases value with ⟨numerals, htext, hnumerals⟩ | hstops | hcuts
    · obtain ⟨id, hid⟩ : ∃ id, parseText badLength badDigits value = some (.ok id) :=
        parseText_numerals htext hnumerals hlength
      rw [hid] at hnone
      cases hnone
    · rw [parseText_of_stopsAtPair hstops hlength] at hnone
      cases hnone
    · exact hcuts
  · rintro ⟨hlength, hcuts⟩
    exact parseText_of_cutsCharacter hcuts hlength

end Outcomes

theorem byteLength_of_digits {text : List Char} (h : ∀ c ∈ text, IsHexDigit c) :
    byteLength text = text.length := by
  induction text with
  | nil => rfl
  | cons c rest ih =>
    obtain ⟨hc, hrest⟩ := List.forall_mem_cons.1 h
    rw [byteLength_cons, (digit_ascii hc).1, ih hrest, List.length_cons, Nat.add_comm]

theorem isNumeral_of_digits {pair : List Char} (h : ∀ c ∈ pair, IsHexDigit c)
    (hlength : pair.length = 2) : IsNumeral pair := by
  obtain ⟨first, second, rfl⟩ := List.length_eq_two.1 hlength
  exact ⟨first, second, rfl, .inl (h first (by simp)), h second (by simp)⟩

theorem IsSessionIdText.allNumerals {value : String} (h : IsSessionIdText value) :
    AllNumerals value := by
  obtain ⟨hlength, hdigits⟩ := h
  rcases text_cases value with hall | ⟨numerals, pair, rest, htext, -, hpair, hno⟩ |
    ⟨numerals, tail, htext, hnumerals, htail, hnone⟩
  · exact hall
  · have hpairDigits : ∀ c ∈ pair, IsHexDigit c := by
      intro c hc
      exact hdigits c (by rw [htext]; simp [hc])
    rw [byteLength_of_digits hpairDigits] at hpair
    exact absurd (isNumeral_of_digits hpairDigits hpair) hno
  · have htailDigits : ∀ c ∈ tail, IsHexDigit c := by
      intro c hc
      exact hdigits c (by rw [htext]; simp [hc])
    have heven : 2 * numerals.length + tail.length = 32 := by
      rw [← byteLength_flatten hnumerals, ← byteLength_of_digits htailDigits, ← byteLength_append,
        ← htext, byteLength_of_digits hdigits, hlength]
    match tail with
    | [] => exact absurd rfl htail
    | [c] =>
      rw [List.length_singleton] at heven
      omega
    | c :: d :: rest =>
      have hpair : byteLength [c, d] = 2 :=
        byteLength_of_digits fun x hx => htailDigits x (by
          rw [List.mem_cons, List.mem_singleton] at hx
          rcases hx with rfl | rfl <;> simp)
      have hsplit : splitAtByte 2 ([c, d] ++ rest) = some ([c, d], rest) := splitAtByte_append hpair
      rw [List.cons_append, List.singleton_append, hnone] at hsplit
      cases hsplit

theorem IsSessionIdText.accepted {value : String} (h : IsSessionIdText value)
    (hlength : byteLength value.toList = 32) : ∃ id, parseText () () value = some (.ok id) := by
  obtain ⟨numerals, htext, hnumerals⟩ := h.allNumerals
  exact parseText_numerals htext hnumerals hlength

/-! ## Exactness -/

/-- Both parsers return, accept the session ids alone, and agree. -/
structure ParsesExactly (value : String) : Prop where
  relayReturns : parseSessionId value ≠ none
  daemonReturns : parseHexSessionId value ≠ none
  relayAccepts : (∃ id, parseSessionId value = some (some id)) ↔ IsSessionIdText value
  daemonAccepts : (∃ id, parseHexSessionId value = some (.ok id)) ↔ IsSessionIdText value
  agree : parseSessionId value = (parseHexSessionId value).map Except.toOption

theorem parsesExactly_of_error {value : String} (hrelay : ∃ error, parseText () () value = some (.error error))
    (hdaemon : ∃ error, parseHexSessionId value = some (.error error))
    (hno : ¬ IsSessionIdText value) : ParsesExactly value := by
  obtain ⟨relayError, hrelay⟩ := hrelay
  obtain ⟨daemonError, hdaemon⟩ := hdaemon
  have hnone : parseSessionId value = some none := by
    rw [parseSessionId, hrelay]
    rfl
  refine ⟨?_, ?_, ?_, ?_, ?_⟩
  · simp [hnone]
  · simp [hdaemon]
  · simp [hnone, hno]
  · simp [hdaemon, hno]
  · rw [hnone, hdaemon]
    rfl

theorem digitOf_hexDigit : ∀ n < 16, digitOf 16 (hexDigit n) = some n := by decide

theorem fromStrRadix_hexByte (byte : UInt8) : fromStrRadix 16 256 (hexByte byte) = some byte.toNat := by
  have hlt := byte.toNat_lt
  rw [hexByte, fromStrRadix_digits (digitOf_hexDigit _ (by omega)) (digitOf_hexDigit _ (by omega)),
    Option.some.injEq]
  omega

theorem isNumeral_hexByte (byte : UInt8) : IsNumeral (hexByte byte) := by
  have hlt := byte.toNat_lt
  refine ⟨_, _, rfl, .inl ?_, ?_⟩
  · rw [IsHexDigit, digitOf_hexDigit _ (by omega)]
    rfl
  · rw [IsHexDigit, digitOf_hexDigit _ (by omega)]
    rfl

theorem parseText_hex {ε : Type} (badLength badDigits : ε) (id : SessionId) :
    parseText badLength badDigits id.hex = some (.ok id) := by
  have htext : id.hex.toList = (id.bytes.toList.map hexByte).flatten := by
    rw [SessionId.hex, String.toList_ofList, List.flatMap_def]
  have hnumerals : ∀ pair ∈ id.bytes.toList.map hexByte, IsNumeral pair :=
    List.forall_mem_map.2 fun byte _ => isNumeral_hexByte byte
  rw [parseText_eq_ok_iff]
  constructor
  · rw [htext, byteLength_flatten hnumerals, List.length_map, Vector.length_toList]
  · intro index
    have hindex : (index : ℕ) < id.bytes.toList.length := by simp
    have hsplit : id.bytes.toList.map hexByte = (id.bytes.toList.take index).map hexByte ++
        hexByte id.bytes[index] :: (id.bytes.toList.drop (index + 1)).map hexByte := by
      conv_lhs => rw [← List.take_append_drop index id.bytes.toList, List.map_append,
        List.drop_eq_getElem_cons hindex, List.map_cons]
      rfl
    have hbefore : ∀ pair ∈ (id.bytes.toList.take index).map hexByte, IsNumeral pair :=
      List.forall_mem_map.2 fun byte _ => isNumeral_hexByte byte
    have hlength : ((id.bytes.toList.take index).map hexByte).length = index := by
      rw [List.length_map, List.length_take]
      omega
    have hbyte : byteAt ((_ ++ hexByte id.bytes[index] ::
        (id.bytes.toList.drop (index + 1)).map hexByte).flatten ++ []) _ = _ :=
      byteAt_numeral hbefore (isNumeral_hexByte id.bytes[index])
    rw [hlength, ← hsplit, ← htext, List.append_nil, fromStrRadix_hexByte] at hbyte
    rw [hbyte, Option.map_some, UInt8.ofNat_toNat]

theorem parseSessionId_eq_some_iff {value : String} {id : SessionId} :
    parseSessionId value = some (some id) ↔ parseText () () value = some (.ok id) := by
  rw [parseSessionId, Option.map_eq_some_iff]
  constructor
  · rintro ⟨result, hresult, hid⟩
    cases result with
    | error error => cases hid
    | ok parsed =>
      cases hid
      exact hresult
  · intro hresult
    exact ⟨_, hresult, rfl⟩

theorem parseSessionPath_append (value : String) :
    parseSessionPath ("/sessions/" ++ value) = parseSessionId value := by
  have hstarts : startsWith ("/sessions/" ++ value) "/sessions/" = true := by
    rw [startsWith, String.toList_append, List.isPrefixOf_iff_prefix]
    exact List.prefix_append _ _
  rw [parseSessionPath, if_pos hstarts, String.toList_append]
  congr 1
  rw [List.drop_left' (by rfl), String.ofList_toList]

/-- The parsers are exact for the text exactly when it is not of 32 bytes, or it is a session
id, or a pair that is no numeral comes before any that cuts a character. Session ids that are
written are always read back. -/
theorem session_id_text_exact_iff (value : String) :
    (ParsesExactly value ↔
      byteLength value.toList ≠ 32 ∨ IsSessionIdText value ∨ StopsAtPair value) ∧
    ∀ id : SessionId, parseSessionId id.hex = some (some id) ∧
      parseHexSessionId id.hex = some (.ok id) := by
  refine ⟨?_, fun id => ⟨parseSessionId_eq_some_iff.2 (parseText_hex _ _ id), parseText_hex _ _ id⟩⟩
  by_cases hlength : byteLength value.toList = 32
  · rcases text_cases value with hall | hstops | hcuts
    · obtain ⟨numerals, htext, hnumerals⟩ := hall
      obtain ⟨id, hid⟩ : ∃ id, parseText () () value = some (.ok id) :=
        parseText_numerals htext hnumerals hlength
      have hdaemon : parseHexSessionId value = some (.ok id) :=
        parseText_eq_ok_iff.2 (parseText_eq_ok_iff.1 hid)
      have hrelay := parseSessionId_eq_some_iff.2 hid
      have hgoes : ¬ StopsAtPair value := by
        intro hstops
        rw [parseText_of_stopsAtPair hstops hlength] at hid
        cases hid
      simp only [hlength, ne_eq, not_true, hgoes, false_or, or_false]
      constructor
      · intro hexact
        exact hexact.relayAccepts.1 ⟨id, hrelay⟩
      · intro hvalid
        refine ⟨?_, ?_, ?_, ?_, ?_⟩
        · simp [hrelay]
        · simp [hdaemon]
        · simp [hrelay, hvalid]
        · simp [hdaemon, hvalid]
        · rw [hrelay, hdaemon]
          rfl
    · have hno : ¬ IsSessionIdText value := by
        intro hvalid
        obtain ⟨id, hid⟩ := hvalid.accepted hlength
        rw [parseText_of_stopsAtPair hstops hlength] at hid
        cases hid
      refine ⟨fun _ => .inr (.inr hstops), fun _ => ?_⟩
      exact parsesExactly_of_error ⟨_, parseText_of_stopsAtPair hstops hlength⟩
        ⟨_, parseText_of_stopsAtPair hstops hlength⟩ hno
    · have hpanics : parseHexSessionId value = none := parseText_of_cutsCharacter hcuts hlength
      refine ⟨fun hexact => absurd hpanics hexact.daemonReturns, ?_⟩
      rintro (hother | hvalid | hstops)
      · exact absurd hlength hother
      · obtain ⟨id, hid⟩ := hvalid.accepted hlength
        rw [parseText_of_cutsCharacter hcuts hlength] at hid
        cases hid
      · have herror : parseHexSessionId value = some (.error _) :=
          parseText_of_stopsAtPair hstops hlength
        rw [hpanics] at herror
        cases herror
  · have hno : ¬ IsSessionIdText value := by
      intro hvalid
      exact hlength ((byteLength_of_digits hvalid.2).trans hvalid.1)
    refine ⟨fun _ => .inl hlength, fun _ => ?_⟩
    exact parsesExactly_of_error ⟨_, if_pos hlength⟩ ⟨_, if_pos hlength⟩ hno

theorem inexact_session_ids :
    (parseHexSessionId "0é00000000000000000000000000000" = none ∧
      ¬ ParsesExactly "0é00000000000000000000000000000") ∧
    (∃ id, parseSessionId "+f000000000000000000000000000000" = some (some id)) ∧
      ¬ IsSessionIdText "+f000000000000000000000000000000" ∧
      ¬ ParsesExactly "+f000000000000000000000000000000" := by
  have hpanics : parseHexSessionId "0é00000000000000000000000000000" = none := by decide +kernel
  have haccepts : ∃ id, parseSessionId "+f000000000000000000000000000000" = some (some id) :=
    ⟨⟨#v[15, 0, 0, 0, 0, 0, 0, 0, 0, 0, 0, 0, 0, 0, 0, 0]⟩, by decide +kernel⟩
  have hno : ¬ IsSessionIdText "+f000000000000000000000000000000" := by
    intro hvalid
    exact absurd (hvalid.2 '+' (by decide +kernel)) (by decide)
  refine ⟨⟨hpanics, fun hexact => hexact.daemonReturns hpanics⟩, haccepts, hno, ?_⟩
  intro hexact
  exact hno (hexact.relayAccepts.1 haccepts)

end QuipNet.SessionIds
