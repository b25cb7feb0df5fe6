import AddressSpace.Json.Reader
import AddressSpace.Json.Writer
import AddressSpace.Proofs.Identifier.Grammar
import AddressSpace.Proofs.WireId
import Mathlib.Data.List.TakeDrop

namespace AddressSpace.Json

theorem codePoints?_escaped {mark c : Char} (escape : escaped? mark = some c) (rest : List Char) :
    codePoints? ('\\' :: mark :: rest) =
      (codePoints? rest).map fun (points, rest) => (c.toNat :: points, rest) := by
  have other : mark ≠ 'u' := by
    rintro rfl
    cases escape
  rw [codePoints?]
  · rw [escape]
    cases codePoints? rest <;> rfl
  · simp [other]

theorem codePoints?_hex {n : Nat} (small : n < 0x10000) (rest : List Char) :
    codePoints? ('\\' :: 'u' :: Text.hex 4 n ++ rest) =
      (codePoints? rest).map fun (points, rest) => (n :: points, rest) := by
  have value := (Text.natural?_hex 3 n).trans (congrArg some (Nat.mod_eq_of_lt small))
  simp only [Text.hex, List.nil_append, List.cons_append] at value ⊢
  rw [codePoints?, value]
  cases codePoints? rest <;> rfl

theorem codePoints?_jsonChar (c : Char) (rest : List Char) :
    codePoints? (Text.Quoted.jsonChar c ++ rest) =
      (codePoints? rest).map fun (points, rest) => (c.toNat :: points, rest) := by
  unfold Text.Quoted.jsonChar
  split_ifs with quote backslash newline carriage tab back feed control
  · exact codePoints?_escaped (by rw [quote]; rfl) rest
  · exact codePoints?_escaped (by rw [backslash]; rfl) rest
  · exact codePoints?_escaped (by rw [newline]; rfl) rest
  · exact codePoints?_escaped (by rw [carriage]; rfl) rest
  · exact codePoints?_escaped (by rw [tab]; rfl) rest
  · exact codePoints?_escaped (by rw [back]; rfl) rest
  · exact codePoints?_escaped (by rw [feed]; rfl) rest
  · exact codePoints?_hex (by omega) rest
  · rw [List.singleton_append, codePoints?]
    · simp only [control, backslash, or_self, if_false]
      cases codePoints? rest <;> rfl
    · simp [quote]
    · simp [backslash]
    · simp [backslash]

theorem codePoints?_flatMap (cs rest : List Char) :
    codePoints? (cs.flatMap Text.Quoted.jsonChar ++ '"' :: rest) = some (cs.map Char.toNat, rest) := by
  induction cs with
  | nil => rfl
  | cons c cs ih =>
      rw [List.flatMap_cons, List.append_assoc, codePoints?_jsonChar, ih]
      rfl

theorem joinSurrogates?_map_toNat (cs : List Char) : joinSurrogates? (cs.map Char.toNat) = some cs := by
  induction cs with
  | nil => rfl
  | cons c cs ih =>
      have valid : c.toNat < 0xD800 ∨ 0xDFFF < c.toNat ∧ c.toNat < 0x110000 := c.valid
      have noHigh : ¬ (0xD800 ≤ c.toNat ∧ c.toNat < 0xDC00) := by omega
      have noLow : ¬ (0xDC00 ≤ c.toNat ∧ c.toNat < 0xE000) := by omega
      rw [List.map_cons, joinSurrogates?.eq_def]
      simp only [if_neg noHigh, if_neg noLow, ih, Char.ofNat_toNat, Option.map_some]

theorem stringTail?_flatMap (s : String) (rest : List Char) :
    stringTail? (s.toList.flatMap Text.Quoted.jsonChar ++ '"' :: rest) = some (some s, rest) := by
  simp [stringTail?, codePoints?_flatMap, joinSurrogates?_map_toNat]

/-- What may follow a value: nothing, or a character that separates or closes. -/
def Delimited (rest : List Char) : Prop :=
  ∀ c, rest.head? = some c → c = ',' ∨ c = ']' ∨ c = '\x7d'

theorem le_foldl_digits (digits : List Nat) (n : Nat) :
    n ≤ digits.foldl (fun value d => 10 * value + d) n := by
  induction digits generalizing n with
  | nil => exact Nat.le_refl n
  | cons d digits ih =>
      have later := ih (10 * n + d)
      rw [List.foldl_cons]
      omega

theorem absorb_digits {word : UInt64} {digits : List Nat} (small : ∀ d ∈ digits, d < 10)
    (bounded : digits.foldl (fun value d => 10 * value + d) word.toNat < UInt64.size) :
    absorb word (digits.map Nat.digitChar) =
      (UInt64.ofNat (digits.foldl (fun value d => 10 * value + d) word.toNat), []) := by
  induction digits generalizing word with
  | nil => simp [absorb]
  | cons d digits ih =>
      have value : ∀ d < 10, (Nat.digitChar d).toNat - '0'.toNat = d := by decide
      have room : 10 * word.toNat + d < UInt64.size :=
        Nat.lt_of_le_of_lt (le_foldl_digits digits _) bounded
      have whole : (UInt64.ofNat (10 * word.toNat + d)).toNat = 10 * word.toNat + d := by
        simp [Nat.mod_eq_of_lt room]
      rw [List.map_cons, absorb, value d (small d (by simp)), if_pos room, ih, whole, List.foldl_cons]
      · exact fun d listed => small d (by simp [listed])
      · rwa [whole]

theorem absorb_toString {n : Nat} (bounded : n < UInt64.size) :
    absorb 0 (toString n).toList = (UInt64.ofNat n, []) := by
  rw [Text.toList_toString]
  obtain ⟨-, digits, found, value⟩ := Text.natural?_eq_some_iff.1 (Text.natural?_toDigits n)
  obtain ⟨small, -, plain⟩ := Text.of_mapM_digit? found
  rw [plain (Nat.le_refl 10), ← value]
  apply absorb_digits small
  rw [← value] at bounded
  exact bounded

theorem head?_toDigits {n : Nat} (positive : 0 < n) : (Nat.toDigits 10 n).head? ≠ some '0' := by
  induction n using Nat.strongRecOn with
  | ind n ih =>
      rw [Nat.toDigits_eq_if (by decide)]
      split
      case isTrue small =>
        have digit : ∀ d < 10, 0 < d → Nat.digitChar d ≠ '0' := by decide
        simpa using digit n small positive
      case isFalse large =>
        have front := ih (n / 10) (by omega) (by omega)
        obtain ⟨c, cs, digits⟩ := List.exists_cons_of_ne_nil (Nat.toDigits_ne_nil (n := n / 10))
        rw [digits] at front ⊢
        exact front

theorem leadingDigits_toString (n : Nat) {rest : List Char} (delimited : Delimited rest) :
    leadingDigits ((toString n).toList ++ rest) = ((toString n).toList, rest) := by
  have decimal : ∀ c ∈ (toString n).toList, ('0' ≤ c && c ≤ '9') = true := by
    intro c written
    have digit := Text.isDigit_of_mem_toString written
    simpa [Char.isDigit, Char.le_def] using digit
  have stops : ∀ c, rest.head? = some c → ('0' ≤ c && c ≤ '9') = false := by
    intro c first
    rcases delimited c first with rfl | rfl | rfl <;> rfl
  rw [leadingDigits, List.span_eq_takeWhile_dropWhile, Text.takeWhile_run decimal stops,
    Text.dropWhile_run decimal stops]

theorem integerPart?_toString (n : Nat) {rest : List Char} (delimited : Delimited rest) :
    integerPart? ((toString n).toList ++ rest) = some ((toString n).toList, rest) := by
  rw [integerPart?, leadingDigits_toString n delimited, Text.toList_toString]
  split
  case h_1 empty => simp at empty
  case h_2 c others behind zero =>
    cases n with
    | zero => cases zero
    | succ n =>
        have first := head?_toDigits (Nat.succ_pos n)
        simp [(Prod.mk.inj zero).1] at first
  case h_3 digits behind same =>
    cases same
    rfl

theorem fractionPart?_of_delimited {rest : List Char} (delimited : Delimited rest) :
    fractionPart? rest = some ([], rest) := by
  unfold fractionPart?
  split
  case h_1 => simpa using delimited '.' rfl
  case h_2 => rfl

theorem exponentPart?_of_delimited {rest : List Char} (delimited : Delimited rest) :
    exponentPart? rest = some (none, rest) := by
  unfold exponentPart?
  split
  case h_1 c rest =>
    rcases delimited c rfl with rfl | rfl | rfl <;> rfl
  case h_2 => rfl

theorem numberValue_natural {n : Nat} (bounded : n < UInt64.size) :
    numberValue false (toString n).toList [] none = int n := by
  have whole : (UInt64.ofNat n).toNat = n := by simp [Nat.mod_eq_of_lt bounded]
  unfold numberValue
  rw [absorb_toString bounded]
  simp [whole]

theorem numberValue_negative {n : Nat} (positive : 0 < n) (bounded : 2 * n ≤ UInt64.size) :
    numberValue true (toString n).toList [] none = int (-n) := by
  have small : n < UInt64.size := by omega
  have whole : (UInt64.ofNat n).toNat = n := by simp [Nat.mod_eq_of_lt small]
  have positive' : 0 < UInt64.ofNat n := by
    rw [UInt64.lt_iff_toNat_lt, whole]
    exact positive
  unfold numberValue
  rw [absorb_toString small]
  simp [whole, positive', bounded]

theorem toString_negSucc (n : Nat) :
    (toString (Int.negSucc n)).toList = '-' :: (toString (n + 1)).toList := by
  show ("-" ++ toString (n + 1)).toList = _
  rw [String.toList_append]
  rfl

theorem number?_toString {n : Int} (least : -UInt64.size ≤ 2 * n) (most : n < UInt64.size)
    {rest : List Char} (delimited : Delimited rest) :
    number? ((toString n).toList ++ rest) = some (int n, rest) := by
  cases n with
  | ofNat n =>
      have written : (toString (Int.ofNat n)).toList = (toString n).toList := rfl
      have bounded : n < UInt64.size := Int.ofNat_lt.1 most
      rw [written]
      unfold number?
      split
      case h_1 negative cs sign =>
        split at sign
        case h_1 same =>
          obtain ⟨c, cs, digits, digit⟩ := Text.exists_toString_eq_cons n
          rw [digits] at same
          cases same
          cases digit
        case h_2 =>
          cases sign
          simp only [integerPart?_toString _ delimited, fractionPart?_of_delimited delimited,
            exponentPart?_of_delimited delimited, Option.bind_eq_bind, Option.bind_some,
            numberValue_natural bounded]
          rfl
  | negSucc n =>
      have bounded : 2 * (n + 1) ≤ UInt64.size := by omega
      rw [toString_negSucc, List.cons_append, number?]
      simp only [integerPart?_toString _ delimited, fractionPart?_of_delimited delimited,
        exponentPart?_of_delimited delimited, Option.bind_eq_bind, Option.bind_some,
        numberValue_negative (Nat.succ_pos n) bounded]
      rfl

mutual

/-- Values that their own text denotes: they nest at most `room` containers, and their numbers are
integers of 64 bits. -/
def IsPlain : (room : Nat) → Json → Prop
  | _, null | _, bool _ | _, string _ => True
  | _, int n => -UInt64.size ≤ 2 * n ∧ n < UInt64.size
  | room, array elements => 0 < room ∧ AllPlain (room - 1) elements
  | room, object members => 0 < room ∧ AllMembersPlain (room - 1) members
  | _, real _ | _, unreadable => False

def AllPlain : (room : Nat) → List Json → Prop
  | _, [] => True
  | room, value :: rest => value.IsPlain room ∧ AllPlain room rest

def AllMembersPlain : (room : Nat) → List (String × Json) → Prop
  | _, [] => True
  | room, (_, value) :: rest => value.IsPlain room ∧ AllMembersPlain room rest

end

theorem toList_toText_string (s : String) :
    (toText (string s)).toList = '"' :: (s.toList.flatMap Text.Quoted.jsonChar ++ ['"']) := by
  rw [toText, Text.Quoted.json, String.toList_ofList]
  rfl

theorem toList_toText_array (elements : List Json) : (toText (array elements)).toList =
    '[' :: ((",".intercalate (elementTexts elements)).toList ++ [']']) := by
  rw [toText, String.toList_append, String.toList_append]
  rfl

theorem toList_toText_object (members : List (String × Json)) : (toText (object members)).toList =
    '\x7b' :: ((",".intercalate (memberTexts members)).toList ++ ['\x7d']) := by
  rw [toText, String.toList_append, String.toList_append]
  rfl

theorem skipSpace_cons {c : Char} (visible : isSpace c = false) (cs : List Char) :
    skipSpace (c :: cs) = c :: cs := by
  simp [skipSpace, visible]

def StartsNumber (c : Char) : Prop := c = '-' ∨ c.isDigit = true

theorem StartsNumber.ne {c d : Char} (starts : StartsNumber c) (other : d ≠ '-')
    (other' : d.isDigit = false) : c ≠ d := by
  rintro rfl
  rcases starts with minus | digit
  · exact other minus
  · simp [other'] at digit

theorem StartsNumber.visible {c : Char} (starts : StartsNumber c) : isSpace c = false := by
  simp [isSpace, starts.ne]

theorem exists_int_eq_cons (n : Int) :
    ∃ c cs, (int n).toText.toList = c :: cs ∧ StartsNumber c := by
  cases n with
  | ofNat n =>
      obtain ⟨c, cs, digits, digit⟩ := Text.exists_toString_eq_cons n
      exact ⟨c, cs, digits, .inr digit⟩
  | negSucc n =>
      refine ⟨'-', (toString (n + 1)).toList, ?_, .inl rfl⟩
      rw [toText, toString_negSucc]

theorem exists_toText_eq_cons {room : Nat} {value : Json} (plain : value.IsPlain room) :
    ∃ c cs, value.toText.toList = c :: cs ∧ isSpace c = false ∧ c ≠ ']' := by
  cases value with
  | null => exact ⟨'n', _, rfl, rfl, by decide⟩
  | bool b => cases b <;> exact ⟨_, _, rfl, rfl, by decide⟩
  | int n =>
      obtain ⟨c, cs, written, starts⟩ := exists_int_eq_cons n
      exact ⟨c, cs, written, starts.visible, starts.ne (by decide) (by decide)⟩
  | string s => exact ⟨'"', _, toList_toText_string s, rfl, by decide⟩
  | array elements => exact ⟨'[', _, toList_toText_array elements, rfl, by decide⟩
  | object members => exact ⟨'\x7b', _, toList_toText_object members, rfl, by decide⟩
  | real _ => cases plain
  | unreadable => cases plain

variable {fuel room : Nat} {rest : List Char}

theorem value?_of_startsNumber {c : Char} (starts : StartsNumber c) (cs : List Char) :
    value? (fuel + 1) room (c :: cs) = number? (c :: cs) := by
  rw [value?, skipSpace_cons starts.visible]
  split
  case h_7 => rfl
  all_goals
    next same =>
      cases same
      rcases starts with minus | digit
      · cases minus
      · cases digit

theorem value?_int {n : Int} (plain : (int n).IsPlain room) (delimited : Delimited rest) :
    value? (fuel + 1) room ((int n).toText.toList ++ rest) = some (int n, rest) := by
  have read := number?_toString plain.1 plain.2 delimited
  obtain ⟨c, cs, written, starts⟩ := exists_int_eq_cons n
  rw [written, List.cons_append, value?_of_startsNumber starts, ← List.cons_append, ← written]
  exact read

theorem value?_string (s : String) :
    value? (fuel + 1) room ((string s).toText.toList ++ rest) = some (string s, rest) := by
  rw [toList_toText_string]
  simp [value?, skipSpace_cons, isSpace, stringTail?_flatMap]

theorem value?_array {elements : List Json} {c : Char} {cs : List Char} (nested : 0 < room)
    (starts : (",".intercalate (elementTexts elements)).toList = c :: cs) (visible : isSpace c = false)
    (other : c ≠ ']') (read : elements? fuel (room - 1)
      ((",".intercalate (elementTexts elements)).toList ++ ']' :: rest) = some (elements, rest)) :
    value? (fuel + 1) room ((array elements).toText.toList ++ rest) = some (array elements, rest) := by
  rw [starts, List.cons_append] at read
  rw [toList_toText_array, List.cons_append, List.append_assoc, List.singleton_append, starts, value?,
    skipSpace_cons rfl]
  simp only [List.cons_append, skipSpace_cons visible]
  split
  case h_1 same =>
    cases same
    exact absurd rfl other
  case h_2 =>
    simp [read, withinRoom, nested.ne']

theorem ofMembers_named (members : List (String × Json)) :
    ofMembers (members.map (Prod.map some id)) = object members := by
  have named : (members.map (Prod.map some id)).mapM (fun member => member.1.map (·, member.2)) =
      some members := by
    induction members with
    | nil => rfl
    | cons member members ih =>
        rw [List.map_cons, List.mapM_cons, ih]
        rfl
  unfold ofMembers
  split
  case h_1 same => rw [Option.some.inj (same.symm.trans named)]
  case h_2 same => cases same.symm.trans named

theorem value?_object {members : List (String × Json)} {cs : List Char} (nested : 0 < room)
    (starts : (",".intercalate (memberTexts members)).toList = '"' :: cs)
    (read : members? fuel (room - 1)
      ((",".intercalate (memberTexts members)).toList ++ '\x7d' :: rest) =
        some (members.map (Prod.map some id), rest)) :
    value? (fuel + 1) room ((object members).toText.toList ++ rest) = some (object members, rest) := by
  rw [starts, List.cons_append] at read
  rw [toList_toText_object, List.cons_append, List.append_assoc, List.singleton_append, starts, value?,
    skipSpace_cons rfl]
  simp only [List.cons_append, skipSpace_cons (c := '"') rfl]
  simp [read, withinRoom, nested.ne', ofMembers_named]

theorem elements?_last {cs : List Char} {value : Json}
    (read : value? fuel room cs = some (value, ']' :: rest)) :
    elements? (fuel + 1) room cs = some ([value], rest) := by
  simp [elements?, read, skipSpace_cons, isSpace]

theorem elements?_cons {cs behind : List Char} {value : Json} {elements : List Json}
    (read : value? fuel room cs = some (value, ',' :: behind))
    (later : elements? fuel room behind = some (elements, rest)) :
    elements? (fuel + 1) room cs = some (value :: elements, rest) := by
  simp [elements?, read, later, skipSpace_cons, isSpace]

theorem members?_last {name : String} {cs : List Char} {value : Json}
    (read : value? fuel room cs = some (value, '\x7d' :: rest)) :
    members? (fuel + 1) room ((Text.Quoted.json name).toList ++ ':' :: cs) =
      some ([(some name, value)], rest) := by
  simp [members?, Text.Quoted.json, read, stringTail?_flatMap, skipSpace_cons, isSpace]

theorem members?_cons {name : String} {cs behind : List Char} {value : Json}
    {members : List (Option String × Json)}
    (read : value? fuel room cs = some (value, ',' :: behind))
    (later : members? fuel room behind = some (members, rest)) :
    members? (fuel + 1) room ((Text.Quoted.json name).toList ++ ':' :: cs) =
      some ((some name, value) :: members, rest) := by
  simp [members?, Text.Quoted.json, read, later, stringTail?_flatMap, skipSpace_cons, isSpace]

theorem delimited_cons {c : Char} (delimits : c = ',' ∨ c = ']' ∨ c = '\x7d') (rest : List Char) :
    Delimited (c :: rest) := by
  intro d first
  cases first
  exact delimits

theorem toList_elementTexts_singleton (value : Json) :
    (",".intercalate (elementTexts [value])).toList = value.toText.toList := by
  simp [elementTexts]

theorem toList_elementTexts_cons (value next : Json) (rest : List Json) :
    (",".intercalate (elementTexts (value :: next :: rest))).toList =
      value.toText.toList ++ ',' :: (",".intercalate (elementTexts (next :: rest))).toList := by
  rw [elementTexts, elementTexts, String.intercalate_cons_cons]
  simp

theorem exists_elementTexts_eq_cons {value : Json} (plain : value.IsPlain room) (rest : List Json) :
    ∃ c cs, (",".intercalate (elementTexts (value :: rest))).toList = c :: cs ∧ isSpace c = false ∧
      c ≠ ']' := by
  obtain ⟨c, cs, written, first⟩ := exists_toText_eq_cons plain
  cases rest with
  | nil => exact ⟨c, cs, by rw [toList_elementTexts_singleton, written], first⟩
  | cons next rest =>
      exact ⟨c, _, by rw [toList_elementTexts_cons, written, List.cons_append], first⟩

theorem toList_memberTexts_singleton (name : String) (value : Json) :
    (",".intercalate (memberTexts [(name, value)])).toList =
      (Text.Quoted.json name).toList ++ ':' :: value.toText.toList := by
  simp [memberTexts]

theorem toList_memberTexts_cons (name : String) (value : Json) (next : String × Json)
    (rest : List (String × Json)) :
    (",".intercalate (memberTexts ((name, value) :: next :: rest))).toList =
      (Text.Quoted.json name).toList ++
        ':' :: (value.toText.toList ++ ',' :: (",".intercalate (memberTexts (next :: rest))).toList) := by
  rw [memberTexts, memberTexts, String.intercalate_cons_cons]
  simp

theorem exists_memberTexts_eq_cons (member : String × Json) (rest : List (String × Json)) :
    ∃ cs, (",".intercalate (memberTexts (member :: rest))).toList = '"' :: cs := by
  obtain ⟨name, value⟩ := member
  have quoted : (Text.Quoted.json name).toList =
      '"' :: (name.toList.flatMap Text.Quoted.jsonChar ++ ['"']) := toList_toText_string name
  cases rest with
  | nil => exact ⟨_, by rw [toList_memberTexts_singleton, quoted, List.cons_append]⟩
  | cons next rest => exact ⟨_, by rw [toList_memberTexts_cons, quoted, List.cons_append]⟩

mutual

theorem value?_toText (value : Json) {fuel room : Nat} {rest : List Char} (plain : value.IsPlain room)
    (delimited : Delimited rest) (enough : value.toText.toList.length ≤ fuel) :
    value? fuel room (value.toText.toList ++ rest) = some (value, rest) := by
  have positive : fuel ≠ 0 := by
    obtain ⟨c, cs, written, -⟩ := exists_toText_eq_cons plain
    rw [written, List.length_cons] at enough
    omega
  obtain ⟨fuel, rfl⟩ := Nat.exists_eq_succ_of_ne_zero positive
  cases value with
  | null => rfl
  | bool b => cases b <;> rfl
  | int n => exact value?_int plain delimited
  | string s => exact value?_string s
  | array elements =>
      rw [IsPlain] at plain
      cases elements with
      | nil => simp [toText, elementTexts, value?, skipSpace_cons, isSpace, withinRoom, plain.1.ne']
      | cons element elements =>
          rw [toList_toText_array, List.length_cons, List.length_append, List.length_singleton] at enough
          obtain ⟨c, cs, written, visible, other⟩ := exists_elementTexts_eq_cons plain.2.1 elements
          apply value?_array plain.1 written visible other
          exact elements?_toTexts (element :: elements) rest (by simp) plain.2 (by omega)
  | object members =>
      rw [IsPlain] at plain
      cases members with
      | nil => simp [toText, memberTexts, value?, skipSpace_cons, isSpace, withinRoom, plain.1.ne']
      | cons member members =>
          rw [toList_toText_object, List.length_cons, List.length_append, List.length_singleton] at enough
          obtain ⟨cs, written⟩ := exists_memberTexts_eq_cons member members
          apply value?_object plain.1 written
          exact members?_toTexts (member :: members) rest (by simp) plain.2 (by omega)
  | real _ => cases plain
  | unreadable => cases plain

theorem elements?_toTexts (elements : List Json) {fuel room : Nat} (rest : List Char)
    (inhabited : elements ≠ []) (plain : AllPlain room elements)
    (enough : (",".intercalate (elementTexts elements)).toList.length < fuel) :
    elements? fuel room ((",".intercalate (elementTexts elements)).toList ++ ']' :: rest) =
      some (elements, rest) := by
  obtain ⟨fuel, rfl⟩ : ∃ less, fuel = less + 1 := Nat.exists_eq_succ_of_ne_zero (by omega)
  cases elements with
  | nil => cases inhabited rfl
  | cons value others =>
      rw [AllPlain] at plain
      cases others with
      | nil =>
          rw [toList_elementTexts_singleton] at enough ⊢
          apply elements?_last
          exact value?_toText value plain.1 (delimited_cons (by simp) rest) (by omega)
      | cons next others =>
          rw [toList_elementTexts_cons, List.length_append, List.length_cons] at enough
          rw [toList_elementTexts_cons, List.append_assoc, List.cons_append]
          apply elements?_cons
          · exact value?_toText value plain.1 (delimited_cons (by simp) _) (by omega)
          · exact elements?_toTexts (next :: others) rest (by simp) plain.2 (by omega)

theorem members?_toTexts (members : List (String × Json)) {fuel room : Nat} (rest : List Char)
    (inhabited : members ≠ []) (plain : AllMembersPlain room members)
    (enough : (",".intercalate (memberTexts members)).toList.length < fuel) :
    members? fuel room ((",".intercalate (memberTexts members)).toList ++ '\x7d' :: rest) =
      some (members.map (Prod.map some id), rest) := by
  obtain ⟨fuel, rfl⟩ : ∃ less, fuel = less + 1 := Nat.exists_eq_succ_of_ne_zero (by omega)
  cases members with
  | nil => cases inhabited rfl
  | cons member others =>
      obtain ⟨name, value⟩ := member
      rw [AllMembersPlain] at plain
      cases others with
      | nil =>
          rw [toList_memberTexts_singleton, List.length_append, List.length_cons] at enough
          rw [toList_memberTexts_singleton, List.append_assoc, List.cons_append]
          apply members?_last
          exact value?_toText value plain.1 (delimited_cons (by simp) rest) (by omega)
      | cons next others =>
          rw [toList_memberTexts_cons, List.length_append, List.length_cons, List.length_append,
            List.length_cons] at enough
          rw [toList_memberTexts_cons, List.append_assoc, List.cons_append, List.append_assoc,
            List.cons_append]
          apply members?_cons
          · exact value?_toText value plain.1 (delimited_cons (by simp) _) (by omega)
          · exact members?_toTexts (next :: others) rest (by simp) plain.2 (by omega)

end

theorem ofText?_toText {value : Json} (plain : value.IsPlain maxNesting) :
    ofText? value.toText = some value := by
  have read : value? (2 * value.toText.toList.length + 1) maxNesting (value.toText.toList ++ []) =
      some (value, []) :=
    value?_toText value plain (by simp [Delimited]) (by omega)
  rw [List.append_nil] at read
  simp only [ofText?, read, Option.bind_eq_bind, Option.bind_some]
  rfl

end AddressSpace.Json
