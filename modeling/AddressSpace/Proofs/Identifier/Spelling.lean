import AddressSpace.Proofs.Identifier

namespace AddressSpace

namespace Text

def Decimal (n : Nat) (cs : List Char) : Prop :=
  ∃ digits : List Nat, digits ≠ [] ∧ (∀ d ∈ digits, d < 10) ∧ ofDigits 10 digits = n ∧
    cs = digits.map Nat.digitChar

variable {n limit : Nat} {cs : List Char}

theorem mapM_digit?_digitChar {base : Nat} (inside : base ≤ 16) {digits : List Nat}
    (small : ∀ d ∈ digits, d < base) :
    (digits.map Nat.digitChar).mapM (digit? base) = some digits := by
  induction digits with
  | nil => rfl
  | cons d rest ih =>
      have first := digit?_digitChar inside (small d (by simp))
      have behind := ih fun d listed => small d (by simp [listed])
      simp [first, behind]

theorem Decimal.natural? (decimal : Decimal n cs) : natural? 10 cs = some n := by
  obtain ⟨digits, whole, small, rfl, rfl⟩ := decimal
  simp [Text.natural?, whole, mapM_digit?_digitChar (by decide) small]

theorem Decimal.unsigned? (decimal : Decimal n cs) (small : n < limit) :
    unsigned? limit cs = some n :=
  unsigned?_of_natural? decimal.natural? small

theorem Decimal.unsigned?_signed (decimal : Decimal n cs) (small : n < limit) :
    Text.unsigned? limit ('+' :: cs) = some n := by
  simp [Text.unsigned?, decimal.natural?, small]

theorem hexValue?_toLower (c : Char) : hexValue? c.toLower = hexValue? c := by
  have letters : ∀ n < 26,
      hexValue? (Char.ofNat (n + 65)).toLower = hexValue? (Char.ofNat (n + 65)) := by
    decide
  by_cases upper : c.val ≥ 'A'.val ∧ c.val ≤ 'Z'.val
  · have bounds : 65 ≤ c.toNat ∧ c.toNat ≤ 90 := upper
    have same : Char.ofNat (c.toNat - 65 + 65) = c := by
      rw [Nat.sub_add_cancel bounds.1, Char.ofNat_toNat]
    have letter := letters (c.toNat - 65) (by omega)
    rwa [same] at letter
  · have same : c.toLower = c := dif_neg upper
    rw [same]

theorem digit?_toLower (base : Nat) (c : Char) : digit? base c.toLower = digit? base c := by
  rw [digit?, hexValue?_toLower, digit?]

theorem natural?_toLower (base : Nat) (cs : List Char) :
    natural? base (cs.map Char.toLower) = natural? base cs := by
  have read : (cs.map Char.toLower).mapM (digit? base) = cs.mapM (digit? base) := by
    induction cs with
    | nil => rfl
    | cons c rest ih => simp [digit?_toLower, ih]
  simp [natural?, read]

end Text

namespace Guid
open Text

inductive Spells (guid : Guid) : List Char → Prop
  | bare {cs : List Char} (digits : cs.map Char.toLower = guid.digits) : Spells guid cs
  | hyphenated {cs : List Char} (digits : cs.map Char.toLower = guid.digits) :
      Spells guid (hyphenated cs)
  | braced {cs : List Char} (digits : cs.map Char.toLower = guid.digits) :
      Spells guid ('{' :: Guid.hyphenated cs ++ ['}'])
  | urn {mark cs : List Char} (named : mark.map Char.toLower = urnMark)
      (digits : cs.map Char.toLower = guid.digits) : Spells guid (mark ++ Guid.hyphenated cs)

variable {guid : Guid} {cs : List Char}

theorem length_of_digits (digits : cs.map Char.toLower = guid.digits) : cs.length = 32 := by
  have length : guid.digits.length = 32 := length_hex 32 _
  rw [← digits, List.length_map] at length
  exact length

theorem length_hyphenated (length : cs.length = 32) : (hyphenated cs).length = 36 := by
  simp [hyphenated, length]

theorem bare_of_digits (digits : cs.map Char.toLower = guid.digits) : '-' ∉ cs := by
  intro written
  have lower : '-' ∈ guid.digits := by
    rw [← digits]
    exact List.mem_map_of_mem (f := Char.toLower) written
  obtain ⟨d, small, same⟩ := mem_hex lower
  have foreign : ∀ d < 16, '-' ≠ Nat.digitChar d := by decide
  exact foreign d small same

theorem ofDigits?_of_digits (digits : cs.map Char.toLower = guid.digits) :
    ofDigits? cs = some guid := by
  have read : natural? 16 cs = some guid.bits.toNat := by
    rw [← natural?_toLower, digits, Guid.digits, natural?_hex, Nat.mod_eq_of_lt]
    exact guid.bits.isLt
  simp [ofDigits?, length_of_digits digits, read]

theorem ofHyphenated?_of_digits (digits : cs.map Char.toLower = guid.digits) :
    ofHyphenated? (hyphenated cs) = some guid := by
  unfold ofHyphenated?
  rw [filter_hyphenated (bare_of_digits digits)]
  simp [ofDigits?_of_digits digits]

theorem ofDigits?_of_length (other : cs.length ≠ 32) : ofDigits? cs = none := if_neg other

theorem ofHyphenated?_of_length (other : (cs.filter (· ≠ '-')).length ≠ 32) :
    ofHyphenated? cs = none := by
  unfold ofHyphenated?
  simp only [ofDigits?_of_length other, ite_self]

theorem length_urnMark {mark : List Char} (named : mark.map Char.toLower = urnMark) :
    mark.length = 9 := by
  have length := congrArg List.length named
  rw [List.length_map] at length
  exact length

theorem bare_urnMark {mark : List Char} (named : mark.map Char.toLower = urnMark) :
    '-' ∉ mark := by
  intro written
  have lower : '-' ∈ urnMark := by
    rw [← named]
    exact List.mem_map_of_mem (f := Char.toLower) written
  exact absurd lower (by decide)

theorem unbraced?_urnMark {mark : List Char} (named : mark.map Char.toLower = urnMark)
    (behind : List Char) : unbraced? (mark ++ behind) = none := by
  cases mark with
  | nil => cases named
  | cons c rest =>
      unfold unbraced?
      split
      case h_2 => rfl
      case h_1 brace =>
        cases brace
        cases named

theorem Spells.ofChars? (spells : guid.Spells cs) : ofChars? cs = some guid := by
  cases spells with
  | bare digits => rw [Guid.ofChars?, ofDigits?_of_digits digits, Option.some_or]
  | hyphenated digits =>
      have long := length_hyphenated (length_of_digits digits)
      rw [Guid.ofChars?, ofDigits?_of_length (by omega), ofHyphenated?_of_digits digits]
      rfl
  | @braced cs digits =>
      have length := length_of_digits digits
      have long := length_hyphenated length
      have inside : ('{' :: Guid.hyphenated cs ++ ['}']).filter (· ≠ '-') = '{' :: cs ++ ['}'] := by
        rw [List.cons_append, List.filter_cons, List.filter_append,
          filter_hyphenated (bare_of_digits digits)]
        rfl
      rw [Guid.ofChars?, ofDigits?_of_length (by simp [long]),
        ofHyphenated?_of_length (by rw [inside]; simp [length])]
      simp [unbraced?, ofHyphenated?_of_digits digits]
  | @urn mark cs named digits =>
      have length := length_of_digits digits
      have long := length_hyphenated length
      have front := length_urnMark named
      have ahead : urnMark.length = 9 := rfl
      have inside : (mark ++ Guid.hyphenated cs).filter (· ≠ '-') = mark ++ cs := by
        rw [List.filter_append, filter_hyphenated (bare_of_digits digits), List.filter_eq_self.2]
        rintro c written
        exact decide_eq_true fun hyphen => bare_urnMark named (hyphen ▸ written)
      rw [Guid.ofChars?, ofDigits?_of_length (by simp [long, front]),
        ofHyphenated?_of_length (by rw [inside]; simp [length, front]), unbraced?_urnMark named]
      simp [ahead, ← front, named, ofHyphenated?_of_digits digits]

end Guid

namespace Identifier

inductive Spells : List Char → Identifier → Prop
  | number {n : UInt32} {cs : List Char} (decimal : Text.Decimal n.toNat cs) :
      Spells ('i' :: '=' :: cs) (.number n)
  | signed {n : UInt32} {cs : List Char} (decimal : Text.Decimal n.toNat cs) :
      Spells ('i' :: '=' :: '+' :: cs) (.number n)
  | text (s : String) : Spells ('s' :: '=' :: s.toList) (.text s)
  | guid {g : Guid} {cs : List Char} (spells : g.Spells cs) : Spells ('g' :: '=' :: cs) (.guid g)
  | bytes (bs : List UInt8) : Spells ('b' :: '=' :: Text.Base64.encode bs) (.bytes bs)

theorem Spells.ofChars {cs : List Char} {identifier : Identifier} (spells : Spells cs identifier) :
    ofChars cs = .ok identifier := by
  cases spells with
  | @number n cs decimal =>
      simp only [Identifier.ofChars, decimal.unsigned? n.toNat_lt, Option.map_some]
      rw [UInt32.ofNat_toNat]
  | @signed n cs decimal =>
      simp only [Identifier.ofChars, decimal.unsigned?_signed n.toNat_lt, Option.map_some]
      rw [UInt32.ofNat_toNat]
  | text s => simp only [Identifier.ofChars, String.ofList_toList]
  | guid spells => simp only [Identifier.ofChars, spells.ofChars?, Option.map_some]
  | bytes bs => simp only [Identifier.ofChars, Text.Base64.decode?_encode, Option.map_some]

theorem Spells.ne_empty {s : String} {identifier : Identifier}
    (spells : Spells s.toList identifier) : s.isEmpty = false := by
  rw [← Bool.not_eq_true, String.isEmpty_iff]
  rintro rfl
  cases spells

end Identifier

end AddressSpace
