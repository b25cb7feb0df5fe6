import AddressSpace.Proofs.Identifier.Spelling
import Mathlib.Data.List.Basic
import Mathlib.Data.List.Induction

namespace AddressSpace

namespace Text

variable {base limit n d : Nat} {c : Char} {cs : List Char}

theorem forall_toNat_lt {bound : Nat} {p : Char → Prop} (listed : ∀ n < bound, p (Char.ofNat n)) :
    ∀ c : Char, c.toNat < bound → p c := by
  intro c small
  have found := listed c.toNat small
  rwa [Char.ofNat_toNat] at found

theorem of_hexValue? (read : hexValue? c = some d) :
    d < 16 ∧ c.toLower = Nat.digitChar d ∧ (d < 10 → c = Nat.digitChar d) := by
  have bound : c.toNat < 103 := by
    unfold hexValue? at read
    split_ifs at read with digit lower upper
    · exact Nat.lt_of_le_of_lt digit.2 (by decide)
    · exact Nat.lt_of_le_of_lt lower.2 (by decide)
    · exact Nat.lt_of_le_of_lt upper.2 (by decide)
  have listed : ∀ c : Char, c.toNat < 103 → ∀ d ∈ hexValue? c,
      d < 16 ∧ c.toLower = Nat.digitChar d ∧ (d < 10 → c = Nat.digitChar d) :=
    forall_toNat_lt (by decide)
  exact listed c bound d read

theorem of_digit? (read : digit? base c = some d) :
    d < base ∧ c.toLower = Nat.digitChar d ∧ (d < 10 → c = Nat.digitChar d) := by
  obtain ⟨value, small⟩ := Option.filter_eq_some_iff.1 read
  exact ⟨of_decide_eq_true small, (of_hexValue? value).2⟩

theorem of_mapM_digit? {digits : List Nat} (read : cs.mapM (digit? base) = some digits) :
    (∀ d ∈ digits, d < base) ∧ cs.map Char.toLower = digits.map Nat.digitChar ∧
      (base ≤ 10 → cs = digits.map Nat.digitChar) := by
  induction cs generalizing digits with
  | nil =>
      cases read
      simp
  | cons c rest ih =>
      simp only [List.mapM_cons, Option.bind_eq_bind, Option.bind_eq_some_iff] at read
      obtain ⟨d, first, behind, others, whole⟩ := read
      cases whole
      obtain ⟨small, lower, plain⟩ := of_digit? first
      obtain ⟨smalls, lowers, plains⟩ := ih others
      refine ⟨?_, ?_, ?_⟩
      · simpa using ⟨small, smalls⟩
      · simp [lower, lowers]
      · intro decimal
        rw [plain (by omega), List.map_cons, ← plains decimal]

theorem natural?_eq_some_iff : natural? base cs = some n ↔
    cs ≠ [] ∧ ∃ digits, cs.mapM (digit? base) = some digits ∧ ofDigits base digits = n := by
  unfold natural?
  split
  case isTrue empty => simp [List.isEmpty_iff.1 empty]
  case isFalse whole =>
    rw [List.isEmpty_iff] at whole
    simp [whole, Option.map_eq_some_iff]

theorem natural?_eq_some_iff_decimal : natural? 10 cs = some n ↔ Decimal n cs := by
  constructor
  · intro read
    obtain ⟨whole, digits, found, value⟩ := natural?_eq_some_iff.1 read
    obtain ⟨small, -, plain⟩ := of_mapM_digit? found
    have written := plain (Nat.le_refl 10)
    refine ⟨digits, ?_, small, value, written⟩
    rintro rfl
    exact whole written
  · exact Decimal.natural?

inductive Unsigned (n : Nat) : List Char → Prop
  | bare {cs : List Char} (decimal : Decimal n cs) : Unsigned n cs
  | signed {cs : List Char} (decimal : Decimal n cs) : Unsigned n ('+' :: cs)

theorem unsigned?_eq_some_iff : unsigned? limit cs = some n ↔ Unsigned n cs ∧ n < limit := by
  constructor
  · intro read
    unfold unsigned? at read
    dsimp only at read
    split at read
    · obtain ⟨value, small⟩ := Option.filter_eq_some_iff.1 read
      exact ⟨.signed (natural?_eq_some_iff_decimal.1 value), of_decide_eq_true small⟩
    · obtain ⟨value, small⟩ := Option.filter_eq_some_iff.1 read
      exact ⟨.bare (natural?_eq_some_iff_decimal.1 value), of_decide_eq_true small⟩
  · rintro ⟨written, small⟩
    cases written with
    | bare decimal => exact decimal.unsigned? small
    | signed decimal => exact decimal.unsigned?_signed small

theorem ofDigits_append (digits : List Nat) :
    ofDigits base (digits ++ [d]) = base * ofDigits base digits + d := by
  simp [ofDigits]

theorem hex_ofDigits {digits : List Nat} (small : ∀ d ∈ digits, d < 16) :
    ofDigits 16 digits < 16 ^ digits.length ∧
      hex digits.length (ofDigits 16 digits) = digits.map Nat.digitChar := by
  induction digits using List.reverseRecOn with
  | nil => exact ⟨by decide, rfl⟩
  | append_singleton digits d ih =>
      obtain ⟨bound, written⟩ := ih fun d listed => small d (by simp [listed])
      have last : d < 16 := small d (by simp)
      rw [ofDigits_append, List.length_append, List.length_singleton, hex]
      refine ⟨by omega, ?_⟩
      have front : (16 * ofDigits 16 digits + d) / 16 = ofDigits 16 digits := by omega
      have digit : (16 * ofDigits 16 digits + d) % 16 = d := by omega
      rw [front, digit, written, List.map_append, List.map_singleton]

theorem of_natural?_hex (read : natural? 16 cs = some n) :
    n < 16 ^ cs.length ∧ cs.map Char.toLower = hex cs.length n := by
  obtain ⟨-, digits, found, rfl⟩ := natural?_eq_some_iff.1 read
  obtain ⟨small, lower, -⟩ := of_mapM_digit? found
  obtain ⟨bound, written⟩ := hex_ofDigits small
  have length : digits.length = cs.length := by
    simpa using congrArg List.length lower.symm
  rw [← length, lower, written]
  exact ⟨bound, rfl⟩

end Text

namespace Guid

variable {guid : Guid} {cs : List Char}

theorem digits_of_ofDigits? (read : ofDigits? cs = some guid) :
    cs.map Char.toLower = guid.digits := by
  unfold ofDigits? at read
  split at read
  case isFalse => cases read
  case isTrue length =>
    obtain ⟨n, value, rfl⟩ := Option.map_eq_some_iff.1 read
    obtain ⟨bound, lower⟩ := Text.of_natural?_hex value
    rw [length] at bound lower
    have small : n < 2 ^ 128 := bound
    rw [lower, digits, BitVec.toNat_ofNat, Nat.mod_eq_of_lt small]

theorem hyphenated_of_ofHyphenated? (read : ofHyphenated? cs = some guid) :
    ∃ digits, cs = hyphenated digits ∧ digits.map Char.toLower = guid.digits := by
  unfold ofHyphenated? at read
  dsimp only at read
  split at read
  case isFalse => cases read
  case isTrue placed => exact ⟨_, placed, digits_of_ofDigits? read⟩

theorem eq_braced_of_unbraced? {inner : List Char} (read : unbraced? cs = some inner) :
    cs = '{' :: inner ++ ['}'] := by
  unfold unbraced? at read
  split at read
  case h_2 => cases read
  case h_1 rest =>
    split at read
    case isFalse => cases read
    case isTrue closed =>
      cases read
      rw [List.cons_append, List.dropLast_append_getLast? _ closed]

theorem ofChars?_eq_some_iff : ofChars? cs = some guid ↔ guid.Spells cs := by
  constructor
  · intro read
    unfold ofChars? at read
    rcases Option.or_eq_some_iff.1 read with bare | ⟨-, read⟩
    · exact .bare (digits_of_ofDigits? bare)
    rcases Option.or_eq_some_iff.1 read with plain | ⟨-, read⟩
    · obtain ⟨digits, rfl, lower⟩ := hyphenated_of_ofHyphenated? plain
      exact .hyphenated lower
    split at read
    case h_1 inner braced =>
      obtain ⟨digits, rfl, lower⟩ := hyphenated_of_ofHyphenated? read
      rw [eq_braced_of_unbraced? braced]
      exact .braced lower
    case h_2 =>
      split at read
      case isFalse => cases read
      case isTrue named =>
        obtain ⟨digits, behind, lower⟩ := hyphenated_of_ofHyphenated? read
        rw [← List.take_append_drop urnMark.length cs, behind]
        exact .urn named lower
  · exact Spells.ofChars?

end Guid

namespace Text.Base64

theorem of_value? {c : Char} {v : Nat} (read : value? c = some v) : v < 64 ∧ symbol v = c := by
  have bound : c.toNat < 123 := by
    unfold value? at read
    split_ifs at read with upper lower digit plus slash
    · exact Nat.lt_of_le_of_lt upper.2 (by decide)
    · exact Nat.lt_of_le_of_lt lower.2 (by decide)
    · exact Nat.lt_of_le_of_lt digit.2 (by decide)
    · simp [plus]
    · simp [slash]
  have listed : ∀ c : Char, c.toNat < 123 → ∀ v ∈ value? c, v < 64 ∧ symbol v = c :=
    forall_toNat_lt (by decide)
  exact listed c bound v read

theorem eq_encode_of_decode? {cs : List Char} {bytes : List UInt8}
    (read : decode? cs = some bytes) : cs = encode bytes := by
  have byte {n : Nat} (small : n < 256) : (UInt8.ofNat n).toNat = n := by
    simp [Nat.mod_eq_of_lt small]
  -- One case for each size of the last group, and one for a full group with more behind it.
  induction cs using decode?.induct generalizing bytes with
  | case1 =>
      cases read
      rfl
  | case2 w x =>
      simp only [decode?, Option.bind_eq_bind, Option.bind_eq_some_iff] at read
      obtain ⟨a, first, b, second, rest⟩ := read
      obtain ⟨bound, rfl⟩ := of_value? first
      obtain ⟨bound', rfl⟩ := of_value? second
      split at rest
      case isFalse => cases rest
      case isTrue spare =>
        cases rest
        have top : (a * 4 + b / 16) / 4 = a := by omega
        have low : (a * 4 + b / 16) % 4 * 16 = b := by omega
        rw [encode, byte (by omega), top, low]
  | case3 w x y unpadded =>
      rw [decode?] at read
      · simp only [Option.bind_eq_bind, Option.bind_eq_some_iff] at read
        obtain ⟨a, first, b, second, c, third, rest⟩ := read
        obtain ⟨bound, rfl⟩ := of_value? first
        obtain ⟨bound', rfl⟩ := of_value? second
        obtain ⟨bound'', rfl⟩ := of_value? third
        split at rest
        case isFalse => cases rest
        case isTrue spare =>
          cases rest
          have top : (a * 4 + b / 16) / 4 = a := by omega
          have middle : (a * 4 + b / 16) % 4 * 16 + (b % 16 * 16 + c / 4) / 16 = b := by omega
          have low : (b % 16 * 16 + c / 4) % 16 * 4 = c := by omega
          rw [encode, byte (by omega), byte (by omega), top, middle, low]
      · exact unpadded
  | case4 w x y z rest unpadded unpadded' ih =>
      rw [decode?] at read
      · simp only [Option.bind_eq_bind, Option.bind_eq_some_iff] at read
        obtain ⟨a, first, b, second, c, third, d, fourth, others, behind, whole⟩ := read
        obtain ⟨bound, rfl⟩ := of_value? first
        obtain ⟨bound', rfl⟩ := of_value? second
        obtain ⟨bound'', rfl⟩ := of_value? third
        obtain ⟨bound₄, rfl⟩ := of_value? fourth
        cases whole
        have top : (a * 4 + b / 16) / 4 = a := by omega
        have second : (a * 4 + b / 16) % 4 * 16 + (b % 16 * 16 + c / 4) / 16 = b := by omega
        have third : (b % 16 * 16 + c / 4) % 16 * 4 + (c % 4 * 64 + d) / 64 = c := by omega
        have low : (c % 4 * 64 + d) % 64 = d := by omega
        rw [encode, byte (by omega), byte (by omega), byte (by omega), top, second, third, low,
          ← ih behind]
      · exact unpadded
      · exact unpadded'
  | case5 cs full one two more =>
      rw [decode?.eq_5 cs full one two more] at read
      cases read

theorem decode?_eq_some_iff {cs : List Char} {bytes : List UInt8} :
    decode? cs = some bytes ↔ cs = encode bytes := by
  constructor
  · exact eq_encode_of_decode?
  · rintro rfl
    exact decode?_encode bytes

end Text.Base64

namespace Identifier

theorem ofChars_eq_ok_iff {cs : List Char} {identifier : Identifier} :
    ofChars cs = .ok identifier ↔ Spells cs identifier := by
  constructor
  · intro read
    unfold ofChars at read
    dsimp only at read
    split at read
    case h_1 rest =>
      cases value : Text.unsigned? UInt32.size rest with
      | none => simp [value] at read
      | some n =>
          obtain ⟨written, small⟩ := Text.unsigned?_eq_some_iff.1 value
          simp only [value, Option.map_some, Except.ok.injEq] at read
          have whole : (UInt32.ofNat n).toNat = n := by simp [Nat.mod_eq_of_lt small]
          subst read
          rw [← whole] at written
          cases written with
          | bare decimal => exact .number decimal
          | signed decimal => exact .signed decimal
    case h_2 rest =>
      cases read
      simpa using Spells.text (String.ofList rest)
    case h_3 rest =>
      cases value : Guid.ofChars? rest with
      | none => simp [value] at read
      | some guid =>
          simp only [value, Option.map_some, Except.ok.injEq] at read
          subst read
          exact .guid (Guid.ofChars?_eq_some_iff.1 value)
    case h_4 rest =>
      cases value : Text.Base64.decode? rest with
      | none => simp [value] at read
      | some bytes =>
          simp only [value, Option.map_some, Except.ok.injEq] at read
          subst read
          rw [Text.Base64.decode?_eq_some_iff.1 value]
          exact .bytes bytes
    case h_5 => cases read
  · exact Spells.ofChars

end Identifier

end AddressSpace
