import AddressSpace.WireId
import Mathlib.Algebra.Group.Nat.Defs

namespace AddressSpace

namespace Text

theorem hexValue?_digitChar : ∀ d < 16, hexValue? (Nat.digitChar d) = some d := by decide

theorem digit?_digitChar {base d : Nat} (inside : base ≤ 16) (small : d < base) :
    digit? base (Nat.digitChar d) = some d := by
  rw [digit?, hexValue?_digitChar d (by omega)]
  simp [small]

theorem natural?_singleton {base d : Nat} (inside : base ≤ 16) (small : d < base) :
    natural? base [Nat.digitChar d] = some d := by
  simp [natural?, digit?_digitChar inside small, ofDigits]

theorem natural?_append {base d n : Nat} {cs : List Char} (inside : base ≤ 16) (small : d < base)
    (front : natural? base cs = some n) :
    natural? base (cs ++ [Nat.digitChar d]) = some (base * n + d) := by
  unfold natural? at front ⊢
  split at front
  · cases front
  · obtain ⟨digits, read, rfl⟩ := Option.map_eq_some_iff.1 front
    simp [read, digit?_digitChar inside small, ofDigits]

theorem natural?_toDigits (n : Nat) : natural? 10 (Nat.toDigits 10 n) = some n := by
  induction n using Nat.strongRecOn with
  | ind n ih =>
      rw [Nat.toDigits_eq_if (by decide)]
      by_cases small : n < 10
      · rw [if_pos small]
        exact natural?_singleton (by decide) small
      · rw [if_neg small, natural?_append (by decide) (Nat.mod_lt n (by decide))
          (ih (n / 10) (by omega))]
        congr 1
        omega

theorem unsigned?_of_natural? {limit n : Nat} {cs : List Char} (read : natural? 10 cs = some n)
    (small : n < limit) : unsigned? limit cs = some n := by
  have unsigned : ∀ rest, cs ≠ '+' :: rest := by
    rintro rest rfl
    have foreign : digit? 10 '+' = none := by decide
    simp [natural?, foreign] at read
  unfold unsigned?
  split
  · exact absurd rfl (unsigned _)
  · simp [read, small]

theorem unsigned?_toString {limit n : Nat} (small : n < limit) :
    unsigned? limit (toString n).toList = some n := by
  rw [Nat.toString_eq_ofList_toDigits, String.toList_ofList]
  exact unsigned?_of_natural? (natural?_toDigits n) small

theorem length_hex (width n : Nat) : (hex width n).length = width := by
  induction width generalizing n with
  | zero => rfl
  | succ width ih => rw [hex, List.length_append, ih, List.length_singleton]

theorem mem_hex {width n : Nat} {c : Char} (written : c ∈ hex width n) :
    ∃ d < 16, c = Nat.digitChar d := by
  induction width generalizing n with
  | zero => cases written
  | succ width ih =>
      rcases List.mem_append.1 written with front | last
      · exact ih front
      · exact ⟨n % 16, Nat.mod_lt n (by decide), List.mem_singleton.1 last⟩

theorem natural?_hex (width n : Nat) :
    natural? 16 (hex (width + 1) n) = some (n % 16 ^ (width + 1)) := by
  induction width generalizing n with
  | zero =>
      rw [hex, hex, List.nil_append, natural?_singleton (by decide) (Nat.mod_lt n (by decide)),
        Nat.zero_add, Nat.pow_one]
  | succ width ih =>
      rw [hex, natural?_append (by decide) (Nat.mod_lt n (by decide)) (ih (n / 16))]
      congr 1
      rw [Nat.pow_succ' (n := width + 1), Nat.mod_mul, Nat.add_comm]

end Text

namespace Guid
open Text

theorem filter_hyphenated {cs : List Char} (bare : '-' ∉ cs) :
    (hyphenated cs).filter (· ≠ '-') = cs := by
  have kept : ∀ part : List Char, (∀ c ∈ part, c ∈ cs) → part.filter (· ≠ '-') = part := by
    intro part inside
    refine List.filter_eq_self.2 fun c member => decide_eq_true ?_
    rintro rfl
    exact bare (inside _ member)
  have drops : ∀ n, ∀ c ∈ cs.drop n, c ∈ cs := fun n c member => List.mem_of_mem_drop member
  have takes : ∀ n m, ∀ c ∈ (cs.drop n).take m, c ∈ cs := fun n m c member =>
    drops n c (List.mem_of_mem_take member)
  have joined : cs.take 8 ++ ((cs.drop 8).take 4 ++ ((cs.drop 12).take 4 ++
      ((cs.drop 16).take 4 ++ cs.drop 20))) = cs := by
    have split : ∀ n m, (cs.drop n).take m ++ cs.drop (n + m) = cs.drop n := by
      intro n m
      rw [← List.drop_drop, List.take_append_drop]
    rw [split 16 4, split 12 4, split 8 4, List.take_append_drop]
  unfold hyphenated
  simp only [List.filter_append, List.filter_cons, ne_eq, not_true_eq_false, decide_false,
    Bool.false_eq_true, if_false, List.append_assoc]
  rw [kept _ fun _ => List.mem_of_mem_take, kept _ (takes 8 4), kept _ (takes 12 4),
    kept _ (takes 16 4), kept _ (drops 20)]
  exact joined

theorem ofChars?_toChars (guid : Guid) : ofChars? guid.toChars = some guid := by
  have length : guid.digits.length = 32 := length_hex 32 _
  have bare : '-' ∉ guid.digits := by
    intro written
    obtain ⟨d, small, same⟩ := mem_hex written
    have foreign : ∀ d < 16, '-' ≠ Nat.digitChar d := by decide
    exact foreign d small same
  have long : guid.toChars.length ≠ 32 := by
    simp [toChars, hyphenated, length]
  have read : natural? 16 guid.digits = some guid.bits.toNat := by
    rw [digits, natural?_hex, Nat.mod_eq_of_lt]
    exact guid.bits.isLt
  have found : ofHyphenated? guid.toChars = some guid := by
    unfold ofHyphenated?
    rw [toChars, filter_hyphenated bare]
    simp [ofDigits?, length, read]
  rw [ofChars?, found, ofDigits?, if_neg long]
  rfl

end Guid

namespace Text.Base64

theorem value?_symbol : ∀ v < 64, value? (symbol v) = some v := by decide

theorem symbol_ne_padding : ∀ v < 64, symbol v ≠ '=' := by decide

theorem decode?_encode (bytes : List UInt8) : decode? (encode bytes) = some bytes := by
  have whole : ∀ (byte : UInt8) {n : Nat}, n = byte.toNat → UInt8.ofNat n = byte := by
    rintro byte _ rfl
    exact UInt8.ofNat_toNat
  -- One case for each size of the last group, and one for a full group with more behind it.
  induction bytes using encode.induct with
  | case1 => rfl
  | case2 a =>
      have := a.toNat_lt
      simp only [encode, decode?, value?_symbol (a.toNat / 4) (by omega),
        value?_symbol (a.toNat % 4 * 16) (by omega), Option.bind_eq_bind, Option.bind_some]
      rw [if_pos (by omega), whole a (by omega)]
  | case3 a b =>
      have := a.toNat_lt
      have := b.toNat_lt
      have unpadded := symbol_ne_padding (b.toNat % 16 * 4) (by omega)
      rw [encode, decode?]
      · simp only [value?_symbol (a.toNat / 4) (by omega),
          value?_symbol (a.toNat % 4 * 16 + b.toNat / 16) (by omega),
          value?_symbol (b.toNat % 16 * 4) (by omega), Option.bind_eq_bind, Option.bind_some]
        rw [if_pos (by omega), whole a (by omega), whole b (by omega)]
      · exact unpadded
  | case4 a b c rest ih =>
      have := a.toNat_lt
      have := b.toNat_lt
      have := c.toNat_lt
      have unpadded := symbol_ne_padding (c.toNat % 64) (by omega)
      rw [encode, decode?]
      · simp only [value?_symbol (a.toNat / 4) (by omega),
          value?_symbol (a.toNat % 4 * 16 + b.toNat / 16) (by omega),
          value?_symbol (b.toNat % 16 * 4 + c.toNat / 64) (by omega),
          value?_symbol (c.toNat % 64) (by omega), ih, Option.bind_eq_bind, Option.bind_some]
        rw [whole a (by omega), whole b (by omega),
          whole c (by omega)]
      · exact fun _ same _ => absurd same unpadded
      · exact fun same _ => absurd same unpadded

end Text.Base64

namespace Identifier

theorem ofText_toString (identifier : Identifier) :
    ofText (toString identifier) = .ok identifier := by
  have chars : (toString identifier).toList = identifier.toChars := String.toList_ofList
  rw [ofText, chars]
  cases identifier with
  | number n =>
      simp only [toChars, ofChars, Text.unsigned?_toString n.toNat_lt, Option.map_some]
      rw [UInt32.ofNat_toNat]
  | text s => simp only [toChars, ofChars, String.ofList_toList]
  | guid g => simp only [toChars, ofChars, Guid.ofChars?_toChars, Option.map_some]
  | bytes bs => simp only [toChars, ofChars, Text.Base64.decode?_encode, Option.map_some]

theorem toString_ne_empty (identifier : Identifier) : (toString identifier).isEmpty = false := by
  have chars : (toString identifier).toList = identifier.toChars := String.toList_ofList
  rw [← Bool.not_eq_true, String.isEmpty_iff]
  intro empty
  rw [empty] at chars
  cases identifier <;> cases chars

end Identifier

end AddressSpace
