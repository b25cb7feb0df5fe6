import AddressSpace.Proofs.Identifier
import AddressSpace.Proofs.Text
import Mathlib.Data.List.DropRight

namespace AddressSpace

namespace Text

variable {c : Char} {front back cs : List Char}

theorem trimStart_cons (visible : isBlank c = false) (cs : List Char) :
    trimStart (c :: cs) = c :: cs := by
  simp [trimStart, visible]

theorem trimEnd_append_cons (visible : isBlank c = false) (front back : List Char) :
    trimEnd (front ++ c :: back) = front ++ c :: trimEnd back := by
  have reversed : (front ++ c :: back).reverse = back.reverse ++ c :: front.reverse := by simp
  have kept : (c :: front.reverse).dropWhile isBlank = c :: front.reverse := by simp [visible]
  unfold trimEnd trimStart
  rw [reversed, List.dropWhile_append, kept]
  split
  case isTrue blank => simp [List.isEmpty_iff.1 blank]
  case isFalse => simp

theorem trimEnd_eq_self_iff :
    trimEnd cs = cs ↔ ∀ c, cs.getLast? = some c → isBlank c = false := by
  have same : trimEnd cs = cs.rdropWhile isBlank := rfl
  rw [same, List.rdropWhile_eq_self_iff]
  constructor
  · intro visible c last
    have whole : cs ≠ [] := by
      rintro rfl
      cases last
    rw [List.getLast?_eq_some_getLast whole] at last
    cases last
    simpa using visible whole
  · intro visible whole
    simpa using visible _ (List.getLast?_eq_some_getLast whole)

theorem trimEnd_eq_self (visible : ∀ c ∈ cs, isBlank c = false) : trimEnd cs = cs :=
  trimEnd_eq_self_iff.2 fun c last => visible c (List.mem_of_getLast? last)

theorem isBlank_of_isDigit (digit : c.isDigit = true) : isBlank c = false := by
  have bounds : 48 ≤ c.toNat ∧ c.toNat ≤ 57 := by
    simpa [Char.isDigit, UInt32.le_iff_toNat_le] using digit
  simp only [isBlank, Bool.or_eq_false_iff, Bool.and_eq_false_iff, decide_eq_false_iff_not,
    beq_eq_false_iff_ne]
  omega

theorem isBlank_of_mem_hex {width n : Nat} (written : c ∈ hex width n) : isBlank c = false := by
  have visible : ∀ d < 16, isBlank (Nat.digitChar d) = false := by decide
  obtain ⟨d, small, rfl⟩ := mem_hex written
  exact visible d small

theorem Base64.mem_encode {bytes : List UInt8} (written : c ∈ Base64.encode bytes) :
    c = '=' ∨ ∃ v < 64, c = Base64.symbol v := by
  induction bytes using Base64.encode.induct with
  | case1 => cases written
  | case2 a =>
      have := a.toNat_lt
      simp only [encode, List.mem_cons, List.not_mem_nil, or_false] at written
      rcases written with rfl | rfl | rfl | rfl
      · exact .inr ⟨_, by omega, rfl⟩
      · exact .inr ⟨_, by omega, rfl⟩
      · exact .inl rfl
      · exact .inl rfl
  | case3 a b =>
      have := a.toNat_lt
      have := b.toNat_lt
      simp only [encode, List.mem_cons, List.not_mem_nil, or_false] at written
      rcases written with rfl | rfl | rfl | rfl
      · exact .inr ⟨_, by omega, rfl⟩
      · exact .inr ⟨_, by omega, rfl⟩
      · exact .inr ⟨_, by omega, rfl⟩
      · exact .inl rfl
  | case4 a b c rest ih =>
      have := a.toNat_lt
      have := b.toNat_lt
      have := c.toNat_lt
      simp only [encode, List.mem_cons] at written
      rcases written with rfl | rfl | rfl | rfl | behind
      · exact .inr ⟨_, by omega, rfl⟩
      · exact .inr ⟨_, by omega, rfl⟩
      · exact .inr ⟨_, by omega, rfl⟩
      · exact .inr ⟨_, by omega, rfl⟩
      · exact ih behind

theorem isBlank_of_mem_encode {bytes : List UInt8} (written : c ∈ Base64.encode bytes) :
    isBlank c = false := by
  have visible : ∀ v < 64, isBlank (Base64.symbol v) = false := by decide
  rcases Base64.mem_encode written with rfl | ⟨v, small, rfl⟩
  · rfl
  · exact visible v small

end Text

theorem Guid.isBlank_of_mem_toChars {guid : Guid} {c : Char} (written : c ∈ guid.toChars) :
    Text.isBlank c = false := by
  have listed : c = '-' ∨ c ∈ guid.digits := by
    simp only [toChars, hyphenated, List.mem_append, List.mem_cons] at written
    grind [List.mem_of_mem_take, List.mem_of_mem_drop]
  rcases listed with rfl | digit
  · rfl
  · exact Text.isBlank_of_mem_hex digit

namespace Identifier

def trimmed : Identifier → Identifier
  | text s => text (String.ofList (Text.trimEnd s.toList))
  | identifier => identifier

theorem trimmed_eq_self_iff {identifier : Identifier} : identifier.trimmed = identifier ↔
    ∀ s, identifier = text s → ∀ c, s.toList.getLast? = some c → Text.isBlank c = false := by
  cases identifier with
  | text s =>
      simp only [trimmed, text.injEq, forall_eq', ← Text.trimEnd_eq_self_iff]
      rw [← String.toList_inj, String.toList_ofList]
  | number n => simp [trimmed]
  | guid g => simp [trimmed]
  | bytes bs => simp [trimmed]

theorem ofChars_toChars (identifier : Identifier) :
    ofChars identifier.toChars = .ok identifier := by
  have read := ofText_toString identifier
  have chars : (toString identifier).toList = identifier.toChars := String.toList_ofList
  rwa [ofText, chars] at read

theorem trimEnd_append_toChars (front : List Char) (identifier : Identifier) :
    Text.trimEnd (front ++ identifier.toChars) = front ++ identifier.trimmed.toChars := by
  have behind (letter : Char) (rest : List Char) :
      Text.trimEnd (front ++ letter :: '=' :: rest) =
        front ++ letter :: '=' :: Text.trimEnd rest := by
    have cut := Text.trimEnd_append_cons (c := '=') rfl (front ++ [letter]) rest
    simpa using cut
  cases identifier with
  | number n =>
      simp only [toChars, trimmed, behind]
      rw [Text.trimEnd_eq_self]
      intro c written
      exact Text.isBlank_of_isDigit (Text.isDigit_of_mem_toString written)
  | text s => simp only [toChars, trimmed, behind, String.toList_ofList]
  | guid g =>
      simp only [toChars, trimmed, behind]
      rw [Text.trimEnd_eq_self]
      intro c written
      exact Guid.isBlank_of_mem_toChars written
  | bytes bs =>
      simp only [toChars, trimmed, behind]
      rw [Text.trimEnd_eq_self]
      intro c written
      exact Text.isBlank_of_mem_encode written

end Identifier

namespace WireId

theorem ofTrimmed_toChars (id : WireId) : ofTrimmed id.toChars = .ok id := by
  obtain ⟨index, identifier⟩ := id
  unfold toChars
  by_cases zero : index = 0
  · -- no identifier starts as the mark of an index does
    have unmarked : ∀ rest, identifier.toChars ≠ 'n' :: 's' :: '=' :: rest := by
      intro rest
      cases identifier <;> simp [Identifier.toChars]
    rw [if_pos zero, zero, ofTrimmed]
    · rw [Identifier.ofChars_toChars]
      rfl
    · exact unmarked
  · have digits : ';' ∉ (toString index.toNat).toList := by
      intro written
      cases Text.isDigit_of_mem_toString written
    rw [if_neg zero]
    simp only [List.cons_append, ofTrimmed, Text.cutFirst?_append digits,
      Text.unsigned?_toString index.toNat_lt, Identifier.ofChars_toChars]
    rw [UInt16.ofNat_toNat]
    rfl

theorem trim_toChars (id : WireId) :
    Text.trim id.toChars = toChars ⟨id.index, id.identifier.trimmed⟩ := by
  obtain ⟨index, identifier⟩ := id
  have starts : ∃ c rest, toChars ⟨index, identifier⟩ = c :: rest ∧ Text.isBlank c = false := by
    unfold toChars
    split
    · cases identifier <;> exact ⟨_, _, rfl, rfl⟩
    · exact ⟨_, _, rfl, rfl⟩
  obtain ⟨c, rest, same, visible⟩ := starts
  rw [Text.trim, same, Text.trimStart_cons visible, ← same]
  unfold toChars
  split
  · exact Identifier.trimEnd_append_toChars [] identifier
  · have cut := Identifier.trimEnd_append_toChars
      ('n' :: 's' :: '=' :: (toString index.toNat).toList ++ [';']) identifier
    simpa using cut

theorem ofText_toString (id : WireId) :
    ofText (toString id) = .ok ⟨id.index, id.identifier.trimmed⟩ := by
  have chars : (toString id).toList = id.toChars := String.toList_ofList
  rw [ofText, chars, trim_toChars, ofTrimmed_toChars]

/-- The text of a wire id is always read, and just the white space at the end of a text identifier
is lost. -/
theorem reads_back (id : WireId) :
    ofText (toString id) = .ok ⟨id.index, id.identifier.trimmed⟩ ∧
    (ofText (toString id) = .ok id ↔ ∀ s, id.identifier = .text s →
      ∀ c, s.toList.getLast? = some c → Text.isBlank c = false) := by
  refine ⟨ofText_toString id, ?_⟩
  obtain ⟨index, identifier⟩ := id
  rw [ofText_toString, ← Identifier.trimmed_eq_self_iff]
  simp

/-- A text identifier with a blank at its end does not come back. -/
theorem blank_not_read :
    ofText (toString (⟨1, .text "Axis "⟩ : WireId)) ≠ .ok ⟨1, .text "Axis "⟩ := by
  rw [ofText_toString]
  decide

end WireId

end AddressSpace
