import AddressSpace.Crawl.Arena
import AddressSpace.Proofs.Text
import Mathlib.Data.Set.Function

namespace AddressSpace

theorem readPair_eq_ok_iff_cut {text uri rest : String} : readPair text = .ok (uri, rest) ↔
    Text.cutFirst? ';' text.toList = some (uri.toList, rest.toList) ∧ rest ≠ "" := by
  have same (s : String) (cs : List Char) : String.ofList cs = s ↔ cs = s.toList := by
    rw [← String.toList_inj, String.toList_ofList]
  rw [ne_eq, ← String.toList_eq_nil_iff]
  unfold readPair
  cases Text.cutFirst? ';' text.toList with
  | none => simp
  | some parts =>
      obtain ⟨before, behind⟩ := parts
      cases behind with
      | nil =>
          simp only [reduceCtorEq, Option.some.injEq, Prod.mk.injEq, false_iff, not_and, not_not]
          rintro ⟨-, empty⟩
          exact empty.symm
      | cons c behind =>
          simp only [Except.ok.injEq, Option.some.injEq, Prod.mk.injEq, same, iff_self_and, and_imp]
          intro _ whole empty
          cases whole.trans empty

theorem readPair_eq_ok_iff {text uri rest : String} : readPair text = .ok (uri, rest) ↔
    text = uri ++ ";" ++ rest ∧ ';' ∉ uri.toList ∧ rest ≠ "" := by
  have chars : text = uri ++ ";" ++ rest ↔ text.toList = uri.toList ++ ';' :: rest.toList := by
    rw [← String.toList_inj]
    simp
  rw [readPair_eq_ok_iff_cut, Text.cutFirst?_eq_some_iff, chars]
  tauto

theorem exists_readPair_iff {text : String} : (∃ pair, readPair text = .ok pair) ↔
    ∃ before c behind, ';' ∉ before ∧ text.toList = before ++ ';' :: c :: behind := by
  constructor
  · rintro ⟨⟨uri, rest⟩, read⟩
    obtain ⟨cut, whole⟩ := readPair_eq_ok_iff_cut.1 read
    obtain ⟨free, chars⟩ := Text.cutFirst?_eq_some_iff.1 cut
    obtain ⟨c, behind, first⟩ := List.exists_cons_of_ne_nil (mt String.toList_eq_nil_iff.1 whole)
    exact ⟨uri.toList, c, behind, free, first ▸ chars⟩
  · rintro ⟨before, c, behind, free, chars⟩
    refine ⟨(String.ofList before, String.ofList (c :: behind)), readPair_eq_ok_iff_cut.2 ⟨?_, ?_⟩⟩
    · rw [String.toList_ofList, String.toList_ofList]
      exact Text.cutFirst?_eq_some_iff.2 ⟨free, chars⟩
    · simp

structure PairForm {α : Type} [ToString α] (ofText : String → Except Malformed α)
    (uri rest : α → String) : Prop where
  reads_back_iff (a : α) : ofText (toString a) = .ok a ↔ ';' ∉ (uri a).toList ∧ rest a ≠ ""
  accepts_iff (text : String) : (∃ a, ofText text = .ok a) ↔
    ∃ before c behind, ';' ∉ before ∧ text.toList = before ++ ';' :: c :: behind
  writes_back (text : String) (a : α) : ofText text = .ok a → toString a = text

theorem NodeId.ofText_eq_ok_iff {text : String} {id : NodeId} :
    ofText text = .ok id ↔ readPair text = .ok (id.uri, id.identifier) := by
  obtain ⟨uri, identifier⟩ := id
  unfold ofText
  cases readPair text <;> simp [Prod.ext_iff]

theorem QualifiedName.ofText_eq_ok_iff {text : String} {name : QualifiedName} :
    ofText text = .ok name ↔ readPair text = .ok (name.uri, name.name) := by
  obtain ⟨uri, name⟩ := name
  unfold ofText
  cases readPair text <;> simp [Prod.ext_iff]

theorem pairForm_of_parts {α : Type} [ToString α] {ofText : String → Except Malformed α}
    {uri rest : α → String} (writes : ∀ a, toString a = uri a ++ ";" ++ rest a)
    (reads : ∀ {text a}, ofText text = .ok a ↔ readPair text = .ok (uri a, rest a))
    (pairs : ∀ u r, ∃ a, uri a = u ∧ rest a = r) : PairForm ofText uri rest where
  reads_back_iff a := by
    rw [reads, readPair_eq_ok_iff, writes]
    simp
  accepts_iff text := by
    rw [← exists_readPair_iff]
    constructor
    · rintro ⟨a, read⟩
      exact ⟨_, reads.1 read⟩
    · rintro ⟨⟨u, r⟩, read⟩
      obtain ⟨a, rfl, rfl⟩ := pairs u r
      exact ⟨a, reads.2 read⟩
  writes_back text a read := by
    rw [writes]
    exact (readPair_eq_ok_iff.1 (reads.1 read)).1.symm

theorem QualifiedName.toString_injOn :
    Set.InjOn (toString : QualifiedName → String) {name | ';' ∉ name.uri.toList} := by
  rintro ⟨uri, name⟩ free ⟨uri', name'⟩ free' same
  have chars : uri.toList ++ ';' :: name.toList = uri'.toList ++ ';' :: name'.toList := by
    have texts : uri ++ ";" ++ name = uri' ++ ";" ++ name' := same
    simpa using congrArg String.toList texts
  have cut : Text.cutFirst? ';' (uri.toList ++ ';' :: name.toList) = _ := Text.cutFirst?_append free
  rw [chars, Text.cutFirst?_append free'] at cut
  simp only [Option.some.injEq, Prod.mk.injEq, String.toList_inj] at cut
  rw [cut.1, cut.2]

/-- A node id or a name comes back from its text just if there is no semicolon in its URI and
something behind it.  A text is read just if something stands behind its first semicolon, and then
it is the text of what is read.  Names whose URIs hold no semicolon never share a text, so no two
declarations with different names of this kind are registered under one. -/
theorem written_exact :
    PairForm NodeId.ofText NodeId.uri NodeId.identifier ∧
    PairForm QualifiedName.ofText QualifiedName.uri QualifiedName.name ∧
    Set.InjOn (toString : QualifiedName → String) {name | ';' ∉ name.uri.toList} ∧
    ∀ declaration other : Declaration,
      ';' ∉ declaration.browseName.uri.toList → ';' ∉ other.browseName.uri.toList →
      (Arena.typeName declaration = Arena.typeName other ↔
        declaration.browseName = other.browseName) := by
  refine ⟨?_, ?_, QualifiedName.toString_injOn, ?_⟩
  · apply pairForm_of_parts (fun _ => rfl) NodeId.ofText_eq_ok_iff
    intro uri identifier
    exact ⟨⟨uri, identifier⟩, rfl, rfl⟩
  · apply pairForm_of_parts (fun _ => rfl) QualifiedName.ofText_eq_ok_iff
    intro uri name
    exact ⟨⟨uri, name⟩, rfl, rfl⟩
  · intro declaration other free free'
    exact QualifiedName.toString_injOn.eq_iff free free'

end AddressSpace
