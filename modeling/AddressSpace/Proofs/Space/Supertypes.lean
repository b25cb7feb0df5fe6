import AddressSpace.Proofs.Keeping.Session
import AddressSpace.Proofs.Space.Answers

namespace AddressSpace
open Exchange

namespace Space

def superOf (space : Space) (wire : WireId) : Option WireId :=
  match (space.superTypes wire).filter (space.admits .all) with
  | [super] => some super
  | _ => none

inductive Climbs (space : Space) : Nat → WireId → WireId → Prop
  | here {wire : WireId} : Climbs space 0 wire wire
  | up {n : Nat} {wire super top : WireId} (super_eq : space.superOf wire = some super)
      (further : Climbs space n super top) : Climbs space (n + 1) wire top

variable {space : Space} {table : NamespaceTable} {maxDepth : Nat}

theorem mem_of_superOf {wire super : WireId} (told : space.superOf wire = some super) :
    super ∈ space.superTypes wire := by
  unfold superOf at told
  split at told
  case h_1 only =>
    cases told
    have listed : super ∈ (space.superTypes wire).filter (space.admits .all) := by
      rw [only]
      exact List.mem_singleton_self super
    exact (List.mem_filter.1 listed).1
  case h_2 => cases told

theorem Climbs.path {n : Nat} {wire top : WireId} (climbs : space.Climbs n wire top) :
    space.Path top n wire := by
  induction climbs with
  | here => exact .here
  | up told _ ih =>
      obtain ⟨link, listed, source, target, kind⟩ := mem_superTypes.1 (mem_of_superOf told)
      exact ih.step ⟨link, listed, source, target, space.hasSubtype_hierarchical _ kind⟩

theorem climbs_zero {wire top : WireId} : space.Climbs 0 wire top ↔ wire = top := by
  constructor
  · rintro ⟨⟩
    rfl
  · rintro rfl
    exact .here

theorem not_climbs_of_none {n : Nat} {wire top : WireId} (none : space.superOf wire = none)
    (elsewhere : wire ≠ top) : ¬ space.Climbs n wire top := by
  intro climbs
  cases climbs with
  | here => exact elsewhere rfl
  | up told further =>
      rw [none] at told
      cases told

theorem exists_climbs_iff_of_some {remaining : Nat} {wire super top : WireId}
    (told : space.superOf wire = some super) (elsewhere : wire ≠ top) :
    (∃ n ≤ remaining, space.Climbs n super top) ↔
      ∃ n ≤ remaining + 1, space.Climbs n wire top := by
  constructor
  · rintro ⟨n, low, climbs⟩
    exact ⟨n + 1, by omega, .up told climbs⟩
  · rintro ⟨n, low, climbs⟩
    cases climbs with
    | here => exact absurd rfl elsewhere
    | @up n _ super' _ told' further =>
        obtain rfl : super = super' := Option.some.inj (told.symm.trans told')
        exact ⟨n, by omega, further⟩

namespace Orderly

variable (orderly : space.Orderly table maxDepth)
include orderly

theorem superOf_of_derives {super type : WireId} (rooted : space.IsRooted super)
    (derives : space.Derives super type) : space.superOf type = some super := by
  have isBelow : space.IsBelow type := by
    rcases rooted with isBase | ⟨base, isBase, subtype⟩
    · exact ⟨super, isBase, .single derives⟩
    · exact ⟨base, isBase, subtype.tail derives⟩
  obtain ⟨only, single⟩ := orderly.single type isBelow
  have same : super = only := by
    have listed := derives.1
    rw [single] at listed
    exact List.mem_singleton.1 listed
  have isType : (space.nodeClass super).isType := by
    obtain ⟨link, listed, source, target, kind⟩ := mem_superTypes.1 derives.1
    have hierarchical := space.hasSubtype_hierarchical _ kind
    have classed : (space.nodeClass link.target).isType := by
      rw [target]
      exact derives.2
    rcases rooted with isBase | ⟨base, isBase, subtype⟩
    · exact (orderly.derived super isBase 0 super .here link listed source hierarchical classed).2
    · exact subtype.isType
  -- The request is for supertypes of any class but the unspecified one, and `super` is a type.
  have admitted : space.admits .all only := by
    have types : ∀ c : NodeClass, c.isType → ClassMask.all.contains c := by
      intro c isType
      cases c <;> first | rfl | cases isType
    rw [← same, admits, types _ isType, Bool.or_true]
  unfold superOf
  rw [single, List.filter_cons_of_pos admitted, List.filter_nil, same]

theorem climbs_of_subtype {super type : WireId} (rooted : space.IsRooted super)
    (subtype : space.Subtype super type) : ∃ n, space.Climbs n type super := by
  induction subtype with
  | single derives => exact ⟨1, .up (orderly.superOf_of_derives rooted derives) .here⟩
  | @tail middle type before derives ih =>
      obtain ⟨n, climbs⟩ := ih
      have rooted' : space.IsRooted middle := by
        rcases rooted with isBase | ⟨base, isBase, subtype⟩
        · exact .inr ⟨super, isBase, before⟩
        · exact .inr ⟨base, isBase, subtype.trans before⟩
      exact ⟨n + 1, .up (orderly.superOf_of_derives rooted' derives) climbs⟩

theorem climbs_iff {depth : Nat} (deep : maxDepth ≤ depth) {super type : WireId}
    (rooted : space.IsRooted super)
    (isType : (space.nodeClass type).isType) :
    (∃ n ≤ depth, space.Climbs n type super) ↔ super = type ∨ space.Subtype super type := by
  obtain ⟨base, isBase, m, reached⟩ : ∃ base ∈ bases, ∃ m, space.Path base m super := by
    rcases rooted with isBase | ⟨base, isBase, subtype⟩
    · exact ⟨super, isBase, 0, .here⟩
    · obtain ⟨m, path⟩ := subtype.path
      exact ⟨base, isBase, m + 1, path⟩
  constructor
  · rintro ⟨n, -, climbs⟩
    cases n with
    | zero => exact .inl (climbs_zero.1 climbs).symm
    | succ n => exact .inr (orderly.subtype isBase reached climbs.path isType)
  · rintro (rfl | subtype)
    · exact ⟨0, Nat.zero_le _, .here⟩
    · obtain ⟨n, climbs⟩ := orderly.climbs_of_subtype rooted subtype
      -- Down from its end a climb is a path, and the depth of the space bounds it.
      have := orderly.shallow base isBase _ _ (reached.trans climbs.path)
      exact ⟨n, by omega, climbs⟩

end Orderly

theorem ends_superTypeContext (space : Space) (wire : WireId) :
    space.ends (Browser.superTypeContext.request wire (.standard Standard.hasSubtype)) =
      (space.superTypes wire).filter (space.admits .all) := by
  unfold ends superTypes
  congr 1
  induction space.links with
  | nil => rfl
  | cons link rest ih =>
      have selected : space.selects
          (Browser.superTypeContext.request wire (.standard Standard.hasSubtype)) link =
          space.isKind link.kind (.standard Standard.hasSubtype) := rfl
      have ends : link.ends .backward wire = if link.target = wire then [link.source] else [] := by
        simp [Link.ends]
      rw [List.filter_cons, List.filter_cons, selected]
      by_cases kind : space.isKind link.kind (.standard Standard.hasSubtype)
      · rw [if_pos kind, List.flatMap_cons, ih]
        show link.ends .backward wire ++ _ = _
        rw [ends, kind]
        by_cases target : link.target = wire
        · simp [target]
        · simp [target]
      · simp [kind, ih]

def TellsSuper (space : Space) (table : NamespaceTable) (entry : NodeId × Option NodeId) : Prop :=
  ∀ wire, wire.isNull = false → table.decode wire = .ok entry.1 →
    match entry.2 with
    | none => space.superOf wire = none
    | some id => ∃ super, space.superOf wire = some super ∧ super.isNull = false ∧
        table.decode super = .ok id

namespace Serves

variable {σ : Type} {steady : σ → Prop} {browser : Browser σ}
  {answers : BrowseRequest → List Reference} {uris : List String}
  (serves : space.Serves browser.namespaces browser.transport browser.maxPages steady answers)
  (lists : browser.namespaces.Lists uris) (regular : browser.namespaces.Regular)
include serves lists regular

theorem fetchSuperType {wire : WireId} {id : NodeId} (proper : wire.isNull = false)
    (decoded : browser.namespaces.decode wire = .ok id) {server : σ} (kept : steady server) :
    ∃ answer new, browser.fetchSuperType id server = .ok answer new ∧ steady new ∧
      space.TellsSuper browser.namespaces (id, answer) := by
  obtain ⟨found, ends, answered, same, shows⟩ :=
    serves.answer_ok Browser.superTypeContext
      (NamespaceTable.encode_decode lists regular proper decoded)
      (NamespaceTable.encode_standard Standard.hasSubtype)
  rw [ends_superTypeContext] at same
  obtain ⟨new, kept', browses⟩ := serves.browse id Browser.superTypeContext kept
  rw [answered] at browses
  unfold Browser.fetchSuperType
  rw [bind_ok (result_eq_ok.1 browses)]
  have told : ∀ answer, (match answer with
      | none => space.superOf wire = none
      | some id => ∃ super, space.superOf wire = some super ∧ super.isNull = false ∧
          browser.namespaces.decode super = .ok id) →
      space.TellsSuper browser.namespaces (id, answer) := by
    -- An entry is about every node that reads as its id; there is only this one.
    intro answer agrees other proper' decoded'
    obtain rfl := NamespaceTable.decode_inj lists regular proper proper' decoded decoded'
    exact agrees
  have several : ends.length ≠ 1 → space.superOf wire = none := by
    intro length
    unfold superOf
    split
    case h_1 only =>
      rw [only] at same
      exact absurd same.length_eq length
    case h_2 => rfl
  cases shows with
  | nil => exact ⟨none, new, rfl, kept', told none (several (by decide))⟩
  | @cons super neighbour ends found first rest =>
      cases rest with
      | nil =>
          refine ⟨some neighbour.node, new, rfl, kept', told _ ⟨super, ?_, first.proper, first.node⟩⟩
          unfold superOf
          rw [List.perm_singleton.1 same.symm]
      | cons second rest =>
          exact ⟨none, new, rfl, kept', told none (several (by simp))⟩

theorem superType {wire : WireId} {id : NodeId} (proper : wire.isNull = false)
    (decoded : browser.namespaces.decode wire = .ok id) {survey : Surveyed σ}
    (sound : survey.Sound steady (space.TellsSuper browser.namespaces)) :
    ∃ answer new, browser.superType id survey = .ok answer new ∧
      new.Sound steady (space.TellsSuper browser.namespaces) ∧
      space.TellsSuper browser.namespaces (id, answer) := by
  unfold Browser.superType
  rw [bind_ok (get_apply _)]
  cases known : survey.superTypes.lookup id with
  | some answer =>
      obtain ⟨front, back, listed, -⟩ := List.lookup_eq_some_iff.1 known
      refine ⟨answer, survey, rfl, sound, sound.2 _ ?_⟩
      rw [listed]
      exact List.mem_append_right _ (List.mem_cons_self ..)
  | none =>
      obtain ⟨answer, new, asked, kept, tells⟩ :=
        serves.fetchSuperType lists regular proper decoded sound.1
      have answered : Survey.onServer (browser.fetchSuperType id) survey =
          .ok answer { survey with server := new } := within_ok asked
      refine ⟨answer, ⟨(id, answer) :: survey.superTypes, new⟩, ?_, ⟨kept, ?_⟩, tells⟩
      · dsimp only
        rw [bind_ok answered]
        rfl
      · intro entry listed
        rcases List.mem_cons.1 listed with rfl | older
        · exact tells
        · exact sound.2 entry older

theorem reaches {top : WireId} {expected : NodeId} (proper' : top.isNull = false)
    (decoded' : browser.namespaces.decode top = .ok expected) (remaining : Nat) {wire : WireId}
    {current : NodeId} (proper : wire.isNull = false)
    (decoded : browser.namespaces.decode wire = .ok current) {survey : Surveyed σ}
    (sound : survey.Sound steady (space.TellsSuper browser.namespaces)) :
    ∃ verdict new, browser.reaches expected remaining current survey = .ok verdict new ∧
      new.Sound steady (space.TellsSuper browser.namespaces) ∧
      (verdict = true ↔ ∃ n ≤ remaining, space.Climbs n wire top) := by
  -- Each answer makes a supertype known, so the walk goes on from other surveys.
  induction remaining generalizing wire current survey with
  | zero =>
      have same := NamespaceTable.decode_eq_iff lists regular proper proper' decoded decoded'
      refine ⟨_, survey, rfl, sound, ?_⟩
      rw [decide_eq_true_iff, same]
      simp [climbs_zero]
  | succ remaining ih =>
      have same := NamespaceTable.decode_eq_iff lists regular proper proper' decoded decoded'
      rw [Browser.reaches]
      by_cases here : current = expected
      · rw [if_pos here]
        exact ⟨true, survey, rfl, sound, iff_of_true rfl
          ⟨0, Nat.zero_le _, climbs_zero.2 (same.1 here)⟩⟩
      · rw [if_neg here]
        have elsewhere : wire ≠ top := fun equal => here (same.2 equal)
        obtain ⟨answer, new, asked, sound', tells⟩ :=
          serves.superType lists regular proper decoded sound
        rw [bind_ok asked]
        have tells' := tells wire proper decoded
        cases answer with
        | none =>
            refine ⟨false, new, rfl, sound', iff_of_false Bool.false_ne_true ?_⟩
            rintro ⟨n, -, climbs⟩
            exact not_climbs_of_none tells' elsewhere climbs
        | some next =>
            obtain ⟨super, told, properSuper, decodedSuper⟩ := tells'
            obtain ⟨verdict, last, walks, sound'', agrees⟩ :=
              ih properSuper decodedSuper sound'
            exact ⟨verdict, last, walks, sound'',
              agrees.trans (exists_climbs_iff_of_some told elsewhere)⟩

theorem isSameOrSubtype (orderly : space.Orderly browser.namespaces maxDepth) {depth : Nat}
    (deep : maxDepth ≤ depth) {super type : WireId} (rooted : space.IsRooted super)
    (isType : (space.nodeClass type).isType) {expected candidate root id : NodeId}
    (proper' : super.isNull = false) (encoded' : browser.namespaces.encode expected = .ok super)
    (decoded' : browser.namespaces.decode super = .ok root) (proper : type.isNull = false)
    (encoded : browser.namespaces.encode candidate = .ok type)
    (decoded : browser.namespaces.decode type = .ok id) {survey : Surveyed σ}
    (sound : survey.Sound steady (space.TellsSuper browser.namespaces)) :
    ∃ verdict new, browser.isSameOrSubtype depth expected candidate survey = .ok verdict new ∧
      (verdict = true ↔ super = type ∨ space.Subtype super type) := by
  have whole : candidate.isNull = false := by
    rw [← Bool.not_eq_true]
    intro null
    unfold NamespaceTable.encode at encoded
    rw [if_pos null] at encoded
    cases encoded
    cases proper
  have canonical' : browser.namespaces.canonical expected = .ok root := by
    rw [NamespaceTable.canonical, encoded']
    exact decoded'
  have canonical : browser.namespaces.canonical candidate = .ok id := by
    rw [NamespaceTable.canonical, encoded]
    exact decoded
  obtain ⟨verdict, new, walks, -, agrees⟩ :=
    serves.reaches lists regular proper' decoded' depth proper decoded sound
  refine ⟨verdict, new, ?_, agrees.trans (orderly.climbs_iff deep rooted isType)⟩
  unfold Browser.isSameOrSubtype
  rw [if_neg (Bool.eq_false_iff.1 whole), canonical', canonical,
    bind_ok (ofExcept_ok root _), bind_ok (ofExcept_ok id _)]
  exact walks

end Serves

end Space

end AddressSpace
