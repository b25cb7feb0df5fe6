import AddressSpace.Descriptor
import Mathlib.Data.List.Induction
import Mathlib.Data.List.Nodup

namespace AddressSpace

def Descriptor.isMandatory (d : Descriptor) : Bool :=
  d.declaration.rule = .mandatory || d.declaration.rule = .mandatoryPlaceholder

theorem Descriptor.isOverridable_eq (d : Descriptor) :
    d.declaration.rule.isOverridable = !d.isMandatory := by
  unfold isMandatory
  cases d.declaration.rule <;> rfl

section Winners

variable {α : Type} (declare : α → Descriptor)

/-- The declaration that stands for a browse name: the first one that is mandatory, and the last one
if none is. -/
def winner? (declared : List α) (name : QualifiedName) : Option α :=
  (declared.find? fun a => (declare a).browseName = name && (declare a).isMandatory).or
    (declared.findRev? fun a => (declare a).browseName = name)

def winners [DecidableEq α] (declared : List α) : List α :=
  declared.filter fun a => winner? declare declared (declare a).browseName = some a

variable {declare} {declared : List α} {name : QualifiedName} {a w : α}

theorem winner?_filter_isMandatory :
    (winner? declare declared name).filter (fun w => (declare w).isMandatory) =
      declared.find? fun a => (declare a).browseName = name && (declare a).isMandatory := by
  unfold winner?
  cases found : declared.find? fun a =>
      (declare a).browseName = name && (declare a).isMandatory with
  | some w =>
      have holds := List.find?_some found
      simp only [Bool.and_eq_true] at holds
      rw [Option.some_or, Option.filter_some, if_pos holds.2]
  | none =>
      have optional := List.find?_eq_none.1 found
      rw [Option.none_or, Option.filter_eq_none_iff]
      intro w last mandatory
      rw [List.findRev?_eq_find?_reverse] at last
      have named := List.find?_some last
      have listed := List.mem_reverse.1 (List.mem_of_find?_eq_some last)
      exact optional w listed (by rw [Bool.and_eq_true]; exact ⟨named, mandatory⟩)

theorem winner?_append_singleton : winner? declare (declared ++ [a]) name =
    if (declare a).browseName = name then
      ((winner? declare declared name).filter fun w => (declare w).isMandatory).or (some a)
    else winner? declare declared name := by
  rw [winner?_filter_isMandatory]
  unfold winner?
  rw [List.find?_append, List.findRev?_eq_find?_reverse, List.findRev?_eq_find?_reverse,
    List.reverse_append]
  by_cases named : (declare a).browseName = name
  · cases declared.find? fun b => (declare b).browseName = name && (declare b).isMandatory with
    | some found => simp [named]
    | none => by_cases mandatory : (declare a).isMandatory <;> simp [named, mandatory]
  · simp [named]

theorem winner?_append_of_mandatory (a : α) (wins : winner? declare declared name = some w)
    (mandatory : (declare w).isMandatory) :
    winner? declare (declared ++ [a]) name = some w := by
  rw [winner?_append_singleton, wins, Option.filter_some, if_pos mandatory, Option.some_or, ite_self]

theorem winner?_append_of_optional
    (optional : ∀ w, winner? declare declared (declare a).browseName = some w →
      ¬ (declare w).isMandatory) :
    winner? declare (declared ++ [a]) (declare a).browseName = some a := by
  rw [winner?_append_singleton, if_pos rfl, Option.filter_eq_none_iff.2 optional, Option.none_or]

theorem mem_of_winner? (wins : winner? declare declared name = some w) :
    w ∈ declared ∧ (declare w).browseName = name := by
  rcases Option.or_eq_some_iff.1 wins with found | ⟨-, found⟩
  · have holds := List.find?_some found
    exact ⟨List.mem_of_find?_eq_some found, by simp at holds; exact holds.1⟩
  · rw [List.findRev?_eq_find?_reverse] at found
    have holds := List.find?_some found
    exact ⟨List.mem_reverse.1 (List.mem_of_find?_eq_some found), by simpa using holds⟩

theorem winner?_eq_none : winner? declare declared name = none ↔
    ∀ a ∈ declared, (declare a).browseName ≠ name := by
  simp only [winner?, Option.or_eq_none_iff, List.findRev?_eq_find?_reverse, List.find?_eq_none,
    List.mem_reverse, Bool.and_eq_true, decide_eq_true_eq, not_and]
  constructor
  · exact fun none a listed same => none.2 a listed same
  · exact fun other => ⟨fun a listed same => absurd same (other a listed), other⟩

theorem isSome_winner? (listed : a ∈ declared) :
    (winner? declare declared (declare a).browseName).isSome := by
  rw [Option.isSome_iff_ne_none]
  exact fun none => winner?_eq_none.1 none a listed rfl

theorem winner?_of_mandatory (front back : List α) (mandatory : (declare a).isMandatory) :
    ∃ w ∈ front ++ [a], (declare w).isMandatory ∧
      winner? declare (front ++ a :: back) (declare a).browseName = some w := by
  let p (b : α) : Bool := (declare b).browseName = (declare a).browseName && (declare b).isMandatory
  have here : p a = true := by simp [p, mandatory]
  obtain ⟨w, found⟩ : ∃ w, (front ++ [a]).find? p = some w :=
    Option.isSome_iff_exists.1 (List.find?_isSome.2 ⟨a, by simp, here⟩)
  have holds := List.find?_some found
  refine ⟨w, List.mem_of_find?_eq_some found, by simp [p] at holds; exact holds.2, ?_⟩
  have first : (front ++ a :: back).find? p = some w := by
    rw [List.append_cons, List.find?_append, found, Option.some_or]
  exact Option.or_eq_some_iff.2 (.inl first)

theorem winner?_filter (p : QualifiedName → Bool) (holds : p name) :
    winner? declare (declared.filter fun a => p (declare a).browseName) name =
      winner? declare declared name := by
  have implied : ∀ q : α → Bool, (∀ a, q a → (declare a).browseName = name) →
      ∀ as : List α, (as.filter fun a => p (declare a).browseName).find? q = as.find? q := by
    intro q named as
    rw [List.find?_filter]
    congr 1
    funext a
    cases same : q a with
    | false => simp
    | true => simp [named a same, holds]
  unfold winner?
  rw [List.findRev?_eq_find?_reverse, List.findRev?_eq_find?_reverse, ← List.filter_reverse,
    implied, implied]
  · exact fun a named => of_decide_eq_true named
  · intro a named
    simp at named
    exact named.1

theorem winners_filter [DecidableEq α] (p : QualifiedName → Bool) :
    winners declare (declared.filter fun a => p (declare a).browseName) =
      (winners declare declared).filter fun a => p (declare a).browseName := by
  unfold winners
  rw [List.filter_filter, List.filter_filter]
  refine List.filter_congr fun a _ => ?_
  cases holds : p (declare a).browseName with
  | false => simp
  | true => simp [winner?_filter p holds]

end Winners

theorem eraseP_eq_filter {α β : Type} [DecidableEq β] {name : α → β} {as : List α} {b : β}
    (distinct : (as.map name).Nodup) :
    (as.eraseP fun a => name a = b) = as.filter fun a => name a ≠ b := by
  induction as with
  | nil => rfl
  | cons a rest ih =>
      obtain ⟨single, distinct⟩ := List.nodup_cons.1 distinct
      by_cases named : name a = b
      · subst named
        have others : rest.filter (fun other => name other ≠ name a) = rest := by
          refine List.filter_eq_self.2 fun other listed => decide_eq_true ?_
          exact fun same => single (List.mem_map.2 ⟨other, listed, same⟩)
        rw [List.filter_cons_of_neg (by simp), others]
        simp
      · simp [named, ih distinct]

namespace Descriptor

theorem mergeAll_append_singleton (ds : List Descriptor) (d : Descriptor) :
    mergeAll (ds ++ [d]) = (mergeInto (mergeAll ds) d).1 := by
  rw [mergeAll, List.foldl_append]
  rfl

theorem nodup_mergeInto {children : List Descriptor} (d : Descriptor)
    (distinct : (children.map browseName).Nodup) :
    ((mergeInto children d).1.map browseName).Nodup := by
  have append : ∀ children : List Descriptor, (children.map browseName).Nodup →
      (∀ child ∈ children, child.browseName ≠ d.browseName) →
      ((children ++ [d]).map browseName).Nodup := by
    intro children distinct others
    rw [List.map_append, List.nodup_append]
    refine ⟨distinct, List.nodup_singleton _, ?_⟩
    intro name listed other alone same
    obtain ⟨child, there, rfl⟩ := List.mem_map.1 listed
    exact others child there (same.trans (List.mem_singleton.1 alone))
  unfold mergeInto
  cases found : children.find? (·.browseName = d.browseName) with
  | none => exact append children distinct (by simpa using found)
  | some present =>
      dsimp only
      split
      · rw [eraseP_eq_filter distinct]
        exact append _ (distinct.sublist (List.filter_sublist.map _)) (by simp)
      · exact distinct

theorem nodup_mergeAll (ds : List Descriptor) : ((mergeAll ds).map browseName).Nodup := by
  induction ds using List.reverseRecOn with
  | nil => exact List.nodup_nil
  | append_singleton ds d ih =>
      rw [mergeAll_append_singleton]
      exact nodup_mergeInto d ih

end Descriptor

section

open Descriptor

variable {α : Type} [DecidableEq α] {declare : α → Descriptor} {declared : List α}

theorem find?_winners {name : QualifiedName} :
    ((winners declare declared).map declare).find? (·.browseName = name) =
      (winner? declare declared name).map declare := by
  rw [List.find?_map]
  congr 1
  unfold winners
  cases wins : winner? declare declared name with
  | none =>
      refine List.find?_eq_none.2 fun a listed named => ?_
      exact winner?_eq_none.1 wins a (List.mem_filter.1 listed).1 (of_decide_eq_true named)
  | some w =>
      obtain ⟨listed, named⟩ := mem_of_winner? wins
      have there : w ∈ winners declare declared :=
        List.mem_filter.2 ⟨listed, by rw [named, wins]; exact decide_eq_true rfl⟩
      obtain ⟨other, found⟩ := Option.isSome_iff_exists.1
        (List.find?_isSome.2 ⟨w, there, decide_eq_true named⟩ :
          ((winners declare declared).find? fun a => (declare a).browseName = name).isSome)
      have named' : (declare other).browseName = name := by simpa using List.find?_some found
      have wins' := of_decide_eq_true (List.mem_filter.1 (List.mem_of_find?_eq_some found)).2
      rw [named', wins] at wins'
      rw [Option.some.inj wins']
      exact found

theorem winners_append_of_mandatory {a w : α} (fresh : a ∉ declared)
    (wins : winner? declare declared (declare a).browseName = some w)
    (mandatory : (declare w).isMandatory) :
    winners declare (declared ++ [a]) = winners declare declared := by
  have elsewhere : w ≠ a := fun same => fresh (same ▸ (mem_of_winner? wins).1)
  have loses : ¬ winner? declare (declared ++ [a]) (declare a).browseName = some a := by
    rw [winner?_append_of_mandatory a wins mandatory]
    exact fun same => elsewhere (Option.some.inj same)
  unfold winners
  rw [List.filter_append, List.filter_singleton, decide_eq_false loses, Bool.cond_false,
    List.append_nil]
  refine List.filter_congr fun b _ => ?_
  by_cases same : (declare b).browseName = (declare a).browseName
  · rw [same, winner?_append_of_mandatory a wins mandatory, wins]
  · rw [winner?_append_singleton, if_neg (Ne.symm same)]

theorem winners_append_of_optional {a : α} (fresh : a ∉ declared)
    (optional : ∀ w, winner? declare declared (declare a).browseName = some w →
      ¬ (declare w).isMandatory) :
    winners declare (declared ++ [a]) = ((winners declare declared).filter fun b =>
      (declare b).browseName ≠ (declare a).browseName) ++ [a] := by
  have wins := winner?_append_of_optional optional
  unfold winners
  rw [List.filter_append, List.filter_singleton, decide_eq_true wins, Bool.cond_true,
    List.filter_filter]
  congr 1
  refine List.filter_congr fun b there => ?_
  by_cases same : (declare b).browseName = (declare a).browseName
  · have elsewhere : a ≠ b := fun same => fresh (same ▸ there)
    rw [same, wins]
    simp [elsewhere]
  · rw [winner?_append_singleton, if_neg (Ne.symm same)]
    simp [same]

theorem mergeAll_map (distinct : declared.Nodup) :
    mergeAll (declared.map declare) = (winners declare declared).map declare := by
  induction declared using List.reverseRecOn with
  | nil => rfl
  | append_singleton declared a ih =>
      obtain ⟨distinct, -, apart⟩ := List.nodup_append.1 distinct
      have fresh : a ∉ declared := fun there => apart a there a (List.mem_singleton_self a) rfl
      have merged := ih distinct
      have names := nodup_mergeAll (declared.map declare)
      rw [List.map_append, List.map_singleton, mergeAll_append_singleton]
      rw [merged] at names ⊢
      unfold mergeInto
      rw [find?_winners]
      cases wins : winner? declare declared (declare a).browseName with
      | none =>
          have others : (winners declare declared).filter (fun b =>
              (declare b).browseName ≠ (declare a).browseName) = winners declare declared := by
            refine List.filter_eq_self.2 fun b listed => decide_eq_true ?_
            exact winner?_eq_none.1 wins b (List.mem_filter.1 listed).1
          rw [winners_append_of_optional fresh (by simp [wins]), others, List.map_append]
          rfl
      | some w =>
          rw [Option.map_some]
          dsimp only
          rw [isOverridable_eq]
          by_cases mandatory : (declare w).isMandatory
          · rw [winners_append_of_mandatory fresh wins mandatory, mandatory]
            rfl
          · rw [winners_append_of_optional fresh (by simpa [wins] using mandatory),
              eraseP_eq_filter names, List.map_append, List.filter_map]
            simp [mandatory, Function.comp_def]

end

end AddressSpace
