import AddressSpace.Error
import AddressSpace.Proofs.Identifier.Grammar
import AddressSpace.Proofs.WireId

/-!
# What is read as a wire id

`WireId.Denotes` is the grammar of wire ids: an identifier, with an index in front or without one,
and white space around it.  `WireId.ofText_exact` says that the reader accepts this grammar and
nothing else, and that what it has read is read again from its own text.
-/

namespace AddressSpace

namespace Text

variable {core cs : List Char}

structure IsCore (core cs : List Char) : Prop where
  surrounded : ∃ front back, cs = front ++ core ++ back ∧ ∀ c ∈ front ++ back, isBlank c = true
  first_visible : ∀ c, core.head? = some c → isBlank c = false
  last_visible : ∀ c, core.getLast? = some c → isBlank c = false

theorem trimStart_append {front : List Char} (blank : ∀ c ∈ front, isBlank c = true)
    (visible : ∀ c, core.head? = some c → isBlank c = false) : trimStart (front ++ core) = core :=
  dropWhile_run blank visible

theorem trimEnd_append {back : List Char} (blank : ∀ c ∈ back, isBlank c = true)
    (visible : ∀ c, core.getLast? = some c → isBlank c = false) : trimEnd (core ++ back) = core := by
  unfold trimEnd
  rw [List.reverse_append, trimStart_append, List.reverse_reverse]
  · simpa using blank
  · simpa using visible

theorem exists_eq_append_trimStart (cs : List Char) :
    ∃ front, cs = front ++ trimStart cs ∧ ∀ c ∈ front, isBlank c = true :=
  ⟨cs.takeWhile isBlank, List.takeWhile_append_dropWhile.symm, fun _ => List.mem_takeWhile_imp⟩

theorem head?_trimStart {c : Char} (first : (trimStart cs).head? = some c) : isBlank c = false := by
  have visible := List.head?_dropWhile_not isBlank cs
  rw [trimStart] at first
  simpa [first] using visible

theorem exists_eq_trimEnd_append (cs : List Char) :
    ∃ back, cs = trimEnd cs ++ back ∧ ∀ c ∈ back, isBlank c = true := by
  obtain ⟨front, split, blank⟩ := exists_eq_append_trimStart cs.reverse
  refine ⟨front.reverse, ?_, by simpa using blank⟩
  rw [trimEnd, ← List.reverse_append, ← split, List.reverse_reverse]

theorem getLast?_trimEnd {c : Char} (last : (trimEnd cs).getLast? = some c) : isBlank c = false := by
  rw [trimEnd, List.getLast?_reverse] at last
  exact head?_trimStart last

theorem isCore_trim (cs : List Char) : IsCore (trim cs) cs := by
  obtain ⟨front, split, blank⟩ := exists_eq_append_trimStart cs
  obtain ⟨back, split', blank'⟩ := exists_eq_trimEnd_append (trimStart cs)
  refine ⟨⟨front, back, ?_, ?_⟩, ?_, fun _ => getLast?_trimEnd⟩
  · rw [List.append_assoc, trim, ← split', ← split]
  · intro c listed
    exact (List.mem_append.1 listed).elim (blank c) (blank' c)
  · intro c first
    have start : (trimStart cs).head? = some c := by
      rw [split', List.head?_append, ← trim, first]
      rfl
    exact head?_trimStart start

theorem IsCore.trim_eq (isCore : IsCore core cs) : trim cs = core := by
  obtain ⟨⟨front, back, rfl, blank⟩, first, last⟩ := isCore
  cases core with
  | nil =>
      have empty : trimStart (front ++ back ++ []) = [] := trimStart_append blank (by simp)
      rw [List.append_nil, trim, ← List.append_nil (front ++ back), empty]
      rfl
  | cons c rest =>
      have starts : trimStart (front ++ (c :: rest ++ back)) = c :: rest ++ back :=
        trimStart_append (fun c listed => blank c (by simp [listed])) (by simpa using first)
      rw [List.append_assoc, trim, starts]
      exact trimEnd_append (fun c listed => blank c (by simp [listed])) last

theorem isCore_iff : IsCore core cs ↔ trim cs = core := by
  constructor
  · exact IsCore.trim_eq
  · rintro rfl
    exact isCore_trim cs

theorem Decimal.digit {n : Nat} {c : Char} (decimal : Decimal n cs) (written : c ∈ cs) :
    c.isDigit = true := by
  obtain ⟨digits, -, small, -, rfl⟩ := decimal
  obtain ⟨d, listed, rfl⟩ := List.mem_map.1 written
  have digit : ∀ d < 10, (Nat.digitChar d).isDigit = true := by decide
  exact digit d (small d listed)

theorem Unsigned.unseparated {n : Nat} (written : Unsigned n cs) : ';' ∉ cs := by
  cases written with
  | bare decimal =>
      intro listed
      cases decimal.digit listed
  | signed decimal =>
      intro listed
      rcases List.mem_cons.1 listed with plus | behind
      · cases plus
      · cases decimal.digit behind

end Text

namespace WireId

inductive Spells : List Char → WireId → Prop
  | standard {cs : List Char} {identifier : Identifier}
      (spells : Identifier.Spells cs identifier) : Spells cs ⟨0, identifier⟩
  | indexed {digits cs : List Char} {index : UInt16} {identifier : Identifier}
      (number : Text.Unsigned index.toNat digits) (spells : Identifier.Spells cs identifier) :
      Spells ('n' :: 's' :: '=' :: digits ++ ';' :: cs) ⟨index, identifier⟩

def Denotes (s : String) (id : WireId) : Prop := ∃ core, Text.IsCore core s.toList ∧ Spells core id

variable {cs : List Char} {id : WireId}

theorem map_ofChars_eq_ok_iff {index : UInt16} :
    ((Identifier.ofChars cs).map fun identifier => (⟨index, identifier⟩ : WireId)) = .ok id ↔
      id.index = index ∧ Identifier.Spells cs id.identifier := by
  obtain ⟨index', identifier⟩ := id
  rw [← Identifier.ofChars_eq_ok_iff]
  cases Identifier.ofChars cs with
  | error bad => simp [Except.map]
  | ok found => simp [Except.map, eq_comm]

theorem Spells.ofTrimmed (spells : Spells cs id) : ofTrimmed cs = .ok id := by
  cases spells with
  | standard spells =>
      unfold WireId.ofTrimmed
      split
      -- no identifier starts as the mark of an index does
      case h_1 => cases spells
      case h_2 => exact map_ofChars_eq_ok_iff.2 ⟨rfl, spells⟩
  | @indexed digits cs index identifier number spells =>
      have value := Text.unsigned?_eq_some_iff.2 ⟨number, index.toNat_lt⟩
      simp only [List.cons_append, WireId.ofTrimmed, Text.cutFirst?_append number.unseparated]
      rw [value]
      exact map_ofChars_eq_ok_iff.2 ⟨UInt16.ofNat_toNat.symm, spells⟩

theorem ofTrimmed_eq_ok_iff : ofTrimmed cs = .ok id ↔ Spells cs id := by
  constructor
  · intro read
    unfold ofTrimmed at read
    split at read
    case h_1 rest =>
      split at read
      case h_1 => cases read
      case h_2 digits behind cut =>
        split at read
        case h_1 => cases read
        case h_2 n value =>
          obtain ⟨number, small⟩ := Text.unsigned?_eq_some_iff.1 value
          obtain ⟨same, spells⟩ := map_ofChars_eq_ok_iff.1 read
          obtain ⟨index, identifier⟩ := id
          subst same
          have whole : n = (UInt16.ofNat n).toNat := by simp [Nat.mod_eq_of_lt small]
          rw [whole] at number
          rw [Text.eq_append_of_cutFirst? cut]
          exact .indexed number spells
    case h_2 =>
      obtain ⟨zero, spells⟩ := map_ofChars_eq_ok_iff.1 read
      obtain ⟨index, identifier⟩ := id
      subst zero
      exact .standard spells
  · exact Spells.ofTrimmed

theorem ofText_eq_ok_iff {s : String} : ofText s = .ok id ↔ Denotes s id := by
  simp [ofText, Denotes, ofTrimmed_eq_ok_iff, Text.isCore_iff]

theorem trimmed_of_identifierSpells {identifier : Identifier}
    (spells : Identifier.Spells cs identifier)
    (visible : ∀ c, cs.getLast? = some c → Text.isBlank c = false) :
    identifier.trimmed = identifier := by
  apply Identifier.trimmed_eq_self_iff.2
  rintro s rfl c last
  cases spells
  apply visible
  simp [List.getLast?_cons, last]

theorem Spells.trimmed (spells : Spells cs id)
    (visible : ∀ c, cs.getLast? = some c → Text.isBlank c = false) :
    id.identifier.trimmed = id.identifier := by
  cases spells with
  | standard spells => exact trimmed_of_identifierSpells spells visible
  | indexed number spells =>
      apply trimmed_of_identifierSpells spells
      intro c last
      apply visible
      simp [List.getLast?_cons, last]

theorem Denotes.ofText_toString {s : String} (denotes : Denotes s id) :
    ofText (toString id) = .ok id := by
  obtain ⟨core, isCore, spells⟩ := denotes
  rw [WireId.ofText_toString, spells.trimmed isCore.last_visible]

/-- A text is read as a wire id just if it is an identifier, or `ns=`, an index, a semicolon and an
identifier, with white space around it or none, and it is read as the id that it denotes.  Any other
text is reported as an invalid node id.  Reading once more what has been read and written changes
nothing. -/
theorem ofText_exact (s : String) :
    (∀ id, ofText s = .ok id ↔ Denotes s id) ∧
    ((∀ id, ¬ Denotes s id) ↔ ∃ text fault,
      (ofText s).mapError Error.ofBadWireId = .error (.schema (.invalidNodeId text fault))) ∧
    (do ofText (toString (← ofText s))) = ofText s := by
  refine ⟨fun _ => ofText_eq_ok_iff, ?_, ?_⟩
  · simp only [← ofText_eq_ok_iff]
    cases ofText s with
    | error bad => simpa [Except.mapError] using ⟨_, _, rfl⟩
    | ok id => simp [Except.mapError]
  · cases read : ofText s with
    | error bad => rfl
    | ok id => exact (ofText_eq_ok_iff.1 read).ofText_toString

end WireId

end AddressSpace
