import AddressSpace.Text.Cut

namespace AddressSpace.Text

variable {n : Nat} {c : Char} {cs : List Char}

section Runs

variable {p : Char → Bool} {run rest : List Char} (inside : ∀ c ∈ run, p c = true)
  (ends : ∀ c, rest.head? = some c → p c = false)

include inside ends

theorem takeWhile_run : (run ++ rest).takeWhile p = run := by
  rw [List.takeWhile_append_of_pos inside]
  cases rest with
  | nil => simp
  | cons c rest => simp [ends c rfl]

theorem dropWhile_run : (run ++ rest).dropWhile p = rest := by
  rw [List.dropWhile_append_of_pos inside]
  cases rest with
  | nil => rfl
  | cons c rest => simp [ends c rfl]

end Runs

theorem toList_toString (n : Nat) : (toString n).toList = Nat.toDigits 10 n := by
  rw [Nat.toString_eq_ofList_toDigits, String.toList_ofList]

theorem isDigit_of_mem_toString (written : c ∈ (toString n).toList) : c.isDigit = true := by
  rw [toList_toString] at written
  exact Nat.isDigit_of_mem_toDigits (by decide) (by decide) written

theorem exists_toString_eq_cons (n : Nat) :
    ∃ c cs, (toString n).toList = c :: cs ∧ c.isDigit = true := by
  have written : (toString n).toList ≠ [] := by
    rw [toList_toString]
    exact Nat.toDigits_ne_nil
  obtain ⟨c, cs, digits⟩ := List.exists_cons_of_ne_nil written
  have first : c ∈ (toString n).toList := by
    rw [digits]
    exact List.mem_cons_self
  exact ⟨c, cs, digits, isDigit_of_mem_toString first⟩

theorem cutFirst?_eq_some_iff {separator : Char} {before behind : List Char} :
    cutFirst? separator cs = some (before, behind) ↔
      separator ∉ before ∧ cs = before ++ separator :: behind := by
  constructor
  · intro cut
    refine ⟨?_, eq_append_of_cutFirst? cut⟩
    induction cs generalizing before with
    | nil => simp [cutFirst?] at cut
    | cons c rest ih =>
        rw [cutFirst?] at cut
        split at cut
        case isTrue => simp_all
        case isFalse other =>
          obtain ⟨⟨front, back⟩, first, same⟩ := Option.map_eq_some_iff.1 cut
          simp only [Prod.mk.injEq] at same
          obtain ⟨rfl, rfl⟩ := same
          simp [ih first, Ne.symm other]
  · rintro ⟨free, rfl⟩
    exact cutFirst?_append free

end AddressSpace.Text
