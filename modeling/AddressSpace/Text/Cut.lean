namespace AddressSpace.Text

def cutFirst? (separator : Char) : List Char → Option (List Char × List Char)
  | [] => none
  | c :: rest =>
    if c = separator then some ([], rest)
    else (cutFirst? separator rest).map fun (before, behind) => (c :: before, behind)

theorem eq_append_of_cutFirst? {separator : Char} {cs before behind : List Char}
    (h : cutFirst? separator cs = some (before, behind)) : cs = before ++ separator :: behind := by
  induction cs generalizing before with
  | nil => simp [cutFirst?] at h
  | cons c rest ih =>
    rw [cutFirst?] at h
    split at h
    next eq => simp_all
    next =>
      obtain ⟨⟨front, back⟩, hcut, heq⟩ := Option.map_eq_some_iff.1 h
      simp only [Prod.mk.injEq] at heq
      obtain ⟨rfl, rfl⟩ := heq
      simp [ih hcut]

theorem cutFirst?_append {separator : Char} {before behind : List Char}
    (h : separator ∉ before) :
    cutFirst? separator (before ++ separator :: behind) = some (before, behind) := by
  induction before with
  | nil => simp [cutFirst?]
  | cons c rest ih =>
    have hc : c ≠ separator := fun eq => h (by simp [eq])
    have hrest : separator ∉ rest := fun mem => h (by simp [mem])
    simp [cutFirst?, hc, ih hrest]

def behindLast (separator : Char) (cs : List Char) : List Char :=
  (cs.reverse.takeWhile (· ≠ separator)).reverse

def dropTrailing (separator : Char) (cs : List Char) : List Char :=
  (cs.reverse.dropWhile (· = separator)).reverse

end AddressSpace.Text
