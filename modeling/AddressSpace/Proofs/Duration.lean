import AddressSpace.Duration.Written
import AddressSpace.Proofs.WireId
import Mathlib.Tactic.Ring

namespace AddressSpace.Duration

namespace TimeUnit

def label : TimeUnit → String
  | nanosecond => "ns"
  | microsecond => "us"
  | millisecond => "ms"
  | second => "s"
  | minute => "m"
  | hour => "h"
  | day => "day"
  | week => "week"
  | month => "month"
  | year => "year"

def hasPlural : TimeUnit → Bool
  | day | week | month | year => true
  | _ => false

def name (unit : TimeUnit) (count : Nat) : String :=
  unit.label ++ if unit.hasPlural ∧ 1 < count then "s" else ""

def span (unit : TimeUnit) : Nat := unit.nanoseconds?.getD (unit.seconds * nanosPerSecond)

theorem span_eq (unit : TimeUnit) : unit.span = match unit with
    | nanosecond => 1
    | microsecond => 1000
    | millisecond => 1000000
    | second => nanosPerSecond
    | minute => 60 * nanosPerSecond
    | hour => 3600 * nanosPerSecond
    | day => 86400 * nanosPerSecond
    | week => 604800 * nanosPerSecond
    | month => 2630016 * nanosPerSecond
    | year => 31557600 * nanosPerSecond := by
  cases unit <;> rfl

theorem name_cases (unit : TimeUnit) (count : Nat) :
    unit.name count = unit.label ∨ unit.hasPlural = true ∧ unit.name count = unit.label ++ "s" := by
  unfold name
  split
  case isTrue plural => exact .inr ⟨plural.1, rfl⟩
  case isFalse => simp

theorem ofSpelling?_name (unit : TimeUnit) (count : Nat) :
    ofSpelling? (unit.name count) = some unit := by
  rcases unit.name_cases count with same | ⟨plural, same⟩
  · rw [same]
    cases unit <;> decide
  · rw [same]
    revert plural
    cases unit <;> decide

theorem isUnitChar_of_mem_name (unit : TimeUnit) (count : Nat) :
    ∀ c ∈ (unit.name count).toList, isUnitChar c = true := by
  have plain : (unit.label.toList ++ "s".toList).all isUnitChar = true := by
    cases unit <;> decide
  intro c written
  apply List.all_eq_true.1 plain
  rcases unit.name_cases count with same | ⟨-, same⟩
  · rw [same] at written
    exact List.mem_append_left _ written
  · rwa [same, String.toList_append] at written

theorem name_ne_empty (unit : TimeUnit) (count : Nat) : (unit.name count).toList ≠ [] := by
  have named : unit.label.toList ≠ [] := by
    cases unit <;> decide
  simp [name, String.toList_append] at named ⊢
  tauto

end TimeUnit

structure Count where
  number : Nat
  unit : TimeUnit

namespace Count

def value (count : Count) : Nat := count.number * count.unit.span

def text (count : Count) : String := toString count.number ++ count.unit.name count.number

def item (count : Count) : Item := ⟨count.number, none, count.unit⟩

end Count

def allCounts (d : Duration) : List Count :=
  let inYear := d.seconds % 31557600
  let inMonth := inYear % 2630016
  let inDay := inMonth % 86400
  [⟨d.seconds / 31557600, .year⟩, ⟨inYear / 2630016, .month⟩, ⟨inMonth / 86400, .day⟩,
    ⟨inDay / 3600, .hour⟩, ⟨inDay % 3600 / 60, .minute⟩, ⟨inDay % 60, .second⟩,
    ⟨d.subsecond / 1000000, .millisecond⟩, ⟨d.subsecond / 1000 % 1000, .microsecond⟩,
    ⟨d.subsecond % 1000, .nanosecond⟩]

def counts (d : Duration) : List Count := d.allCounts.filter (0 < ·.number)

theorem flatMap_part (counts : List Count) :
    (counts.flatMap fun count => part count.number count.unit.label count.unit.hasPlural) =
      (counts.filter (0 < ·.number)).map Count.text := by
  induction counts with
  | nil => rfl
  | cons count rest ih =>
      rw [List.flatMap_cons, ih, List.filter_cons]
      by_cases zero : count.number = 0
      · simp [part, zero]
      · have positive : 0 < count.number := Nat.pos_of_ne_zero zero
        simp [part, zero, positive, Count.text, TimeUnit.name, String.append_assoc]

theorem parts_eq (d : Duration) : d.parts = d.counts.map Count.text := by
  rw [counts, ← flatMap_part]
  simp [parts, allCounts, TimeUnit.label, TimeUnit.hasPlural]

theorem sum_filter_positive (counts : List Count) :
    ((counts.filter (0 < ·.number)).map Count.value).sum = (counts.map Count.value).sum := by
  induction counts with
  | nil => rfl
  | cons count rest ih =>
      rw [List.filter_cons]
      by_cases zero : count.number = 0
      · simp [zero, Count.value, ih]
      · simp [Nat.pos_of_ne_zero zero, ih]

theorem seconds_parts (s : Nat) :
    s / 31557600 * 31557600 + s % 31557600 / 2630016 * 2630016 +
      s % 31557600 % 2630016 / 86400 * 86400 + s % 31557600 % 2630016 % 86400 / 3600 * 3600 +
      s % 31557600 % 2630016 % 86400 % 3600 / 60 * 60 +
      s % 31557600 % 2630016 % 86400 % 60 = s := by
  omega

theorem subsecond_parts (n : Nat) : n / 1000000 * 1000000 + n / 1000 % 1000 * 1000 + n % 1000 = n := by
  omega

/-- What is summed up over the counts of a span.  The summand is any function here, since the
kernel would unfold products with numbers as large as these. -/
theorem sum_allCounts (d : Duration) (f : Count → Nat) : (d.allCounts.map f).sum =
    f ⟨d.seconds / 31557600, .year⟩ + f ⟨d.seconds % 31557600 / 2630016, .month⟩ +
      f ⟨d.seconds % 31557600 % 2630016 / 86400, .day⟩ +
      f ⟨d.seconds % 31557600 % 2630016 % 86400 / 3600, .hour⟩ +
      f ⟨d.seconds % 31557600 % 2630016 % 86400 % 3600 / 60, .minute⟩ +
      f ⟨d.seconds % 31557600 % 2630016 % 86400 % 60, .second⟩ +
      f ⟨d.subsecond / 1000000, .millisecond⟩ + f ⟨d.subsecond / 1000 % 1000, .microsecond⟩ +
      f ⟨d.subsecond % 1000, .nanosecond⟩ := by
  simp [allCounts, Nat.add_assoc]

theorem total_counts (d : Duration) : (d.counts.map Count.value).sum = d.nanoseconds := by
  have whole : d.seconds * nanosPerSecond + d.subsecond = d.nanoseconds := by
    rw [seconds, subsecond, Nat.div_add_mod']
  rw [counts, sum_filter_positive, sum_allCounts]
  simp only [Count.value, TimeUnit.span_eq]
  rw [← whole]
  conv_rhs => rw [← seconds_parts d.seconds, ← subsecond_parts d.subsecond]
  ring

theorem number_lt {d : Duration} {count : Count} (listed : count ∈ d.counts) :
    count.number < UInt64.size := by
  have seconds := d.seconds_lt
  have subsecond := d.subsecond_lt
  simp only [nanosPerSecond, UInt64.size] at *
  simp only [counts, allCounts, List.mem_filter, List.mem_cons, List.not_mem_nil, or_false] at listed
  rcases listed.1 with rfl | rfl | rfl | rfl | rfl | rfl | rfl | rfl | rfl <;> simp only <;> omega

theorem value_lt {d : Duration} {count : Count} (listed : count ∈ d.counts)
    (short : count.unit.nanoseconds?.isSome) : count.value < nanosPerSecond := by
  have subsecond := d.subsecond_lt
  simp only [counts, allCounts, List.mem_filter, List.mem_cons, List.not_mem_nil, or_false] at listed
  obtain ⟨listed, -⟩ := listed
  simp only [nanosPerSecond] at *
  rcases listed with rfl | rfl | rfl | rfl | rfl | rfl | rfl | rfl | rfl
  iterate 6 cases short
  all_goals
    simp only [Count.value, TimeUnit.span_eq]
    omega

theorem ofNanoseconds?_nanoseconds (d : Duration) : ofNanoseconds? d.nanoseconds = some d :=
  dif_pos d.bounded

theorem word?_of_lt {n : Nat} (small : n < UInt64.size) : word? n = some n := if_pos small

theorem plus?_eq_some {start next : Duration} {s n : Nat} (small : n < nanosPerSecond)
    (total : start.nanoseconds + s * nanosPerSecond + n = next.nanoseconds) :
    start.plus? s n = some next := by
  have bounded := next.bounded
  have subsecond := start.subsecond_lt
  have word : s < UInt64.size := by
    simp only [nanosPerSecond, UInt64.size] at *
    omega
  have words : n < UInt64.size ∧ start.subsecond + n < UInt64.size := by
    simp only [nanosPerSecond, UInt64.size] at *
    omega
  simp only [plus?, Option.bind_eq_bind, Option.bind_eq_some_iff]
  refine ⟨s, word?_of_lt word, n, word?_of_lt words.1, _, word?_of_lt words.2, ?_⟩
  rw [total, ofNanoseconds?_nanoseconds]

theorem value_of_short {count : Count} {n : Nat} (step : count.unit.nanoseconds? = some n) :
    count.value = count.number * n := by
  rw [Count.value, TimeUnit.span, step, Option.getD_some]

theorem value_of_long {count : Count} (step : count.unit.nanoseconds? = none) :
    count.value = count.number * count.unit.seconds * nanosPerSecond := by
  rw [Count.value, TimeUnit.span, step, Option.getD_none, Nat.mul_assoc]

theorem plusItem?_item {start next : Duration} {count : Count}
    (short : count.unit.nanoseconds?.isSome → count.value < nanosPerSecond)
    (total : start.nanoseconds + count.value = next.nanoseconds) :
    start.plusItem? count.item = some next := by
  have added : start.plusWhole? count.item = some next := by
    unfold plusWhole?
    cases step : count.unit.nanoseconds? with
    | some n =>
        rw [value_of_short step] at short total
        simp only [Count.item, step]
        apply plus?_eq_some
        · exact short (by simp [step])
        · rw [Nat.zero_mul, Nat.add_zero, total]
    | none =>
        rw [value_of_long step] at total
        simp only [Count.item, step]
        apply plus?_eq_some
        · decide
        · rw [Nat.add_zero, total]
  rw [plusItem?, added]
  rfl

theorem foldlM_plusItem? {counts : List Count} {start d : Duration}
    (short : ∀ count ∈ counts, count.unit.nanoseconds?.isSome → count.value < nanosPerSecond)
    (total : start.nanoseconds + (counts.map Count.value).sum = d.nanoseconds) :
    (counts.map Count.item).foldlM plusItem? start = some d := by
  induction counts generalizing start with
  | nil =>
      obtain ⟨n, bounded⟩ := d
      simp only [List.map_nil, List.sum_nil, Nat.add_zero] at total
      subst total
      rfl
  | cons count rest ih =>
      rw [List.map_cons, List.sum_cons, ← Nat.add_assoc] at total
      let next : Duration := ⟨start.nanoseconds + count.value, by have := d.bounded; omega⟩
      have added : start.plusItem? count.item = some next :=
        plusItem?_item (short count (by simp)) rfl
      rw [List.map_cons, List.foldlM_cons, added]
      exact ih (fun count listed => short count (by simp [listed])) total

theorem isDecimal_eq_isDigit (c : Char) : isDecimal c = c.isDigit := by
  simp [isDecimal, Char.isDigit, Char.le_def]

theorem isDecimal_of_mem_toString {n : Nat} {c : Char} (written : c ∈ (toString n).toList) :
    isDecimal c = true := by
  rw [isDecimal_eq_isDigit, Text.isDigit_of_mem_toString written]

theorem visible_of_isUnitChar {c : Char} (letter : isUnitChar c = true) :
    isDecimal c = false ∧ Text.isBlank c = false := by
  have letters : 97 ≤ c.toNat ∧ c.toNat ≤ 122 ∨ 65 ≤ c.toNat ∧ c.toNat ≤ 90 ∨ c.toNat = 181 := by
    simp only [isUnitChar, Bool.or_eq_true, Bool.and_eq_true, decide_eq_true_eq, beq_iff_eq] at letter
    rcases letter with (lower | upper) | rfl
    · exact .inl lower
    · exact .inr (.inl upper)
    · exact .inr (.inr rfl)
  constructor
  · rw [← Bool.not_eq_true]
    intro decimal
    simp only [isDecimal, Bool.and_eq_true, decide_eq_true_eq] at decimal
    have digits : 48 ≤ c.toNat ∧ c.toNat ≤ 57 := decimal
    omega
  · simp only [Text.isBlank, Bool.or_eq_false_iff, Bool.and_eq_false_iff, decide_eq_false_iff_not,
      beq_eq_false_iff_ne]
    omega

theorem leadingDigits_append {digits rest : List Char} (decimal : ∀ c ∈ digits, isDecimal c = true)
    (ends : ∀ c, rest.head? = some c → isDecimal c = false ∧ Text.isBlank c = false) :
    leadingDigits (digits ++ rest) = (digits, rest) := by
  have taken : ∀ c ∈ digits, (isDecimal c || Text.isBlank c) = true := by
    simp +contextual [decimal]
  have stops : ∀ c, rest.head? = some c → (isDecimal c || Text.isBlank c) = false := by
    intro c first
    simp [ends c first]
  unfold leadingDigits
  simp only [Text.takeWhile_run taken stops, Text.dropWhile_run taken stops, Prod.mk.injEq, and_true]
  exact List.filter_eq_self.2 decimal

theorem Count.toList_text (count : Count) : count.text.toList =
    (toString count.number).toList ++ (count.unit.name count.number).toList := by
  rw [Count.text, String.toList_append]

theorem head?_name {unit : TimeUnit} {count : Nat} {rest : List Char} {c : Char}
    (start : ((unit.name count).toList ++ rest).head? = some c) : isUnitChar c = true := by
  obtain ⟨first, others, named⟩ := List.exists_cons_of_ne_nil (unit.name_ne_empty count)
  apply unit.isUnitChar_of_mem_name count
  rw [named] at start ⊢
  cases start
  exact List.mem_cons_self

theorem leadingItem?_text {count : Count} {rest : List Char} (small : count.number < UInt64.size)
    (ends : ∀ c, rest.head? = some c → Text.isBlank c = true) :
    leadingItem? (count.text.toList ++ rest) = some (count.item, rest) := by
  have letters := count.unit.isUnitChar_of_mem_name count.number
  have digits : leadingDigits (count.text.toList ++ rest) =
      ((toString count.number).toList, (count.unit.name count.number).toList ++ rest) := by
    rw [count.toList_text, List.append_assoc]
    apply leadingDigits_append fun _ => isDecimal_of_mem_toString
    exact fun _ start => visible_of_isUnitChar (head?_name start)
  have number : Text.natural? 10 (toString count.number).toList = some count.number := by
    rw [Text.toList_toString, Text.natural?_toDigits]
  have pointless : leadingFraction? ((count.unit.name count.number).toList ++ rest) =
      some (none, (count.unit.name count.number).toList ++ rest) := by
    unfold leadingFraction?
    split
    case h_1 tail start => cases head?_name (congrArg List.head? start)
    case h_2 => rfl
  have stops : ∀ c, rest.head? = some c → isUnitChar c = false := by
    intro c first
    rw [← Bool.not_eq_true]
    intro letter
    have visible := (visible_of_isUnitChar letter).2
    simp [ends c first] at visible
  have closed : rest.head?.all (fun c => isDecimal c || Text.isBlank c) = true := by
    cases rest with
    | nil => rfl
    | cons c rest => simp [ends c rfl]
  simp only [leadingItem?, digits, number, word?_of_lt small, pointless,
    Text.takeWhile_run letters stops, Text.dropWhile_run letters stops, String.ofList_toList,
    TimeUnit.ofSpelling?_name, closed, Option.bind_eq_bind, Option.bind_some, if_true]
  rfl

theorem exists_text_eq_cons (count : Count) :
    ∃ c others, count.text.toList = c :: others ∧ isDecimal c = true := by
  obtain ⟨c, others, digits, decimal⟩ := Text.exists_toString_eq_cons count.number
  refine ⟨c, others ++ (count.unit.name count.number).toList, ?_, ?_⟩
  · rw [count.toList_text, digits, List.cons_append]
  · rw [isDecimal_eq_isDigit, decimal]

theorem length_text_pos (count : Count) : 1 < count.text.toList.length := by
  obtain ⟨c, others, digits, -⟩ := Text.exists_toString_eq_cons count.number
  have named := List.length_pos_of_ne_nil (count.unit.name_ne_empty count.number)
  rw [count.toList_text, List.length_append, digits, List.length_cons]
  omega

theorem items?_text {count : Count} {rest : List Char} (small : count.number < UInt64.size)
    (ends : ∀ c, rest.head? = some c → Text.isBlank c = true) (fuel : Nat) :
    items? (fuel + 1) (count.text.toList ++ rest) = (items? fuel rest).map (count.item :: ·) := by
  have item := leadingItem?_text small ends
  obtain ⟨c, others, digits, decimal⟩ := exists_text_eq_cons count
  have visible : Text.isBlank c = false := by
    apply Text.isBlank_of_isDigit
    rw [← isDecimal_eq_isDigit, decimal]
  rw [digits] at item ⊢
  simp only [List.cons_append] at item ⊢
  rw [items?, Text.trimStart_cons visible]
  simp only [decimal, if_true, item, Option.bind_eq_bind, Option.bind_some]
  cases items? fuel rest <;> rfl

def spaced (counts : List Count) : List Char := counts.flatMap fun count => ' ' :: count.text.toList

theorem spaced_cons (count : Count) (rest : List Count) :
    spaced (count :: rest) = ' ' :: (count.text.toList ++ spaced rest) := rfl

theorem head?_spaced {counts : List Count} {c : Char} (start : (spaced counts).head? = some c) :
    Text.isBlank c = true := by
  cases counts with
  | nil => cases start
  | cons count rest =>
      cases start
      rfl

theorem items?_spaced {counts : List Count} {fuel : Nat}
    (small : ∀ count ∈ counts, count.number < UInt64.size) (enough : (spaced counts).length < fuel) :
    items? fuel (spaced counts) = some (counts.map Count.item) := by
  induction counts generalizing fuel with
  | nil =>
      cases fuel with
      | zero => cases enough
      | succ fuel => rfl
  | cons count rest ih =>
      rw [spaced_cons] at enough ⊢
      cases fuel with
      | zero => cases enough
      | succ fuel =>
          have blank : items? (fuel + 1) (' ' :: (count.text.toList ++ spaced rest)) =
              items? (fuel + 1) (count.text.toList ++ spaced rest) := rfl
          have shorter : (spaced rest).length < fuel := by
            simp only [List.length_cons, List.length_append] at enough
            omega
          rw [blank, items?_text (small count (by simp)) fun _ => head?_spaced,
            ih (fun count listed => small count (by simp [listed])) shorter]
          rfl

theorem toList_intercalate_text (count : Count) (rest : List Count) :
    (" ".intercalate ((count :: rest).map Count.text)).toList = count.text.toList ++ spaced rest := by
  induction rest generalizing count with
  | nil => simp [spaced]
  | cons next rest ih =>
      rw [List.map_cons, List.map_cons, String.intercalate_cons_cons, ← List.map_cons,
        String.toList_append, String.toList_append, ih, spaced_cons]
      simp

theorem counts_ne_nil {d : Duration} (positive : d.nanoseconds ≠ 0) : d.counts ≠ [] := by
  intro none
  have total := d.total_counts
  rw [none] at total
  exact positive total.symm

theorem ofChars?_written {d : Duration} {count : Count} {rest : List Count}
    (written : d.counts = count :: rest) :
    ofChars? (count.text.toList ++ spaced rest) = some d := by
  have small : ∀ count ∈ d.counts, count.number < UInt64.size := fun _ => number_lt
  have short : ∀ count ∈ d.counts, count.unit.nanoseconds?.isSome → count.value < nanosPerSecond :=
    fun _ => value_lt
  have total := d.total_counts
  rw [written] at small short total
  have long := length_text_pos count
  have several : count.text.toList ++ spaced rest ≠ ['0'] := by
    intro zero
    have length := congrArg List.length zero
    simp only [List.length_append, List.length_singleton] at length
    omega
  have enough : (spaced rest).length < (count.text.toList ++ spaced rest).length := by
    rw [List.length_append]
    omega
  have items : items? ((count.text.toList ++ spaced rest).length + 1)
      (count.text.toList ++ spaced rest) = some ((count :: rest).map Count.item) := by
    rw [items?_text (small count (by simp)) fun _ => head?_spaced,
      items?_spaced (fun count listed => small count (by simp [listed])) enough]
    rfl
  have sum : ((count :: rest).map Count.item).foldlM plusItem? zero = some d := by
    apply foldlM_plusItem? short
    rw [total, zero, Nat.zero_add]
  rw [ofChars?, if_neg several, items]
  exact sum

theorem ofChars?_toText (d : Duration) : ofChars? d.toText.toList = some d := by
  by_cases empty : d.nanoseconds = 0
  · have nothing : d = zero := by
      obtain ⟨n, bounded⟩ := d
      subst empty
      rfl
    have read : ofChars? "0s".toList = some zero := by decide
    rw [toText, if_pos empty, read, nothing]
  · obtain ⟨count, rest, written⟩ := List.exists_cons_of_ne_nil (counts_ne_nil empty)
    rw [toText, if_neg empty, parts_eq, written, toList_intercalate_text]
    exact ofChars?_written written

end AddressSpace.Duration
