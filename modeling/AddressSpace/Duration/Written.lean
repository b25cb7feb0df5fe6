import AddressSpace.Duration
import AddressSpace.Text.Blank
import AddressSpace.Text.Digits

namespace AddressSpace.Duration

inductive TimeUnit
  | nanosecond | microsecond | millisecond | second | minute | hour | day | week | month | year
  deriving DecidableEq, Repr

namespace TimeUnit

def ofSpelling? (s : String) : Option TimeUnit :=
  if s ∈ ["nanos", "nsec", "ns"] then some nanosecond
  else if s ∈ ["usec", "us", "\u00b5s"] then some microsecond
  else if s ∈ ["millis", "msec", "ms"] then some millisecond
  else if s ∈ ["seconds", "second", "secs", "sec", "s"] then some second
  else if s ∈ ["minutes", "minute", "min", "mins", "m"] then some minute
  else if s ∈ ["hours", "hour", "hr", "hrs", "h"] then some hour
  else if s ∈ ["days", "day", "d"] then some day
  else if s ∈ ["weeks", "week", "wk", "wks", "w"] then some week
  else if s ∈ ["months", "month", "M"] then some month
  else if s ∈ ["years", "year", "yr", "yrs", "y"] then some year
  else none

def nanoseconds? : TimeUnit → Option Nat
  | nanosecond => some 1
  | microsecond => some 1000
  | millisecond => some 1000000
  | _ => none

def seconds : TimeUnit → Nat
  | nanosecond | microsecond | millisecond => 0
  | second => 1
  | minute => 60
  | hour => 3600
  | day => 86400
  | week => 604800
  | month => 2630016
  | year => 31557600

/-- The finest step that a fraction of a unit may use: nanoseconds up to minutes, seconds above. -/
def fractionIsFine : TimeUnit → Bool
  | hour | day | week | month | year => false
  | _ => true

end TimeUnit

def word? (n : Nat) : Option Nat := if n < UInt64.size then some n else none

def plus? (d : Duration) (seconds nanoseconds : Nat) : Option Duration := do
  let seconds ← word? seconds
  let nanoseconds ← word? nanoseconds
  let _ ← word? (d.subsecond + nanoseconds)
  ofNanoseconds? (d.nanoseconds + seconds * nanosPerSecond + nanoseconds)

structure Fraction where
  numerator : Nat
  denominator : Nat
  deriving DecidableEq, Repr

def Fraction.times? (f : Fraction) (n : Nat) : Option Nat := do
  let product ← word? (f.numerator * n)
  if product % f.denominator = 0 then some (product / f.denominator) else none

structure Item where
  whole : Nat
  fraction : Option Fraction
  unit : TimeUnit

def plusWhole? (d : Duration) (item : Item) : Option Duration :=
  match item.unit.nanoseconds? with
  | some n => d.plus? 0 (item.whole * n)
  | none => d.plus? (item.whole * item.unit.seconds) 0

def plusFraction? (d : Duration) (unit : TimeUnit) (f : Fraction) : Option Duration :=
  match unit with
  | .nanosecond => none
  | _ =>
    if unit.fractionIsFine then do
      let step := unit.nanoseconds?.getD (unit.seconds * nanosPerSecond)
      d.plus? 0 (← f.times? step)
    else do
      d.plus? (← f.times? unit.seconds) 0

def plusItem? (d : Duration) (item : Item) : Option Duration := do
  let d ← d.plusWhole? item
  match item.fraction with
  | none => some d
  | some f => d.plusFraction? item.unit f

def isUnitChar (c : Char) : Bool :=
  ('a' ≤ c && c ≤ 'z') || ('A' ≤ c && c ≤ 'Z') || c == '\u00b5'

def isDecimal (c : Char) : Bool := '0' ≤ c && c ≤ '9'

def leadingDigits (cs : List Char) : List Char × List Char :=
  let p := fun c => isDecimal c || Text.isBlank c
  ((cs.takeWhile p).filter isDecimal, cs.dropWhile p)

def Fraction.ofDigits? (digits : List Char) : Option Fraction := do
  let numerator ← word? (← Text.natural? 10 digits)
  let denominator ← word? (Nat.pow 10 digits.length)
  some ⟨numerator, denominator⟩

def leadingFraction? : List Char → Option (Option Fraction × List Char)
  | '.' :: rest => do
    let (digits, rest) := leadingDigits rest
    some (some (← Fraction.ofDigits? digits), rest)
  | cs => some (none, cs)

/-- The item at the front of a text that starts with a digit, and what follows.  After the unit
there is the end of the text, a blank or the next digit. -/
def leadingItem? (cs : List Char) : Option (Item × List Char) := do
  let (digits, rest) := leadingDigits cs
  let whole ← word? (← Text.natural? 10 digits)
  let (fraction, rest) ← leadingFraction? rest
  let unit ← TimeUnit.ofSpelling? (String.ofList (rest.takeWhile isUnitChar))
  let rest := rest.dropWhile isUnitChar
  if rest.head?.all fun c => isDecimal c || Text.isBlank c then some (⟨whole, fraction, unit⟩, rest)
  else none

def items? : (fuel : Nat) → List Char → Option (List Item)
  | 0, _ => none
  | fuel + 1, cs =>
    match Text.trimStart cs with
    | [] => some []
    | c :: rest =>
      if isDecimal c then do
        let (item, rest) ← leadingItem? (c :: rest)
        some (item :: (← items? fuel rest))
      else none

def ofChars? (cs : List Char) : Option Duration :=
  if cs = ['0'] then some zero
  else do
    let items ← items? (cs.length + 1) cs
    if items.isEmpty then none else items.foldlM plusItem? zero

def part (count : Nat) (unit : String) (hasPlural : Bool) : List String :=
  if count = 0 then []
  else [toString count ++ unit ++ (if hasPlural ∧ 1 < count then "s" else "")]

def parts (d : Duration) : List String :=
  let inYear := d.seconds % 31557600
  let inMonth := inYear % 2630016
  let inDay := inMonth % 86400
  part (d.seconds / 31557600) "year" true ++
    part (inYear / 2630016) "month" true ++
    part (inMonth / 86400) "day" true ++
    part (inDay / 3600) "h" false ++
    part (inDay % 3600 / 60) "m" false ++
    part (inDay % 60) "s" false ++
    part (d.subsecond / 1000000) "ms" false ++
    part (d.subsecond / 1000 % 1000) "us" false ++
    part (d.subsecond % 1000) "ns" false

def toText (d : Duration) : String :=
  if d.nanoseconds = 0 then "0s" else " ".intercalate d.parts

end AddressSpace.Duration
