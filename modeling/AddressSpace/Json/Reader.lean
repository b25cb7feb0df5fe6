import AddressSpace.Json.Basic
import AddressSpace.Text.Digits

namespace AddressSpace.Json

def isSpace (c : Char) : Bool := c == ' ' || c == '\t' || c == '\n' || c == '\r'

def skipSpace (cs : List Char) : List Char := cs.dropWhile isSpace

def escaped? : Char → Option Char
  | '"' => some '"'
  | '\\' => some '\\'
  | '/' => some '/'
  | 'b' => some '\x08'
  | 'f' => some '\x0c'
  | 'n' => some '\n'
  | 'r' => some '\r'
  | 't' => some '\t'
  | _ => none

def codePoints? : List Char → Option (List Nat × List Char)
  | [] => none
  | '"' :: rest => some ([], rest)
  | '\\' :: 'u' :: a :: b :: c :: d :: rest => do
    let unit ← Text.natural? 16 [a, b, c, d]
    let (points, rest) ← codePoints? rest
    some (unit :: points, rest)
  | '\\' :: c :: rest => do
    let c ← escaped? c
    let (points, rest) ← codePoints? rest
    some (c.toNat :: points, rest)
  | c :: rest => do
    if c.toNat < 0x20 ∨ c = '\\' then none
    let (points, rest) ← codePoints? rest
    some (c.toNat :: points, rest)

def joinSurrogates? : List Nat → Option (List Char)
  | [] => some []
  | high :: rest =>
    if 0xD800 ≤ high ∧ high < 0xDC00 then
      match rest with
      | low :: rest =>
        if 0xDC00 ≤ low ∧ low < 0xE000 then
          (joinSurrogates? rest).map
            (Char.ofNat (0x10000 + (high - 0xD800) * 0x400 + (low - 0xDC00)) :: ·)
        else none
      | [] => none
    else if 0xDC00 ≤ high ∧ high < 0xE000 then none
    else (joinSurrogates? rest).map (Char.ofNat high :: ·)

def stringTail? (cs : List Char) : Option (Option String × List Char) := do
  let (points, rest) ← codePoints? cs
  some ((joinSurrogates? points).map String.ofList, rest)

def leadingDigits (cs : List Char) : List Char × List Char :=
  cs.span fun c => '0' ≤ c && c ≤ '9'

def digitsValue (cs : List Char) : Nat := (Text.natural? 10 cs).getD 0

def integerPart? (cs : List Char) : Option (List Char × List Char) :=
  match leadingDigits cs with
  | ([], _) => none
  | ('0' :: _ :: _, _) => none
  | (digits, rest) => some (digits, rest)

def fractionPart? : List Char → Option (List Char × List Char)
  | '.' :: cs =>
    match leadingDigits cs with
    | ([], _) => none
    | found => some found
  | cs => some ([], cs)

def exponentPart? : List Char → Option (Option Int × List Char)
  | e :: cs =>
    if e = 'e' ∨ e = 'E' then
      let (negative, cs) := match cs with
        | '-' :: cs => (true, cs)
        | '+' :: cs => (false, cs)
        | _ => (false, cs)
      match leadingDigits cs with
      | ([], _) => none
      | (digits, rest) =>
        let magnitude := (digitsValue digits : Int)
        some (some (if negative then -magnitude else magnitude), rest)
    else some (none, e :: cs)
  | [] => some (none, [])

/-- A word extended by decimal digits as long as it has room for them, and the digits that are left
over. -/
def absorb (word : UInt64) : List Char → UInt64 × List Char
  | [] => (word, [])
  | c :: cs =>
    let extended := 10 * word.toNat + (c.toNat - '0'.toNat)
    if extended < UInt64.size then absorb (UInt64.ofNat extended) cs else (word, c :: cs)

/-- The value of a number in parts.  Integers of 64 bits stay integers.  All others are doubles, if
they are in range, of a significand that takes what digits it can: digits left over count as zeros
in front of the point, and as nothing behind it. -/
def numberValue (negative : Bool) (whole fraction : List Char) (exponent : Option Int) : Json :=
  let (magnitude, zeros) := absorb 0 whole
  let integral := fraction.isEmpty && exponent.isNone && zeros.isEmpty
  if integral && !negative then int magnitude.toNat
  else if integral && 0 < magnitude && 2 * magnitude.toNat ≤ UInt64.size then int (-magnitude.toNat)
  else
    let (significand, ignored) := absorb magnitude fraction
    let scale := exponent.getD 0 + zeros.length - (fraction.length - ignored.length : Nat)
    let value := Double.ofScientific negative significand scale
    if value.isFinite then real value else unreadable

def number? (cs : List Char) : Option (Json × List Char) := do
  let (negative, cs) := match cs with
    | '-' :: cs => (true, cs)
    | _ => (false, cs)
  let (whole, cs) ← integerPart? cs
  let (fraction, cs) ← fractionPart? cs
  let (exponent, cs) ← exponentPart? cs
  some (numberValue negative whole fraction exponent, cs)

def afterKeyword? (keyword : String) (cs : List Char) : Option (List Char) :=
  if keyword.toList.isPrefixOf cs then some (cs.drop keyword.length) else none

def ofMembers (members : List (Option String × Json)) : Json :=
  match members.mapM fun (name, value) => name.map (·, value) with
  | some members => object members
  | none => unreadable

def withinRoom (room : Nat) (container : Json) : Json := if room = 0 then unreadable else container

mutual

def value? : (fuel room : Nat) → List Char → Option (Json × List Char)
  | 0, _, _ => none
  | fuel + 1, room, cs =>
    match skipSpace cs with
    | '"' :: rest => do
      let (text, rest) ← stringTail? rest
      some (text.elim unreadable string, rest)
    | '[' :: rest =>
      match skipSpace rest with
      | ']' :: rest => some (withinRoom room (array []), rest)
      | rest => do
        let (elements, rest) ← elements? fuel (room - 1) rest
        some (withinRoom room (array elements), rest)
    | '\x7b' :: rest =>
      match skipSpace rest with
      | '\x7d' :: rest => some (withinRoom room (object []), rest)
      | rest => do
        let (members, rest) ← members? fuel (room - 1) rest
        some (withinRoom room (ofMembers members), rest)
    | 'n' :: rest => (afterKeyword? "ull" rest).map (null, ·)
    | 't' :: rest => (afterKeyword? "rue" rest).map (bool true, ·)
    | 'f' :: rest => (afterKeyword? "alse" rest).map (bool false, ·)
    | cs => number? cs

def elements? : (fuel room : Nat) → List Char → Option (List Json × List Char)
  | 0, _, _ => none
  | fuel + 1, room, cs => do
    let (element, rest) ← value? fuel room cs
    match skipSpace rest with
    | ']' :: rest => some ([element], rest)
    | ',' :: rest => do
      let (elements, rest) ← elements? fuel room rest
      some (element :: elements, rest)
    | _ => none

def members? : (fuel room : Nat) → List Char → Option (List (Option String × Json) × List Char)
  | 0, _, _ => none
  | fuel + 1, room, cs =>
    match skipSpace cs with
    | '"' :: rest => do
      let (name, rest) ← stringTail? rest
      match skipSpace rest with
      | ':' :: rest => do
        let (value, rest) ← value? fuel room rest
        match skipSpace rest with
        | '\x7d' :: rest => some ([(name, value)], rest)
        | ',' :: rest => do
          let (members, rest) ← members? fuel room rest
          some ((name, value) :: members, rest)
        | _ => none
      | _ => none
    | _ => none

end

def ofText? (text : String) : Option Json := do
  let cs := text.toList
  -- two steps at most for each character
  let (value, rest) ← value? (2 * cs.length + 1) maxNesting cs
  if (skipSpace rest).isEmpty then some value else none

end AddressSpace.Json
