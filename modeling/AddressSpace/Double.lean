namespace AddressSpace

structure Double where
  bits : UInt64
  deriving DecidableEq, Inhabited

structure Decimal where
  digits : Nat
  exponent : Int
  deriving DecidableEq, Repr

namespace Double

def powerOfTen (n : Nat) : Float := Float.ofScientific 1 false (min n 309)

/-- The number `significand * 10 ^ exponent` in double arithmetic: the significand is rounded, and so
is its product with the power of ten or its quotient by it.  A power out of range divides in two
steps. -/
def ofScientific (negative : Bool) (significand : UInt64) (exponent : Int) : Double :=
  let rounded := significand.toFloat
  let magnitude :=
    if significand = 0 then 0
    else if 0 ≤ exponent then rounded * powerOfTen exponent.toNat
    else if -308 ≤ exponent then rounded / powerOfTen (-exponent).toNat
    else rounded / powerOfTen 308 / powerOfTen (-308 - exponent).toNat
  ⟨(if negative then -magnitude else magnitude).toBits⟩

def isNegative (x : Double) : Bool := x.bits >>> 63 == 1

def exponentField (x : Double) : Nat := ((x.bits >>> 52) &&& 0x7FF).toNat

def fractionField (x : Double) : Nat := (x.bits &&& 0xFFFFFFFFFFFFF).toNat

def isFinite (x : Double) : Bool := x.exponentField != 0x7FF

def significand (x : Double) : Nat :=
  if x.exponentField = 0 then x.fractionField else Nat.pow 2 52 + x.fractionField

def scale (x : Double) : Int := max x.exponentField 1 - 1075

structure Neighbourhood where
  low : Nat
  value : Nat
  high : Nat
  unit : Nat
  closed : Bool

/-- The reals that round to the magnitude of a number: halfway to the next number on either side,
which below a power of two is twice as near. -/
def neighbourhood (x : Double) : Neighbourhood :=
  let up := Nat.pow 2 x.scale.toNat
  let below := if x.fractionField = 0 ∧ 1 < x.exponentField then 1 else 2
  { low := (4 * x.significand - below) * up
    value := 4 * x.significand * up
    high := (4 * x.significand + 2) * up
    unit := 4 * Nat.pow 2 (-x.scale).toNat
    closed := x.significand % 2 = 0 }

def Neighbourhood.contains (near : Neighbourhood) (d : Decimal) : Bool :=
  let up := Nat.pow 10 d.exponent.toNat
  let down := Nat.pow 10 (-d.exponent).toNat
  let point := d.digits * up * near.unit
  if near.closed then near.low * down ≤ point && point ≤ near.high * down
  else near.low * down < point && point < near.high * down

def Neighbourhood.leadingPower (near : Neighbourhood) : Int :=
  -- no double but zero is below `10 ^ -400`
  ((Nat.toDigits 10 (near.value * Nat.pow 10 400 / near.unit)).length : Int) - 401

/-- The better of the two points around the value on the grid of multiples of `10 ^ exponent`, if
one of them lies in the neighbourhood: the nearer one, and of two equally near the even one. -/
def Neighbourhood.onGrid (near : Neighbourhood) (exponent : Int) : Option Decimal :=
  let numerator := near.value * Nat.pow 10 (-exponent).toNat
  let denominator := near.unit * Nat.pow 10 exponent.toNat
  let floor := numerator / denominator
  let rest := 2 * (numerator % denominator)
  let upper : Decimal := ⟨floor + 1, exponent⟩
  let lower : Decimal := ⟨floor, exponent⟩
  match near.contains lower, near.contains upper with
  | true, true =>
    some (if rest < denominator ∨ (rest = denominator ∧ floor % 2 = 0) then lower else upper)
  | true, false => some lower
  | false, true => some upper
  | false, false => none

def shortest (x : Double) : Decimal :=
  if x.significand = 0 then ⟨0, 0⟩
  else
    let near := x.neighbourhood
    let power := near.leadingPower
    ((List.range 17).findSome? fun n : Nat => near.onGrid (power - n)).getD ⟨0, 0⟩

end Double

end AddressSpace
