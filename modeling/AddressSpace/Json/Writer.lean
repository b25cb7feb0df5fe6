import AddressSpace.Json.Basic
import AddressSpace.Text.Quoted

namespace AddressSpace

/-- Where the layout of a number changes: numbers below `10 ^ maxPoint` whose first digit comes at
most `maxLeadingZeros` places behind the point are written without an exponent. -/
structure Double.Layout where
  maxPoint : Int
  maxLeadingZeros : Int

def Double.jsonLayout : Double.Layout := ⟨16, 4⟩

def Double.zeros (n : Int) : String := String.ofList (List.replicate n.toNat '0')

def Double.Layout.write (layout : Double.Layout) (d : Decimal) : String :=
  let digits := toString d.digits
  let point := digits.length + d.exponent
  if 0 ≤ d.exponent ∧ point ≤ layout.maxPoint then digits ++ Double.zeros d.exponent ++ ".0"
  else if 0 < point ∧ point ≤ layout.maxPoint then
    (digits.take point.toNat).toString ++ "." ++ (digits.drop point.toNat).toString
  else if -layout.maxLeadingZeros ≤ point ∧ point ≤ 0 then "0." ++ Double.zeros (-point) ++ digits
  else
    let fraction := (digits.drop 1).toString
    (digits.take 1).toString ++ (if fraction.isEmpty then "" else "." ++ fraction) ++
      "e" ++ toString (point - 1)

def Double.toText (layout : Double.Layout) (x : Double) : String :=
  (if x.isNegative then "-" else "") ++ layout.write x.shortest

namespace Json

mutual

def toText : Json → String
  | null | unreadable => "null"
  | bool true => "true"
  | bool false => "false"
  | int n => toString n
  | real x => if x.isFinite then x.toText Double.jsonLayout else "null"
  | string s => Text.Quoted.json s
  | array elements => "[" ++ ",".intercalate (elementTexts elements) ++ "]"
  | object members => "\x7b" ++ ",".intercalate (memberTexts members) ++ "\x7d"

def elementTexts : List Json → List String
  | [] => []
  | value :: rest => value.toText :: elementTexts rest

def memberTexts : List (String × Json) → List String
  | [] => []
  | (name, value) :: rest => (Text.Quoted.json name ++ ":" ++ value.toText) :: memberTexts rest

end

end Json

end AddressSpace
