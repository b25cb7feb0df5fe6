import AddressSpace.Text.Digits

namespace AddressSpace

structure Guid where
  bits : BitVec 128
  deriving DecidableEq, Inhabited

namespace Guid

def zero : Guid := ⟨0⟩

def digits (guid : Guid) : List Char := Text.hex 32 guid.bits.toNat

def hyphenated (cs : List Char) : List Char :=
  cs.take 8 ++ '-' :: (cs.drop 8).take 4 ++ '-' :: (cs.drop 12).take 4 ++
    '-' :: (cs.drop 16).take 4 ++ '-' :: cs.drop 20

def toChars (guid : Guid) : List Char := hyphenated guid.digits

instance : ToString Guid := ⟨fun guid => String.ofList guid.toChars⟩

def ofDigits? (cs : List Char) : Option Guid :=
  if cs.length = 32 then (Text.natural? 16 cs).map fun n => ⟨BitVec.ofNat 128 n⟩ else none

def ofHyphenated? (cs : List Char) : Option Guid :=
  let bare := cs.filter (· ≠ '-')
  if cs = hyphenated bare then ofDigits? bare else none

def urnMark : List Char := "urn:uuid:".toList

def unbraced? : List Char → Option (List Char)
  | '{' :: rest => if rest.getLast? = some '}' then some rest.dropLast else none
  | _ => none

def ofChars? (cs : List Char) : Option Guid :=
  (ofDigits? cs).or <| (ofHyphenated? cs).or <|
    match unbraced? cs with
    | some inner => ofHyphenated? inner
    | none =>
      if (cs.take urnMark.length).map Char.toLower = urnMark then
        ofHyphenated? (cs.drop urnMark.length)
      else none

end Guid

end AddressSpace
