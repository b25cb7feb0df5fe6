import AddressSpace.Json.Fields
import AddressSpace.Text.Digits

namespace AddressSpace

structure Status where
  code : UInt32
  deriving DecidableEq, Repr

namespace Status

def good : Status := ⟨0⟩
def badUnexpectedError : Status := ⟨0x80010000⟩
def badInternalError : Status := ⟨0x80020000⟩
def badResourceUnavailable : Status := ⟨0x80040000⟩
def badCommunicationError : Status := ⟨0x80050000⟩
def badTimeout : Status := ⟨0x800A0000⟩
def badServiceUnsupported : Status := ⟨0x800B0000⟩
def badServerNotConnected : Status := ⟨0x800D0000⟩
def badServerHalted : Status := ⟨0x800E0000⟩
def badNothingToDo : Status := ⟨0x800F0000⟩
def badTooManyOperations : Status := ⟨0x80100000⟩
def badUserAccessDenied : Status := ⟨0x801F0000⟩
def badSessionIdInvalid : Status := ⟨0x80250000⟩
def badSessionClosed : Status := ⟨0x80260000⟩
def badNodeIdInvalid : Status := ⟨0x80330000⟩
def badNodeIdUnknown : Status := ⟨0x80340000⟩
def badAttributeIdInvalid : Status := ⟨0x80350000⟩
def badNotReadable : Status := ⟨0x803A0000⟩
def badContinuationPointInvalid : Status := ⟨0x804A0000⟩
def badNoContinuationPoints : Status := ⟨0x804B0000⟩
def badReferenceTypeIdInvalid : Status := ⟨0x804C0000⟩
def badBrowseDirectionInvalid : Status := ⟨0x804D0000⟩
def badTooManyMatches : Status := ⟨0x806D0000⟩
def badNoMatch : Status := ⟨0x806F0000⟩

instance : Inhabited Status := ⟨good⟩

def isGood (s : Status) : Bool := s.code &&& 0xC0000000 == 0

def isBad (s : Status) : Bool := s.code &&& 0x80000000 != 0

def wellKnown : List (Status × String) :=
  [(good, "Good"),
    (badUnexpectedError, "BadUnexpectedError"),
    (badInternalError, "BadInternalError"),
    (badResourceUnavailable, "BadResourceUnavailable"),
    (badCommunicationError, "BadCommunicationError"),
    (badTimeout, "BadTimeout"),
    (badServiceUnsupported, "BadServiceUnsupported"),
    (badServerNotConnected, "BadServerNotConnected"),
    (badServerHalted, "BadServerHalted"),
    (badNothingToDo, "BadNothingToDo"),
    (badTooManyOperations, "BadTooManyOperations"),
    (badUserAccessDenied, "BadUserAccessDenied"),
    (badSessionIdInvalid, "BadSessionIdInvalid"),
    (badSessionClosed, "BadSessionClosed"),
    (badNodeIdInvalid, "BadNodeIdInvalid"),
    (badNodeIdUnknown, "BadNodeIdUnknown"),
    (badAttributeIdInvalid, "BadAttributeIdInvalid"),
    (badNotReadable, "BadNotReadable"),
    (badContinuationPointInvalid, "BadContinuationPointInvalid"),
    (badNoContinuationPoints, "BadNoContinuationPoints"),
    (badReferenceTypeIdInvalid, "BadReferenceTypeIdInvalid"),
    (badBrowseDirectionInvalid, "BadBrowseDirectionInvalid"),
    (badTooManyMatches, "BadTooManyMatches"),
    (badNoMatch, "BadNoMatch")]

def name (s : Status) : String :=
  (wellKnown.lookup s).getD <|
    if s.isBad then "Bad" else if s.isGood then "Good" else "Uncertain"

instance : ToString Status where
  toString s := s.name ++ " (0x" ++ String.ofList (Text.upperHex 8 s.code.toNat) ++ ")"

def toJson (s : Status) : Json := .nat s.code.toNat

def ofJson? (value : Json) : Option Status := value.word32?.map Status.mk

end Status

end AddressSpace
