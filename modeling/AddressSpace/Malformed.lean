namespace AddressSpace

inductive PairFault
  | missingSeparator
  | emptyRest
  deriving DecidableEq, Repr

def PairFault.message (rest : String) : PairFault → String
  | missingSeparator => "missing ';' separator"
  | emptyRest => s!"empty {rest}"

inductive Malformed
  | nodeId (text : String) (fault : PairFault)
  | qualifiedName (text : String) (fault : PairFault)
  | nodeClass (value : UInt32)
  deriving DecidableEq, Repr

def Malformed.message : Malformed → String
  | nodeId text fault => "Invalid node id '" ++ text ++ "': " ++ fault.message "identifier"
  | qualifiedName text fault => "Invalid qualified name '" ++ text ++ "': " ++ fault.message "name"
  | nodeClass value => "Unknown node class value " ++ toString value.toNat

end AddressSpace
