import AddressSpace.NodeId

namespace AddressSpace.Standard

def namespaceUri : String := "http://opcfoundation.org/UA/"

def machineryUri : String := "http://opcfoundation.org/UA/Machinery/"

def machineIdentificationType : String := "i=1012"

def companionMachineType : String := "i=1014"

def hierarchicalReferences : UInt32 := 33
def organizes : UInt32 := 35
def hasModellingRule : UInt32 := 37
def hasTypeDefinition : UInt32 := 40
def hasSubtype : UInt32 := 45
def hasProperty : UInt32 := 46
def hasComponent : UInt32 := 47
def baseObjectType : UInt32 := 58
def baseDataVariableType : UInt32 := 63
def namespaceArray : UInt32 := 2255

/-- A node of the standard namespace.  The empty URI stands for that namespace. -/
def node (n : UInt32) : NodeId := ⟨"", "i=" ++ toString n.toNat⟩

end AddressSpace.Standard
