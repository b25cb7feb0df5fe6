import AddressSpace.Browse

namespace AddressSpace.Browser

variable {σ : Type}

def pathRequest (browser : Browser σ) (start : NodeId) (name : QualifiedName) :
    Except Error PathRequest :=
  if start.isNull then .error (SchemaError.nullArgument "start")
  else if name.isNull then .error (SchemaError.nullArgument "browse_name")
  else do
    let start ← browser.namespaces.encode start
    let targetName ← browser.namespaces.encodeName name
    let element :=
      { referenceType := .standard Standard.hierarchicalReferences
        isInverse := false, includeSubtypes := true, targetName }
    .ok { start, elements := [element] }

def firstTarget (start : NodeId) (name : QualifiedName) (answer : PathAnswer) :
    Except Error WireId :=
  let refused (status : Status) := Error.status "TranslateBrowsePath" (toString start) status
  let noTarget := Error.notFound (.noTarget (toString start) (toString name))
  if answer.status.isBad then .error (refused answer.status)
  else
    match answer.results with
    | [result] =>
      if result.status = Status.badNoMatch then .error noTarget
      else if result.status.isBad then .error (refused result.status)
      else
        match result.targets with
        | [] => .error noTarget
        | first :: _ => .ok first
    | results =>
      .error (SchemaError.unexpectedResultCount "TranslateBrowsePath" 1 results.length)

/-- The node with a given name below another; of several the first that the server names. -/
def resolve (browser : Browser σ) (start : NodeId) (name : QualifiedName) : Exchange σ NodeId := do
  let request ← Exchange.ofExcept (browser.pathRequest start name)
  let answer ← browser.transport.translate request
  let target ← Exchange.ofExcept (firstTarget start name answer)
  Exchange.ofExcept (browser.namespaces.decode target)

def resolveAll (browser : Browser σ) (start : NodeId) (names : List QualifiedName) :
    Exchange σ NodeId :=
  names.foldlM browser.resolve start

end AddressSpace.Browser
