import AddressSpace.Transport

namespace AddressSpace.Simulation

inductive Call
  | endpoints (url : String)
  | connect (endpoint : Endpoint) (options : SessionOptions)
  | disconnect
  | browse (request : BrowseRequest)
  | browseNext (point : ContinuationPoint)
  | read (requests : List ReadRequest)
  | translate (request : PathRequest)
  | subscribe (node : WireId)
  | unsubscribe (item : UInt32)

namespace Call

def elementText (element : PathElement) : String :=
  s!"[{element.referenceType} inv={element.isInverse} sub={element.includeSubtypes} " ++
    s!"{element.targetName}]"

def line : Call → String
  | endpoints url => s!"get_endpoints {url}"
  | connect endpoint options =>
    let identity := match options.identity with
      | .anonymous => "anonymous"
      | .user name password => s!"user:{name}:{password}"
    s!"connect {endpoint.url} {endpoint.mode.value} {endpoint.policyUri} {identity} " ++
      s!"{options.timeout.nanoseconds}ns"
  | disconnect => "disconnect"
  | browse request =>
    s!"browse {request.node} dir={request.direction.value} rt={request.referenceType} " ++
      s!"sub={request.includeSubtypes} ncm={request.classMask.bits} rm={request.resultMask.bits}"
  | browseNext point => s!"browse_next {point.token}"
  | read requests =>
    let texts := requests.map fun request => s!"{request.node}/{request.attr.number}"
    " ".intercalate ("read" :: texts)
  | translate request =>
    " ".intercalate ("translate" :: toString request.start :: request.elements.map elementText)
  | subscribe node => s!"subscribe {node}"
  | unsubscribe item => s!"unsubscribe {item}"

end Call

structure Answer where
  status : Status := .good
  endpoints : List Endpoint := []
  references : List Reference := []
  next : Option ContinuationPoint := none
  values : List DataValue := []
  results : List PathTargets := []
  item : UInt32 := 0

inductive Reply
  | fail (cause : Error)
  | answer (answer : Answer)

structure Script where
  mark : String
  skip : Nat := 0
  times : Option Nat := none
  drop : Bool := false
  reply : Option Reply := none

namespace Script

def choose (line : String) : List Script → Option Script × List Script
  | [] => (none, [])
  | script :: rest =>
    let pass (script : Script) :=
      let (chosen, rest) := choose line rest
      (chosen, script :: rest)
    if !line.startsWith script.mark then pass script
    else
      match script.skip, script.times with
      | skip + 1, _ => pass { script with skip }
      | 0, none => (some script, script :: rest)
      | 0, some 0 => pass script
      | 0, some (times + 1) => (some script, { script with times := some times } :: rest)

end Script

end AddressSpace.Simulation
