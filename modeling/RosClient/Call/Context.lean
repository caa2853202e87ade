import RosClient.State

namespace RosClient

namespace Objects

/-- The context behind a pointer, if it is initialised. -/
def contextAt (objects : Objects) (pointer : Option Place) : Option Context :=
  pointer.bind objects.contexts

/-- Whether a pointer leads to a context that is initialised and not shut down. -/
def isContextValid (objects : Objects) (pointer : Option Place) : Bool :=
  (objects.contextAt pointer).any Context.isValid

/-- The instance id of a valid context, zero otherwise. -/
def contextId (objects : Objects) (pointer : Option Place) : Nat :=
  ((objects.contextAt pointer).map Context.reportedId).getD 0

end Objects

namespace Call

def initOptions (pointer : Option Place) : Call Unit := do
  let place ← required "options" pointer .invalidArgument
  if ((← get).objects.options place).isSome then
    diagnose .optionsInitialized
    throw .alreadyInit
  store fun objects => objects.setOptions place (some .new)

def setDomain (pointer : Option Place) (domain : DomainId) : Call Unit := do
  let place ← required "options" pointer .invalidArgument
  let some _ := (← get).objects.options place
    | diagnose .optionsUninitialized
      throw .invalidArgument
  store fun objects => objects.setOptions place (some ⟨domain⟩)

def requestedDomain (pointer : Option Place) (output : Bool) : Call DomainId := do
  let place ← required "options" pointer .invalidArgument
  requireOutput "domain_id" output
  let some options := (← get).objects.options place
    | diagnose .optionsUninitialized
      throw .invalidArgument
  return options.domain

def finiOptions (pointer : Option Place) : Call Unit := do
  let place ← required "options" pointer .invalidArgument
  if ((← get).objects.options place).isNone then
    diagnose .optionsUninitialized
    throw .invalidArgument
  store fun objects => objects.setOptions place none

/-- The texts of the items of a vector, the first of which has the given index. -/
def decodeItems (index : Nat) : List (Option (List UInt8)) → Call (List String)
  | [] => return []
  | none :: _ => do
    diagnose (.nullItem index)
    throw .invalidArgument
  | some octets :: rest => do
    let texts ← decodeItems (index + 1) rest
    return Text.Utf8.decodeLossy octets :: texts

def parseArguments (tokens : List String) : Call Arguments := do
  match Arguments.parse tokens with
  | .ok arguments => return arguments
  | .error cause =>
    diagnose (.badArguments cause)
    throw .invalidRosArgs

def resolveDomain (requested : DomainId) : Call DomainId := do
  match DomainId.resolve (← get).environment requested with
  | .ok domain => return domain
  | .error text =>
    diagnose (.badDomain text)
    throw .error

/-- The next instance id, which is taken by this. -/
def takeId : Call Nat := do
  let id := (← get).objects.nextId
  store fun objects => { objects with nextId := id + 1 }
  return id

/-- Initialises a context from the first `count` items of a vector. -/
def initContext (count : Int) (vector : Option (List (Option (List UInt8))))
    (options context : Option Place) : Call Unit := do
  if count < 0 then
    diagnose .negativeCount
    throw .invalidArgument
  if 0 < count ∧ vector.isNone then
    diagnose .missingVector
    throw .invalidArgument
  let owner ← required "options" options .invalidArgument
  let place ← required "context" context .invalidArgument
  let some requested := (← get).objects.options owner
    | diagnose .optionsUninitialized
      throw .invalidArgument
  if ((← get).objects.contexts place).isSome then
    diagnose .contextInitialized
    throw .alreadyInit
  let tokens ← decodeItems 0 ((vector.getD []).take count.toNat)
  let arguments ← parseArguments tokens
  let domain ← resolveDomain requested.domain
  report (.argumentsRead arguments.remaps.length arguments.params.length
    arguments.paramsFiles.length arguments.logLevel arguments.enclave)
  let id ← takeId
  store fun objects => objects.setContext place (some ⟨some id, domain, arguments⟩)
  report (.contextInitialized id domain count)

/-- The initialised context behind a pointer, and its place. -/
def findContext (pointer : Option Place) (missing : Status) : Call (Place × Context) := do
  let place ← required "context" pointer missing
  let some context := (← get).objects.contexts place
    | diagnose .contextUninitialized
      throw missing
  return (place, context)

/-- Shuts a context down. The id is taken away before it is looked at. -/
def shutdownContext (pointer : Option Place) : Call Unit := do
  let (place, context) ← findContext pointer .invalidArgument
  store fun objects => objects.setContext place ((objects.contexts place).map Context.shutDown)
  let some previous := context.instance?
    | diagnose .contextShutDown
      throw .alreadyShutdown
  report (.contextShutDown previous)

/-- The domain of a valid context. -/
def contextDomain (pointer : Option Place) (output : Bool) : Call DomainId := do
  let place ← required "context" pointer .invalidArgument
  requireOutput "domain_id" output
  let some context := ((← get).objects.contexts place).filter Context.isValid
    | diagnose .contextInvalid
      throw .invalidArgument
  return context.domain

def unparsedCount (pointer : Option Place) (output : Bool) : Call Nat := do
  let place ← required "context" pointer .invalidArgument
  requireOutput "count" output
  let some context := (← get).objects.contexts place
    | diagnose .contextUninitialized
      throw .invalidArgument
  return context.arguments.unparsed.length

/-- The unparsed argument with an index, which the caller gets as a C string. The null pointer
stands as the status `error`, as which the caller takes it. -/
def unparsedArgument (pointer : Option Place) (index : Nat) : Call String := do
  let (_, context) ← findContext pointer .error
  let some argument := context.arguments.unparsed[index]?
    | diagnose (.argumentIndex index context.arguments.unparsed.length)
      throw .error
  return Text.Utf8.throughCString argument

/-- Releases a context that has been shut down. -/
def finiContext (pointer : Option Place) : Call Unit := do
  let (place, context) ← findContext pointer .invalidArgument
  if context.instance?.isSome then
    diagnose .contextValid
    throw .invalidArgument
  if !context.arguments.remaps.isEmpty || !context.arguments.params.isEmpty then
    report (.argumentsReleased context.arguments.remaps.length context.arguments.params.length)
  store fun objects => objects.setContext place none

end Call

end RosClient
