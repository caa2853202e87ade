import RosClient.Call.Context
import RosClient.Handle.Basic

namespace RosClient

namespace ContextHandle

/-- A handle to a context that is not initialised. -/
def create (slot : Slot) : Action Handle := do
  modify fun state =>
    { state with objects := state.objects.setContext (.handle slot) none }
  return some (.handle slot)

/-- The position of the first NUL octet of a text. -/
def nulPosition? (text : String) : Option Nat :=
  (Text.Utf8.encode text).findIdx? (· = 0)

/-- The first argument that contains a NUL octet, counted from `index`, and where it does. -/
def nulByte? (index : Nat) : List String → Option (Nat × Nat)
  | [] => none
  | argument :: rest =>
    match nulPosition? argument with
    | some position => some (index, position)
    | none => nulByte? (index + 1) rest

/-- Why arguments cannot be given to a call: there are too many, or one contains a NUL octet. -/
def rejection? (arguments : List String) : Option Rejection :=
  if maxArgumentCount < arguments.length then some (.tooManyArguments arguments.length)
  else (nulByte? 0 arguments).map fun (index, position) => .nulByte index position

/-- Where the options of an initialisation live, as long as it lasts. -/
def transientOptions : Option Place :=
  some .transient

/-- Releases the options when they are given up early. -/
def dropOptions : Action Unit :=
  discard "init options fini" (Call.finiOptions transientOptions)

/-- New options with a domain, or with none asked for. -/
def makeOptions (domain : Option DomainId) : Action Unit := do
  attempt .initOptions (Call.initOptions transientOptions)
  match domain with
  | some domain =>
    orCleanUp (attempt .setDomain (Call.setDomain transientOptions domain)) dropOptions
  | none => pure ()

/-- Initialises the context from arguments, all of which are checked before any call. The options
last until the context is initialised; if they cannot be released then, it is shut down again. -/
def init (handle : Handle) (arguments : List String) (domain : Option DomainId) : Action Unit := do
  match rejection? arguments with
  | some rejection => reject rejection
  | none =>
    if handle.isNone then reject .emptyContext
    else
      let items := arguments.map fun argument => some (Text.Utf8.encode argument)
      makeOptions domain
      orCleanUp (attempt .initContext
        (Call.initContext arguments.length (some items) transientOptions handle)) dropOptions
      orCleanUp (attempt .finiOptions (Call.finiOptions transientOptions))
        (discard "context rollback shutdown" (Call.shutdownContext handle))
      modify fun state =>
        state.write [.contextReady (state.objects.contextId handle) arguments.length]

def isValid (handle : Handle) (state : State) : Bool :=
  state.objects.isContextValid handle

def instanceId (handle : Handle) (state : State) : Nat :=
  state.objects.contextId handle

def shutdown (handle : Handle) : Action Unit := do
  if isValid handle (← get) then attempt .shutdownContext (Call.shutdownContext handle)

/-- Releases the context and empties the handle. -/
def dispose (handle : Handle) : Action Handle := do
  if ((← get).objects.contextAt handle).isSome then
    attempt .finiContext (Call.finiContext handle)
  return none

def domain (handle : Handle) : Action DomainId :=
  attempt .contextDomain (Call.contextDomain handle true)

/-- The arguments outside every section, in order. -/
def unparsed (handle : Handle) : Action (List String) := do
  let count ← attempt .countUnparsed (Call.unparsedCount handle true)
  (List.range count).mapM fun index =>
    attempt .unparsedArgument (Call.unparsedArgument handle index)

/-- What the end of an owned context does: shuts it down and disposes of it. -/
def release (handle : Handle) (state : State) : State :=
  (state.release "context shutdown" (shutdown handle)).release "context dispose" (dispose handle)

/-- A new context, initialised; if that fails, it is released at once. -/
def new (slot : Slot) (arguments : List String) (domain : Option DomainId) : Action Handle := do
  let handle ← create slot
  orCleanUp (init handle arguments domain) (modify (release handle))
  return handle

end ContextHandle

end RosClient
