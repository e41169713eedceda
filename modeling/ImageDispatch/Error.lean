import ImageDispatch.Text.Record

/-!
# Errors

What can go wrong, as causes, and their wording.

* `LoadError`: a source of extensions could not be used.
* `Error`: a call failed. Extensions report their failures in the same type.
* `Error.message` and `LoadError.message`: the wording.
* `Error.status`: the status code that stands for the error across the C boundary.
-/

namespace ImageDispatch

/-- Why extensions could not be loaded from a library. -/
inductive LoadError
  /-- The system could not open the library. -/
  | libraryOpen (path reason : String)
  /-- The library does not export the symbol of a family. -/
  | symbolNotFound (symbol : String)
  /-- The symbol answered with no table. -/
  | nullTable
  /-- The table was built for another version of the boundary. -/
  | abiMismatch (expected actual : Nat)
  | notOpen
  deriving DecidableEq, Inhabited

namespace LoadError

/-- The name of the cause. -/
def kind : LoadError → String
  | libraryOpen .. => "LibraryOpen"
  | symbolNotFound _ => "SymbolNotFound"
  | nullTable => "NullTable"
  | abiMismatch .. => "AbiMismatch"
  | notOpen => "NotOpen"

/-- The wording. -/
def message : LoadError → String
  | libraryOpen path reason => s!"failed to open '{path}': {reason}"
  | symbolNotFound symbol => s!"missing exported symbol: {symbol}"
  | nullTable => "registration symbol returned a null table"
  | abiMismatch expected actual => s!"ABI version mismatch: expected {expected}, got {actual}"
  | notOpen => "extension provider is not open"

/-- The record form. -/
def repr : LoadError → String
  | libraryOpen path reason =>
    Text.record "LibraryOpen" [("path", Text.quoted path), ("reason", Text.quoted reason)]
  | symbolNotFound symbol => Text.tagged "SymbolNotFound" (Text.quoted symbol)
  | nullTable => "NullTable"
  | abiMismatch expected actual =>
    Text.record "AbiMismatch" [("expected", toString expected), ("actual", toString actual)]
  | notOpen => "NotOpen"

end LoadError

/-- Why a call failed. -/
inductive Error
  /-- A buffer, parameter or combination of formats was rejected. -/
  | invalidValue (reason : String)
  /-- No registered extension advertises the capability. -/
  | capabilityNotFound (family key : String)
  /-- The creator of the extension returned no algorithm. -/
  | extensionCreateFailed (name : String)
  /-- The algorithm was created, and its initialization failed. -/
  | extensionInitFailed (name reason : String)
  /-- An initialized algorithm failed at its work. -/
  | processFailed (name reason : String)
  /-- An algorithm rejected a parameter or a combination of formats. -/
  | operationNotSupported (reason : String)
  /-- Every slot of the instance table is taken. -/
  | instanceTableFull
  /-- The id refers to no live slot. -/
  | invalidInstance (id : Int32)
  /-- The operation is not legal now. -/
  | invalidState (reason : String)
  /-- Another call is creating the algorithm. -/
  | tryLater
  /-- Creation has been given up. -/
  | creationDisabled (family : String)
  /-- Extensions could not be loaded. -/
  | load (cause : LoadError)
  deriving DecidableEq, Inhabited

/-- Status code of a call across the C boundary. -/
inductive Status
  | ok
  /-- A table of fixed capacity is full. -/
  | noMemory
  /-- The operation is not valid for the object. -/
  | invalidOperation
  /-- A null pointer, a bad id or a parameter out of range. -/
  | invalidVal
  | unknown
  | invalidParam
  | initFailed
  | extensionNotFound
  /-- An extension was found and failed to start. -/
  | extensionInitFailed
  /-- An extension failed at its work. -/
  | extensionProcessFailed
  /-- No extension implements the capability. -/
  | notImplemented
  /-- The implementation rejected the combination. -/
  | operationNotSupported
  /-- The object is in the wrong state. -/
  | invalidState
  | tryAgain
  deriving DecidableEq

namespace Status

/-- The number of the code. -/
def raw : Status → Nat
  | ok => 0
  | noMemory => 1
  | invalidOperation => 2
  | invalidVal => 3
  | unknown => 4
  | invalidParam => 5
  | initFailed => 6
  | extensionNotFound => 7
  | extensionInitFailed => 8
  | extensionProcessFailed => 9
  | notImplemented => 10
  | operationNotSupported => 11
  | invalidState => 12
  | tryAgain => 13

/-- The name of the code. -/
def name : Status → String
  | ok => "Ok"
  | noMemory => "NoMemory"
  | invalidOperation => "InvalidOperation"
  | invalidVal => "InvalidVal"
  | unknown => "Unknown"
  | invalidParam => "InvalidParam"
  | initFailed => "InitFailed"
  | extensionNotFound => "ExtensionNotFound"
  | extensionInitFailed => "ExtensionInitFailed"
  | extensionProcessFailed => "ExtensionProcessFailed"
  | notImplemented => "NotImplemented"
  | operationNotSupported => "OperationNotSupported"
  | invalidState => "InvalidState"
  | tryAgain => "TryAgain"

end Status

namespace Error

/-- The name of the cause. -/
def kind : Error → String
  | invalidValue _ => "InvalidValue"
  | capabilityNotFound .. => "CapabilityNotFound"
  | extensionCreateFailed _ => "ExtensionCreateFailed"
  | extensionInitFailed .. => "ExtensionInitFailed"
  | processFailed .. => "ProcessFailed"
  | operationNotSupported _ => "OperationNotSupported"
  | instanceTableFull => "InstanceTableFull"
  | invalidInstance _ => "InvalidInstance"
  | invalidState _ => "InvalidState"
  | tryLater => "TryLater"
  | creationDisabled _ => "CreationDisabled"
  | load _ => "Load"

/-- The wording. -/
def message : Error → String
  | invalidValue reason => s!"invalid value: {reason}"
  | capabilityNotFound family key => s!"no {family} extension supports {key}"
  | extensionCreateFailed name => s!"extension '{name}' failed to create an algorithm instance"
  | extensionInitFailed name reason => s!"extension '{name}' failed to initialize: {reason}"
  | processFailed name reason => s!"extension '{name}' failed to process: {reason}"
  | operationNotSupported reason => s!"operation not supported: {reason}"
  | instanceTableFull => "instance table exhausted: no slots available"
  | invalidInstance id => s!"invalid instance id {id}"
  | invalidState reason => s!"invalid state: {reason}"
  | tryLater => "resource busy, try again later"
  | creationDisabled family => s!"{family} creation disabled after repeated failures"
  | load cause => s!"extension loading failed: {cause.message}"

def repr : Error → String
  | invalidValue reason => Text.tagged "InvalidValue" (Text.quoted reason)
  | capabilityNotFound family key =>
    Text.record "CapabilityNotFound" [("family", Text.quoted family), ("key", Text.quoted key)]
  | extensionCreateFailed name =>
    Text.record "ExtensionCreateFailed" [("name", Text.quoted name)]
  | extensionInitFailed name reason =>
    Text.record "ExtensionInitFailed" [("name", Text.quoted name), ("reason", Text.quoted reason)]
  | processFailed name reason =>
    Text.record "ProcessFailed" [("name", Text.quoted name), ("reason", Text.quoted reason)]
  | operationNotSupported reason => Text.tagged "OperationNotSupported" (Text.quoted reason)
  | instanceTableFull => "InstanceTableFull"
  | invalidInstance id => Text.tagged "InvalidInstance" (toString id)
  | invalidState reason => Text.tagged "InvalidState" (Text.quoted reason)
  | tryLater => "TryLater"
  | creationDisabled family => Text.tagged "CreationDisabled" (Text.quoted family)
  | load cause => Text.tagged "Load" cause.repr

/-- Nothing is registered for the key. -/
def isNotFound : Error → Bool
  | capabilityNotFound .. => true
  | _ => false

/-- The extension rejected what it was given, as opposed to failing at it. -/
def isRejection : Error → Bool
  | operationNotSupported _ | invalidValue _ => true
  | _ => false

/-- The status code of the error. -/
def status : Error → Status
  | invalidValue _ | invalidInstance _ => .invalidVal
  | capabilityNotFound .. => .notImplemented
  | extensionCreateFailed _ | extensionInitFailed .. => .extensionInitFailed
  | processFailed .. => .extensionProcessFailed
  | operationNotSupported _ | creationDisabled _ => .operationNotSupported
  | instanceTableFull => .noMemory
  | invalidState _ => .invalidState
  | tryLater => .tryAgain
  | load _ => .unknown

end Error

/-- The status code of an outcome. -/
def Status.ofOutcome {α : Type} : Except Error α → Status
  | .ok _ => .ok
  | .error e => e.status

/-- The code is the one of success. -/
def Status.isOk (s : Status) : Bool := s = .ok

end ImageDispatch
