import DeviceInfoPlugin.PluginState

/-!
# `DeviceInfo::Initialize`, `Deinitialize` and `Deactivated`

The two lifecycle functions are translated statement by statement.  Everything
they call outside the plugin is an outcome listed in `Activation`: what each
`Root<>` call returns and stores, whether `QueryInterface` succeeds, how
`Configure` ends, and what `RemoteConnection` answers for each id.
-/

namespace DeviceInfoPlugin
namespace Lifecycle

open Traced

structure RootOutcome where
  /-- The object returned, with one reference owned by the plugin. -/
  object : Option Object
  /-- The id stored in the connection-id argument, if one is stored. -/
  connectionId : Option UInt32
  deriving DecidableEq, Repr

/-- How `IConfiguration::Configure` ends.  A remote implementation may fail
before or after it has stored the shell. -/
structure ConfigureOutcome where
  result : Hresult
  stored : Bool
  stored_of_none : result = ERROR_NONE → stored = true

structure RemoteConnection where
  /-- The text of the `std::exception` that `Terminate` throws, if it does. -/
  terminateThrows : Option String
  deriving DecidableEq, Repr

structure Activation where
  service : Shell
  root : PerInterface RootOutcome
  queryInterface : Option Object
  configure : ConfigureOutcome
  remoteConnection : UInt32 → Option RemoteConnection

/-- The constructor `DeviceInfoImplementation()` leaves `_service` null; the
other two implementations have no such member. -/
def constructService (interface : Interface) (object : Option Object)
    (services : Object → Option Shell) : Object → Option Shell :=
  match interface, object with
  | .deviceInfo, some object => Function.update services object none
  | _, _ => services

/-- `member = _service->Root<...>(_connectionId, ...)`. -/
def State.root (interface : Interface) (outcome : RootOutcome)
    (s : State) : State :=
  { s with
    connectionId := outcome.connectionId.getD s.connectionId
    members := s.members.set interface outcome.object
    implementationService :=
      constructService interface outcome.object s.implementationService
    ledger :=
      s.ledger ++ acquiredIf (.implementation interface) outcome.object }

/-- `configure = _deviceInfo->QueryInterface<Exchange::IConfiguration>()`. -/
def State.query (answer : Option Object) (s : State) : State :=
  { s with
    configure := answer
    ledger := s.ledger ++ acquiredIf .configuration answer }

/-- `DeviceInfoImplementation::Configure`: the implementation keeps the shell,
with a reference of its own, and reports success. -/
def configureImplementation (service : Shell) (_previous : Option Shell) :
    Hresult × Option Shell :=
  (ERROR_NONE, some service)

def State.configured (outcome : ConfigureOutcome) (deviceInfo : Object)
    (s : State) : State :=
  if outcome.stored then
    { s with
      implementationService :=
        Function.update s.implementationService deviceInfo s.service }
  else s

def State.register (interface : Interface) (s : State) : State :=
  s.setHandlers interface (s.members.get interface)

def State.unregister (interface : Interface) (s : State) : State :=
  s.setHandlers interface none

/-- `DeviceInfo::Initialize`; returns the error text, empty on success. -/
def initializePlugin (a : Activation) : Steps String := do
  statement fun s => { s with service := some a.service }
  statement (.acquire (.shell a.service))
  statement (.root .deviceInfo a.root.deviceInfo)
  statement (.root .deviceAudioCapabilities a.root.deviceAudioCapabilities)
  statement (.root .deviceVideoCapabilities a.root.deviceVideoCapabilities)
  let s ← .current
  if s.members.AllSet then
    let deviceInfo ← through (.member .deviceInfo) s.members.deviceInfo
    statement (.query a.queryInterface)
    let message ←
      match a.queryInterface with
      | some _ => do
          statement (.configured a.configure deviceInfo)
          pure (if a.configure.result ≠ ERROR_NONE then
            "DeviceInfo could not be configured" else "")
      | none =>
          pure "DeviceInfo implementation did not provide a configuration interface"
    -- registration does not depend on the message
    statement (.register .deviceInfo)
    statement (.register .deviceAudioCapabilities)
    statement (.register .deviceVideoCapabilities)
    pure message
  else
    pure "DeviceInfo plugin could not be initialised"

def releaseMember (interface : Interface) : Steps Unit := do
  let s ← .current
  let object ← through (.member interface) (s.members.get interface)
  statement (.release (.implementation interface object))

/-- `configure->Release()`; the pointer is not tested and not reset. -/
def releaseConfigure : Steps Unit := do
  let s ← .current
  let object ← through .configure s.configure
  statement (.release (.configuration object))

def releaseService : Steps Unit := do
  let s ← .current
  let service ← through .service s.service
  statement (.release (.shell service))

/-- `service->RemoteConnection(_connectionId)`: the connection with that id,
with a reference, if there is one. -/
def remoteConnection (a : Activation) :
    Steps (Option (UInt32 × RemoteConnection)) := do
  let s ← .current
  match a.remoteConnection s.connectionId with
  | some connection => do
      statement (.acquire (.connection s.connectionId))
      pure (some (s.connectionId, connection))
  | none => pure none

def terminate (id : UInt32) (connection : RemoteConnection) : Steps Unit := do
  statement fun s => { s with terminated := s.terminated ++ [id] }
  match connection.terminateThrows with
  | some what => .raise (.stdException what)
  | none => pure ()

/-- The `catch (const std::exception&)` around `Terminate` only logs. -/
def logFailedTermination : Abort → Option (Steps Unit)
  | .stdException _ => some (pure ())
  | .nullCall _ => none

def deinitializePlugin (a : Activation) : Steps Unit := do
  let s ← .current
  if s.members.AllSet then
    statement (.unregister .deviceAudioCapabilities)
    releaseMember .deviceAudioCapabilities
    statement (.setMember .deviceAudioCapabilities none)
    statement (.unregister .deviceVideoCapabilities)
    releaseMember .deviceVideoCapabilities
    statement (.setMember .deviceVideoCapabilities none)
    statement (.unregister .deviceInfo)
    releaseConfigure
    let connection ← remoteConnection a
    releaseMember .deviceInfo
    statement (.setMember .deviceInfo none)
    match connection with
    | some (id, connection) => do
        (terminate id connection).guarded logFailedTermination
        statement (.release (.connection id))
    | none => pure ()
  statement fun s => { s with connectionId := 0 }
  releaseService
  statement fun s => { s with service := none }

/-- `DeviceInfo::Deactivated` for a connection with the given id. -/
def deactivated (id : UInt32) (s : State) : State :=
  if id = s.connectionId then
    { s with submitted := s.submitted ++ [s.service] }
  else s

def activationCycle (a : Activation) : Steps Unit := do
  let _ ← initializePlugin a
  deinitializePlugin a

def activationRun (activations : List Activation) : Steps Unit :=
  .forEach activationCycle activations

/-- No further `Initialize` follows a `Deinitialize` that crashed. -/
def nextInactive (a : Activation) (s : State) : Option State :=
  match (activationCycle a s).result with
  | .ok _ => some (activationCycle a s).state
  | .error _ => none

end Lifecycle
end DeviceInfoPlugin
