import DeviceInfoPlugin.CoreResult
import DeviceInfoPlugin.TracedProgram
import DeviceInfoPlugin.ReferenceLedger
import Mathlib.Data.Option.Basic

/-!
# State of the DeviceInfo plugin object

The members of the class `DeviceInfo`, together with the part of the world its
statements act on: the JSON-RPC handler sets, the `_service` member of the
implementation objects, and a ledger of the references the plugin acquires and
releases.  A statement is a state update that is recorded in the trace, so
that every intermediate state of `Initialize` and `Deinitialize` is visible.

`ASSERT` is compiled out of release builds and has no effect here; the
conditions asserted at the head of `Initialize` are `HeadAsserts`.
-/

namespace DeviceInfoPlugin
namespace Lifecycle

open ReferenceLedger
open Traced

abbrev Object := ℕ

abbrev Shell := ℕ

/-- The three aggregated interfaces, each with a `Root<>` call, a member, and
a set of JSON-RPC handlers of its own. -/
inductive Interface where
  | deviceInfo
  | deviceAudioCapabilities
  | deviceVideoCapabilities
  deriving DecidableEq, Repr

structure PerInterface (α : Type) where
  deviceInfo : α
  deviceAudioCapabilities : α
  deviceVideoCapabilities : α
  deriving DecidableEq, Repr

namespace PerInterface

variable {α : Type}

def get (values : PerInterface α) : Interface → α
  | .deviceInfo => values.deviceInfo
  | .deviceAudioCapabilities => values.deviceAudioCapabilities
  | .deviceVideoCapabilities => values.deviceVideoCapabilities

def set (values : PerInterface α) (interface : Interface) (value : α) :
    PerInterface α :=
  match interface with
  | .deviceInfo => { values with deviceInfo := value }
  | .deviceAudioCapabilities => { values with deviceAudioCapabilities := value }
  | .deviceVideoCapabilities => { values with deviceVideoCapabilities := value }

@[simp] theorem get_set (values : PerInterface α) (interface other : Interface)
    (value : α) :
    (values.set interface value).get other =
      if other = interface then value else values.get other := by
  cases interface <;> cases other <;> simp [get, set]

def AllSet (values : PerInterface (Option α)) : Prop :=
  values.deviceInfo ≠ none ∧ values.deviceAudioCapabilities ≠ none ∧
    values.deviceVideoCapabilities ≠ none

instance (values : PerInterface (Option α)) : Decidable values.AllSet :=
  inferInstanceAs (Decidable (_ ∧ _ ∧ _))

theorem AllSet.eq_some {values : PerInterface (Option α)}
    (hset : values.AllSet) :
    ∃ info audio video, values = ⟨some info, some audio, some video⟩ := by
  rcases hset with ⟨hinfo, haudio, hvideo⟩
  rcases Option.ne_none_iff_exists'.mp hinfo with ⟨info, hinfo⟩
  rcases Option.ne_none_iff_exists'.mp haudio with ⟨audio, haudio⟩
  rcases Option.ne_none_iff_exists'.mp hvideo with ⟨video, hvideo⟩
  have hvalues : values = ⟨some info, some audio, some video⟩ := by
    rw [← hinfo, ← haudio, ← hvideo]
  exact ⟨info, audio, video, hvalues⟩

end PerInterface

inductive Reference where
  | shell (service : Shell)
  | implementation (interface : Interface) (object : Object)
  | configuration (object : Object)
  | connection (id : UInt32)
  deriving DecidableEq, Repr

structure State where
  service : Option Shell
  connectionId : UInt32
  members : PerInterface (Option Object)
  configure : Option Object
  /-- The object each JSON-RPC handler set is registered with. -/
  handlers : PerInterface (Option Object)
  /-- `DeviceInfoImplementation::_service` of each implementation object. -/
  implementationService : Object → Option Shell
  ledger : Ledger Reference
  /-- Ids of the remote connections on which `Terminate` was called. -/
  terminated : List UInt32
  /-- Shells for which a deactivation job was submitted. -/
  submitted : List (Option Shell)

def State.constructed : State where
  service := none
  connectionId := 0
  members := ⟨none, none, none⟩
  configure := none
  handlers := ⟨none, none, none⟩
  implementationService := fun _ => none
  ledger := []
  terminated := []
  submitted := []

/-- The conditions asserted at the head of `Initialize`. -/
structure State.HeadAsserts (s : State) : Prop where
  service : s.service = none
  deviceInfo : s.members.deviceInfo = none
  connectionId : s.connectionId = 0

/-- The members that hold resources are back at their constructor values. -/
structure State.AtConstructorValues (s : State) : Prop where
  service : s.service = none
  members : ∀ interface, s.members.get interface = none
  connectionId : s.connectionId = 0

theorem State.AtConstructorValues.headAsserts {s : State}
    (hreset : s.AtConstructorValues) : s.HeadAsserts :=
  ⟨hreset.service, hreset.members .deviceInfo, hreset.connectionId⟩

def State.Unregistered (s : State) : Prop :=
  ∀ interface, s.handlers.get interface = none

/-- Each registered handler set is backed by a live implementation: the object
it was registered with is the one the member points to, and the plugin still
holds its reference on it. -/
def State.Backed (s : State) : Prop :=
  ∀ interface object, s.handlers.get interface = some object →
    s.members.get interface = some object ∧
      Holds s.ledger (.implementation interface object)

inductive Pointer where
  | service
  | member (interface : Interface)
  | configure
  deriving DecidableEq, Repr

inductive Abort where
  | nullCall (pointer : Pointer)
  | stdException (what : String)
  deriving DecidableEq, Repr

structure Transition where
  before : State
  after : State

abbrev Steps (α : Type) := Program Transition Abort State α

def statement (update : State → State) : Steps Unit :=
  fun s => ⟨[⟨s, update s⟩], .ok (), update s⟩

/-- Reads a pointer in order to call a method through it. -/
def through (pointer : Pointer) (value : Option Object) : Steps Object :=
  match value with
  | some object => pure object
  | none => .raise (.nullCall pointer)

@[simp] theorem wp_statement (update : State → State)
    {returned : Unit → List Transition → State → Prop}
    {raised : Abort → List Transition → State → Prop} {s : State} :
    Wp (statement update) returned raised s ↔
      returned () [⟨s, update s⟩] (update s) := Iff.rfl

@[simp] theorem wp_through_some (pointer : Pointer) (object : Object)
    {returned : Object → List Transition → State → Prop}
    {raised : Abort → List Transition → State → Prop} {s : State} :
    Wp (through pointer (some object)) returned raised s ↔
      returned object [] s := Iff.rfl

@[simp] theorem wp_through_none (pointer : Pointer)
    {returned : Object → List Transition → State → Prop}
    {raised : Abort → List Transition → State → Prop} {s : State} :
    Wp (through pointer none) returned raised s ↔
      raised (.nullCall pointer) [] s := Iff.rfl

@[simp] theorem always_statement {Q : Transition → Prop} (update : State → State)
    (post : Unit → State → Prop) {s : State} :
    Always Q (statement update) post s ↔
      Q ⟨s, update s⟩ ∧ post () (update s) := by
  simp [Always]

@[simp] theorem always_through_some {Q : Transition → Prop} (pointer : Pointer)
    (object : Object) (post : Object → State → Prop) {s : State} :
    Always Q (through pointer (some object)) post s ↔ post object s := by
  simp [Always]

/-- A call through a null pointer executes no further statement. -/
theorem always_through {Q : Transition → Prop} {pointer : Pointer}
    {value : Option Object} {post : Object → State → Prop} {s : State}
    (hpost : ∀ object, value = some object → post object s) :
    Always Q (through pointer value) post s := by
  cases value with
  | none => simp [Always]
  | some object => simpa using hpost object rfl

/-! ## The statements -/

def acquiredIf (reference : Object → Reference) : Option Object → Ledger Reference
  | some object => [.acquired (reference object)]
  | none => []

def State.acquire (reference : Reference) (s : State) : State :=
  { s with ledger := s.ledger ++ [.acquired reference] }

def State.release (reference : Reference) (s : State) : State :=
  { s with ledger := s.ledger ++ [.released reference] }

def State.setMember (interface : Interface) (value : Option Object)
    (s : State) : State :=
  { s with members := s.members.set interface value }

def State.setHandlers (interface : Interface) (value : Option Object)
    (s : State) : State :=
  { s with handlers := s.handlers.set interface value }

end Lifecycle
end DeviceInfoPlugin
