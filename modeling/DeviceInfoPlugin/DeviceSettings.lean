import DeviceInfoPlugin.CoreResult
import DeviceInfoPlugin.PropertyFiles
import DeviceInfoPlugin.UnreliableCalls

/-!
# The Device Settings library

The functions of Device Settings that the three implementation classes call,
each of which may throw, and the frame all their methods share: a try block
whose three handlers set the result to `ERROR_GENERAL`.
-/

namespace DeviceInfoPlugin
namespace DeviceSettings

open DeviceInfo (Text)
open Unreliable

/-- What a call may throw, as the three catch clauses tell it apart. -/
inductive Thrown
  | deviceException
  | stdException
  | other
deriving DecidableEq, Repr

abbrev Handle := ℕ

/-- A C++ `int`. -/
abbrev Word := BitVec 32

inductive HdcpProtocol
  | version1X
  | version2X
  | other (value : Int)
deriving DecidableEq, Repr

/-- The last three kinds of call are made on a list that an earlier call
returned. -/
inductive Call
  | hostGetInstance
  | videoOutputPortConfigGetInstance
  | getAudioOutputPorts
  | getVideoOutputPorts
  | getPortName (port : Handle)
  | getDefaultAudioPortName
  | getDefaultVideoPortName
  | getAudioOutputPort (name : Text)
  | getVideoOutputPort (name : Text)
  | getPort (name : Text)
  | getDefaultResolution (port : Handle)
  | getResolutionName (resolution : Handle)
  | getType (port : Handle)
  | getId (type : Handle)
  | getPortType (id : Int)
  | getSupportedResolutions (type : Handle)
  | getHDCPProtocol (port : Handle)
  | getAudioCapabilities (port : Handle)
  | getMS12Capabilities (port : Handle)
  | getMS12AudioProfileList (port : Handle)
  | portAt (index : Nat)
  | resolutionAt (index : Nat)
  | profileAt (index : Nat)

/-- A list is answered with its size; its elements are fetched one by one. -/
def Call.Reply : Call → Type
  | hostGetInstance | videoOutputPortConfigGetInstance => Unit
  | getAudioOutputPorts | getVideoOutputPorts => Nat
  | getPortName _ | getDefaultAudioPortName | getDefaultVideoPortName => Text
  | getAudioOutputPort _ | getVideoOutputPort _ | getPort _ => Handle
  | getDefaultResolution _ => Handle
  | getResolutionName _ => Text
  | getType _ => Handle
  | getId _ => Int
  | getPortType _ => Handle
  | getSupportedResolutions _ => Nat
  | getHDCPProtocol _ => HdcpProtocol
  | getAudioCapabilities _ | getMS12Capabilities _ => Unit
  | getMS12AudioProfileList _ => Nat
  | portAt _ | resolutionAt _ => Handle
  | profileAt _ => Text

def Call.Written : Call → Type
  | getAudioCapabilities _ | getMS12Capabilities _ => Word
  | _ => Empty

abbrev Ds : Interface :=
  ⟨Call, Call.Reply, Call.Written⟩

structure Published (Out : Type) where
  result : Hresult
  out : Out

/-- Part of a method with locals `L` and out parameters `Out`. -/
abbrev Query (World L Out : Type) :=
  Method Ds Thrown World L (Published Out)

variable {World L Out α : Type}

def fail : Query World L Out Unit :=
  Method.setCaller fun _ published =>
    { published with result := ERROR_GENERAL }

/-- `try { body } catch ...` -/
def caught (body : Query World L Out Unit) : Query World L Out Unit :=
  body.guarded fun thrown =>
    match thrown with
    | .deviceException => some fail
    | .stdException => some fail
    | .other => some fail

/-- `if (result == Core::ERROR_NONE)`: assigns the out parameters from the
local variables. -/
def publish (assign : L → Out → Out) : Query World L Out Unit :=
  Method.setCaller fun locals published =>
    if published.result = ERROR_NONE then
      { published with out := assign locals published.out }
    else
      published

abbrev Ended (World L Out : Type) :=
  Traced.Outcome (Event Ds Thrown) Thrown (Frame World L (Published Out)) Unit

/-- A call of a method: `prior` is what the caller's out parameters hold. -/
def invoke (locals : L) (body : Query World L Out Unit) (world : World)
    (prior : Out) : Ended World L Out :=
  body ⟨world, locals, ⟨ERROR_NONE, prior⟩⟩

/-! ## All or nothing -/

/-- The method returns.  If a call threw, the result says so and the out
parameters are as the caller passed them; otherwise `delivered` holds. -/
structure AllOrNothing (outcome : Ended World L Out) (prior : Out)
    (delivered : List (Event Ds Thrown) → Published Out → Prop) : Prop where
  returns : outcome.result = .ok ()
  nothing : Threw outcome.trace →
    outcome.state.caller = ⟨ERROR_GENERAL, prior⟩
  all : ¬ Threw outcome.trace → delivered outcome.trace outcome.state.caller

theorem AllOrNothing.mono {outcome : Ended World L Out} {prior : Out}
    {delivered delivered' : List (Event Ds Thrown) → Published Out → Prop}
    (hcall : AllOrNothing outcome prior delivered)
    (hdelivered : ∀ trace published, delivered trace published →
      delivered' trace published) :
    AllOrNothing outcome prior delivered' := by
  constructor
  · exact hcall.returns
  · exact hcall.nothing
  · intro hquiet
    exact hdelivered _ _ (hcall.all hquiet)

theorem wp_fail {returned : Unit → List (Event Ds Thrown) →
      Frame World L (Published Out) → Prop}
    {raised : Thrown → List (Event Ds Thrown) →
      Frame World L (Published Out) → Prop}
    {s : Frame World L (Published Out)} :
    Traced.Wp fail returned raised s ↔
      returned () [] { s with
        caller := { s.caller with result := ERROR_GENERAL } } := by
  simp [fail, Method.setCaller]

theorem wp_caught {body : Query World L Out Unit}
    {returned : Unit → List (Event Ds Thrown) →
      Frame World L (Published Out) → Prop}
    {s : Frame World L (Published Out)} :
    Traced.Wp (caught body) returned (fun _ _ _ => False) s ↔
      Traced.Wp body returned
        (fun _ trace s' => returned () trace { s' with
          caller := { s'.caller with result := ERROR_GENERAL } }) s := by
  unfold caught
  rw [Traced.wp_guarded]
  constructor
  · intro hwp
    apply hwp.mono
    · intro a trace s' hreturned
      exact hreturned
    · intro thrown trace s' hhandled
      cases thrown <;> simpa [wp_fail] using hhandled
  · intro hwp
    apply hwp.mono
    · intro a trace s' hreturned
      exact hreturned
    · intro thrown trace s' hhandled
      cases thrown <;> simpa [wp_fail] using hhandled

theorem allOrNothing_of_wp {body : Query World L Out Unit} {locals : L}
    {world : World} {prior : Out}
    {delivered : List (Event Ds Thrown) → Published Out → Prop}
    (hwp : Traced.Wp body
      (fun _ trace s =>
        (Threw trace → s.caller = ⟨ERROR_GENERAL, prior⟩) ∧
          (¬ Threw trace → delivered trace s.caller))
      (fun _ _ _ => False) ⟨world, locals, ⟨ERROR_NONE, prior⟩⟩) :
    AllOrNothing (invoke locals body world prior) prior delivered := by
  rcases hwp.returns with ⟨_, hresult, hnothing, hall⟩
  exact ⟨hresult, hnothing, hall⟩

/-- A method that collects in its try block, goes on with its local variables
whether or not that failed, and publishes at the end. -/
theorem allOrNothing_publish_after {body : Query World L Out Unit} {locals : L}
    {post : Unit → List (Event Ds Thrown) → L → Prop} (after : L → L)
    (assign : L → Out → Out) (hbody : Quiet body locals post) (world : World)
    (prior : Out) :
    AllOrNothing
      (invoke locals (do
        caught body
        Method.setLocals after
        publish assign) world prior) prior
      fun trace published => ∃ locals', post () trace locals' ∧
        published = ⟨ERROR_NONE, assign (after locals') prior⟩ := by
  apply allOrNothing_of_wp
  rw [Traced.wp_bind, wp_caught]
  apply (hbody world _).mono
  · intro _ trace s hended
    rcases hended with ⟨hquiet, hcaller, hpost⟩
    simpa [Method.setLocals, Method.setCaller, publish, hquiet, hcaller] using
      ⟨s.locals, hpost, rfl⟩
  · intro e trace s hended
    rcases hended with ⟨hthrew, hcaller⟩
    simp [Method.setLocals, Method.setCaller, publish, hthrew, hcaller]

theorem allOrNothing_publish {body : Query World L Out Unit} {locals : L}
    {post : Unit → List (Event Ds Thrown) → L → Prop}
    (assign : L → Out → Out) (hbody : Quiet body locals post) (world : World)
    (prior : Out) :
    AllOrNothing
      (invoke locals (do
        caught body
        publish assign) world prior) prior
      fun trace published => ∃ locals', post () trace locals' ∧
        published = ⟨ERROR_NONE, assign locals' prior⟩ :=
  allOrNothing_publish_after id assign hbody world prior

/-- A method that assigns to its out parameter at the end of the try block. -/
theorem allOrNothing_store {part : Query World L Out α} {locals : L}
    {post : α → List (Event Ds Thrown) → L → Prop}
    (store : α → Published Out → Published Out) (hpart : Quiet part locals post)
    (world : World) (prior : Out) :
    AllOrNothing
      (invoke locals (caught (do
        let a ← part
        Method.setCaller fun _ => store a)) world prior) prior
      fun trace published => ∃ a locals', post a trace locals' ∧
        published = store a ⟨ERROR_NONE, prior⟩ := by
  apply allOrNothing_of_wp
  rw [wp_caught, Traced.wp_bind]
  apply (hpart world _).mono
  · intro a trace s hended
    rcases hended with ⟨hquiet, hcaller, hpost⟩
    simpa [Method.setCaller, hquiet, hcaller] using ⟨a, ⟨s.locals, hpost⟩, rfl⟩
  · intro e trace s hended
    rcases hended with ⟨hthrew, hcaller⟩
    simp [hthrew, hcaller]

end DeviceSettings
end DeviceInfoPlugin
