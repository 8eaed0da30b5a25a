import DeviceInfoPlugin.DeviceSettings

/-!
# The queries about audio and video

The methods of `DeviceAudioCapabilities` and `DeviceVideoCapabilities`, and
`SupportedAudioPorts` of `DeviceInfoImplementation`, as far as they rest on
Device Settings alone.
-/

namespace DeviceInfoPlugin
namespace DeviceSettings

open DeviceInfo (Text)
open Traced
open Unreliable

/-- An iterator pointer, `none` for null, and the success flag next to it. -/
structure ListResult (α : Type) where
  iterator : Option (List α)
  success : Bool

def ListResult.of {α : Type} (list : List α) : ListResult α :=
  ⟨some list, true⟩

variable {World L Out : Type} (ds : Callee Ds Thrown World)

/-! ## Lists of names -/

def portName (index : Nat) : Query World L Out Text := do
  let port ← Method.ask ds (.portAt index)
  Method.ask ds (.getPortName port)

def resolutionName (index : Nat) : Query World L Out Text := do
  let resolution ← Method.ask ds (.resolutionAt index)
  Method.ask ds (.getResolutionName resolution)

/-- `for (size_t i = 0; i < list.size(); i++)`, with the element fetched and
then added to the local list. -/
def collect {α : Type} (size : Nat) (fetch : Nat → Query World (List α) Out α)
    (add : α → List α → List α) : Query World (List α) Out Unit :=
  Program.forEach
    (fun index => do
      let item ← fetch index
      Method.setLocals (add item))
    (List.range' 0 size)

def emplaceBack {α : Type} (item : α) (list : List α) : List α :=
  list ++ [item]

def emplaceNew (name : Text) (list : List Text) : List Text :=
  if name ∈ list then list else emplaceBack name list

def audioOutputPorts : Query World L Out Nat := do
  let _ ← Method.ask ds .hostGetInstance
  Method.ask ds .getAudioOutputPorts

def videoOutputPorts : Query World L Out Nat := do
  let _ ← Method.ask ds .hostGetInstance
  Method.ask ds .getVideoOutputPorts

def supportedAudioPorts :
    World → ListResult Text → Ended World (List Text) (ListResult Text) :=
  invoke [] do
    caught do
      let size ← audioOutputPorts ds
      collect size (portName ds) emplaceBack
    publish fun list _ => .of list

def supportedVideoDisplays :
    World → ListResult Text → Ended World (List Text) (ListResult Text) :=
  invoke [] do
    caught do
      let size ← videoOutputPorts ds
      collect size (portName ds) emplaceNew
    publish fun list _ => .of list

def videoPortOrDefault (videoDisplay : Text) : Query World L Out Text :=
  match videoDisplay with
  | [] => do
      let _ ← Method.ask ds .hostGetInstance
      Method.ask ds .getDefaultVideoPortName
  | _ :: _ => pure videoDisplay

def audioPortOrDefault (audioPort : Text) : Query World L Out Text :=
  match audioPort with
  | [] => do
      let _ ← Method.ask ds .hostGetInstance
      Method.ask ds .getDefaultAudioPortName
  | _ :: _ => pure audioPort

def resolutions (videoDisplay : Text) : Query World L Out Nat := do
  let strVideoPort ← videoPortOrDefault ds videoDisplay
  let _ ← Method.ask ds .hostGetInstance
  let vPort ← Method.ask ds (.getVideoOutputPort strVideoPort)
  let _ ← Method.ask ds .videoOutputPortConfigGetInstance
  let type ← Method.ask ds (.getType vPort)
  let id ← Method.ask ds (.getId type)
  let portType ← Method.ask ds (.getPortType id)
  Method.ask ds (.getSupportedResolutions portType)

def supportedResolutions (videoDisplay : Text) :
    World → ListResult Text → Ended World (List Text) (ListResult Text) :=
  invoke [] do
    caught do
      let size ← resolutions ds videoDisplay
      collect size (resolutionName ds) emplaceBack
    publish fun list _ => .of list

def supportedProfiles (audioPort : Text) : Query World L Out Nat := do
  let strAudioPort ← audioPortOrDefault ds audioPort
  let _ ← Method.ask ds .hostGetInstance
  let aPort ← Method.ask ds (.getAudioOutputPort strAudioPort)
  Method.ask ds (.getMS12AudioProfileList aPort)

def supportedMS12AudioProfiles (audioPort : Text) :
    World → ListResult Text → Ended World (List Text) (ListResult Text) :=
  invoke [] do
    caught do
      let size ← supportedProfiles ds audioPort
      collect size (fun index => Method.ask ds (.profileAt index)) emplaceBack
    publish fun list _ => .of list

/-! ## Single values -/

def defaultResolutionName (videoDisplay : Text) : Query World L Out Text := do
  let strVideoPort ← videoPortOrDefault ds videoDisplay
  let _ ← Method.ask ds .hostGetInstance
  let vPort ← Method.ask ds (.getVideoOutputPort strVideoPort)
  let resolution ← Method.ask ds (.getDefaultResolution vPort)
  Method.ask ds (.getResolutionName resolution)

def defaultResolution (videoDisplay : Text) :
    World → Text → Ended World Unit Text :=
  invoke () do
    caught do
      let name ← defaultResolutionName ds videoDisplay
      Method.setCaller fun _ published => { published with out := name }

inductive SupportedHDCPVer
  | hdcp14
  | hdcp22
  /-- Anything else the field may hold before it is assigned. -/
  | other (value : UInt8)
deriving DecidableEq, Repr

def reportHdcp (protocol : HdcpProtocol)
    (published : Published SupportedHDCPVer) : Published SupportedHDCPVer :=
  match protocol with
  | .version2X => { published with out := .hdcp22 }
  | .version1X => { published with out := .hdcp14 }
  | .other _ => { published with result := ERROR_GENERAL }

def hdcpProtocol (videoDisplay : Text) : Query World L Out HdcpProtocol := do
  let strVideoPort ← videoPortOrDefault ds videoDisplay
  let _ ← Method.ask ds .videoOutputPortConfigGetInstance
  let vPort ← Method.ask ds (.getPort strVideoPort)
  Method.ask ds (.getHDCPProtocol vPort)

def supportedHdcp (videoDisplay : Text) :
    World → SupportedHDCPVer → Ended World Unit SupportedHDCPVer :=
  invoke () do
    caught do
      let protocol ← hdcpProtocol ds videoDisplay
      Method.setCaller fun _ => reportHdcp protocol

/-! ## Capability words -/

structure Decoding (α : Type) where
  capabilities : Word
  list : List α

def Decoding.store {α : Type} (word : Word) (locals : Decoding α) :
    Decoding α :=
  { locals with capabilities := word }

/-- The values of `dsAUDIOSUPPORT_*`. -/
structure AudioSupport where
  none : Word
  atmos : Word
  dd : Word
  ddplus : Word
  dad : Word
  dapv2 : Word
  ms12 : Word

/-- The values of `dsMS12SUPPORT_*`. -/
structure MS12Support where
  none : Word
  dolbyVolume : Word
  inteligentEqualizer : Word
  dialogueEnhancer : Word

inductive AudioCapability
  | none
  | atmos
  | dd
  | ddplus
  | dad
  | dapv2
  | ms12
deriving DecidableEq, Repr

inductive MS12Capability
  | none
  | dolbyVolume
  | inteligentEqualizer
  | dialogueEnhancer
deriving DecidableEq, Repr

/-- `if (condition) list.emplace_back(item)` -/
def emplaceIf {α : Type} (condition : Prop) [Decidable condition] (item : α)
    (list : List α) : List α :=
  if condition then emplaceBack item list else list

def decodeAudio (bits : AudioSupport) (locals : Decoding AudioCapability) :
    Decoding AudioCapability :=
  let capabilities := locals.capabilities
  let list := emplaceIf (capabilities = 0) .none locals.list
  let list := emplaceIf (capabilities &&& bits.atmos ≠ 0) .atmos list
  let list := emplaceIf (capabilities &&& bits.dd ≠ 0) .dd list
  let list := emplaceIf (capabilities &&& bits.ddplus ≠ 0) .ddplus list
  let list := emplaceIf (capabilities &&& bits.dad ≠ 0) .dad list
  let list := emplaceIf (capabilities &&& bits.dapv2 ≠ 0) .dapv2 list
  let list := emplaceIf (capabilities &&& bits.ms12 ≠ 0) .ms12 list
  { locals with list }

def decodeMS12 (bits : MS12Support) (locals : Decoding MS12Capability) :
    Decoding MS12Capability :=
  let capabilities := locals.capabilities
  let list := emplaceIf (capabilities = 0) .none locals.list
  let list := emplaceIf (capabilities &&& bits.dolbyVolume ≠ 0) .dolbyVolume list
  let list := emplaceIf (capabilities &&& bits.inteligentEqualizer ≠ 0)
    .inteligentEqualizer list
  let list := emplaceIf (capabilities &&& bits.dialogueEnhancer ≠ 0)
    .dialogueEnhancer list
  { locals with list }

def audioCapabilities (bits : AudioSupport) (audioPort : Text) :
    World → ListResult AudioCapability →
      Ended World (Decoding AudioCapability) (ListResult AudioCapability) :=
  invoke ⟨bits.none, []⟩ do
    caught do
      let strAudioPort ← audioPortOrDefault ds audioPort
      let _ ← Method.ask ds .hostGetInstance
      let aPort ← Method.ask ds (.getAudioOutputPort strAudioPort)
      Method.askInto ds (.getAudioCapabilities aPort) Decoding.store
    Method.setLocals (decodeAudio bits)
    publish fun locals _ => .of locals.list

def ms12Capabilities (bits : MS12Support) (audioPort : Text) :
    World → ListResult MS12Capability →
      Ended World (Decoding MS12Capability) (ListResult MS12Capability) :=
  invoke ⟨bits.none, []⟩ do
    caught do
      let strAudioPort ← audioPortOrDefault ds audioPort
      let _ ← Method.ask ds .hostGetInstance
      let aPort ← Method.ask ds (.getAudioOutputPort strAudioPort)
      Method.askInto ds (.getMS12Capabilities aPort) Decoding.store
    Method.setLocals (decodeMS12 bits)
    publish fun locals _ => .of locals.list

end DeviceSettings
end DeviceInfoPlugin
