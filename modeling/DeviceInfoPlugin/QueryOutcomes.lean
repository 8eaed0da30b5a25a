import DeviceInfoPlugin.CapabilityQueries

/-!
# Queries are all or nothing

Whatever Device Settings answers and wherever it throws, a query either
reports an error and leaves every out parameter as the caller passed it, or
succeeds and delivers what the calls of its trace answered.
-/

namespace DeviceInfoPlugin
namespace DeviceSettings

open DeviceInfo (Text)
open Traced
open Unreliable

def Returned (call : Call) (reply : call.Reply) (event : Event Ds Thrown) :
    Prop :=
  ∃ written, event = ⟨call, written, .ok reply⟩

/-! ## What the traces say about lists -/

def PortNameAt (index : Nat) (name : Text) (trace : List (Event Ds Thrown)) :
    Prop :=
  ∃ port first second, trace = [first, second] ∧
    Returned (.portAt index) port first ∧
    Returned (.getPortName port) name second

def ResolutionNameAt (index : Nat) (name : Text)
    (trace : List (Event Ds Thrown)) : Prop :=
  ∃ resolution first second, trace = [first, second] ∧
    Returned (.resolutionAt index) resolution first ∧
    Returned (.getResolutionName resolution) name second

def ProfileAt (index : Nat) (profile : Text) (trace : List (Event Ds Thrown)) :
    Prop :=
  ∃ event, trace = [event] ∧ Returned (.profileAt index) profile event

/-- The trace announces a list of as many elements as there are items, and
then fetches the items in order. -/
def Lists (announces : Nat → Event Ds Thrown → Prop)
    (element : Nat → Text → List (Event Ds Thrown) → Prop) (items : List Text)
    (trace : List (Event Ds Thrown)) : Prop :=
  ∃ before announcement later, trace = before ++ announcement :: later ∧
    announces items.length announcement ∧ Enumerates element 0 items later

variable {World L Out : Type} {ds : Callee Ds Thrown World}

theorem portName_quiet (index : Nat) (locals : L) :
    Quiet (portName ds index : Query World L Out Text) locals
      fun name trace locals' =>
        PortNameAt index name trace ∧ locals' = locals :=
  quiet_ask_bind fun _ port => quiet_ask fun _ _ =>
    ⟨⟨port, _, _, rfl, ⟨_, rfl⟩, ⟨_, rfl⟩⟩, rfl⟩

theorem resolutionName_quiet (index : Nat) (locals : L) :
    Quiet (resolutionName ds index : Query World L Out Text) locals
      fun name trace locals' =>
        ResolutionNameAt index name trace ∧ locals' = locals :=
  quiet_ask_bind fun _ resolution => quiet_ask fun _ _ =>
    ⟨⟨resolution, _, _, rfl, ⟨_, rfl⟩, ⟨_, rfl⟩⟩, rfl⟩

theorem profileAt_quiet (index : Nat) (locals : L) :
    Quiet (Method.ask ds (.profileAt index) : Query World L Out Text) locals
      fun profile trace locals' =>
        ProfileAt index profile trace ∧ locals' = locals :=
  quiet_ask fun _ _ => ⟨⟨_, rfl, _, rfl⟩, rfl⟩

def DeliversList (announces : Nat → Event Ds Thrown → Prop)
    (element : Nat → Text → List (Event Ds Thrown) → Prop)
    (deliver : List Text → List Text) (trace : List (Event Ds Thrown))
    (published : Published (ListResult Text)) : Prop :=
  ∃ items, Lists announces element items trace ∧
    published = ⟨ERROR_NONE, .of (deliver items)⟩

/-- The three parts of a list query: the calls that lead to the list, the loop
over its elements, and the publication. -/
theorem list_allOrNothing {announce : Query World (List Text) _ Nat}
    {fetch : Nat → Query World (List Text) (ListResult Text) Text}
    {announces : Nat → Event Ds Thrown → Prop}
    {element : Nat → Text → List (Event Ds Thrown) → Prop}
    {add : Text → List Text → List Text} {deliver : List Text → List Text}
    (hannounce : Quiet announce []
      (EndsIn fun size event locals => announces size event ∧ locals = []))
    (hfetch : ∀ index locals, Quiet (fetch index) locals
      fun item trace locals' => element index item trace ∧ locals' = locals)
    (hadd : ∀ items, items.foldl (fun list item => add item list) [] =
      deliver items)
    (world : World) (prior : ListResult Text) :
    AllOrNothing
      (invoke [] (do
        caught do
          let size ← announce
          collect size fetch add
        publish fun list _ => .of list) world prior) prior
      (DeliversList announces element deliver) := by
  have hbody : Quiet (do
        let size ← announce
        collect size fetch add : Query World (List Text) (ListResult Text) Unit)
      [] fun _ trace locals' => ∃ items, Lists announces element items trace ∧
        locals' = items.foldl (fun list item => add item list) [] := by
    apply hannounce.bind
    intro size trace locals' hannounced
    rcases hannounced with ⟨before, announcement, htrace, hsize, hlocals⟩
    rw [hlocals]
    apply (quiet_collect hfetch 0 size []).mono
    intro _ later locals'' hcollected
    rcases hcollected with ⟨items, hlength, hitems, hlocals'⟩
    have hwhole : trace ++ later = before ++ announcement :: later := by
      simp [htrace]
    rw [← hlength] at hsize
    exact ⟨items, ⟨before, announcement, later, hwhole, hsize, hitems⟩,
      hlocals'⟩
  have hcall := allOrNothing_publish (fun list _ => ListResult.of list) hbody
    world prior
  apply hcall.mono
  intro trace published hdelivered
  rcases hdelivered with ⟨list, ⟨items, hitems, hlist⟩, hpublished⟩
  rw [hlist, hadd] at hpublished
  exact ⟨items, hitems, hpublished⟩

theorem foldl_emplaceBack (items list : List Text) :
    items.foldl (fun list item => emplaceBack item list) list = list ++ items := by
  induction items generalizing list with
  | nil => simp
  | cons item items ih =>
      rw [List.foldl_cons, ih]
      simp [emplaceBack]

def firstOccurrences (names : List Text) : List Text :=
  names.foldl (fun list name => emplaceNew name list) []

/-! ## The ports -/

theorem videoPortOrDefault_keeps (videoDisplay : Text) (locals : L) :
    Quiet (videoPortOrDefault ds videoDisplay : Query World L Out Text) locals
      fun _ _ locals' => locals' = locals := by
  cases videoDisplay with
  | nil => exact quiet_ask_bind fun _ _ => quiet_ask fun _ _ => rfl
  | cons => exact quiet_pure rfl

theorem audioPortOrDefault_keeps (audioPort : Text) (locals : L) :
    Quiet (audioPortOrDefault ds audioPort : Query World L Out Text) locals
      fun _ _ locals' => locals' = locals := by
  cases audioPort with
  | nil => exact quiet_ask_bind fun _ _ => quiet_ask fun _ _ => rfl
  | cons => exact quiet_pure rfl

/-- The way to an audio port, which three queries share. -/
theorem quiet_audioPort_endsIn {α : Type} (audioPort : Text) {locals : L}
    (next : Handle → Query World L Out α) {R : α → Event Ds Thrown → L → Prop}
    (hnext : ∀ aPort, Quiet (next aPort) locals (EndsIn R)) :
    Quiet (do
        let strAudioPort ← audioPortOrDefault ds audioPort
        let _ ← Method.ask ds .hostGetInstance
        let aPort ← Method.ask ds (.getAudioOutputPort strAudioPort)
        next aPort) locals (EndsIn R) := by
  apply (audioPortOrDefault_keeps audioPort locals).bind_endsIn
  intro strAudioPort
  apply quiet_ask_bind_endsIn
  intro _
  apply quiet_ask_bind_endsIn
  exact hnext

/-! ## The list queries -/

theorem supportedAudioPorts_allOrNothing (world : World)
    (prior : ListResult Text) :
    AllOrNothing (supportedAudioPorts ds world prior) prior
      (DeliversList (Returned .getAudioOutputPorts) PortNameAt id) := by
  unfold supportedAudioPorts
  apply list_allOrNothing ?_ portName_quiet (foldl_emplaceBack · [])
  apply quiet_ask_bind_endsIn
  intro _
  apply quiet_ask_endsIn
  intro written _
  exact ⟨⟨written, rfl⟩, rfl⟩

theorem supportedVideoDisplays_allOrNothing (world : World)
    (prior : ListResult Text) :
    AllOrNothing (supportedVideoDisplays ds world prior) prior
      (DeliversList (Returned .getVideoOutputPorts) PortNameAt
        firstOccurrences) := by
  unfold supportedVideoDisplays
  apply list_allOrNothing ?_ portName_quiet (fun _ => rfl)
  apply quiet_ask_bind_endsIn
  intro _
  apply quiet_ask_endsIn
  intro written _
  exact ⟨⟨written, rfl⟩, rfl⟩

def AnnouncesResolutions (size : Nat) (event : Event Ds Thrown) : Prop :=
  ∃ portType, Returned (.getSupportedResolutions portType) size event

theorem supportedResolutions_allOrNothing (videoDisplay : Text) (world : World)
    (prior : ListResult Text) :
    AllOrNothing (supportedResolutions ds videoDisplay world prior) prior
      (DeliversList AnnouncesResolutions ResolutionNameAt id) := by
  unfold supportedResolutions
  apply list_allOrNothing ?_ resolutionName_quiet (foldl_emplaceBack · [])
  apply (videoPortOrDefault_keeps videoDisplay []).bind_endsIn
  intro strVideoPort
  apply quiet_ask_bind_endsIn
  intro _
  apply quiet_ask_bind_endsIn
  intro vPort
  apply quiet_ask_bind_endsIn
  intro _
  apply quiet_ask_bind_endsIn
  intro type
  apply quiet_ask_bind_endsIn
  intro id
  apply quiet_ask_bind_endsIn
  intro portType
  apply quiet_ask_endsIn
  intro written _
  exact ⟨⟨portType, written, rfl⟩, rfl⟩

def AnnouncesProfiles (size : Nat) (event : Event Ds Thrown) : Prop :=
  ∃ port, Returned (.getMS12AudioProfileList port) size event

theorem supportedMS12AudioProfiles_allOrNothing (audioPort : Text)
    (world : World) (prior : ListResult Text) :
    AllOrNothing (supportedMS12AudioProfiles ds audioPort world prior) prior
      (DeliversList AnnouncesProfiles ProfileAt id) := by
  unfold supportedMS12AudioProfiles
  apply list_allOrNothing ?_ profileAt_quiet (foldl_emplaceBack · [])
  apply quiet_audioPort_endsIn audioPort fun aPort =>
    Method.ask ds (.getMS12AudioProfileList aPort)
  intro aPort
  apply quiet_ask_endsIn
  intro written _
  exact ⟨⟨aPort, written, rfl⟩, rfl⟩

/-! ## The queries for one value -/

def EndsWith {α : Type} (R : α → Event Ds Thrown → Prop) (a : α)
    (trace : List (Event Ds Thrown)) : Prop :=
  ∃ before last, trace = before ++ [last] ∧ R a last

def NamesResolution (name : Text) (event : Event Ds Thrown) : Prop :=
  ∃ resolution, Returned (.getResolutionName resolution) name event

def DeliversResolution (trace : List (Event Ds Thrown))
    (published : Published Text) : Prop :=
  ∃ name, EndsWith NamesResolution name trace ∧ published = ⟨ERROR_NONE, name⟩

def TellsProtocol (protocol : HdcpProtocol) (event : Event Ds Thrown) : Prop :=
  ∃ port, Returned (.getHDCPProtocol port) protocol event

/-- The protocol that the last call returned is delivered if it is one of the
two, and otherwise nothing is. -/
def DeliversHdcp (prior : SupportedHDCPVer) (trace : List (Event Ds Thrown))
    (published : Published SupportedHDCPVer) : Prop :=
  ∃ protocol, EndsWith TellsProtocol protocol trace ∧
    published =
      match protocol with
      | .version2X => ⟨ERROR_NONE, .hdcp22⟩
      | .version1X => ⟨ERROR_NONE, .hdcp14⟩
      | .other _ => ⟨ERROR_GENERAL, prior⟩

/-- A query for one value: the calls that lead to it, and its assignment. -/
theorem value_allOrNothing {α : Type} {part : Query World Unit Out α}
    {R : α → Event Ds Thrown → Prop} (store : α → Published Out → Published Out)
    (hpart : Quiet part () (EndsIn fun a event _ => R a event))
    (world : World) (prior : Out) :
    AllOrNothing
      (invoke () (caught do
        let a ← part
        Method.setCaller fun _ => store a) world prior) prior
      fun trace published => ∃ a, EndsWith R a trace ∧
        published = store a ⟨ERROR_NONE, prior⟩ := by
  have hcall := allOrNothing_store store hpart world prior
  apply hcall.mono
  intro trace published hdelivered
  rcases hdelivered with ⟨a, _, hlast, hpublished⟩
  exact ⟨a, hlast, hpublished⟩

theorem defaultResolution_allOrNothing (videoDisplay : Text) (world : World)
    (prior : Text) :
    AllOrNothing (defaultResolution ds videoDisplay world prior) prior
      DeliversResolution := by
  have hpart : Quiet
      (defaultResolutionName ds videoDisplay : Query World Unit Text _) ()
      (EndsIn fun name event _ => NamesResolution name event) := by
    apply (videoPortOrDefault_keeps videoDisplay ()).bind_endsIn
    intro strVideoPort
    apply quiet_ask_bind_endsIn
    intro _
    apply quiet_ask_bind_endsIn
    intro vPort
    apply quiet_ask_bind_endsIn
    intro resolution
    apply quiet_ask_endsIn
    intro written _
    exact ⟨resolution, written, rfl⟩
  exact value_allOrNothing
    (fun name published => { published with out := name }) hpart world prior

theorem supportedHdcp_allOrNothing (videoDisplay : Text) (world : World)
    (prior : SupportedHDCPVer) :
    AllOrNothing (supportedHdcp ds videoDisplay world prior) prior
      (DeliversHdcp prior) := by
  have hpart : Quiet
      (hdcpProtocol ds videoDisplay : Query World Unit SupportedHDCPVer _) ()
      (EndsIn fun protocol event _ => TellsProtocol protocol event) := by
    apply (videoPortOrDefault_keeps videoDisplay ()).bind_endsIn
    intro strVideoPort
    apply quiet_ask_bind_endsIn
    intro _
    apply quiet_ask_bind_endsIn
    intro vPort
    apply quiet_ask_endsIn
    intro written _
    exact ⟨vPort, written, rfl⟩
  have hcall := value_allOrNothing reportHdcp hpart world prior
  apply hcall.mono
  intro trace published hdelivered
  rcases hdelivered with ⟨protocol, hlast, hpublished⟩
  use protocol, hlast
  rw [hpublished]
  cases protocol <;> rfl

/-! ## The capability words -/

/-- The word the call left behind, the initial one if it stored none. -/
def LeavesAudioWord (initial word : Word) (event : Event Ds Thrown) : Prop :=
  ∃ (port : Handle) (written : Option Word),
    event = ⟨.getAudioCapabilities port, written, .ok ()⟩ ∧
      word = written.getD initial

def LeavesMS12Word (initial word : Word) (event : Event Ds Thrown) : Prop :=
  ∃ (port : Handle) (written : Option Word),
    event = ⟨.getMS12Capabilities port, written, .ok ()⟩ ∧
      word = written.getD initial

def DeliversDecoded {α : Type} (leaves : Word → Event Ds Thrown → Prop)
    (decode : Decoding α → Decoding α) (trace : List (Event Ds Thrown))
    (published : Published (ListResult α)) : Prop :=
  ∃ word, EndsWith leaves word trace ∧
    published = ⟨ERROR_NONE, .of (decode ⟨word, []⟩).list⟩

theorem word_allOrNothing {α : Type}
    {part : Query World (Decoding α) (ListResult α) Unit} {initial : Word}
    {leaves : Word → Event Ds Thrown → Prop} (decode : Decoding α → Decoding α)
    (hpart : Quiet part ⟨initial, []⟩ (EndsIn fun _ event locals =>
      leaves locals.capabilities event ∧ locals.list = []))
    (world : World) (prior : ListResult α) :
    AllOrNothing
      (invoke ⟨initial, []⟩ (do
        caught part
        Method.setLocals decode
        publish fun locals _ => .of locals.list) world prior) prior
      (DeliversDecoded leaves decode) := by
  have hcall := allOrNothing_publish_after decode
    (fun locals _ => ListResult.of locals.list) hpart world prior
  apply hcall.mono
  intro trace published hdelivered
  rcases hdelivered with
    ⟨⟨word, list⟩, ⟨before, last, htrace, hleaves, hlist⟩, hpublished⟩
  have hempty : list = [] := hlist
  rw [hempty] at hpublished
  exact ⟨word, ⟨before, last, htrace, hleaves⟩, hpublished⟩

theorem audioCapabilities_allOrNothing (bits : AudioSupport) (audioPort : Text)
    (world : World) (prior : ListResult AudioCapability) :
    AllOrNothing (audioCapabilities ds bits audioPort world prior) prior
      (DeliversDecoded (LeavesAudioWord bits.none) (decodeAudio bits)) := by
  apply word_allOrNothing
  apply quiet_audioPort_endsIn audioPort fun aPort =>
    Method.askInto ds (.getAudioCapabilities aPort) Decoding.store
  intro aPort
  apply quiet_askInto_endsIn
  intro written _
  cases written with
  | none => exact ⟨⟨aPort, none, rfl, rfl⟩, rfl⟩
  | some word => exact ⟨⟨aPort, some word, rfl, rfl⟩, rfl⟩

theorem ms12Capabilities_allOrNothing (bits : MS12Support) (audioPort : Text)
    (world : World) (prior : ListResult MS12Capability) :
    AllOrNothing (ms12Capabilities ds bits audioPort world prior) prior
      (DeliversDecoded (LeavesMS12Word bits.none) (decodeMS12 bits)) := by
  apply word_allOrNothing
  apply quiet_audioPort_endsIn audioPort fun aPort =>
    Method.askInto ds (.getMS12Capabilities aPort) Decoding.store
  intro aPort
  apply quiet_askInto_endsIn
  intro written _
  cases written with
  | none => exact ⟨⟨aPort, none, rfl, rfl⟩, rfl⟩
  | some word => exact ⟨⟨aPort, some word, rfl, rfl⟩, rfl⟩

/-- Every query, with every port argument and every content of the caller's
out parameters, and whatever Device Settings does. -/
theorem queries_allOrNothing (ds : Callee Ds Thrown World) (world : World)
    (audioBits : AudioSupport) (ms12Bits : MS12Support) (port : Text) :
    (∀ prior, AllOrNothing (supportedAudioPorts ds world prior) prior
      (DeliversList (Returned .getAudioOutputPorts) PortNameAt id)) ∧
    (∀ prior, AllOrNothing (supportedVideoDisplays ds world prior) prior
      (DeliversList (Returned .getVideoOutputPorts) PortNameAt
        firstOccurrences)) ∧
    (∀ prior, AllOrNothing (supportedResolutions ds port world prior) prior
      (DeliversList AnnouncesResolutions ResolutionNameAt id)) ∧
    (∀ prior, AllOrNothing (defaultResolution ds port world prior) prior
      DeliversResolution) ∧
    (∀ prior, AllOrNothing (supportedHdcp ds port world prior) prior
      (DeliversHdcp prior)) ∧
    (∀ prior, AllOrNothing (audioCapabilities ds audioBits port world prior)
      prior
      (DeliversDecoded (LeavesAudioWord audioBits.none)
        (decodeAudio audioBits))) ∧
    (∀ prior, AllOrNothing (ms12Capabilities ds ms12Bits port world prior) prior
      (DeliversDecoded (LeavesMS12Word ms12Bits.none) (decodeMS12 ms12Bits))) ∧
    ∀ prior, AllOrNothing (supportedMS12AudioProfiles ds port world prior) prior
      (DeliversList AnnouncesProfiles ProfileAt id) :=
  ⟨supportedAudioPorts_allOrNothing world,
    supportedVideoDisplays_allOrNothing world,
    supportedResolutions_allOrNothing port world,
    defaultResolution_allOrNothing port world,
    supportedHdcp_allOrNothing port world,
    audioCapabilities_allOrNothing audioBits port world,
    ms12Capabilities_allOrNothing ms12Bits port world,
    supportedMS12AudioProfiles_allOrNothing port world⟩

/-- Two audio ports, the second of which throws. -/
def flakyDs : Callee Ds Thrown Unit := fun _ call =>
  match call with
  | .hostGetInstance => (⟨none, .ok ()⟩, ())
  | .getAudioOutputPorts => (⟨none, .ok (2 : Nat)⟩, ())
  | .portAt index => (⟨none, .ok index⟩, ())
  | .getPortName 0 => (⟨none, .ok "SPDIF0".toList⟩, ())
  | _ => (⟨none, .error .other⟩, ())

example : (supportedAudioPorts flakyDs () ⟨none, false⟩).state.caller =
    ⟨ERROR_GENERAL, ⟨none, false⟩⟩ := rfl

end DeviceSettings
end DeviceInfoPlugin
