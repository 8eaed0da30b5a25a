import DeviceInfoPlugin.CallDiscipline
import DeviceInfoPlugin.CapabilityQueries

/-!
# The calls a query makes are grounded

Device Settings hands out ports, types, resolutions and lists; a call that is
given one of them it did not hand out, or an index a list does not have, is
undefined.  The rule `Grounded` names for each call where its arguments have
to come from, the name of a port included.
-/

namespace DeviceInfoPlugin
namespace DeviceSettings

open DeviceInfo (Text)
open Traced
open Unreliable

abbrev History := List (Event Ds Thrown)

/-- The caller's port name or, when that is empty, the default that Device
Settings has told. -/
def NamesPort (port name : Text) (told : Prop) : Prop :=
  (port ≠ [] ∧ name = port) ∨ (port = [] ∧ told)

def AudioPortNamed (port name : Text) (history : History) : Prop :=
  NamesPort port name (Answered (I := Ds) .getDefaultAudioPortName name history)

def VideoPortNamed (port name : Text) (history : History) : Prop :=
  NamesPort port name (Answered (I := Ds) .getDefaultVideoPortName name history)

/-- Some list of ports of this size has been handed out; `portAt` stands for
the element of either list. -/
def PortsAnnounced (size : Nat) (history : History) : Prop :=
  Answered (I := Ds) .getAudioOutputPorts size history ∨
    Answered (I := Ds) .getVideoOutputPorts size history

def ResolutionsAnnounced (size : Nat) (history : History) : Prop :=
  ∃ type, Answered (I := Ds) (.getSupportedResolutions type) size history

def ProfilesAnnounced (size : Nat) (history : History) : Prop :=
  ∃ port, Answered (I := Ds) (.getMS12AudioProfileList port) size history

def Grounded (port : Text) : Rule Ds Thrown := fun history call =>
  match call with
  | .hostGetInstance | .videoOutputPortConfigGetInstance => True
  | .getAudioOutputPorts | .getVideoOutputPorts | .getDefaultAudioPortName
  | .getDefaultVideoPortName => Answered (I := Ds) .hostGetInstance () history
  | .getAudioOutputPort name =>
      Answered (I := Ds) .hostGetInstance () history ∧
        AudioPortNamed port name history
  | .getVideoOutputPort name =>
      Answered (I := Ds) .hostGetInstance () history ∧
        VideoPortNamed port name history
  | .getPort name =>
      Answered (I := Ds) .videoOutputPortConfigGetInstance () history ∧
        VideoPortNamed port name history
  | .getPortName port => ∃ index, Answered (I := Ds) (.portAt index) port history
  | .getDefaultResolution port | .getType port =>
      ∃ name, Answered (I := Ds) (.getVideoOutputPort name) port history
  | .getHDCPProtocol port =>
      ∃ name, Answered (I := Ds) (.getPort name) port history
  | .getAudioCapabilities port | .getMS12Capabilities port
  | .getMS12AudioProfileList port =>
      ∃ name, Answered (I := Ds) (.getAudioOutputPort name) port history
  | .getResolutionName resolution =>
      (∃ port, Answered (I := Ds) (.getDefaultResolution port) resolution history) ∨
        ∃ index, Answered (I := Ds) (.resolutionAt index) resolution history
  | .getId type => ∃ port, Answered (I := Ds) (.getType port) type history
  | .getPortType id =>
      Answered (I := Ds) .videoOutputPortConfigGetInstance () history ∧
        ∃ type, Answered (I := Ds) (.getId type) id history
  | .getSupportedResolutions type =>
      ∃ id, Answered (I := Ds) (.getPortType id) type history
  | .portAt index => ∃ size, index < size ∧ PortsAnnounced size history
  | .resolutionAt index => ∃ size, index < size ∧ ResolutionsAnnounced size history
  | .profileAt index => ∃ size, index < size ∧ ProfilesAnnounced size history

section Queries

variable {World L Out α : Type} {ds : Callee Ds Thrown World}
  {history : History}

/-! ### The port -/

theorem audioPortOrDefault_disciplined (audioPort : Text)
    (hquiet : ¬ Threw history) :
    Disciplined (Grounded audioPort)
      (audioPortOrDefault ds audioPort : Query World L Out Text) history
      (AudioPortNamed audioPort) := by
  cases audioPort with
  | nil =>
      apply disciplined_ask_bind trivial hquiet
      intro _ history₁ hquiet₁ _ hinstance
      apply disciplined_ask hinstance hquiet₁
      intro name history₂ hname _
      exact Or.inr ⟨rfl, hname⟩
  | cons c rest => exact disciplined_pure hquiet (Or.inl ⟨by simp, rfl⟩)

theorem videoPortOrDefault_disciplined (videoDisplay : Text)
    (hquiet : ¬ Threw history) :
    Disciplined (Grounded videoDisplay)
      (videoPortOrDefault ds videoDisplay : Query World L Out Text) history
      (VideoPortNamed videoDisplay) := by
  cases videoDisplay with
  | nil =>
      apply disciplined_ask_bind trivial hquiet
      intro _ history₁ hquiet₁ _ hinstance
      apply disciplined_ask hinstance hquiet₁
      intro name history₂ hname _
      exact Or.inr ⟨rfl, hname⟩
  | cons c rest => exact disciplined_pure hquiet (Or.inl ⟨by simp, rfl⟩)

theorem NamesPort.later {port name : Text} {told told' : Prop}
    (hnames : NamesPort port name told) (htold : told → told') :
    NamesPort port name told' :=
  hnames.imp_right fun h => ⟨h.1, htold h.2⟩

/-- The calls that lead to an audio port, and whatever is done with it. -/
theorem audioPort_disciplined {audioPort : Text}
    (rest : Handle → Query World L Out α) {post : α → History → Prop}
    (hquiet : ¬ Threw history)
    (hrest : ∀ aPort history name, ¬ Threw history →
      Answered (I := Ds) (.getAudioOutputPort name) aPort history →
      Disciplined (Grounded audioPort) (rest aPort) history post) :
    Disciplined (Grounded audioPort) (do
        let strAudioPort ← audioPortOrDefault ds audioPort
        let _ ← Method.ask ds .hostGetInstance
        let aPort ← Method.ask ds (.getAudioOutputPort strAudioPort)
        rest aPort) history post := by
  apply (audioPortOrDefault_disciplined audioPort hquiet).bind
  intro name history₁ hquiet₁ _ hname
  apply disciplined_ask_bind trivial hquiet₁
  intro _ history₂ hquiet₂ hlater hinstance
  have hnamed : AudioPortNamed audioPort name history₂ :=
    hname.later fun h => h.later hlater
  apply disciplined_ask_bind ⟨hinstance, hnamed⟩ hquiet₂
  intro aPort history₃ hquiet₃ _ hport
  exact hrest aPort history₃ name hquiet₃ hport

theorem videoPort_disciplined {videoDisplay : Text}
    (rest : Handle → Query World L Out α) {post : α → History → Prop}
    (hquiet : ¬ Threw history)
    (hrest : ∀ vPort history name, ¬ Threw history →
      Answered (I := Ds) (.getVideoOutputPort name) vPort history →
      Disciplined (Grounded videoDisplay) (rest vPort) history post) :
    Disciplined (Grounded videoDisplay) (do
        let strVideoPort ← videoPortOrDefault ds videoDisplay
        let _ ← Method.ask ds .hostGetInstance
        let vPort ← Method.ask ds (.getVideoOutputPort strVideoPort)
        rest vPort) history post := by
  apply (videoPortOrDefault_disciplined videoDisplay hquiet).bind
  intro name history₁ hquiet₁ _ hname
  apply disciplined_ask_bind trivial hquiet₁
  intro _ history₂ hquiet₂ hlater hinstance
  have hnamed : VideoPortNamed videoDisplay name history₂ :=
    hname.later fun h => h.later hlater
  apply disciplined_ask_bind ⟨hinstance, hnamed⟩ hquiet₂
  intro vPort history₃ hquiet₃ _ hport
  exact hrest vPort history₃ name hquiet₃ hport

/-! ### Lists -/

/-- The loop over a list whose size `announced` was told: every index it
fetches is below that size. -/
theorem collect_disciplined {port : Text} {size : Nat}
    {fetch : Nat → Query World (List α) Out α}
    {add : α → List α → List α} {announced : History → Prop}
    (hquiet : ¬ Threw history) (hannounced : announced history)
    (hfetch : ∀ index history, index < size → ¬ Threw history →
      announced history →
      Disciplined (Grounded port) (fetch index) history
        fun _ => announced) :
    Disciplined (Grounded port) (collect size fetch add) history
      fun _ => announced := by
  apply disciplined_forEach _ ?_ hquiet hannounced
  intro index hindex history₁ hquiet₁ hannounced₁
  have hbelow : index < size := by
    simpa using hindex
  apply (hfetch index history₁ hbelow hquiet₁ hannounced₁).bind
  intro item history₂ hquiet₂ _ hannounced₂
  exact disciplined_setLocals hquiet₂ hannounced₂

theorem portName_disciplined {port : Text} {index size : Nat}
    (hbelow : index < size) (hquiet : ¬ Threw history)
    (hannounced : PortsAnnounced size history) :
    Disciplined (Grounded port) (portName ds index : Query World L Out Text)
      history fun _ => PortsAnnounced size := by
  apply disciplined_ask_bind ⟨size, hbelow, hannounced⟩ hquiet
  intro handle history₁ hquiet₁ hlater hport
  apply disciplined_ask ⟨index, hport⟩ hquiet₁
  intro _ history₂ _ hlater'
  have h := hlater.trans hlater'
  exact hannounced.imp (·.later h) (·.later h)

theorem resolutionName_disciplined {port : Text} {index size : Nat}
    (hbelow : index < size) (hquiet : ¬ Threw history)
    (hannounced : ResolutionsAnnounced size history) :
    Disciplined (Grounded port)
      (resolutionName ds index : Query World L Out Text) history
      fun _ => ResolutionsAnnounced size := by
  apply disciplined_ask_bind ⟨size, hbelow, hannounced⟩ hquiet
  intro resolution history₁ hquiet₁ hlater hresolution
  apply disciplined_ask (Or.inr ⟨index, hresolution⟩) hquiet₁
  intro _ history₂ _ hlater'
  rcases hannounced with ⟨type, htype⟩
  exact ⟨type, htype.later (hlater.trans hlater')⟩

theorem profileAt_disciplined {port : Text} {index size : Nat}
    (hbelow : index < size) (hquiet : ¬ Threw history)
    (hannounced : ProfilesAnnounced size history) :
    Disciplined (Grounded port)
      (Method.ask ds (.profileAt index) : Query World L Out Text) history
      fun _ => ProfilesAnnounced size := by
  apply disciplined_ask ⟨size, hbelow, hannounced⟩ hquiet
  intro _ history₁ _ hlater
  rcases hannounced with ⟨aPort, hport⟩
  exact ⟨aPort, hport.later hlater⟩

/-! ### The whole query -/

theorem obeys_caught {rule : Rule Ds Thrown} {body : Query World L Out Unit}
    {post : Unit → History → Prop} (hbody : Disciplined rule body [] post)
    (s : Frame World L (Published Out)) :
    Wp (caught body) (fun _ trace _ => Obeys rule [] trace)
      (fun _ _ _ => False) s := by
  rw [wp_caught]
  apply (hbody s).mono
  · intro _ trace s' hended
    exact hended.1
  · intro thrown trace s' hobeys
    exact hobeys

/-- The handlers and what follows the try block call nothing. -/
theorem obeys_invoke {rule : Rule Ds Thrown} {body : Query World L Out Unit}
    {post : Unit → History → Prop} (hbody : Disciplined rule body [] post)
    (locals : L) (world : World) (prior : Out) :
    Obeys rule [] (invoke locals (caught body) world prior).trace := by
  obtain ⟨_, _, hobeys⟩ := (obeys_caught hbody _).returns
  exact hobeys

theorem obeys_invoke_after {rule : Rule Ds Thrown}
    {body : Query World L Out Unit} {post : Unit → History → Prop}
    (hbody : Disciplined rule body [] post) (locals : L) (after : L → L)
    (assign : L → Out → Out) (world : World) (prior : Out) :
    Obeys rule []
      (invoke locals (do
        caught body
        Method.setLocals after
        publish assign) world prior).trace := by
  have hwp : Wp (do
        caught body
        Method.setLocals after
        publish assign : Query World L Out Unit)
      (fun _ trace _ => Obeys rule [] trace) (fun _ _ _ => False)
      ⟨world, locals, ⟨ERROR_NONE, prior⟩⟩ := by
    rw [wp_bind]
    apply (obeys_caught hbody _).mono
    · intro _ trace s' hobeys
      simpa [Method.setLocals, publish, Method.setCaller] using hobeys
    · intro thrown trace s' hfalse
      exact hfalse
  obtain ⟨_, _, hobeys⟩ := hwp.returns
  exact hobeys

theorem obeys_invoke_publish {rule : Rule Ds Thrown}
    {body : Query World L Out Unit} {post : Unit → History → Prop}
    (hbody : Disciplined rule body [] post) (locals : L)
    (assign : L → Out → Out) (world : World) (prior : Out) :
    Obeys rule []
      (invoke locals (do
        caught body
        publish assign) world prior).trace :=
  obeys_invoke_after hbody locals id assign world prior

end Queries

/-! ## The queries -/

section Grounded

variable {World : Type} {ds : Callee Ds Thrown World} (world : World)

theorem list_grounded {port : Text}
    {announce : Query World (List Text) (ListResult Text) Nat}
    {fetch : Nat → Query World (List Text) (ListResult Text) Text}
    {add : Text → List Text → List Text} (announced : Nat → History → Prop)
    (hannounce : Disciplined (Grounded port) announce [] announced)
    (hfetch : ∀ size index history, index < size → ¬ Threw history →
      announced size history →
      Disciplined (Grounded port) (fetch index) history
        fun _ => announced size)
    (prior : ListResult Text) :
    Obeys (Grounded port) []
      (invoke [] (do
        caught do
          let size ← announce
          collect size fetch add
        publish fun list _ => .of list) world prior).trace := by
  have hbody : Disciplined (Grounded port) (do
        let size ← announce
        collect size fetch add) [] fun _ _ => True := by
    apply hannounce.bind
    intro size history hquiet _ hannounced
    have hcollect : Disciplined (Grounded port) (collect size fetch add) history
        fun _ => announced size :=
      collect_disciplined hquiet hannounced (hfetch size)
    exact hcollect.mono fun _ _ _ => trivial
  exact obeys_invoke_publish hbody _ _ _ _

theorem supportedAudioPorts_grounded (port : Text) (prior : ListResult Text) :
    Obeys (Grounded port) [] (supportedAudioPorts ds world prior).trace := by
  apply list_grounded world PortsAnnounced
  · apply disciplined_ask_bind trivial threw_nil
    intro _ history hquiet _ hinstance
    exact disciplined_ask hinstance hquiet fun _ _ hanswered _ => .inl hanswered
  · intro size index history hbelow hquiet hannounced
    exact portName_disciplined hbelow hquiet hannounced

theorem supportedVideoDisplays_grounded (port : Text)
    (prior : ListResult Text) :
    Obeys (Grounded port) [] (supportedVideoDisplays ds world prior).trace := by
  apply list_grounded world PortsAnnounced
  · apply disciplined_ask_bind trivial threw_nil
    intro _ history hquiet _ hinstance
    exact disciplined_ask hinstance hquiet fun _ _ hanswered _ => .inr hanswered
  · intro size index history hbelow hquiet hannounced
    exact portName_disciplined hbelow hquiet hannounced

theorem supportedMS12AudioProfiles_grounded (audioPort : Text)
    (prior : ListResult Text) :
    Obeys (Grounded audioPort) []
      (supportedMS12AudioProfiles ds audioPort world prior).trace := by
  apply list_grounded world ProfilesAnnounced
  · apply audioPort_disciplined (fun aPort =>
      Method.ask ds (.getMS12AudioProfileList aPort)) threw_nil
    intro aPort history name hquiet hport
    exact disciplined_ask ⟨name, hport⟩ hquiet fun _ _ hanswered _ =>
      ⟨aPort, hanswered⟩
  · intro size index history hbelow hquiet hannounced
    exact profileAt_disciplined hbelow hquiet hannounced

theorem supportedResolutions_grounded (videoDisplay : Text)
    (prior : ListResult Text) :
    Obeys (Grounded videoDisplay) []
      (supportedResolutions ds videoDisplay world prior).trace := by
  apply list_grounded world ResolutionsAnnounced
  · apply videoPort_disciplined (fun vPort => do
      let _ ← Method.ask ds .videoOutputPortConfigGetInstance
      let type ← Method.ask ds (.getType vPort)
      let id ← Method.ask ds (.getId type)
      let portType ← Method.ask ds (.getPortType id)
      Method.ask ds (.getSupportedResolutions portType)) threw_nil
    intro vPort history name hquiet hport
    apply disciplined_ask_bind trivial hquiet
    intro _ history₁ hquiet₁ hlater₁ hconfig
    apply disciplined_ask_bind ⟨name, hport.later hlater₁⟩ hquiet₁
    intro type history₂ hquiet₂ hlater₂ htype
    apply disciplined_ask_bind ⟨vPort, htype⟩ hquiet₂
    intro id history₃ hquiet₃ hlater₃ hid
    have hconfig₃ := hconfig.later (hlater₂.trans hlater₃)
    apply disciplined_ask_bind ⟨hconfig₃, type, hid⟩ hquiet₃
    intro portType history₄ hquiet₄ _ hportType
    exact disciplined_ask ⟨id, hportType⟩ hquiet₄ fun _ _ hanswered _ =>
      ⟨portType, hanswered⟩
  · intro size index history hbelow hquiet hannounced
    exact resolutionName_disciplined hbelow hquiet hannounced

theorem defaultResolution_grounded (videoDisplay prior : Text) :
    Obeys (Grounded videoDisplay) []
      (defaultResolution ds videoDisplay world prior).trace := by
  have hname : Disciplined (Grounded videoDisplay)
      (defaultResolutionName ds videoDisplay : Query World Unit Text Text) []
      fun _ _ => True := by
    apply videoPort_disciplined (fun vPort => do
      let resolution ← Method.ask ds (.getDefaultResolution vPort)
      Method.ask ds (.getResolutionName resolution)) threw_nil
    intro vPort history name hquiet hport
    apply disciplined_ask_bind ⟨name, hport⟩ hquiet
    intro resolution history₁ hquiet₁ _ hresolution
    exact disciplined_ask (Or.inl ⟨vPort, hresolution⟩) hquiet₁
      fun _ _ _ _ => trivial
  have hbody : Disciplined (Grounded videoDisplay) (do
        let name ← defaultResolutionName ds videoDisplay
        Method.setCaller fun _ published => { published with out := name } :
          Query World Unit Text Unit) [] fun _ _ => True := by
    apply hname.bind
    intro name history hquiet _ _
    exact disciplined_setCaller hquiet trivial
  exact obeys_invoke hbody _ _ _

theorem supportedHdcp_grounded (videoDisplay : Text)
    (prior : SupportedHDCPVer) :
    Obeys (Grounded videoDisplay) []
      (supportedHdcp ds videoDisplay world prior).trace := by
  have hprotocol : Disciplined (Grounded videoDisplay)
      (hdcpProtocol ds videoDisplay :
        Query World Unit SupportedHDCPVer HdcpProtocol) [] fun _ _ => True := by
    apply (videoPortOrDefault_disciplined videoDisplay threw_nil).bind
    intro name history₁ hquiet₁ _ hname
    apply disciplined_ask_bind trivial hquiet₁
    intro _ history₂ hquiet₂ hlater hconfig
    have hnamed : VideoPortNamed videoDisplay name history₂ :=
      NamesPort.later hname fun h => h.later hlater
    apply disciplined_ask_bind ⟨hconfig, hnamed⟩ hquiet₂
    intro vPort history₃ hquiet₃ _ hport
    exact disciplined_ask ⟨name, hport⟩ hquiet₃ fun _ _ _ _ => trivial
  have hbody : Disciplined (Grounded videoDisplay) (do
        let protocol ← hdcpProtocol ds videoDisplay
        Method.setCaller fun _ => reportHdcp protocol :
          Query World Unit SupportedHDCPVer Unit) [] fun _ _ => True := by
    apply hprotocol.bind
    intro protocol history hquiet _ _
    exact disciplined_setCaller hquiet trivial
  exact obeys_invoke hbody _ _ _

theorem audioCapabilities_grounded (bits : AudioSupport) (audioPort : Text)
    (prior : ListResult AudioCapability) :
    Obeys (Grounded audioPort) []
      (audioCapabilities ds bits audioPort world prior).trace := by
  have hbody : Disciplined (Grounded audioPort) (do
        let strAudioPort ← audioPortOrDefault ds audioPort
        let _ ← Method.ask ds .hostGetInstance
        let aPort ← Method.ask ds (.getAudioOutputPort strAudioPort)
        Method.askInto ds (.getAudioCapabilities aPort) Decoding.store :
          Query World (Decoding AudioCapability) (ListResult AudioCapability) Unit)
      [] fun _ _ => True := by
    apply audioPort_disciplined (fun aPort =>
      Method.askInto ds (.getAudioCapabilities aPort) Decoding.store) threw_nil
    intro aPort history name hquiet hport
    exact disciplined_askInto ⟨name, hport⟩ hquiet fun _ _ _ _ => trivial
  exact obeys_invoke_after hbody _ _ _ _ _

theorem ms12Capabilities_grounded (bits : MS12Support) (audioPort : Text)
    (prior : ListResult MS12Capability) :
    Obeys (Grounded audioPort) []
      (ms12Capabilities ds bits audioPort world prior).trace := by
  have hbody : Disciplined (Grounded audioPort) (do
        let strAudioPort ← audioPortOrDefault ds audioPort
        let _ ← Method.ask ds .hostGetInstance
        let aPort ← Method.ask ds (.getAudioOutputPort strAudioPort)
        Method.askInto ds (.getMS12Capabilities aPort) Decoding.store :
          Query World (Decoding MS12Capability) (ListResult MS12Capability) Unit)
      [] fun _ _ => True := by
    apply audioPort_disciplined (fun aPort =>
      Method.askInto ds (.getMS12Capabilities aPort) Decoding.store) threw_nil
    intro aPort history name hquiet hport
    exact disciplined_askInto ⟨name, hport⟩ hquiet fun _ _ _ _ => trivial
  exact obeys_invoke_after hbody _ _ _ _ _

end Grounded

/-- Whatever Device Settings answers, a query passes on only handles and names
it was given in the same call, fetches list elements below the size it was
told, and calls nothing more once a call has thrown. -/
theorem queries_grounded {World : Type} (ds : Callee Ds Thrown World)
    (world : World) (port : Text) :
    (∀ prior, Obeys (Grounded port) []
      (supportedAudioPorts ds world prior).trace) ∧
    (∀ prior, Obeys (Grounded port) []
      (supportedVideoDisplays ds world prior).trace) ∧
    (∀ prior, Obeys (Grounded port) []
      (supportedResolutions ds port world prior).trace) ∧
    (∀ prior, Obeys (Grounded port) []
      (defaultResolution ds port world prior).trace) ∧
    (∀ prior, Obeys (Grounded port) []
      (supportedHdcp ds port world prior).trace) ∧
    (∀ bits prior, Obeys (Grounded port) []
      (audioCapabilities ds bits port world prior).trace) ∧
    (∀ bits prior, Obeys (Grounded port) []
      (ms12Capabilities ds bits port world prior).trace) ∧
    (∀ prior, Obeys (Grounded port) []
      (supportedMS12AudioProfiles ds port world prior).trace) :=
  ⟨supportedAudioPorts_grounded world port,
    supportedVideoDisplays_grounded world port,
    supportedResolutions_grounded world port,
    defaultResolution_grounded world port,
    supportedHdcp_grounded world port,
    fun bits => audioCapabilities_grounded world bits port,
    fun bits => ms12Capabilities_grounded world bits port,
    supportedMS12AudioProfiles_grounded world port⟩

end DeviceSettings
end DeviceInfoPlugin
