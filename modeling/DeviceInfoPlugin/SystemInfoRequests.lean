import DeviceInfoPlugin.ObjectLifetime
import DeviceInfoPlugin.HandlerBacking
import DeviceInfoPlugin.SystemInfo

/-!
# Requests for the system information while the plugin changes state

A `systeminfo` request goes to the object its handler set was registered with
and uses the shell stored there.  It can arrive between any two statements of
`Initialize` and `Deinitialize`, so the shell has to be there after each of
them, not only on their return.
-/

namespace DeviceInfoPlugin
namespace Lifecycle

open DeviceInfo
open InputRun
open Traced

/-- A request served now does not call through a null `_service`. -/
def State.ServesSystemInfo (s : State) : Prop :=
  ∀ object, s.handlers.deviceInfo = some object →
    ∀ sources device prior,
      (systemInfo (s.implementationService object) sources device prior).result ≠
        .error .nullService

theorem systemInfo_ne_nullService_iff {service : Option Shell} :
    (∀ sources device prior,
      (systemInfo service sources device prior).result ≠ .error .nullService) ↔
      service ≠ none := by
  constructor
  · intro hserves hnone
    rw [hnone] at hserves
    let sources : SystemSources :=
      ⟨none, [], [], [], 0, 0, 0, 0, 0, [], 0, none⟩
    let device : Device := ⟨fun _ => none, fun _ => ⟨.failure 0, [], 0⟩,
      fun _ => ⟨.failure 0, [' ', '\x00'], by simp⟩⟩
    let prior : SystemInfos := ⟨[], [], 0, 0, 0, 0, 0, [], [], [], ⟨0, 0, 0⟩⟩
    exact hserves sources device prior rfl
  · intro hsome sources device prior
    rcases Option.ne_none_iff_exists'.mp hsome with ⟨shell, rfl⟩
    by_cases hcopyable : (device.mfr .serialNumber).Copyable
    · rw [systemInfo_of_copyable shell sources prior hcopyable]
      simp
    · obtain ⟨fault, hcall⟩ :=
        systemInfo_of_not_copyable shell sources prior hcopyable
      rw [hcall]
      simp

theorem State.servesSystemInfo_iff (s : State) :
    s.ServesSystemInfo ↔ s.SystemInfoSafe :=
  forall₂_congr fun _ _ => systemInfo_ne_nullService_iff

section Cycle

variable {a : Activation} {s : State}

/-- Once the shell is stored, the handlers may be registered. -/
theorem register_all_serves {info : Object} {shell : Shell} {s : State}
    (hinfo : s.members.deviceInfo = some info)
    (hstored : s.implementationService info = some shell) (message : String) :
    Always (fun t => t.after.SystemInfoSafe) (do
        statement (.register .deviceInfo)
        statement (.register .deviceAudioCapabilities)
        statement (.register .deviceVideoCapabilities)
        pure message : Steps String)
      (fun _ s' => s'.SystemInfoSafe) s := by
  have hsafe : (s.register .deviceInfo).SystemInfoSafe := by
    intro object hobject
    have hsame : s.members.deviceInfo = some object := hobject
    rw [hinfo, Option.some.injEq] at hsame
    rw [← hsame]
    simp [State.register, State.setHandlers, hstored]
  simp only [always_bind, always_statement, always_pure]
  exact ⟨hsafe, hsafe, hsafe, hsafe⟩

theorem initializePlugin_serves (hunregistered : s.Unregistered)
    (hstores : a.objects.AllSet → a.StoresShell) :
    Always (fun t => t.after.SystemInfoSafe) (initializePlugin a)
      (fun _ s' => s'.SystemInfoSafe) s := by
  have hfree : ∀ s' : State, s'.handlers = s.handlers → s'.SystemInfoSafe := by
    intro s' hsame
    apply State.Unregistered.systemInfoSafe
    intro interface
    rw [hsame]
    exact hunregistered interface
  simp only [initializePlugin, always_bind, always_statement, always_current]
  refine ⟨hfree _ rfl, hfree _ rfl, hfree _ rfl, hfree _ rfl, hfree _ rfl, ?_⟩
  change Always _ (if (s.rooted a).members.AllSet then _ else _) _ (s.rooted a)
  by_cases hall : a.objects.AllSet
  · obtain ⟨hquery, hstored⟩ := hstores hall
    rcases Option.ne_none_iff_exists'.mp hall.1 with ⟨info, hinfo⟩
    rcases Option.ne_none_iff_exists'.mp hquery with ⟨configure, hconfigure⟩
    rw [rooted_members, if_pos hall, always_bind]
    change Always _ (through _ a.objects.deviceInfo) _ _
    rw [hinfo, always_through_some, always_bind, always_statement, hconfigure]
    refine ⟨hfree _ rfl, ?_⟩
    rw [always_bind, always_statement, always_bind, always_pure]
    rw [State.configured, if_pos hstored]
    refine ⟨hfree _ rfl, ?_⟩
    exact register_all_serves hinfo (Function.update_self _ _ _) _
  · rw [rooted_members, if_neg hall, always_pure]
    exact hfree _ rfl

theorem releaseMember_serves {interface : Interface}
    {post : Unit → State → Prop} (hsafe : s.SystemInfoSafe)
    (hpost : ∀ s', s'.SystemInfoSafe → post () s') :
    Always (fun t => t.after.SystemInfoSafe) (releaseMember interface) post s := by
  simp only [releaseMember, always_bind, always_current, always_statement]
  exact always_through fun object _ => ⟨hsafe, hpost _ hsafe⟩

theorem releaseConfigure_serves {post : Unit → State → Prop}
    (hsafe : s.SystemInfoSafe) (hpost : ∀ s', s'.SystemInfoSafe → post () s') :
    Always (fun t => t.after.SystemInfoSafe) releaseConfigure post s := by
  simp only [releaseConfigure, always_bind, always_current, always_statement]
  exact always_through fun configure _ => ⟨hsafe, hpost _ hsafe⟩

theorem remoteConnection_serves
    {post : Option (UInt32 × RemoteConnection) → State → Prop}
    (hsafe : s.SystemInfoSafe)
    (hpost : ∀ connection s', s'.SystemInfoSafe → post connection s') :
    Always (fun t => t.after.SystemInfoSafe) (remoteConnection a) post s := by
  rw [remoteConnection, always_bind, always_current]
  split
  next =>
    rw [always_bind, always_statement, always_pure]
    exact ⟨hsafe, hpost _ _ hsafe⟩
  next =>
    rw [always_pure]
    exact hpost _ _ hsafe

theorem leave_serves (hsafe : s.SystemInfoSafe) :
    Always (fun t => t.after.SystemInfoSafe) (do
        statement fun s => { s with connectionId := 0 }
        releaseService
        statement fun s => { s with service := none })
      (fun _ s' => s'.SystemInfoSafe) s := by
  simp only [releaseService, always_bind, always_statement, always_current]
  refine ⟨hsafe, always_through fun service _ => ?_⟩
  exact ⟨hsafe, hsafe, hsafe⟩

/-- The handlers of IDeviceInfo go while the member and the shell are still
there, and after that nothing is left to serve a request. -/
theorem deinitializePlugin_serves (hsafe : s.SystemInfoSafe) :
    Always (fun t => t.after.SystemInfoSafe) (deinitializePlugin a)
      (fun _ s' => s'.SystemInfoSafe) s := by
  rw [deinitializePlugin, always_bind, always_current]
  by_cases hall : s.members.AllSet
  · rw [if_pos hall]
    rw [always_bind, always_statement, always_bind]
    refine ⟨hsafe, releaseMember_serves hsafe fun s₁ hsafe₁ => ?_⟩
    rw [always_bind, always_statement, always_bind, always_statement, always_bind]
    refine ⟨hsafe₁, hsafe₁, releaseMember_serves hsafe₁ fun s₂ hsafe₂ => ?_⟩
    rw [always_bind, always_statement, always_bind, always_statement, always_bind]
    have hnone : (s₂.unregister .deviceInfo).SystemInfoSafe := by
      intro object hobject
      contradiction
    refine ⟨hsafe₂, hnone, releaseConfigure_serves hnone fun s₃ hsafe₃ => ?_⟩
    rw [always_bind]
    apply remoteConnection_serves hsafe₃
    intro connection s₄ hsafe₄
    rw [always_bind]
    apply releaseMember_serves hsafe₄
    intro s₅ hsafe₅
    rw [always_bind, always_statement]
    refine ⟨hsafe₅, ?_⟩
    cases connection with
    | none => exact leave_serves hsafe₅
    | some connection =>
        rw [always_bind, always_terminate_guarded, always_bind, always_statement]
        exact ⟨hsafe₅, hsafe₅, leave_serves hsafe₅⟩
  · rw [if_neg hall]
    exact leave_serves hsafe

theorem register_all_last (message : String) (s : State) :
    Wp (do
        statement (.register .deviceInfo)
        statement (.register .deviceAudioCapabilities)
        statement (.register .deviceVideoCapabilities)
        pure message : Steps String)
      (fun _ trace s' => ∃ t ∈ trace, t.after = s') (fun _ _ _ => False) s := by
  simp only [wp_bind, wp_statement, wp_pure]
  simp

/-- The state `Initialize` leaves with all handlers registered is the one
after its last statement. -/
theorem exists_active_transition (hall : a.objects.AllSet) :
    ∃ t ∈ (initializePlugin a s).trace, t.after = a.active s := by
  have hlast : Wp (initializePlugin a)
      (fun _ trace s' => ∃ t ∈ trace, t.after = s') (fun _ _ _ => False) s := by
    rcases Option.ne_none_iff_exists'.mp hall.1 with ⟨info, hinfo⟩
    simp only [initializePlugin, wp_bind, wp_statement, wp_current]
    change Wp (if (s.rooted a).members.AllSet then _ else _) _ _ (s.rooted a)
    rw [rooted_members, if_pos hall, wp_bind]
    change Wp (through _ a.objects.deviceInfo) _ _ _
    rw [hinfo, wp_through_some, wp_bind, wp_statement]
    cases a.queryInterface with
    | none =>
        rw [wp_bind, wp_pure]
        apply (register_all_last _ _).mono
        · intro _ trace s' hended
          rcases hended with ⟨t, ht, hafter⟩
          exact ⟨t, by simp [ht], hafter⟩
        · simp
    | some configure =>
        rw [wp_bind, wp_statement, wp_bind, wp_pure]
        apply (register_all_last _ _).mono
        · intro _ trace s' hended
          rcases hended with ⟨t, ht, hafter⟩
          exact ⟨t, by simp [ht], hafter⟩
        · simp
  rcases hlast.returns with ⟨_, _, hlast⟩
  exact hlast

theorem active_not_safe (hall : a.objects.AllSet) (hstores : ¬ a.StoresShell) :
    ¬ (a.active s).SystemInfoSafe := by
  rcases Option.ne_none_iff_exists'.mp hall.1 with ⟨info, hinfo⟩
  have hactive := active_initialized a s
  intro hsafe
  have hhandler : (a.active s).handlers.deviceInfo = some info := by
    rw [active_handlers_of_allSet hall]
    exact hinfo
  exact hstores
    ((hactive.implementationService info hinfo hall).mp (hsafe info hhandler))

theorem activationCycle_serves (hunregistered : s.Unregistered)
    (hstores : a.objects.AllSet → a.StoresShell) :
    ∀ t ∈ (activationCycle a s).trace, t.after.SystemInfoSafe := by
  have hserves := initializePlugin_serves hunregistered hstores
  have hactive : (a.active s).SystemInfoSafe :=
    (hserves.of_ok (initializePlugin_result a s)).2
  have hdeinitialize := deinitializePlugin_serves (a := a) hactive
  intro t ht
  rw [activationCycle_trace] at ht
  rcases List.mem_append.mp ht with ht | ht
  · exact hserves.trace t ht
  · exact hdeinitialize.trace t ht

end Cycle

theorem activationRun_serves_iff {activations : List Activation} {s : State}
    (hunregistered : s.Unregistered) :
    (∀ t ∈ (activationRun activations s).trace, t.after.SystemInfoSafe) ↔
      ∀ a ∈ activations, a.objects.AllSet → a.StoresShell := by
  induction activations generalizing s with
  | nil => simp [activationRun, Program.forEach, pure]
  | cons a rest ih =>
      rw [activationRun_cons_trace, List.forall_mem_cons]
      by_cases hstores : a.objects.AllSet → a.StoresShell
      · have hcompletes : a.Completes s :=
          completes_iff.mpr fun hall => (hstores hall).1
        have hlater := ih (inactive_unregistered hcompletes hunregistered)
        have hcycle := activationCycle_serves hunregistered hstores
        rw [nextInactive_of_completes hcompletes, List.forall_mem_append, hlater]
        exact and_congr (iff_of_true hcycle hstores) Iff.rfl
      · have hmissing : a.objects.AllSet ∧ ¬ a.StoresShell := by
          simpa using hstores
        obtain ⟨t, ht, hafter⟩ := exists_active_transition (s := s) hmissing.1
        constructor
        · intro hserves
          have hactive : t.after.SystemInfoSafe := by
            apply hserves t
            rw [activationCycle_trace]
            simp [ht]
          rw [hafter] at hactive
          exact absurd hactive (active_not_safe hmissing.1 hmissing.2)
        · intro hall
          exact absurd hall.1 hstores

/-- A `systeminfo` request is safe after every statement of a run exactly if
each activation that gets all three objects stores the shell in the first. -/
theorem systemInfo_served_iff (activations : List Activation) :
    (∀ t ∈ (activationRun activations State.constructed).trace,
      t.after.ServesSystemInfo) ↔
      ∀ a ∈ activations, a.objects.AllSet → a.StoresShell := by
  simp only [State.servesSystemInfo_iff]
  exact activationRun_serves_iff constructed_unregistered

/-! ## With the implementation of this repository -/

/-- `Configure` returns and stores what that of `DeviceInfoImplementation`
does. -/
def Activation.RunsOwnConfigure (a : Activation) : Prop :=
  ∀ previous, configureImplementation a.service previous =
    (a.configure.result,
      if a.configure.stored then some a.service else previous)

/-- The new implementation has the shell it was configured with. -/
def Activation.KeepsShell (a : Activation) (s : State) : Prop :=
  a.objects.AllSet → ∀ info, a.root.deviceInfo.object = some info →
    (a.active s).implementationService info = some a.service

section OwnConfigure

variable {a : Activation} {s : State}

theorem Activation.RunsOwnConfigure.configurable_iff
    (hown : a.RunsOwnConfigure) : a.Configurable ↔ a.ConfigurationFound := by
  have hresult : ERROR_NONE = a.configure.result :=
    congrArg Prod.fst (hown none)
  constructor
  · exact Activation.Configurable.configurationFound
  · intro hfound hall
    exact ⟨hfound hall, hresult.symm⟩

theorem Activation.RunsOwnConfigure.storesShell_iff
    (hown : a.RunsOwnConfigure) : a.StoresShell ↔ a.queryInterface ≠ none := by
  have hstored : some a.service =
      if a.configure.stored then some a.service else none :=
    congrArg Prod.snd (hown none)
  constructor
  · intro hstores
    exact hstores.1
  · intro hquery
    refine ⟨hquery, ?_⟩
    by_contra hnot
    rw [if_neg hnot] at hstored
    contradiction

theorem Activation.RunsOwnConfigure.keepsShell (hown : a.RunsOwnConfigure)
    (hfound : a.ConfigurationFound) : a.KeepsShell s := by
  intro hall info hinfo
  have hstores := hown.storesShell_iff.mpr (hfound hall)
  rw [active_implementationService hinfo, if_pos ⟨hall, hstores⟩]

theorem along_iff_configurationFound {P : Activation → State → Prop}
    {activations : List Activation}
    (hP : ∀ a ∈ activations, ∀ s : State, s.Unregistered →
      (P a s ↔ a.ConfigurationFound)) :
    Along nextInactive P activations State.constructed ↔
      ∀ a ∈ activations, a.ConfigurationFound := by
  apply along_iff_forall_good State.Unregistered hP ?_ constructed_unregistered
  intro a _ s hunregistered hfound
  have hcompletes : a.Completes s := completes_iff.mpr hfound
  exact ⟨a.inactive s, nextInactive_of_completes hcompletes,
    inactive_unregistered hcompletes hunregistered⟩

/-- With the `Configure` of this repository a run in which no `Deinitialize`
crashes is the same as one in which every `Initialize` is all-or-nothing and
hands on its shell, and as one in which every `systeminfo` request is served,
whichever statement it comes after. -/
theorem own_configure_served_iff (activations : List Activation)
    (hown : ∀ a ∈ activations, a.RunsOwnConfigure) :
    (Along nextInactive (fun a s => a.AllOrNothing s ∧ a.KeepsShell s)
        activations State.constructed ↔
      Along nextInactive Activation.Completes activations State.constructed) ∧
    ((∀ t ∈ (activationRun activations State.constructed).trace,
        t.after.ServesSystemInfo) ↔
      Along nextInactive Activation.Completes activations
        State.constructed) := by
  have hcompletes : Along nextInactive Activation.Completes activations
      State.constructed ↔ ∀ a ∈ activations, a.ConfigurationFound :=
    along_iff_configurationFound fun _ _ _ _ => completes_iff
  constructor
  · rw [hcompletes]
    apply along_iff_configurationFound
    intro a ha s hunregistered
    rw [allOrNothing_iff_configurable hunregistered,
      (hown a ha).configurable_iff, and_iff_left_iff_imp]
    exact (hown a ha).keepsShell
  · rw [hcompletes]
    simp only [State.servesSystemInfo_iff]
    rw [activationRun_serves_iff constructed_unregistered]
    apply forall₂_congr
    intro a ha
    rw [(hown a ha).storesShell_iff]
    rfl

end OwnConfigure

/-- Two activations are served, one without a configuration interface is
not. -/
theorem own_configure_served_twice :
    (∀ t ∈ (activationRun [cleanActivation, cleanActivation]
        State.constructed).trace, t.after.ServesSystemInfo) ∧
      ¬ ∀ t ∈ (activationRun [unconfigurableActivation]
        State.constructed).trace, t.after.ServesSystemInfo := by
  constructor
  · have hown : ∀ a ∈ [cleanActivation, cleanActivation],
        a.RunsOwnConfigure := by
      simp [Activation.RunsOwnConfigure, configureImplementation,
        cleanActivation]
    apply (own_configure_served_iff _ hown).2.mpr
    rw [along_iff_configurationFound fun _ _ _ _ => completes_iff]
    simp [Activation.ConfigurationFound, cleanActivation]
  · have hown : ∀ a ∈ [unconfigurableActivation], a.RunsOwnConfigure := by
      simp [Activation.RunsOwnConfigure, configureImplementation,
        unconfigurableActivation]
    rw [(own_configure_served_iff _ hown).2,
      along_iff_configurationFound fun _ _ _ _ => completes_iff]
    simp [Activation.ConfigurationFound, Activation.objects,
      PerInterface.AllSet, unconfigurableActivation]

end Lifecycle
end DeviceInfoPlugin
