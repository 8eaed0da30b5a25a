import DeviceInfoPlugin.ActivationCycle

/-!
# Is `Initialize` all-or-nothing?

`Initialize` registers the handler sets after it has tried to configure the
implementation, but whether or not that worked.  `SystemInfo` reads the shell
that `Configure` stores without a test, so the question is which activations
keep the two together.
-/

namespace DeviceInfoPlugin
namespace Lifecycle

open InputRun
open Traced

def State.AllRegistered (s : State) : Prop := s.handlers.AllSet

def State.ImplementationConfigured (s : State) : Prop :=
  ∃ object, s.members.deviceInfo = some object ∧
    s.implementationService object ≠ none

/-- A `systeminfo` request that reaches an implementation finds a shell
there. -/
def State.SystemInfoSafe (s : State) : Prop :=
  ∀ object, s.handlers.deviceInfo = some object →
    s.implementationService object ≠ none

/-- `Initialize` succeeds with everything in place or fails with no handler
set registered, and on the return of either call `systeminfo` is safe. -/
structure Activation.AllOrNothing (a : Activation) (s : State) : Prop where
  succeeds_iff : (initializePlugin a s).result = .ok "" ↔
    (a.active s).AllRegistered ∧ (a.active s).ImplementationConfigured
  fails : (initializePlugin a s).result ≠ .ok "" → (a.active s).Unregistered
  safe_active : (a.active s).SystemInfoSafe
  safe_inactive : a.Completes s → (a.inactive s).SystemInfoSafe

def Activation.Configurable (a : Activation) : Prop :=
  a.objects.AllSet →
    a.queryInterface ≠ none ∧ a.configure.result = ERROR_NONE

theorem Activation.Configurable.configurationFound {a : Activation}
    (hconfigurable : a.Configurable) : a.ConfigurationFound := by
  intro hall
  exact (hconfigurable hall).1

theorem State.Unregistered.systemInfoSafe {s : State}
    (hunregistered : s.Unregistered) : s.SystemInfoSafe := by
  intro object hobject
  have hnone : s.handlers.deviceInfo = none := hunregistered .deviceInfo
  rw [hnone] at hobject
  contradiction

section Cycle

variable {a : Activation} {s : State}

theorem active_handlers_of_allSet (hall : a.objects.AllSet) :
    (a.active s).handlers = a.objects := by
  rw [(active_initialized a s).handlers, if_pos hall]

theorem active_unregistered (hall : ¬ a.objects.AllSet)
    (hunregistered : s.Unregistered) : (a.active s).Unregistered := by
  intro interface
  rw [(active_initialized a s).handlers, if_neg hall]
  exact hunregistered interface

theorem inactive_unregistered (hcompletes : a.Completes s)
    (hunregistered : s.Unregistered) : (a.inactive s).Unregistered := by
  intro interface
  rw [(inactive_deinitialized hcompletes).handlers]
  split
  next => cases interface <;> rfl
  next hall =>
    rw [active_allSet_iff] at hall
    exact active_unregistered hall hunregistered interface

theorem storesShell_of_configurable (hconfigurable : a.Configurable)
    (hall : a.objects.AllSet) : a.StoresShell := by
  have hfound := hconfigurable hall
  exact ⟨hfound.1, a.configure.stored_of_none hfound.2⟩

theorem active_of_configurable (hconfigurable : a.Configurable)
    (hall : a.objects.AllSet) :
    (a.active s).AllRegistered ∧ (a.active s).ImplementationConfigured ∧
      (a.active s).SystemInfoSafe := by
  have hactive := active_initialized a s
  have hhandlers := active_handlers_of_allSet (s := s) hall
  have hstores := storesShell_of_configurable hconfigurable hall
  rcases Option.ne_none_iff_exists'.mp hall.1 with ⟨info, hinfo⟩
  have hservice : (a.active s).implementationService info ≠ none :=
    (hactive.implementationService info hinfo hall).mpr hstores
  have hregistered : (a.active s).AllRegistered := by
    unfold State.AllRegistered
    rw [hhandlers]
    exact hall
  have hmember : (a.active s).members.deviceInfo = some info := by
    rw [hactive.members]
    exact hinfo
  have hsafe : (a.active s).SystemInfoSafe := by
    intro object hobject
    rw [hhandlers, hinfo, Option.some.injEq] at hobject
    subst hobject
    exact hservice
  exact ⟨hregistered, ⟨info, hmember, hservice⟩, hsafe⟩

theorem allOrNothing_iff_configurable (hunregistered : s.Unregistered) :
    a.AllOrNothing s ↔ a.Configurable := by
  constructor
  · intro hdone hall
    by_contra hnot
    have hfails : (initializePlugin a s).result ≠ .ok "" := by
      intro hsucceeds
      exact hnot (initializePlugin_succeeds_iff.mp hsucceeds).2
    have hnone := hdone.fails hfails .deviceInfo
    rw [active_handlers_of_allSet hall] at hnone
    exact hall.1 hnone
  · intro hconfigurable
    have hinactive : a.Completes s → (a.inactive s).SystemInfoSafe := by
      intro hcompletes
      exact (inactive_unregistered hcompletes hunregistered).systemInfoSafe
    by_cases hall : a.objects.AllSet
    · obtain ⟨hregistered, hconfigured, hsafe⟩ :=
        active_of_configurable (s := s) hconfigurable hall
      have hsucceeds : (initializePlugin a s).result = .ok "" :=
        initializePlugin_succeeds_iff.mpr ⟨hall, hconfigurable hall⟩
      constructor
      · simp [hsucceeds, hregistered, hconfigured]
      · intro hfails
        contradiction
      · exact hsafe
      · exact hinactive
    · have hactive := active_unregistered (s := s) hall hunregistered
      have hfails : ¬ (initializePlugin a s).result = .ok "" := by
        intro hsucceeds
        exact hall (initializePlugin_succeeds_iff.mp hsucceeds).1
      have hregistered : ¬ (a.active s).AllRegistered := by
        intro hall
        exact hall.1 (hactive .deviceInfo)
      constructor
      · simp [hfails, hregistered]
      · intro _
        exact hactive
      · exact hactive.systemInfoSafe
      · exact hinactive

end Cycle

theorem constructed_unregistered : State.constructed.Unregistered := by
  intro interface
  cases interface <;> rfl

/-- Over a run of any length, `Initialize` is all-or-nothing and `systeminfo`
safe exactly if every activation that gets three objects can configure the
first. -/
theorem initialize_allOrNothing_iff (activations : List Activation) :
    Along nextInactive Activation.AllOrNothing activations State.constructed ↔
      ∀ a ∈ activations, a.Configurable := by
  apply along_iff_forall_good State.Unregistered ?_ ?_
    constructed_unregistered
  · intro a _ s hunregistered
    exact allOrNothing_iff_configurable hunregistered
  · intro a _ s hunregistered hconfigurable
    have hcompletes : a.Completes s :=
      completes_iff.mpr hconfigurable.configurationFound
    exact ⟨a.inactive s, nextInactive_of_completes hcompletes,
      inactive_unregistered hcompletes hunregistered⟩

def failedConfiguration : Activation where
  service := 0
  root := ⟨⟨some 1, some 0⟩, ⟨some 2, some 0⟩, ⟨some 3, some 0⟩⟩
  queryInterface := some 1
  configure := ⟨ERROR_GENERAL, false, by decide⟩
  remoteConnection := fun _ => none

/-- An error text is returned, yet all handler sets are registered, and
`systeminfo` would use a null shell. -/
theorem initialize_fails_registered :
    (initializePlugin failedConfiguration State.constructed).result =
        .ok "DeviceInfo could not be configured" ∧
      (failedConfiguration.active State.constructed).AllRegistered ∧
      ¬ (failedConfiguration.active State.constructed).SystemInfoSafe ∧
      ¬ Along nextInactive Activation.AllOrNothing [failedConfiguration]
        State.constructed := by
  have hall : failedConfiguration.objects.AllSet := by
    simp [failedConfiguration, Activation.objects, PerInterface.AllSet]
  have hregistered :
      (failedConfiguration.active State.constructed).AllRegistered := by
    unfold State.AllRegistered
    rw [active_handlers_of_allSet hall]
    exact hall
  have hunsafe :
      ¬ (failedConfiguration.active State.constructed).SystemInfoSafe := by
    intro hsafe
    exact hsafe 1 rfl rfl
  refine ⟨rfl, hregistered, hunsafe, ?_⟩
  intro h
  exact hunsafe h.1.safe_active

end Lifecycle
end DeviceInfoPlugin
