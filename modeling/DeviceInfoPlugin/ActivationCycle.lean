import DeviceInfoPlugin.LifecycleOutcomes
import DeviceInfoPlugin.InputRun

/-!
# One activation cycle, and null-pointer safety of its deactivation

A cycle is an `Initialize` followed by its `Deinitialize`.  The states after
the two calls are `active` and `inactive`; `completes_iff` is the only way in
which a cycle can end early, and it settles over whole runs which activations
keep `Deinitialize` from calling through a null pointer.
-/

namespace DeviceInfoPlugin
namespace Lifecycle

open InputRun
open ReferenceLedger
open Traced

def Activation.active (a : Activation) (s : State) : State :=
  (initializePlugin a s).state

def Activation.inactive (a : Activation) (s : State) : State :=
  (deinitializePlugin a (a.active s)).state

/-- The `Deinitialize` that follows makes every call through a non-null
pointer and runs to its end. -/
def Activation.Completes (a : Activation) (s : State) : Prop :=
  (deinitializePlugin a (a.active s)).result = .ok ()

/-- `configure` is not null whenever `Deinitialize` is going to use it. -/
def Activation.ConfigurationFound (a : Activation) : Prop :=
  a.objects.AllSet → a.queryInterface ≠ none

section Cycle

variable (a : Activation) (s : State)

theorem initializePlugin_result :
    (initializePlugin a s).result = .ok a.message := by
  obtain ⟨message, hresult, hmessage, _⟩ := (initializePlugin_spec a s).returns
  rw [hresult, hmessage]

theorem active_initialized : Initialized a s (a.active s) := by
  have hreturns := (initializePlugin_spec a s).returns
  rcases hreturns with ⟨_, _, _, hactive⟩
  exact hactive

theorem active_allSet_iff :
    (a.active s).members.AllSet ↔ a.objects.AllSet := by
  rw [(active_initialized a s).members]

theorem active_configure_eq_none_iff (hall : a.objects.AllSet) :
    (a.active s).configure = none ↔ a.queryInterface = none := by
  rw [(active_initialized a s).configure hall]

variable {a s}

theorem initializePlugin_succeeds_iff :
    (initializePlugin a s).result = .ok "" ↔
      a.objects.AllSet ∧ a.queryInterface ≠ none ∧
        a.configure.result = ERROR_NONE := by
  rw [initializePlugin_result, Except.ok.injEq, Activation.message]
  by_cases hall : a.objects.AllSet
  · cases hquery : a.queryInterface with
    | none => simp [hall]
    | some configure =>
        by_cases hresult : a.configure.result = ERROR_NONE <;>
          simp [hall, hresult]
  · simp [hall]

theorem given_active_of_allSet (hall : a.objects.AllSet) :
    a.given (a.active s) =
      releasedIf (.implementation .deviceAudioCapabilities)
          a.objects.deviceAudioCapabilities ++
        releasedIf (.implementation .deviceVideoCapabilities)
          a.objects.deviceVideoCapabilities ++
        releasedIf .configuration a.queryInterface ++
        a.connectionEntries (a.active s).connectionId .acquired ++
        releasedIf (.implementation .deviceInfo) a.objects.deviceInfo ++
        a.connectionEntries (a.active s).connectionId .released ++
        [.released (.shell a.service)] := by
  have hactive := active_initialized a s
  rw [Activation.given, if_pos ((active_allSet_iff a s).mpr hall),
    hactive.members, hactive.configure hall, hactive.service]
  rfl

theorem given_active_of_not_allSet (hall : ¬ a.objects.AllSet) :
    a.given (a.active s) = [.released (.shell a.service)] := by
  rw [Activation.given, if_neg (fun h => hall ((active_allSet_iff a s).mp h)),
    (active_initialized a s).service]
  rfl

theorem inactive_deinitialized (hcompletes : a.Completes s) :
    Deinitialized a (a.active s) (a.inactive s) := by
  have hspec := deinitializePlugin_spec a (active_initialized a s).service
  have hended := hspec.of_ok hcompletes
  exact hended.1

theorem Activation.Completes.configurationFound (hcompletes : a.Completes s) :
    a.ConfigurationFound := by
  intro hall hquery
  have hmembers := (active_allSet_iff a s).mpr hall
  have hconfigure := (active_configure_eq_none_iff a s hall).mpr hquery
  have hspec := deinitializePlugin_spec a (active_initialized a s).service
  have hended := hspec.of_ok hcompletes
  exact hended.2 ⟨hmembers, hconfigure⟩

theorem deinitializePlugin_error {e : Abort}
    (herror : (deinitializePlugin a (a.active s)).result = .error e) :
    e = .nullCall .configure ∧ ¬ a.ConfigurationFound := by
  have hspec := deinitializePlugin_spec a (active_initialized a s).service
  obtain ⟨he, hall, hconfigure⟩ := hspec.of_error herror
  have hobjects := (active_allSet_iff a s).mp hall
  have hquery := (active_configure_eq_none_iff a s hobjects).mp hconfigure
  have hmissing : ¬ a.ConfigurationFound := by
    intro hfound
    exact hfound hobjects hquery
  exact ⟨he, hmissing⟩

theorem completes_iff : a.Completes s ↔ a.ConfigurationFound := by
  constructor
  · exact Activation.Completes.configurationFound
  · intro hfound
    cases hresult : (deinitializePlugin a (a.active s)).result with
    | ok _ => exact hresult
    | error e =>
        have hmissing := (deinitializePlugin_error hresult).2
        exact absurd hfound hmissing

theorem nextInactive_eq_some_iff {s' : State} :
    nextInactive a s = some s' ↔ a.Completes s ∧ s' = a.inactive s := by
  have hcycle : activationCycle a s =
      (deinitializePlugin a (a.active s)).after (initializePlugin a s).trace := by
    have hresult := initializePlugin_result a s
    change Program.andThen (initializePlugin a) (fun _ => deinitializePlugin a) s = _
    unfold Program.andThen Activation.active
    rcases hinit : initializePlugin a s with ⟨trace, result, s₁⟩
    rw [hinit] at hresult
    cases hresult
    rfl
  unfold nextInactive Activation.Completes Activation.inactive
  rw [hcycle]
  cases hresult : (deinitializePlugin a (a.active s)).result with
  | ok _ => simp [Outcome.after, hresult, eq_comm]
  | error e => simp [Outcome.after, hresult]

theorem exists_objects_of_not_completes (hcrashes : ¬ a.Completes s) :
    ∃ info audio video, a.objects = ⟨some info, some audio, some video⟩ ∧
      a.queryInterface = none := by
  rw [completes_iff] at hcrashes
  have hmissing : a.objects.AllSet ∧ a.queryInterface = none := by
    simpa [Activation.ConfigurationFound] using hcrashes
  rcases hmissing.1.eq_some with ⟨info, audio, video, hobjects⟩
  exact ⟨info, audio, video, hobjects, hmissing.2⟩

/-- What a `Deinitialize` that crashes on a null `configure` has done by
then. -/
structure Abandoned (audio video : Object) (s s' : State) : Prop where
  ledger : s'.ledger = s.ledger ++
    [.released (.implementation .deviceAudioCapabilities audio),
      .released (.implementation .deviceVideoCapabilities video)]
  terminated : s'.terminated = s.terminated

theorem inactive_abandoned {info audio video : Object}
    (hobjects : a.objects = ⟨some info, some audio, some video⟩)
    (hquery : a.queryInterface = none) :
    Abandoned audio video (a.active s) (a.inactive s) := by
  have hall : a.objects.AllSet := by simp [hobjects, PerInterface.AllSet]
  have hmembers : (a.active s).members = ⟨some info, some audio, some video⟩ := by
    rw [(active_initialized a s).members, hobjects]
  have hconfigure := (active_configure_eq_none_iff a s hall).mpr hquery
  have hset := (active_allSet_iff a s).mpr hall
  suffices hcrashed : Wp (deinitializePlugin a)
      (fun _ _ => Abandoned audio video (a.active s))
      (fun _ _ => Abandoned audio video (a.active s)) (a.active s) from
    hcrashed.final
  simp only [deinitializePlugin, wp_bind, wp_current]
  rw [if_pos hset]
  simp only [releaseMember, releaseConfigure, wp_bind, wp_statement,
    wp_current, State.unregister, State.setHandlers, State.setMember,
    State.release, PerInterface.set, PerInterface.get, hmembers,
    wp_through_some, hconfigure, wp_through_none]
  constructor <;> simp

theorem nextInactive_of_completes (hcompletes : a.Completes s) :
    nextInactive a s = some (a.inactive s) :=
  nextInactive_eq_some_iff.mpr ⟨hcompletes, rfl⟩

theorem activationCycle_state : (activationCycle a s).state = a.inactive s := by
  rw [activationCycle, state_bind, initializePlugin_result]
  rfl

theorem activationRun_cons_state (rest : List Activation) :
    (activationRun (a :: rest) s).state =
      match nextInactive a s with
      | some s' => (activationRun rest s').state
      | none => a.inactive s := by
  unfold nextInactive
  change ((activationCycle a >>= fun _ => activationRun rest) s).state = _
  rw [state_bind, ← activationCycle_state]
  cases (activationCycle a s).result <;> rfl

theorem activationCycle_trace :
    (activationCycle a s).trace =
      (initializePlugin a s).trace ++
        (deinitializePlugin a (a.active s)).trace := by
  rw [activationCycle, trace_bind, initializePlugin_result]
  rfl

theorem activationRun_cons_trace (rest : List Activation) :
    (activationRun (a :: rest) s).trace =
      (activationCycle a s).trace ++
        match nextInactive a s with
        | some s' => (activationRun rest s').trace
        | none => [] := by
  unfold nextInactive
  change ((activationCycle a >>= fun _ => activationRun rest) s).trace = _
  rw [trace_bind]
  cases (activationCycle a s).result <;> rfl

end Cycle

/-- `Deinitialize` never calls through a null pointer, in every cycle of a
run, exactly if the configuration interface is found in each activation that
gets all three objects. -/
theorem deinitialize_completes_iff (activations : List Activation) :
    Along nextInactive Activation.Completes activations State.constructed ↔
      ∀ a ∈ activations, a.ConfigurationFound := by
  apply along_iff_forall_good (fun _ => True) ?_ ?_ trivial
  · intro a _ s _
    exact completes_iff
  · intro a _ s _ hfound
    have hcompletes : a.Completes s := completes_iff.mpr hfound
    exact ⟨a.inactive s, nextInactive_of_completes hcompletes, trivial⟩

def unconfigurableActivation : Activation where
  service := 0
  root := ⟨⟨some 1, some 0⟩, ⟨some 2, some 0⟩, ⟨some 3, some 0⟩⟩
  queryInterface := none
  configure := ⟨ERROR_NONE, true, fun _ => rfl⟩
  remoteConnection := fun _ => none

theorem deinitialize_null_configure :
    ¬ Along nextInactive Activation.Completes [unconfigurableActivation]
      State.constructed := by
  intro h
  have hresult : (deinitializePlugin unconfigurableActivation
      (unconfigurableActivation.active State.constructed)).result =
        .error (.nullCall .configure) := rfl
  have hcompletes := h.1
  unfold Activation.Completes at hcompletes
  rw [hresult] at hcompletes
  contradiction

end Lifecycle
end DeviceInfoPlugin
