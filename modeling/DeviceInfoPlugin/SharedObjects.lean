import DeviceInfoPlugin.ObjectLifetime

/-!
# The plugin and its clients on the same objects

The events of a run interleaved with clients in any way.  The plugin never
touches an object that is gone; what its releases destroy is decided by the
clients; and what a run leaves behind is what its mixed activations leaked and
what the clients still hold.
-/

namespace DeviceInfoPlugin
namespace Lifecycle

open CountedObjects
open InputRun
open ReferenceLedger
open Traced

/-! ## The events are those of the faithful run -/

section Ledger

variable {a : Activation} {s : State}

end Ledger

/-! ## Safety under interleaving -/

abbrev SharedSystem := System LifetimeEvent Object Shell

def SharedSystem.constructed (activations : List Activation) : SharedSystem :=
  .start (runEvents activations State.constructed)

section Interleaved

variable {activations : List Activation} {system : SharedSystem}

theorem orderly_allows (event : LifetimeEvent) (account : Account Object Shell)
    (horderly : Orderly event account) : account.Allows event.effect :=
  horderly.1

theorem constructed_disciplined
    (hself : ∀ a ∈ activations, a.ConfiguresItself) :
    (SharedSystem.constructed activations).Disciplined LifetimeEvent.effect
      Orderly :=
  ⟨accounted_empty, orderlyFrom_runEvents hself⟩

theorem reached_disciplined (hself : ∀ a ∈ activations, a.ConfiguresItself)
    (hreaches : Reaches LifetimeEvent.effect
      (SharedSystem.constructed activations) system) :
    system.Disciplined LifetimeEvent.effect Orderly :=
  (hreaches.disciplined orderly_allows (constructed_disciplined hself)).1

/-- In every run and every interleaving with clients, the count of each object
is what the plugin and its clients hold; no call of the plugin hits an object
that is gone or gives back more than was taken, and neither does a client that
gives back what it holds. -/
theorem objects_never_touched_when_gone (activations : List Activation)
    (hself : ∀ a ∈ activations, a.ConfiguresItself)
    (hreaches : Reaches LifetimeEvent.effect
      (SharedSystem.constructed activations) system) :
    (∀ object, system.heap.count object =
      system.account.held object + system.others object) ∧
    (∀ event rest, system.program = event :: rest →
      (∀ object, event.effect = .create object →
        system.heap.count object = 0) →
      ∃ heap', system.heap.perform event.effect = some heap') ∧
    (∀ object, 0 < system.others object →
      ∃ heap', system.heap.perform (.release object) = some heap') := by
  obtain ⟨haccounted, horderly⟩ := reached_disciplined hself hreaches
  refine ⟨haccounted.count, ?_, ?_⟩
  · intro event rest hprogram hfree
    rw [hprogram, along_cons] at horderly
    exact haccounted.exists_perform horderly.1.1 hfree
  · intro object hholds
    have hcount := haccounted.count object
    obtain ⟨heap', hperform, _⟩ :=
      haccounted.exists_release object (by omega)
    exact ⟨heap', hperform⟩

theorem cleanActivation_configuresItself :
    ∀ a ∈ [cleanActivation], a.ConfiguresItself := by
  intro a ha
  rw [List.mem_singleton.mp ha]
  intro object hobject
  exact hobject

/-- A client takes the IDeviceInfo object while the plugin is active and still
holds it at the end. -/
theorem objects_untouched_for_client :
    ∃ system, Reaches LifetimeEvent.effect
        (SharedSystem.constructed [cleanActivation]) system ∧
      system.program = [] ∧ system.heap.count 1 = 1 ∧
      ∃ heap', system.heap.perform (.release 1) = some heap' := by
  have hreaches := reaches_of_runInputs LifetimeEvent.effect
    (SharedSystem.constructed [cleanActivation])
    (List.replicate 6 .call ++ [.join 1] ++ List.replicate 5 .call) rfl
  have hsafe := objects_never_touched_when_gone [cleanActivation]
    cleanActivation_configuresItself hreaches
  exact ⟨_, hreaches, rfl, rfl, hsafe.2.2 1 (by decide)⟩

/-- Each of the three releases of an implementation in `Deinitialize` destroys
the object, and gives back the shell it was configured with, exactly if no
client holds it at that moment. -/
theorem release_destroys_iff (activations : List Activation)
    (hself : ∀ a ∈ activations, a.ConfiguresItself)
    (hreaches : Reaches LifetimeEvent.effect
      (SharedSystem.constructed activations) system)
    (interface : Interface) (object : Object) {rest : List LifetimeEvent}
    (hnext : system.program =
      .entry (.released (.implementation interface object)) :: rest) :
    ∃ heap', system.heap.perform (.release object) = some heap' ∧
      (heap'.count object = 0 ↔ system.others object = 0) ∧
      ∀ service, system.heap.kept object = some service →
        heap'.resourceCount service +
            (if system.others object = 0 then 1 else 0) =
          system.heap.resourceCount service := by
  obtain ⟨haccounted, horderly⟩ := reached_disciplined hself hreaches
  rw [hnext, along_cons] at horderly
  have hown := horderly.1.2 interface object rfl
  exact haccounted.last_release hown

theorem release_leaves_client :
    ∃ system, Reaches LifetimeEvent.effect
        (SharedSystem.constructed [cleanActivation]) system ∧
      ∃ heap', system.heap.perform (.release 1) = some heap' ∧
        heap'.count 1 ≠ 0 := by
  have hreaches := reaches_of_runInputs LifetimeEvent.effect
    (SharedSystem.constructed [cleanActivation])
    (List.replicate 6 .call ++ [.join 1] ++ List.replicate 3 .call) rfl
  obtain ⟨heap', hperform, hdestroys, _⟩ := release_destroys_iff
    [cleanActivation] cleanActivation_configuresItself hreaches
    .deviceInfo 1 rfl
  have hheld : ¬ heap'.count 1 = 0 := by
    rw [hdestroys]
    decide
  exact ⟨_, hreaches, heap', hperform, hheld⟩

end Interleaved

/-! ## What a run leaves behind -/

section Balance

variable {a : Activation} {s : State}

def heldChange (events : List LifetimeEvent) (object : Object) : ℤ :=
  (events.map fun event => event.effect.objectChange object).sum

def shellChange (events : List LifetimeEvent) (service : Shell) : ℤ :=
  (events.map fun event => event.effect.resourceChange service).sum

@[simp] theorem heldChange_append (events later : List LifetimeEvent)
    (object : Object) :
    heldChange (events ++ later) object =
      heldChange events object + heldChange later object := by
  simp [heldChange]

@[simp] theorem shellChange_append (events later : List LifetimeEvent)
    (service : Shell) :
    shellChange (events ++ later) service =
      shellChange events service + shellChange later service := by
  simp [shellChange]

theorem change_connectionEntries (id : UInt32)
    {entry : Reference → Entry Reference}
    (hentry : entry = .acquired ∨ entry = .released) (object : Object)
    (service : Shell) :
    heldChange ((a.connectionEntries id entry).map .entry) object = 0 ∧
      shellChange ((a.connectionEntries id entry).map .entry) service = 0 := by
  unfold Activation.connectionEntries
  rcases hentry with rfl | rfl <;> split <;>
    simp [heldChange, shellChange, LifetimeEvent.effect, Call.objectChange,
      Call.resourceChange]

theorem change_acquiredIf (interface : Interface) (acquired : Option Object)
    (object : Object) (service : Shell) :
    heldChange ((acquiredIf (.implementation interface) acquired).map .entry)
        object = (if acquired = some object then 1 else 0) ∧
      shellChange ((acquiredIf (.implementation interface) acquired).map .entry)
        service = 0 := by
  cases acquired with
  | none => simp [acquiredIf, heldChange, shellChange]
  | some acquired =>
      simp [acquiredIf, heldChange, shellChange, LifetimeEvent.effect,
        Call.objectChange, Call.resourceChange, eq_comm]

theorem change_of_allSet {info audio video : Object}
    (hobjects : a.objects = ⟨some info, some audio, some video⟩)
    (hquery : a.queryInterface = some info) (object : Object)
    (service : Shell) :
    heldChange (a.events s) object = 0 ∧
      shellChange (a.events s) service = 0 := by
  obtain ⟨hacquired, hacquired'⟩ := change_connectionEntries (a := a)
    (a.active s).connectionId (.inl rfl) object service
  obtain ⟨hreleased, hreleased'⟩ := change_connectionEntries (a := a)
    (a.active s).connectionId (.inr rfl) object service
  rw [events_of_allSet hobjects hquery]
  simp only [List.map_append, heldChange_append, shellChange_append, hacquired,
    hacquired', hreleased, hreleased']
  constructor
  · split <;>
      simp [heldChange, LifetimeEvent.effect, Call.objectChange] <;>
      split_ifs <;> omega
  · split <;>
      simp [shellChange, LifetimeEvent.effect, Call.resourceChange] <;>
      split_ifs <;> omega

theorem change_of_not_allSet (hall : ¬ a.objects.AllSet) (object : Object)
    (service : Shell) :
    heldChange (a.events s) object =
        (if a.root.deviceInfo.object = some object then 1 else 0) +
          (if a.root.deviceAudioCapabilities.object = some object then 1 else 0) +
          (if a.root.deviceVideoCapabilities.object = some object then 1 else 0) ∧
      shellChange (a.events s) service = 0 := by
  have hinfo := change_acquiredIf .deviceInfo a.root.deviceInfo.object object
    service
  have haudio := change_acquiredIf .deviceAudioCapabilities
    a.root.deviceAudioCapabilities.object object service
  have hvideo := change_acquiredIf .deviceVideoCapabilities
    a.root.deviceVideoCapabilities.object object service
  rw [events_of_not_allSet hall]
  simp only [heldChange_append, shellChange_append, hinfo.1, hinfo.2, haudio.1,
    haudio.2, hvideo.1, hvideo.2]
  constructor
  · simp [heldChange, LifetimeEvent.effect, Call.objectChange]
  · simp [shellChange, LifetimeEvent.effect, Call.resourceChange]
    split_ifs <;> omega

theorem allOrNone_of_unchanged (hall : ¬ a.objects.AllSet)
    (hnothing : ∀ object, heldChange (a.events s) object = 0) : a.AllOrNone := by
  have hnone : ∀ object, a.root.deviceInfo.object ≠ some object ∧
      a.root.deviceAudioCapabilities.object ≠ some object ∧
      a.root.deviceVideoCapabilities.object ≠ some object := by
    intro object
    have hzero := hnothing object
    rw [(change_of_not_allSet hall object 0).1] at hzero
    refine ⟨?_, ?_, ?_⟩ <;> intro hobject <;>
      simp only [hobject, if_true] at hzero <;> split_ifs at hzero <;> omega
  have hinfo : a.root.deviceInfo.object = none :=
    Option.eq_none_iff_forall_ne_some.mpr fun object => (hnone object).1
  have haudio : a.root.deviceAudioCapabilities.object = none :=
    Option.eq_none_iff_forall_ne_some.mpr fun object => (hnone object).2.1
  have hvideo : a.root.deviceVideoCapabilities.object = none :=
    Option.eq_none_iff_forall_ne_some.mpr fun object => (hnone object).2.2
  right
  unfold Activation.objects
  rw [hinfo, haudio, hvideo]

/-- A cycle never gives back more than it took, and it keeps something exactly
if its `Root<>` outcome was mixed. -/
theorem change_events (hself : a.ConfiguresItself)
    (hfound : a.ConfigurationFound) :
    (∀ object, 0 ≤ heldChange (a.events s) object) ∧
      ((∀ object, heldChange (a.events s) object = 0) ↔ a.AllOrNone) ∧
      ∀ service, shellChange (a.events s) service = 0 := by
  by_cases hall : a.objects.AllSet
  · rcases hall.eq_some with ⟨info, audio, video, hobjects⟩
    rcases Option.ne_none_iff_exists'.mp (hfound hall) with
      ⟨configure, hconfigure⟩
    have hinfo : a.root.deviceInfo.object = some info :=
      congrArg PerInterface.deviceInfo hobjects
    have hsame : info = configure := by
      simpa [hinfo] using hself configure hconfigure
    rw [← hsame] at hconfigure
    have hchange := change_of_allSet (s := s) hobjects hconfigure
    have hnothing : ∀ object, heldChange (a.events s) object = 0 :=
      fun object => (hchange object 0).1
    refine ⟨fun object => (hnothing object).ge, ?_, fun service =>
      (hchange 0 service).2⟩
    exact ⟨fun _ => .inl hall, fun _ => hnothing⟩
  · have hchange := change_of_not_allSet (s := s) hall
    refine ⟨?_, ?_, fun service => (hchange 0 service).2⟩
    · intro object
      rw [(hchange object 0).1]
      split_ifs <;> omega
    · constructor
      · exact allOrNone_of_unchanged hall
      · intro hreset object
        have hnone := hreset.resolve_left hall
        simp only [Activation.objects, PerInterface.mk.injEq] at hnone
        rw [(hchange object 0).1]
        simp [hnone]

theorem change_runEvents {activations : List Activation}
    (hself : ∀ a ∈ activations, a.ConfiguresItself)
    (hfound : ∀ a ∈ activations, a.ConfigurationFound) :
    (∀ object, 0 ≤ heldChange (runEvents activations s) object) ∧
      ((∀ object, heldChange (runEvents activations s) object = 0) ↔
        ∀ a ∈ activations, a.AllOrNone) ∧
      ∀ service, shellChange (runEvents activations s) service = 0 := by
  induction activations generalizing s with
  | nil => simp [runEvents, heldChange, shellChange]
  | cons a rest ih =>
      have hcompletes : a.Completes s :=
        completes_iff.mpr (hfound a List.mem_cons_self)
      obtain ⟨hpositive, hzero, hshell⟩ := change_events (s := s)
        (hself a List.mem_cons_self) (hfound a List.mem_cons_self)
      have hlater := ih (s := a.inactive s)
        (fun b hb => hself b (List.mem_cons_of_mem _ hb))
        (fun b hb => hfound b (List.mem_cons_of_mem _ hb))
      obtain ⟨hpositive', hzero', hshell'⟩ := hlater
      rw [runEvents, nextInactive_of_completes hcompletes]
      simp only [heldChange_append, shellChange_append]
      refine ⟨?_, ?_, ?_⟩
      · intro object
        have h := hpositive object
        have h' := hpositive' object
        omega
      · rw [List.forall_mem_cons, ← hzero, ← hzero', ← forall_and]
        apply forall_congr'
        intro object
        have h := hpositive object
        have h' := hpositive' object
        omega
      · intro service
        rw [hshell, hshell', add_zero]

end Balance

/-- What the plugin holds at the end of a run is the sum over its events,
whatever the clients did in between. -/
theorem ended_account {activations : List Activation} {system : SharedSystem}
    (hself : ∀ a ∈ activations, a.ConfiguresItself)
    (hreaches : Reaches LifetimeEvent.effect
      (SharedSystem.constructed activations) system)
    (hended : system.program = []) :
    (∀ object, (system.account.held object : ℤ) =
      heldChange (runEvents activations State.constructed) object) ∧
    ∀ service, (system.account.resourceHeld service : ℤ) =
      shellChange (runEvents activations State.constructed) service := by
  obtain ⟨_, hsame⟩ :=
    hreaches.disciplined orderly_allows (constructed_disciplined hself)
  rw [hended] at hsame
  have hbalance := runInputs_balance orderly_allows
    (constructed_disciplined hself).2 hsame.symm
  constructor
  · intro object
    have h := hbalance.1 object
    simpa [SharedSystem.constructed, System.start, Account.empty,
      heldChange] using h
  · intro service
    have h := hbalance.2 service
    simpa [SharedSystem.constructed, System.start, Account.empty,
      shellChange] using h

/-! ## The counts are those of the faithful run -/

/-- When a run has ended, the counts are down to what the clients hold exactly
if no activation was mixed.  The plugin has given back every shell; those still
referenced are the ones kept by live implementations, so with the last client
of an unmixed run they are back as well. -/
theorem left_behind_iff (activations : List Activation)
    (hself : ∀ a ∈ activations, a.ConfiguresItself)
    (hfound : ∀ a ∈ activations, a.ConfigurationFound)
    {system : SharedSystem}
    (hreaches : Reaches LifetimeEvent.effect
      (SharedSystem.constructed activations) system)
    (hended : system.program = []) :
    ((∀ object, system.heap.count object = system.others object) ↔
      ∀ a ∈ activations, a.AllOrNone) ∧
    (∀ service, system.heap.resourceCount service =
      (system.heap.keepers service).ncard) ∧
    ((∀ a ∈ activations, a.AllOrNone) →
      (∀ object, system.others object = 0) →
        ∀ service, system.heap.resourceCount service = 0) := by
  obtain ⟨haccounted, _⟩ := reached_disciplined hself hreaches
  obtain ⟨hheld, hresourceHeld⟩ := ended_account hself hreaches hended
  obtain ⟨_, hzero, hshell⟩ :=
    change_runEvents (s := State.constructed) hself hfound
  have hiff : (∀ object, system.heap.count object = system.others object) ↔
      ∀ a ∈ activations, a.AllOrNone := by
    rw [← hzero]
    apply forall_congr'
    intro object
    have hcount := haccounted.count object
    have h := hheld object
    omega
  have hservice : ∀ service, system.heap.resourceCount service =
      (system.heap.keepers service).ncard := by
    intro service
    have hcount := haccounted.resource service
    have h := hresourceHeld service
    rw [hshell] at h
    omega
  refine ⟨hiff, hservice, ?_⟩
  intro hreset hgone service
  have hcount := hiff.mpr hreset
  have hempty : system.heap.keepers service = ∅ :=
    haccounted.keepers_eq_empty (fun object => (hcount object).trans (hgone object))
      service
  rw [hservice, hempty, Set.ncard_empty]

/-- No `Root<>` call returns an object, and the configuration interface is not
asked for. -/
def refusedActivation : Activation :=
  { cleanActivation with
    root := ⟨⟨none, none⟩, ⟨none, none⟩, ⟨none, none⟩⟩
    queryInterface := none }

/-- Only the IDeviceInfo object is missing. -/
def headlessActivation : Activation :=
  { cleanActivation with
    root := ⟨⟨none, none⟩, ⟨some 2, some 0⟩, ⟨some 3, some 0⟩⟩
    queryInterface := none }

/-- A run with a refused activation leaves nothing once its client has let go,
and one without the IDeviceInfo object leaves the other two. -/
theorem left_behind_after_refused :
    (∃ system, Reaches LifetimeEvent.effect
        (SharedSystem.constructed [refusedActivation, cleanActivation]) system ∧
      system.program = [] ∧
      ∀ service, system.heap.resourceCount service = 0) ∧
    ∃ system, Reaches LifetimeEvent.effect
        (SharedSystem.constructed [headlessActivation]) system ∧
      system.program = [] ∧
      ¬ ∀ object, system.heap.count object = system.others object := by
  constructor
  · have hreaches := reaches_of_runInputs LifetimeEvent.effect
      (SharedSystem.constructed [refusedActivation, cleanActivation])
      (List.replicate 9 .call ++ [.join 1] ++ List.replicate 4 .call ++
        [.leave 1]) rfl
    have hself : ∀ a ∈ [refusedActivation, cleanActivation],
        a.ConfiguresItself := by
      simp [Activation.ConfiguresItself, refusedActivation, cleanActivation]
    have hfound : ∀ a ∈ [refusedActivation, cleanActivation],
        a.ConfigurationFound := by
      simp [Activation.ConfigurationFound, Activation.objects,
        PerInterface.AllSet, refusedActivation, cleanActivation]
    have hclean : ∀ a ∈ [refusedActivation, cleanActivation], a.AllOrNone := by
      simp [Activation.AllOrNone, Activation.objects, PerInterface.AllSet,
        refusedActivation, cleanActivation]
    have hleft := left_behind_iff _ hself hfound hreaches rfl
    refine ⟨_, hreaches, rfl, hleft.2.2 hclean ?_⟩
    intro object
    change Function.update (Function.update (fun _ => 0) 1 1) 1 0 object = 0
    by_cases heq : object = 1 <;> simp [heq]
  · have hreaches := reaches_of_runInputs LifetimeEvent.effect
      (SharedSystem.constructed [headlessActivation])
      (List.replicate 4 .call) rfl
    have hself : ∀ a ∈ [headlessActivation], a.ConfiguresItself := by
      simp [Activation.ConfiguresItself, headlessActivation]
    have hfound : ∀ a ∈ [headlessActivation], a.ConfigurationFound := by
      simp [Activation.ConfigurationFound, Activation.objects,
        PerInterface.AllSet, headlessActivation]
    have hmixed : ¬ ∀ a ∈ [headlessActivation], a.AllOrNone := by
      simp [Activation.AllOrNone, Activation.objects, PerInterface.AllSet,
        headlessActivation]
    have hleft := left_behind_iff _ hself hfound hreaches rfl
    refine ⟨_, hreaches, rfl, ?_⟩
    rw [hleft.1]
    exact hmixed

end Lifecycle
end DeviceInfoPlugin
