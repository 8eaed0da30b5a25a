import DeviceInfoPlugin.ActivationCycle

/-!
# References across repeated activations

`Initialize` acquires up to five references.  `Deinitialize` gives back four of
them behind one conjunction over the three `Root<>` results, so a cycle is
clean exactly when the three calls succeed or fail together.
-/

namespace DeviceInfoPlugin
namespace Lifecycle

open InputRun
open ReferenceLedger
open Traced

/-- `Deinitialize` ends, has released once each reference the matching
`Initialize` acquired, and leaves the members as the constructor does. -/
structure Activation.GivesBack (a : Activation) (s : State) : Prop where
  completes : a.Completes s
  returnedOnce : ∃ taken given,
    (a.active s).ledger = s.ledger ++ taken ∧
      (a.inactive s).ledger = (a.active s).ledger ++ given ∧
      ReturnedOnce taken given
  atConstructorValues : (a.inactive s).AtConstructorValues
  headAsserts : (a.inactive s).HeadAsserts

def Activation.AllOrNone (a : Activation) : Prop :=
  a.objects.AllSet ∨ a.objects = ⟨none, none, none⟩

section Cycle

variable {a : Activation} {s : State}

/-- With all three objects and the configuration interface there, the five
references go back one by one. -/
theorem returnedOnce_of_allSet (hall : a.objects.AllSet)
    (hquery : a.queryInterface ≠ none) :
    ReturnedOnce a.taken (a.given (a.active s)) := by
  rcases hall.eq_some with ⟨info, audio, video, hobjects⟩
  rcases Option.ne_none_iff_exists'.mp hquery with ⟨configure, hconfigure⟩
  have hinfo : a.root.deviceInfo.object = some info :=
    congrArg PerInterface.deviceInfo hobjects
  have haudio : a.root.deviceAudioCapabilities.object = some audio :=
    congrArg PerInterface.deviceAudioCapabilities hobjects
  have hvideo : a.root.deviceVideoCapabilities.object = some video :=
    congrArg PerInterface.deviceVideoCapabilities hobjects
  have htaken : a.taken =
      [.acquired (.shell a.service),
        .acquired (.implementation .deviceInfo info),
        .acquired (.implementation .deviceAudioCapabilities audio),
        .acquired (.implementation .deviceVideoCapabilities video),
        .acquired (.configuration configure)] := by
    rw [Activation.taken, if_pos hall, hinfo, haudio, hvideo, hconfigure]
    rfl
  rw [given_active_of_allSet hall, htaken, hobjects, hconfigure]
  intro reference hreference
  unfold Activation.connectionEntries
  simp only [List.mem_cons, Entry.acquired.injEq, List.not_mem_nil, or_false]
    at hreference
  rcases hreference with rfl | rfl | rfl | rfl | rfl <;>
    split <;> simp [acquisitions, releases, releasedIf]

theorem returnedOnce_of_none (hnone : a.objects = ⟨none, none, none⟩) :
    ReturnedOnce a.taken (a.given (a.active s)) := by
  have hall : ¬ a.objects.AllSet := by simp [hnone, PerInterface.AllSet]
  have htaken : a.taken = [.acquired (.shell a.service)] := by
    simp only [Activation.objects, PerInterface.mk.injEq] at hnone
    rw [Activation.taken, if_neg hall, hnone.1, hnone.2.1, hnone.2.2]
    rfl
  rw [given_active_of_not_allSet hall, htaken]
  intro reference hreference
  have heq : reference = .shell a.service := by simpa using hreference
  subst heq
  simp [acquisitions, releases]

theorem inactive_atConstructorValues (hcompletes : a.Completes s)
    (hreset : a.AllOrNone) : (a.inactive s).AtConstructorValues := by
  have hinactive := inactive_deinitialized hcompletes
  have hmembers : (a.inactive s).members = ⟨none, none, none⟩ := by
    rw [hinactive.members]
    split
    next => rfl
    next hall =>
      rw [(active_initialized a s).members] at hall ⊢
      exact hreset.resolve_left hall
  constructor
  · exact hinactive.service
  · intro interface
    rw [hmembers]
    cases interface <;> rfl
  · exact hinactive.connectionId

/-- A cycle with a mixed outcome leaves a member set: the guard skips its
clean-up. -/
theorem allOrNone_of_atConstructorValues (hcompletes : a.Completes s)
    (hreset : (a.inactive s).AtConstructorValues) : a.AllOrNone := by
  by_cases hall : a.objects.AllSet
  · exact .inl hall
  · right
    have hactive : ¬ (a.active s).members.AllSet := by
      rw [active_allSet_iff]
      exact hall
    have hkept : (a.inactive s).members = a.objects := by
      rw [(inactive_deinitialized hcompletes).members, if_neg hactive,
        (active_initialized a s).members]
    have hinfo := hreset.members .deviceInfo
    have haudio := hreset.members .deviceAudioCapabilities
    have hvideo := hreset.members .deviceVideoCapabilities
    rw [hkept] at hinfo haudio hvideo
    calc
      a.objects = ⟨a.objects.deviceInfo, a.objects.deviceAudioCapabilities,
        a.objects.deviceVideoCapabilities⟩ := rfl
      _ = ⟨none, none, none⟩ := by
        rw [show a.objects.deviceInfo = none from hinfo,
          show a.objects.deviceAudioCapabilities = none from haudio,
          show a.objects.deviceVideoCapabilities = none from hvideo]

theorem givesBack_iff_allOrNone (hquery : a.queryInterface ≠ none) :
    a.GivesBack s ↔ a.AllOrNone := by
  have hcompletes : a.Completes s := completes_iff.mpr fun _ => hquery
  constructor
  · intro hgives
    exact allOrNone_of_atConstructorValues hcompletes hgives.atConstructorValues
  · intro hreset
    have hvalues := inactive_atConstructorValues hcompletes hreset
    have htaken := (active_initialized a s).ledger
    have hgiven := (inactive_deinitialized hcompletes).ledger
    have hreturned : ReturnedOnce a.taken (a.given (a.active s)) := by
      rcases hreset with hall | hnone
      · exact returnedOnce_of_allSet hall hquery
      · exact returnedOnce_of_none hnone
    exact ⟨hcompletes, ⟨_, _, htaken, hgiven, hreturned⟩, hvalues,
      hvalues.headAsserts⟩

end Cycle

/-- Over a run of any length, every cycle gives back what it took exactly if
no activation has a mixed `Root<>` outcome. -/
theorem references_returned_iff (activations : List Activation)
    (hquery : ∀ a ∈ activations, a.queryInterface ≠ none) :
    Along nextInactive Activation.GivesBack activations State.constructed ↔
      ∀ a ∈ activations, a.AllOrNone := by
  apply along_iff_forall_good (fun _ => True) ?_ ?_ trivial
  · intro a ha s _
    exact givesBack_iff_allOrNone (hquery a ha)
  · intro a ha s _ hreset
    have hcompletes : a.Completes s := completes_iff.mpr fun _ => hquery a ha
    exact ⟨a.inactive s, nextInactive_of_completes hcompletes, trivial⟩

def cleanActivation : Activation where
  service := 0
  root := ⟨⟨some 1, some 0⟩, ⟨some 2, some 0⟩, ⟨some 3, some 0⟩⟩
  queryInterface := some 1
  configure := ⟨ERROR_NONE, true, fun _ => rfl⟩
  remoteConnection := fun _ => none

def mixedActivation : Activation :=
  { cleanActivation with
    root := ⟨⟨some 1, some 0⟩, ⟨none, none⟩, ⟨some 3, some 0⟩⟩ }

theorem references_returned_twice :
    Along nextInactive Activation.GivesBack
      [cleanActivation, cleanActivation] State.constructed := by
  have hquery : ∀ a ∈ [cleanActivation, cleanActivation],
      a.queryInterface ≠ none := by
    simp [cleanActivation]
  apply (references_returned_iff _ hquery).mpr
  simp [Activation.AllOrNone, Activation.objects, PerInterface.AllSet,
    cleanActivation]

/-- The reference on the IDeviceInfo object is still held after
`Deinitialize`, and `_deviceInfo` still points to it. -/
theorem references_leaked :
    (∀ a ∈ [mixedActivation], a.queryInterface ≠ none) ∧
      ¬ Along nextInactive Activation.GivesBack [mixedActivation]
        State.constructed ∧
      Holds (mixedActivation.inactive State.constructed).ledger
        (.implementation .deviceInfo 1) := by
  refine ⟨by simp [mixedActivation, cleanActivation], ?_, ?_⟩
  · intro h
    have hleft :
        (mixedActivation.inactive State.constructed).members.deviceInfo =
          some 1 := rfl
    have hreset := h.1.atConstructorValues.members .deviceInfo
    have hsame : some 1 = (none : Option Object) := hleft.symm.trans hreset
    contradiction
  · exact ⟨[.acquired (.shell 0)],
      [.acquired (.implementation .deviceVideoCapabilities 3),
        .released (.shell 0)], rfl, by simp⟩

end Lifecycle
end DeviceInfoPlugin
