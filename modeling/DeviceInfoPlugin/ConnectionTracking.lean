import DeviceInfoPlugin.ActivationCycle
import Mathlib.Data.Set.Basic

/-!
# Remote connections of the three implementations

Each `Root<>` call stores the id of the connection that hosts its object in the
same member, so only the last id survives.  `Deactivated` and `Deinitialize`
know that one only; the other two connections are followed exactly when their
ids are zero or equal to it.
-/

namespace DeviceInfoPlugin
namespace Lifecycle

open ReferenceLedger
open Traced

structure ConnectionIds where
  deviceInfo : UInt32
  deviceAudioCapabilities : UInt32
  deviceVideoCapabilities : UInt32
  deriving DecidableEq, Repr

def ConnectionIds.Hosts (ids : ConnectionIds) (id : UInt32) : Prop :=
  id ≠ 0 ∧ (id = ids.deviceInfo ∨ id = ids.deviceAudioCapabilities ∨
    id = ids.deviceVideoCapabilities)

structure Activation.Reports (a : Activation) (ids : ConnectionIds) : Prop where
  deviceInfo : a.root.deviceInfo.connectionId = some ids.deviceInfo
  deviceAudioCapabilities : a.root.deviceAudioCapabilities.connectionId =
    some ids.deviceAudioCapabilities
  deviceVideoCapabilities : a.root.deviceVideoCapabilities.connectionId =
    some ids.deviceVideoCapabilities

/-- `Deactivated` submits a job for a connection exactly if it hosts one of
the objects; `among` are the ids it is called with. -/
def Activation.NoticesLoss (a : Activation) (ids : ConnectionIds)
    (among : Set UInt32) (s : State) : Prop :=
  ∀ id ∈ among,
    (ids.Hosts id → (deactivated id (a.active s)).submitted =
      (a.active s).submitted ++ [some a.service]) ∧
    (¬ ids.Hosts id → (deactivated id (a.active s)).submitted =
      (a.active s).submitted)

/-- `Deinitialize` terminates and releases once each hosting connection that
`RemoteConnection` returns. -/
def Activation.EndsConnections (a : Activation) (ids : ConnectionIds)
    (s : State) : Prop :=
  ∀ id, ids.Hosts id → (a.remoteConnection id).isSome →
    (a.inactive s).terminated.count id = (a.active s).terminated.count id + 1 ∧
      releases (a.inactive s).ledger (.connection id) =
        releases (a.active s).ledger (.connection id) + 1

def Activation.FollowsConnections (a : Activation) (ids : ConnectionIds)
    (among : Set UInt32) (s : State) : Prop :=
  a.NoticesLoss ids among s ∧ a.EndsConnections ids s

def ConnectionIds.LastCoversAll (ids : ConnectionIds) : Prop :=
  (ids.deviceInfo = 0 ∨ ids.deviceInfo = ids.deviceVideoCapabilities) ∧
    (ids.deviceAudioCapabilities = 0 ∨
      ids.deviceAudioCapabilities = ids.deviceVideoCapabilities)

theorem ConnectionIds.lastCoversAll_iff (ids : ConnectionIds) :
    ids.LastCoversAll ↔
      ∀ id, ids.Hosts id → id = ids.deviceVideoCapabilities := by
  constructor
  · intro hcovers id hhosts
    have hne := hhosts.1
    rcases hhosts.2 with heq | heq | heq
    · subst heq
      exact hcovers.1.resolve_left hne
    · subst heq
      exact hcovers.2.resolve_left hne
    · exact heq
  · intro h
    constructor
    · by_cases hzero : ids.deviceInfo = 0
      · exact .inl hzero
      · exact .inr (h _ ⟨hzero, .inl rfl⟩)
    · by_cases hzero : ids.deviceAudioCapabilities = 0
      · exact .inl hzero
      · exact .inr (h _ ⟨hzero, .inr (.inl rfl)⟩)

section Cycle

variable {a : Activation} {s : State} {ids : ConnectionIds}

theorem active_connectionId (hreports : a.Reports ids) :
    (a.active s).connectionId = ids.deviceVideoCapabilities := by
  rw [(active_initialized a s).connectionId, Activation.lastConnectionId,
    hreports.deviceVideoCapabilities, Option.getD_some]

theorem deactivated_submitted_iff (hreports : a.Reports ids) (id : UInt32) :
    (deactivated id (a.active s)).submitted =
      if id = ids.deviceVideoCapabilities then
        (a.active s).submitted ++ [some a.service]
      else (a.active s).submitted := by
  rw [deactivated, active_connectionId hreports,
    ← (active_initialized a s).service]
  split <;> rfl

theorem noticesLoss_iff (hreports : a.Reports ids) (among : Set UInt32) :
    a.NoticesLoss ids among s ↔
      ∀ id ∈ among, (ids.Hosts id ↔ id = ids.deviceVideoCapabilities) := by
  unfold Activation.NoticesLoss
  apply forall₂_congr
  intro id _
  rw [deactivated_submitted_iff hreports]
  by_cases hhosts : ids.Hosts id <;>
    by_cases hlast : id = ids.deviceVideoCapabilities <;>
      simp [hhosts, hlast]

theorem endsConnections_of_lastCoversAll (hreports : a.Reports ids)
    (hsuccess : (initializePlugin a s).result = .ok "")
    (hcovers : ids.LastCoversAll) : a.EndsConnections ids s := by
  rcases initializePlugin_succeeds_iff.mp hsuccess with ⟨hall, hquery, _⟩
  have hcompletes : a.Completes s := completes_iff.mpr fun _ => hquery
  have hinactive := inactive_deinitialized hcompletes
  have hmembers := (active_allSet_iff a s).mpr hall
  have hlast := active_connectionId (s := s) hreports
  intro id hhosts hremote
  have hid := ids.lastCoversAll_iff.mp hcovers id hhosts
  rw [← hlast] at hid
  rw [hid] at hremote ⊢
  constructor
  · rw [hinactive.terminated, if_pos ⟨hmembers, hremote⟩]
    simp
  · rcases hall.eq_some with ⟨info, audio, video, hobjects⟩
    rcases Option.ne_none_iff_exists'.mp hquery with ⟨configure, hconfigure⟩
    rw [hinactive.ledger, given_active_of_allSet hall, hobjects, hconfigure]
    simp [releases, Activation.connectionEntries, hremote, releasedIf]

theorem followsConnections_nonzero_iff (hreports : a.Reports ids)
    (hsuccess : (initializePlugin a s).result = .ok "") :
    a.FollowsConnections ids { id | id ≠ 0 } s ↔ ids.LastCoversAll := by
  rw [Activation.FollowsConnections, noticesLoss_iff hreports,
    ids.lastCoversAll_iff]
  constructor
  · intro hfollows id hhosts
    have hnotices := hfollows.1 id hhosts.1
    exact hnotices.mp hhosts
  · intro hcovers
    have hall : ids.LastCoversAll := ids.lastCoversAll_iff.mpr hcovers
    constructor
    · intro id hne
      constructor
      · exact hcovers id
      · intro hid
        exact ⟨hne, .inr (.inr hid)⟩
    · exact endsConnections_of_lastCoversAll hreports hsuccess hall

end Cycle

/-- All connections are followed exactly if the last id is non-zero and the
other two are zero or equal to it.  Without the call for id zero, which no
remote connection has, the last id may be zero as well. -/
theorem connections_followed_iff (a : Activation) (s : State)
    (ids : ConnectionIds) (hreports : a.Reports ids)
    (hsuccess : (initializePlugin a s).result = .ok "") :
    (a.FollowsConnections ids Set.univ s ↔
      ids.deviceVideoCapabilities ≠ 0 ∧ ids.LastCoversAll) ∧
    (a.FollowsConnections ids { id | id ≠ 0 } s ↔ ids.LastCoversAll) := by
  have hnonzero := followsConnections_nonzero_iff hreports hsuccess
  refine ⟨?_, hnonzero⟩
  constructor
  · intro hfollows
    rcases hfollows with ⟨hnotices, hends⟩
    have hlast : ids.Hosts ids.deviceVideoCapabilities := by
      rw [noticesLoss_iff hreports] at hnotices
      exact (hnotices ids.deviceVideoCapabilities (Set.mem_univ _)).mpr rfl
    have hcovers : ids.LastCoversAll := by
      apply hnonzero.mp
      exact ⟨fun id _ => hnotices id (Set.mem_univ id), hends⟩
    exact ⟨hlast.1, hcovers⟩
  · intro hgood
    rcases hgood with ⟨hne, hcovers⟩
    have hnotices : a.NoticesLoss ids Set.univ s := by
      rw [noticesLoss_iff hreports]
      intro id _
      constructor
      · exact ids.lastCoversAll_iff.mp hcovers id
      · intro hid
        subst hid
        exact ⟨hne, .inr (.inr rfl)⟩
    exact ⟨hnotices,
      endsConnections_of_lastCoversAll hreports hsuccess hcovers⟩

def outOfProcessActivation : Activation where
  service := 0
  root := ⟨⟨some 1, some 1⟩, ⟨some 2, some 2⟩, ⟨some 3, some 3⟩⟩
  queryInterface := some 1
  configure := ⟨ERROR_NONE, true, fun _ => rfl⟩
  remoteConnection := fun _ => some ⟨none⟩

def sharedProcessActivation : Activation :=
  { outOfProcessActivation with
    root := ⟨⟨some 1, some 7⟩, ⟨some 2, some 7⟩, ⟨some 3, some 7⟩⟩ }

theorem connections_followed_shared :
    sharedProcessActivation.FollowsConnections ⟨7, 7, 7⟩ Set.univ
      State.constructed :=
  (connections_followed_iff sharedProcessActivation State.constructed ⟨7, 7, 7⟩
    ⟨rfl, rfl, rfl⟩ rfl).1.mpr ⟨by decide, .inr rfl, .inr rfl⟩

/-- The process of the IDeviceInfo implementation goes unnoticed and is never
terminated. -/
theorem connections_lost :
    outOfProcessActivation.Reports ⟨1, 2, 3⟩ ∧
      (initializePlugin outOfProcessActivation State.constructed).result =
        .ok "" ∧
      ¬ outOfProcessActivation.NoticesLoss ⟨1, 2, 3⟩ { id | id ≠ 0 }
        State.constructed ∧
      ¬ outOfProcessActivation.EndsConnections ⟨1, 2, 3⟩ State.constructed := by
  have hhosts : ConnectionIds.Hosts ⟨1, 2, 3⟩ 1 := ⟨by decide, .inl rfl⟩
  refine ⟨⟨rfl, rfl, rfl⟩, rfl, ?_, ?_⟩
  · intro hnotices
    have hsubmits := (hnotices 1 hhosts.1).1 hhosts
    have hsilent : (deactivated 1
        (outOfProcessActivation.active State.constructed)).submitted = [] := rfl
    rw [hsilent] at hsubmits
    simp at hsubmits
  · intro hends
    have hended := (hends 1 hhosts rfl).1
    have hcount : (outOfProcessActivation.inactive
        State.constructed).terminated.count 1 = 0 := by decide
    omega

end Lifecycle
end DeviceInfoPlugin
