import DeviceInfoPlugin.HeldPointers

/-!
# Remote connections over a whole run

`Deinitialize` takes a reference on the connection it is about to terminate.
Whether a run completes or crashes, and also where `Terminate` throws a
`std::exception`, the connections are all given back.  That is the only kind of
exception that is caught around `Terminate`, and the only one considered here.
-/

namespace DeviceInfoPlugin
namespace Lifecycle

open InputRun
open ReferenceLedger
open Traced

/-- Every connection was given back as often as it was taken, and terminated
each time. -/
def State.ConnectionsReturned (s : State) : Prop :=
  ∀ id, acquisitions s.ledger (.connection id) =
      releases s.ledger (.connection id) ∧
    s.terminated.count id = releases s.ledger (.connection id)

def ofConnection : Entry Reference → Bool
  | .acquired (.connection _) | .released (.connection _) => true
  | _ => false

theorem acquisitions_ofConnection (ledger : Ledger Reference) (id : UInt32) :
    acquisitions (ledger.filter ofConnection) (.connection id) =
      acquisitions ledger (.connection id) :=
  List.count_filter rfl

theorem releases_ofConnection (ledger : Ledger Reference) (id : UInt32) :
    releases (ledger.filter ofConnection) (.connection id) =
      releases ledger (.connection id) :=
  List.count_filter rfl

theorem ofConnection_acquiredIf (object : Option Object) :
    (∀ interface, (acquiredIf (.implementation interface) object).filter
      ofConnection = []) ∧
    (acquiredIf .configuration object).filter ofConnection = [] := by
  cases object <;> simp [acquiredIf, ofConnection]

theorem ofConnection_releasedIf (object : Option Object) :
    (∀ interface, (releasedIf (.implementation interface) object).filter
      ofConnection = []) ∧
    (releasedIf .configuration object).filter ofConnection = [] := by
  cases object <;> simp [releasedIf, ofConnection]

theorem ofConnection_connectionEntries (a : Activation) (id : UInt32)
    {entry : Reference → Entry Reference}
    (hentry : entry = .acquired ∨ entry = .released) :
    (a.connectionEntries id entry).filter ofConnection =
      a.connectionEntries id entry := by
  unfold Activation.connectionEntries
  rcases hentry with rfl | rfl <;> split <;> rfl

theorem ofConnection_taken (a : Activation) :
    a.taken.filter ofConnection = [] := by
  have hshell : ofConnection (.acquired (.shell a.service)) = false := rfl
  unfold Activation.taken
  split <;>
    simp [ofConnection_acquiredIf, hshell]

theorem ofConnection_given {a : Activation} {s : State}
    (hall : a.objects.AllSet) :
    (a.given (a.active s)).filter ofConnection =
      a.connectionEntries (a.active s).connectionId .acquired ++
        a.connectionEntries (a.active s).connectionId .released := by
  have hshell : ofConnection (.released (.shell a.service)) = false := rfl
  rw [given_active_of_allSet hall]
  simp [ofConnection_releasedIf, ofConnection_connectionEntries, hshell]

theorem State.ConnectionsReturned.append {s s' : State}
    (hreturned : s.ConnectionsReturned) {later : Ledger Reference}
    {terminated : List UInt32} (hledger : s'.ledger = s.ledger ++ later)
    (hterminated : s'.terminated = s.terminated ++ terminated)
    (hlater : ∀ id,
      acquisitions (later.filter ofConnection) (.connection id) =
          terminated.count id ∧
        releases (later.filter ofConnection) (.connection id) =
          terminated.count id) :
    s'.ConnectionsReturned := by
  intro id
  have hbefore := hreturned id
  have hmore := hlater id
  rw [acquisitions_ofConnection, releases_ofConnection] at hmore
  have hacquired : acquisitions s'.ledger (.connection id) =
      acquisitions s.ledger (.connection id) +
        acquisitions later (.connection id) := by
    rw [hledger]
    exact List.count_append
  have hreleased : releases s'.ledger (.connection id) =
      releases s.ledger (.connection id) + releases later (.connection id) := by
    rw [hledger]
    exact List.count_append
  rw [hterminated, List.count_append]
  omega

theorem connectionsReturned_inactive {a : Activation} {s : State}
    (hreturned : s.ConnectionsReturned) :
    (a.inactive s).ConnectionsReturned := by
  have hactive := active_initialized a s
  have htaken : (a.active s).ConnectionsReturned := by
    have hsame : (a.active s).terminated = s.terminated ++ [] := by
      simp [hactive.terminated]
    apply hreturned.append hactive.ledger hsame
    intro id
    rw [ofConnection_taken]
    exact ⟨rfl, rfl⟩
  by_cases hcompletes : a.Completes s
  · have hinactive := inactive_deinitialized hcompletes
    apply htaken.append hinactive.ledger hinactive.terminated
    intro id
    by_cases hall : a.objects.AllSet
    · have hmembers := (active_allSet_iff a s).mpr hall
      rw [ofConnection_given hall]
      unfold Activation.connectionEntries
      generalize (a.active s).connectionId = last
      by_cases hremote : (a.remoteConnection last).isSome
      · rw [if_pos hremote, if_pos hremote, if_pos ⟨hmembers, hremote⟩]
        by_cases hid : last = id <;> simp [acquisitions, releases, hid]
      · simp [hmembers, hremote, acquisitions, releases]
    · have hmembers : ¬ (a.active s).members.AllSet := by
        rwa [active_allSet_iff]
      have hshell : ofConnection (.released (.shell a.service)) = false := rfl
      rw [given_active_of_not_allSet hall]
      simp [hmembers, acquisitions, releases, hshell]
  · obtain ⟨info, audio, video, hobjects, hquery⟩ :=
      exists_objects_of_not_completes hcompletes
    have habandoned := inactive_abandoned (s := s) hobjects hquery
    have hsame : (a.inactive s).terminated = (a.active s).terminated ++ [] := by
      simp [habandoned.terminated]
    apply htaken.append habandoned.ledger hsame
    intro id
    exact ⟨rfl, rfl⟩

theorem activationRun_connectionsReturned (activations : List Activation)
    {s : State} (hreturned : s.ConnectionsReturned) :
    (activationRun activations s).state.ConnectionsReturned := by
  induction activations generalizing s with
  | nil => exact hreturned
  | cons a rest ih =>
      have hinactive := connectionsReturned_inactive (a := a) hreturned
      rw [activationRun_cons_state]
      cases hnext : nextInactive a s with
      | none => exact hinactive
      | some s' =>
          rw [(nextInactive_eq_some_iff.mp hnext).2]
          exact ih hinactive

/-- `Terminate` is only ever called on a connection whose reference is held,
and a run, also one that ends in a crash or in which `Terminate` throws a
`std::exception`, has given back every connection it took, once for each
termination. -/
theorem connections_terminated_and_returned (activations : List Activation) :
    (∀ t ∈ (activationRun activations State.constructed).trace,
      ∀ id, t.after.terminated = t.before.terminated ++ [id] →
        Holds t.before.ledger (.connection id)) ∧
    (activationRun activations State.constructed).state.ConnectionsReturned := by
  constructor
  · intro t ht
    exact ((activationRun_attached activations).trace t ht).terminate
  · apply activationRun_connectionsReturned
    intro id
    exact ⟨rfl, rfl⟩

end Lifecycle
end DeviceInfoPlugin
