import DeviceInfoPlugin.ReferenceReturn
import DeviceInfoPlugin.InterleavedHolders

/-!
# Lifetime of the implementation objects

What a run of the plugin does to the counted objects, one event for each
reference it takes or gives back and one for the shell that `Configure` stores.
Clients that got an interface of the plugin hold the same objects and come and
go at any time; `DeviceInfoImplementation` gives its shell back in its
destructor only.
-/

namespace DeviceInfoPlugin
namespace Lifecycle

open CountedObjects
open InputRun
open ReferenceLedger
open Traced

inductive LifetimeEvent where
  | entry (entry : Entry Reference)
  /-- `_service = service; _service->AddRef()` in the implementation. -/
  | stored (object : Object) (service : Shell)
  deriving DecidableEq, Repr

def LifetimeEvent.effect : LifetimeEvent → Call Object Shell
  | .entry (.acquired (.shell service)) => .addRefResource service
  | .entry (.released (.shell service)) => .releaseResource service
  | .entry (.acquired (.implementation _ object)) => .create object
  | .entry (.released (.implementation _ object)) => .release object
  | .entry (.acquired (.configuration object)) => .addRef object
  | .entry (.released (.configuration object)) => .release object
  | .entry (.acquired (.connection _)) => .other
  | .entry (.released (.connection _)) => .other
  | .stored object service => .keep object service

def entriesBetween (before after : State) : List LifetimeEvent :=
  (after.ledger.drop before.ledger.length).map .entry

def State.storedEvents (s : State) : List LifetimeEvent :=
  match s.members.deviceInfo with
  | some object =>
      match s.implementationService object with
      | some service => [.stored object service]
      | none => []
  | none => []

/-- `Configure` is the last call of `Initialize` that changes a reference. -/
def Activation.events (a : Activation) (s : State) : List LifetimeEvent :=
  entriesBetween s (a.active s) ++ (a.active s).storedEvents ++
    entriesBetween (a.active s) (a.inactive s)

def runEvents : List Activation → State → List LifetimeEvent
  | [], _ => []
  | a :: rest, s =>
      a.events s ++
        match nextInactive a s with
        | some s' => runEvents rest s'
        | none => []

/-- The configuration interface is one of the IDeviceInfo object itself, as
the interface map of `DeviceInfoImplementation` has it. -/
def Activation.ConfiguresItself (a : Activation) : Prop :=
  ∀ object, a.queryInterface = some object →
    a.root.deviceInfo.object = some object

instance (a : Activation) : Decidable a.StoresShell :=
  inferInstanceAs (Decidable (_ ∧ _))

/-! ## The events of one cycle -/

section Cycle

variable {a : Activation} {s : State}

theorem active_implementationService {info : Object}
    (hinfo : a.root.deviceInfo.object = some info) :
    (a.active s).implementationService info =
      if a.objects.AllSet ∧ a.StoresShell then some a.service else none := by
  have hfresh := rooted_implementationService s hinfo
  suffices hspec : Wp (initializePlugin a)
      (fun _ _ s' => s'.implementationService info =
        if a.objects.AllSet ∧ a.StoresShell then some a.service else none)
      (fun _ _ s' => s'.implementationService info =
        if a.objects.AllSet ∧ a.StoresShell then some a.service else none)
      s from hspec.final
  simp only [initializePlugin, wp_bind, wp_statement, wp_current]
  change Wp (if (s.rooted a).members.AllSet then _ else _) _ _ (s.rooted a)
  by_cases hall : a.objects.AllSet
  · rw [rooted_members, if_pos hall, wp_bind]
    change Wp (through _ a.root.deviceInfo.object) _ _ _
    rw [hinfo, wp_through_some]
    simp only [wp_bind, wp_statement]
    cases hquery : a.queryInterface with
    | none =>
        simp only [wp_bind, wp_pure, wp_statement, register_all_handlers]
        have hnot : ¬ a.StoresShell := fun h => h.1 hquery
        rw [if_neg (fun h => hnot h.2)]
        exact hfresh
    | some configure =>
        simp only [wp_bind, wp_pure, wp_statement, register_all_handlers]
        by_cases hstored : a.configure.stored = true
        · have hstores : a.StoresShell := ⟨by simp [hquery], hstored⟩
          rw [State.configured, if_pos hstored, if_pos ⟨hall, hstores⟩]
          exact Function.update_self _ _ _
        · have hnot : ¬ a.StoresShell := fun h => hstored h.2
          rw [State.configured, if_neg hstored, if_neg (fun h => hnot h.2)]
          exact hfresh
  · rw [rooted_members, if_neg hall, wp_pure, if_neg (fun h => hall h.1)]
    exact hfresh

theorem entriesBetween_of_append {before after : State}
    {later : Ledger Reference} (hledger : after.ledger = before.ledger ++ later) :
    entriesBetween before after = later.map .entry := by
  simp [entriesBetween, hledger]

theorem entriesBetween_active :
    entriesBetween s (a.active s) = a.taken.map .entry :=
  entriesBetween_of_append (active_initialized a s).ledger

theorem storedEvents_active :
    (a.active s).storedEvents =
      match a.root.deviceInfo.object with
      | some info =>
          if a.objects.AllSet ∧ a.StoresShell then [.stored info a.service]
          else []
      | none => [] := by
  have hmembers : (a.active s).members.deviceInfo = a.root.deviceInfo.object := by
    rw [(active_initialized a s).members]
    rfl
  unfold State.storedEvents
  rw [hmembers]
  cases hinfo : a.root.deviceInfo.object with
  | none => rfl
  | some info =>
      dsimp only
      rw [active_implementationService hinfo]
      by_cases hstored : a.objects.AllSet ∧ a.StoresShell <;> simp [hstored]

theorem taken_of_allSet {info audio video : Object}
    (hobjects : a.objects = ⟨some info, some audio, some video⟩) :
    a.taken =
      [.acquired (.shell a.service),
        .acquired (.implementation .deviceInfo info),
        .acquired (.implementation .deviceAudioCapabilities audio),
        .acquired (.implementation .deviceVideoCapabilities video)] ++
      acquiredIf .configuration a.queryInterface := by
  have hall : a.objects.AllSet := by simp [hobjects, PerInterface.AllSet]
  simp only [Activation.objects, PerInterface.mk.injEq] at hobjects
  rw [Activation.taken, if_pos hall, hobjects.1, hobjects.2.1, hobjects.2.2]
  rfl

theorem events_of_allSet {info audio video : Object}
    (hobjects : a.objects = ⟨some info, some audio, some video⟩)
    (hquery : a.queryInterface = some info) :
    a.events s =
      ([.acquired (.shell a.service),
        .acquired (.implementation .deviceInfo info),
        .acquired (.implementation .deviceAudioCapabilities audio),
        .acquired (.implementation .deviceVideoCapabilities video),
        .acquired (.configuration info)] : Ledger Reference).map .entry ++
      (if a.objects.AllSet ∧ a.StoresShell then [.stored info a.service]
        else []) ++
      ([.released (.implementation .deviceAudioCapabilities audio),
        .released (.implementation .deviceVideoCapabilities video),
        .released (.configuration info)] ++
        a.connectionEntries (a.active s).connectionId .acquired ++
        [.released (.implementation .deviceInfo info)] ++
        a.connectionEntries (a.active s).connectionId .released ++
        [.released (.shell a.service)] : Ledger Reference).map .entry := by
  have hall : a.objects.AllSet := by simp [hobjects, PerInterface.AllSet]
  have hfound : a.Completes s := completes_iff.mpr fun _ => by simp [hquery]
  have hinfo : a.root.deviceInfo.object = some info :=
    congrArg PerInterface.deviceInfo hobjects
  have hgiven := entriesBetween_of_append (inactive_deinitialized hfound).ledger
  rw [Activation.events, entriesBetween_active, storedEvents_active, hgiven,
    given_active_of_allSet hall, taken_of_allSet hobjects, hobjects, hinfo, hquery]
  rfl

theorem events_of_not_allSet (hall : ¬ a.objects.AllSet) :
    a.events s =
      [.entry (.acquired (.shell a.service))] ++
      (acquiredIf (.implementation .deviceInfo)
        a.root.deviceInfo.object).map .entry ++
      (acquiredIf (.implementation .deviceAudioCapabilities)
        a.root.deviceAudioCapabilities.object).map .entry ++
      (acquiredIf (.implementation .deviceVideoCapabilities)
        a.root.deviceVideoCapabilities.object).map .entry ++
      [.entry (.released (.shell a.service))] := by
  have hfound : a.Completes s := completes_iff.mpr fun h => absurd h hall
  have hgiven := entriesBetween_of_append (inactive_deinitialized hfound).ledger
  have hstored : (a.active s).storedEvents = [] := by
    rw [storedEvents_active]
    cases a.root.deviceInfo.object <;> simp [hall]
  rw [Activation.events, entriesBetween_active, hstored, hgiven,
    given_active_of_not_allSet hall, Activation.taken, if_neg hall]
  simp

end Cycle

/-! ## The events are in order -/

/-- An event is allowed, and an implementation is released as the last
reference the plugin holds on it. -/
def Orderly (event : LifetimeEvent) (account : Account Object Shell) : Prop :=
  account.Allows event.effect ∧
    ∀ interface object,
      event = .entry (.released (.implementation interface object)) →
        account.held object = 1

def OrderlyFrom (account : Account Object Shell) (events : List LifetimeEvent) :
    Prop :=
  Along (fun event => Account.next event.effect) Orderly events account

section Orderly

variable {a : Activation} {s : State} {rest : List LifetimeEvent}
  {account : Account Object Shell}

theorem orderlyFrom_cons (event : LifetimeEvent) :
    OrderlyFrom account (event :: rest) ↔
      Orderly event account ∧
        (account.Fresh event.effect →
          OrderlyFrom (account.after event.effect) rest) :=
  along_cons_call event rest account

@[simp] theorem orderlyFrom_acquired_shell (service : Shell) :
    OrderlyFrom account (.entry (.acquired (.shell service)) :: rest) ↔
      OrderlyFrom (account.after (.addRefResource service)) rest := by
  simp [orderlyFrom_cons, Orderly, LifetimeEvent.effect, Account.Allows,
    Account.Fresh]

@[simp] theorem orderlyFrom_released_shell (service : Shell) :
    OrderlyFrom account (.entry (.released (.shell service)) :: rest) ↔
      0 < account.resourceHeld service ∧
        OrderlyFrom (account.after (.releaseResource service)) rest := by
  simp [orderlyFrom_cons, Orderly, LifetimeEvent.effect, Account.Allows,
    Account.Fresh]

@[simp] theorem orderlyFrom_acquired_implementation (interface : Interface)
    (object : Object) :
    OrderlyFrom account
        (.entry (.acquired (.implementation interface object)) :: rest) ↔
      (account.held object = 0 →
        OrderlyFrom (account.after (.create object)) rest) := by
  simp [orderlyFrom_cons, Orderly, LifetimeEvent.effect, Account.Allows,
    Account.Fresh]

@[simp] theorem orderlyFrom_released_implementation (interface : Interface)
    (object : Object) :
    OrderlyFrom account
        (.entry (.released (.implementation interface object)) :: rest) ↔
      account.held object = 1 ∧
        OrderlyFrom (account.after (.release object)) rest := by
  have hpositive : account.held object = 1 → 0 < account.held object := by omega
  simp only [orderlyFrom_cons, Orderly, LifetimeEvent.effect, Account.Allows,
    Account.Fresh, LifetimeEvent.entry.injEq, Entry.released.injEq,
    Reference.implementation.injEq, true_implies]
  constructor
  · intro h
    exact ⟨h.1.2 interface object ⟨rfl, rfl⟩, h.2⟩
  · intro h
    refine ⟨⟨hpositive h.1, ?_⟩, h.2⟩
    intro _ other heq
    rw [← heq.2]
    exact h.1

@[simp] theorem orderlyFrom_acquired_configuration (object : Object) :
    OrderlyFrom account (.entry (.acquired (.configuration object)) :: rest) ↔
      0 < account.held object ∧
        OrderlyFrom (account.after (.addRef object)) rest := by
  simp [orderlyFrom_cons, Orderly, LifetimeEvent.effect, Account.Allows,
    Account.Fresh]

@[simp] theorem orderlyFrom_released_configuration (object : Object) :
    OrderlyFrom account (.entry (.released (.configuration object)) :: rest) ↔
      0 < account.held object ∧
        OrderlyFrom (account.after (.release object)) rest := by
  simp [orderlyFrom_cons, Orderly, LifetimeEvent.effect, Account.Allows,
    Account.Fresh]

@[simp] theorem orderlyFrom_stored (object : Object) (service : Shell) :
    OrderlyFrom account (.stored object service :: rest) ↔
      (0 < account.held object ∧ account.given object = none) ∧
        OrderlyFrom (account.after (.keep object service)) rest := by
  simp [orderlyFrom_cons, Orderly, LifetimeEvent.effect, Account.Allows,
    Account.Fresh]

/-- Remote connections are no objects of the account. -/
theorem orderlyFrom_connection (id : UInt32) {entry : Reference → Entry Reference}
    (hentry : entry = .acquired ∨ entry = .released) :
    OrderlyFrom account ((a.connectionEntries id entry).map .entry ++ rest) ↔
      OrderlyFrom account rest := by
  unfold Activation.connectionEntries
  rcases hentry with rfl | rfl <;> split <;>
    simp [orderlyFrom_cons, Orderly, LifetimeEvent.effect, Account.Allows,
      Account.Fresh, Account.after]

/-- The account of a plugin that is active. -/
structure Activated (info audio video : Object) (service : Shell)
    (account : Account Object Shell) : Prop where
  held_info : account.held info = 2
  held_audio : account.held audio = 1
  held_video : account.held video = 1
  audio_ne_video : audio ≠ video
  held_service : 0 < account.resourceHeld service

theorem Activated.keep {info audio video object : Object} {service : Shell}
    (hactivated : Activated info audio video service account) :
    Activated info audio video service (account.after (.keep object service)) :=
  ⟨hactivated.held_info, hactivated.held_audio, hactivated.held_video,
    hactivated.audio_ne_video, hactivated.held_service⟩

theorem orderlyFrom_deinitialize {info audio video : Object} {service : Shell}
    (hactivated : Activated info audio video service account) (id : UInt32)
    (hrest : ∀ account, OrderlyFrom account rest) :
    OrderlyFrom account
      (.entry (.released (.implementation .deviceAudioCapabilities audio)) ::
        .entry (.released (.implementation .deviceVideoCapabilities video)) ::
        .entry (.released (.configuration info)) ::
        ((a.connectionEntries id .acquired).map .entry ++
          .entry (.released (.implementation .deviceInfo info)) ::
          ((a.connectionEntries id .released).map .entry ++
            .entry (.released (.shell service)) :: rest))) := by
  have hinfo := hactivated.held_info
  have haudio := hactivated.held_audio
  have hvideo := hactivated.held_video
  have hservice := hactivated.held_service
  have hvideoAudio : video ≠ audio := hactivated.audio_ne_video.symm
  have hinfoAudio : info ≠ audio := by
    intro heq
    rw [heq] at hinfo
    omega
  have hinfoVideo : info ≠ video := by
    intro heq
    rw [heq] at hinfo
    omega
  simp [orderlyFrom_connection, Account.held_after, Account.resourceHeld_after,
    hinfo, haudio, hvideo, hservice, hvideoAudio, hinfoAudio, hinfoVideo, hrest]

/-- A creation where the plugin holds nothing is one at another place. -/
structure CreatedApart (info audio video : Object)
    (account : Account Object Shell) : Prop where
  audio_ne_info : audio ≠ info
  video_ne_info : video ≠ info
  video_ne_audio : video ≠ audio
  held_info : account.held info = 1
  held_audio : account.held audio = 1
  held_video : account.held video = 1
  given_info : account.given info = none

theorem createdApart {info audio video : Object}
    (hinfo : account.held info = 0)
    (haudio : (account.after (.create info)).held audio = 0)
    (hvideo : ((account.after (.create info)).after (.create audio)).held video
      = 0) :
    CreatedApart info audio video
      (((account.after (.create info)).after (.create audio)).after
        (.create video)) := by
  have haudioInfo : audio ≠ info := by
    intro heq
    simp [heq, Account.held_after] at haudio
  have hvideoAudio : video ≠ audio := by
    intro heq
    simp [heq, Account.held_after] at hvideo
  have hvideoInfo : video ≠ info := by
    intro heq
    simp [heq, Account.held_after, haudioInfo.symm] at hvideo
  simp only [Account.held_after, haudioInfo, hvideoAudio, hvideoInfo, if_false]
    at haudio hvideo
  constructor
  · exact haudioInfo
  · exact hvideoInfo
  · exact hvideoAudio
  · simp [Account.held_after, haudioInfo.symm, hvideoInfo.symm, hinfo]
  · simp [Account.held_after, haudioInfo, hvideoAudio.symm, haudio]
  · simp [Account.held_after, hvideoInfo, hvideoAudio, hvideo]
  · simp [Account.given_after, haudioInfo.symm, hvideoInfo.symm]

theorem orderlyFrom_initialize {info audio video : Object} {service : Shell}
    {stored : Prop} [Decidable stored]
    (hrest : ∀ account, Activated info audio video service account →
      OrderlyFrom account rest) :
    OrderlyFrom account
      (.entry (.acquired (.shell service)) ::
        .entry (.acquired (.implementation .deviceInfo info)) ::
        .entry (.acquired (.implementation .deviceAudioCapabilities audio)) ::
        .entry (.acquired (.implementation .deviceVideoCapabilities video)) ::
        .entry (.acquired (.configuration info)) ::
        ((if stored then [.stored info service] else []) ++ rest)) := by
  simp only [orderlyFrom_acquired_shell, orderlyFrom_acquired_implementation,
    orderlyFrom_acquired_configuration]
  intro hinfo haudio hvideo
  have hservice : 0 < ((((account.after (.addRefResource service)).after
      (.create info)).after (.create audio)).after
        (.create video)).resourceHeld service := by
    simp [Account.resourceHeld_after]
  have happart := createdApart hinfo haudio hvideo
  revert hservice happart
  generalize (((account.after (.addRefResource service)).after
    (.create info)).after (.create audio)).after (.create video) = created
  intro hservice happart
  have hheld := happart.held_info
  have hactivated : Activated info audio video service
      (created.after (.addRef info)) := by
    constructor
    · simp [Account.held_after, hheld]
    · simp [Account.held_after, happart.audio_ne_info, happart.held_audio]
    · simp [Account.held_after, happart.video_ne_info, happart.held_video]
    · exact happart.video_ne_audio.symm
    · simpa [Account.resourceHeld_after] using hservice
  refine ⟨by omega, ?_⟩
  split
  next =>
    simp only [List.cons_append, List.nil_append, orderlyFrom_stored]
    have hpositive : 0 < (created.after (.addRef info)).held info := by
      rw [hactivated.held_info]
      omega
    refine ⟨⟨hpositive, ?_⟩, hrest _ hactivated.keep⟩
    simpa [Account.given_after] using happart.given_info
  next => exact hrest _ hactivated

theorem orderlyFrom_events_of_allSet {info audio video : Object}
    (hobjects : a.objects = ⟨some info, some audio, some video⟩)
    (hquery : a.queryInterface = some info)
    (hrest : ∀ account, OrderlyFrom account rest) :
    OrderlyFrom account (a.events s ++ rest) := by
  rw [events_of_allSet hobjects hquery]
  simp only [List.map_append, List.map_cons, List.map_nil, List.append_assoc,
    List.cons_append, List.nil_append]
  apply orderlyFrom_initialize
  intro account hactivated
  exact orderlyFrom_deinitialize hactivated _ hrest

theorem orderlyFrom_events_of_unconfigurable {info audio video : Object}
    (hobjects : a.objects = ⟨some info, some audio, some video⟩)
    (hquery : a.queryInterface = none)
    (hrest : ∀ account, OrderlyFrom account rest) :
    OrderlyFrom account (a.events s ++ rest) := by
  have hnot : ¬ (a.objects.AllSet ∧ a.StoresShell) := fun h => h.2.1 hquery
  have hinfo : a.root.deviceInfo.object = some info :=
    congrArg PerInterface.deviceInfo hobjects
  have hgiven := entriesBetween_of_append
    (inactive_abandoned (s := s) hobjects hquery).ledger
  rw [Activation.events, entriesBetween_active, storedEvents_active, hgiven,
    taken_of_allSet hobjects, hinfo, hquery]
  simp only [if_neg hnot, acquiredIf, List.map_cons, List.map_nil,
    List.append_nil, List.cons_append, List.nil_append,
    orderlyFrom_acquired_shell, orderlyFrom_acquired_implementation,
    orderlyFrom_released_implementation]
  intro hinfo haudio hvideo
  have happart := createdApart hinfo haudio hvideo
  refine ⟨happart.held_audio, ?_, hrest _⟩
  simpa [Account.held_after, happart.video_ne_audio] using happart.held_video

theorem orderlyFrom_acquiredIf {interface : Interface} {object : Option Object}
    (hrest : ∀ account', account'.resourceHeld = account.resourceHeld →
      OrderlyFrom account' rest) :
    OrderlyFrom account
      ((acquiredIf (.implementation interface) object).map .entry ++ rest) := by
  cases object with
  | none => exact hrest account rfl
  | some object =>
      simp only [acquiredIf, List.map_cons, List.map_nil, List.cons_append,
        List.nil_append, orderlyFrom_acquired_implementation]
      intro _
      exact hrest _ rfl

theorem orderlyFrom_events_of_not_allSet (hall : ¬ a.objects.AllSet)
    (hrest : ∀ account, OrderlyFrom account rest) :
    OrderlyFrom account (a.events s ++ rest) := by
  rw [events_of_not_allSet hall]
  simp only [List.append_assoc,
    List.cons_append, List.nil_append, orderlyFrom_acquired_shell]
  apply orderlyFrom_acquiredIf
  intro account₁ hsame₁
  apply orderlyFrom_acquiredIf
  intro account₂ hsame₂
  apply orderlyFrom_acquiredIf
  intro account₃ hsame₃
  rw [orderlyFrom_released_shell, hsame₃, hsame₂, hsame₁]
  constructor
  · simp [Account.resourceHeld_after]
  · exact hrest _

theorem orderlyFrom_events (hself : a.ConfiguresItself)
    (hrest : ∀ account, OrderlyFrom account rest) :
    OrderlyFrom account (a.events s ++ rest) := by
  by_cases hall : a.objects.AllSet
  · rcases hall.eq_some with ⟨info, audio, video, hobjects⟩
    cases hquery : a.queryInterface with
    | none => exact orderlyFrom_events_of_unconfigurable hobjects hquery hrest
    | some configure =>
        have hinfo : a.root.deviceInfo.object = some info :=
          congrArg PerInterface.deviceInfo hobjects
        have hsame := hself configure hquery
        rw [hinfo] at hsame
        rw [← hsame] at hquery
        exact orderlyFrom_events_of_allSet hobjects hquery hrest
  · exact orderlyFrom_events_of_not_allSet hall hrest

/-- Read alone, the events of a whole run are in order, whatever the plugin
held before. -/
theorem orderlyFrom_runEvents {activations : List Activation}
    (hself : ∀ a ∈ activations, a.ConfiguresItself) :
    OrderlyFrom account (runEvents activations s) := by
  induction activations generalizing s account with
  | nil => trivial
  | cons a rest ih =>
      apply orderlyFrom_events (hself a List.mem_cons_self)
      intro account'
      cases nextInactive a s with
      | none => trivial
      | some s' =>
          apply ih
          intro b hb
          exact hself b (List.mem_cons_of_mem _ hb)

end Orderly

end Lifecycle
end DeviceInfoPlugin
