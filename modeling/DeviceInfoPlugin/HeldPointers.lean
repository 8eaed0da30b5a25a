import DeviceInfoPlugin.ConnectionTracking
import DeviceInfoPlugin.HandlerBacking

/-!
# What the pointers of the plugin refer to

Between any two statements the plugin can be asked for an aggregated interface
or be told that a connection is gone, and it then uses its members as they
are.  The invariant `Attached` says that they may be used; it is checked on
every transition, like `Backed`, and it does not depend on the handlers.
-/

namespace DeviceInfoPlugin
namespace Lifecycle

open InputRun
open ReferenceLedger
open Traced

/-- The object a member points to may be handed out. -/
def State.HoldsMember (s : State) (interface : Interface) : Prop :=
  ∀ object, s.members.get interface = some object →
    Holds s.ledger (.implementation interface object)

def State.HoldsService (s : State) : Prop :=
  ∃ service, s.service = some service ∧ Holds s.ledger (.shell service)

structure State.Attached (s : State) : Prop where
  members : ∀ interface, s.HoldsMember interface
  service : s.connectionId ≠ 0 → s.HoldsService

/-- `Release()` has been called through the member and the assignment of null
has not: the only window in which a member dangles. -/
def Transition.Retires (t : Transition) (interface : Interface) : Prop :=
  ∃ object, t.after.members.get interface = some object ∧
    t.after.ledger =
      t.before.ledger ++ [.released (.implementation interface object)]

structure Transition.Attached (t : Transition) : Prop where
  members : ∀ interface, t.after.HoldsMember interface ∨ t.Retires interface
  service : t.after.connectionId ≠ 0 → t.after.HoldsService
  terminate : ∀ id, t.after.terminated = t.before.terminated ++ [id] →
    Holds t.before.ledger (.connection id)

/-! ## Statements that leave the pointers alone -/

/-- The statement moves no pointer of the plugin, terminates nothing and gives
back neither an implementation nor a shell. -/
structure Transition.Keeps (t : Transition) : Prop where
  members : t.after.members = t.before.members
  service : t.after.service = t.before.service
  connectionId : t.after.connectionId = t.before.connectionId
  terminated : t.after.terminated = t.before.terminated
  ledger : ∃ later, t.after.ledger = t.before.ledger ++ later ∧
    (∀ interface object, .released (.implementation interface object) ∉ later) ∧
      ∀ service, .released (.shell service) ∉ later

theorem Transition.attached_of_terminated {t : Transition}
    (hattached : t.after.Attached)
    (hterminated : t.after.terminated = t.before.terminated) : t.Attached := by
  refine ⟨fun interface => .inl (hattached.members interface),
    hattached.service, ?_⟩
  intro id hmore
  rw [hterminated] at hmore
  have hlength := congrArg List.length hmore
  simp at hlength

theorem State.Attached.keeps {s s' : State} (hattached : s.Attached)
    (hkeeps : Transition.Keeps ⟨s, s'⟩) :
    Transition.Attached ⟨s, s'⟩ ∧ s'.Attached := by
  obtain ⟨later, hledger, hnone, hnoShell⟩ := hkeeps.ledger
  dsimp only at hledger
  have hafter : s'.Attached := by
    constructor
    · intro interface object hobject
      rw [hkeeps.members] at hobject
      rw [hledger]
      exact (hattached.members interface object hobject).append
        (hnone interface object)
    · intro hid
      rw [hkeeps.connectionId] at hid
      obtain ⟨service, hservice, hholds⟩ := hattached.service hid
      refine ⟨service, ?_, ?_⟩
      · rw [hkeeps.service, hservice]
      · rw [hledger]
        exact hholds.append (hnoShell service)
  exact ⟨Transition.attached_of_terminated hafter hkeeps.terminated, hafter⟩

theorem keeps_of_ledger_eq {s s' : State} (hmembers : s'.members = s.members)
    (hservice : s'.service = s.service)
    (hconnectionId : s'.connectionId = s.connectionId)
    (hterminated : s'.terminated = s.terminated)
    (hledger : s'.ledger = s.ledger) : Transition.Keeps ⟨s, s'⟩ :=
  ⟨hmembers, hservice, hconnectionId, hterminated, [], by simp [hledger],
    by simp, by simp⟩

theorem keeps_acquire (s : State) (reference : Reference) :
    Transition.Keeps ⟨s, s.acquire reference⟩ :=
  ⟨rfl, rfl, rfl, rfl, _, rfl, by simp, by simp⟩

theorem keeps_release_configuration (s : State) (object : Object) :
    Transition.Keeps ⟨s, s.release (.configuration object)⟩ :=
  ⟨rfl, rfl, rfl, rfl, _, rfl, by simp, by simp⟩

theorem keeps_release_connection (s : State) (id : UInt32) :
    Transition.Keeps ⟨s, s.release (.connection id)⟩ :=
  ⟨rfl, rfl, rfl, rfl, _, rfl, by simp, by simp⟩

theorem keeps_query (s : State) (answer : Option Object) :
    Transition.Keeps ⟨s, s.query answer⟩ :=
  ⟨rfl, rfl, rfl, rfl, _, rfl, fun _ _ => notMem_acquiredIf _ _ _,
    fun _ => notMem_acquiredIf _ _ _⟩

theorem keeps_register (s : State) (interface : Interface) :
    Transition.Keeps ⟨s, s.register interface⟩ :=
  keeps_of_ledger_eq rfl rfl rfl rfl rfl

theorem keeps_unregister (s : State) (interface : Interface) :
    Transition.Keeps ⟨s, s.unregister interface⟩ :=
  keeps_of_ledger_eq rfl rfl rfl rfl rfl

theorem keeps_configured (s : State) (outcome : ConfigureOutcome)
    (object : Object) : Transition.Keeps ⟨s, s.configured outcome object⟩ := by
  apply keeps_of_ledger_eq <;> unfold State.configured <;> split <;> rfl

/-! ## `Initialize` -/

theorem State.Attached.root {s : State} (hattached : s.Attached)
    (hserving : s.HoldsService) (interface : Interface) (outcome : RootOutcome) :
    Transition.Attached ⟨s, s.root interface outcome⟩ ∧
      (s.root interface outcome).Attached ∧
      (s.root interface outcome).HoldsService := by
  have hserving' : (s.root interface outcome).HoldsService := by
    obtain ⟨service, hservice, hholds⟩ := hserving
    exact ⟨service, hservice, root_keeps hholds interface outcome⟩
  have hafter : (s.root interface outcome).Attached := by
    constructor
    · intro other object hobject
      unfold State.root at hobject
      rw [PerInterface.get_set] at hobject
      split at hobject
      next heq =>
        subst heq
        exact root_holds hobject s
      next => exact root_keeps (hattached.members other object hobject) _ _
    · intro _
      exact hserving'
  exact ⟨Transition.attached_of_terminated hafter rfl, hafter, hserving'⟩

def State.Idle (s : State) : Prop :=
  s.Attached ∧ s.connectionId = 0

/-- The shell is stored first and referenced next; no connection is known in
between. -/
theorem State.Idle.serve {s : State} (hidle : s.Idle) (service : Shell) :
    let stored : State := { s with service := some service }
    Transition.Attached ⟨s, stored⟩ ∧
      Transition.Attached ⟨stored, stored.acquire (.shell service)⟩ ∧
      (stored.acquire (.shell service)).Attached ∧
      (stored.acquire (.shell service)).HoldsService := by
  intro stored
  obtain ⟨hattached, hid⟩ := hidle
  have hstored : stored.Attached :=
    ⟨hattached.members, fun hne => absurd hid hne⟩
  have hacquired := hstored.keeps (keeps_acquire stored (.shell service))
  have hserving : (stored.acquire (.shell service)).HoldsService :=
    ⟨service, rfl, holds_acquired _ _⟩
  exact ⟨Transition.attached_of_terminated hstored rfl, hacquired.1,
    hacquired.2, hserving⟩

theorem register_all_attached {s : State} (hattached : s.Attached)
    (message : String) :
    Always Transition.Attached (do
        statement (.register .deviceInfo)
        statement (.register .deviceAudioCapabilities)
        statement (.register .deviceVideoCapabilities)
        pure message : Steps String)
      (fun _ s' => s'.Attached) s := by
  have hinfo := hattached.keeps (keeps_register s .deviceInfo)
  have haudio := hinfo.2.keeps (keeps_register _ .deviceAudioCapabilities)
  have hvideo := haudio.2.keeps (keeps_register _ .deviceVideoCapabilities)
  simp only [always_bind, always_statement, always_pure]
  exact ⟨hinfo.1, haudio.1, hvideo.1, hvideo.2⟩

theorem initializePlugin_attached (a : Activation) {s : State}
    (hidle : s.Idle) :
    Always Transition.Attached (initializePlugin a) (fun _ s' => s'.Attached)
      s := by
  obtain ⟨hstored, hacquired, hattached, hserving⟩ := hidle.serve a.service
  have hinfo := hattached.root hserving .deviceInfo a.root.deviceInfo
  have haudio := hinfo.2.1.root hinfo.2.2 .deviceAudioCapabilities
    a.root.deviceAudioCapabilities
  have hvideo := haudio.2.1.root haudio.2.2 .deviceVideoCapabilities
    a.root.deviceVideoCapabilities
  simp only [initializePlugin, always_bind, always_statement, always_current]
  refine ⟨hstored, hacquired, hinfo.1, haudio.1, hvideo.1, ?_⟩
  change Always _ (if (s.rooted a).members.AllSet then _ else _) _ (s.rooted a)
  have hrooted : (s.rooted a).Attached := hvideo.2.1
  rw [rooted_members]
  split
  next =>
    rw [always_bind]
    apply always_through
    intro info _
    have hqueried := hrooted.keeps (keeps_query _ a.queryInterface)
    rw [always_bind, always_statement]
    refine ⟨hqueried.1, ?_⟩
    generalize (s.rooted a).query a.queryInterface = queried at hqueried
    cases a.queryInterface with
    | none =>
        rw [always_bind, always_pure]
        exact register_all_attached hqueried.2 _
    | some configure =>
        have hconfigured := hqueried.2.keeps
          (keeps_configured _ a.configure info)
        rw [always_bind, always_statement, always_bind, always_pure]
        exact ⟨hconfigured.1, register_all_attached hconfigured.2 _⟩
  next =>
    rw [always_pure]
    exact hrooted

/-! ## `Deinitialize` -/

/-- All pointers but one may be used. -/
structure State.AttachedBut (s : State) (interface : Interface) : Prop where
  members : ∀ other, other ≠ interface → s.HoldsMember other
  service : s.connectionId ≠ 0 → s.HoldsService

theorem State.AttachedBut.clear {s : State} {interface : Interface}
    (hbut : s.AttachedBut interface) :
    Transition.Attached ⟨s, s.setMember interface none⟩ ∧
      (s.setMember interface none).Attached := by
  have hafter : (s.setMember interface none).Attached := by
    constructor
    · intro other object hobject
      unfold State.setMember at hobject
      rw [PerInterface.get_set] at hobject
      split at hobject
      next => contradiction
      next hne => exact hbut.members other hne object hobject
    · exact hbut.service
  exact ⟨Transition.attached_of_terminated hafter rfl, hafter⟩

theorem State.Attached.releaseMember {s : State} (hattached : s.Attached)
    {interface : Interface} {object : Object}
    (hobject : s.members.get interface = some object) :
    Transition.Attached ⟨s, s.release (.implementation interface object)⟩ ∧
      (s.release (.implementation interface object)).AttachedBut interface := by
  have hbut :
      (s.release (.implementation interface object)).AttachedBut interface := by
    constructor
    · intro other hne other' hother
      have hkept : .released (.implementation other other') ∉
          [Entry.released (Reference.implementation interface object)] := by
        simp [hne]
      exact (hattached.members other other' hother).append hkept
    · intro hid
      obtain ⟨service, hservice, hholds⟩ := hattached.service hid
      exact ⟨service, hservice, hholds.append (by simp)⟩
  refine ⟨⟨?_, hbut.service, ?_⟩, hbut⟩
  · intro other
    by_cases heq : other = interface
    · subst heq
      exact .inr ⟨object, hobject, rfl⟩
    · exact .inl (hbut.members other heq)
  · intro id hmore
    have hlength := congrArg List.length hmore
    simp [State.release] at hlength

theorem retireMember_attached {s : State} (hattached : s.Attached)
    (interface : Interface) {rest : Steps Unit} {post : Unit → State → Prop}
    (hrest : ∀ s' object, s'.Attached →
      s'.ledger = s.ledger ++ [.released (.implementation interface object)] →
      Always Transition.Attached rest post s') :
    Always Transition.Attached (do
        releaseMember interface
        statement (.setMember interface none)
        rest) post s := by
  simp only [releaseMember, always_bind, always_current, always_statement]
  apply always_through
  intro object hobject
  have hreleased := hattached.releaseMember hobject
  have hcleared := hreleased.2.clear
  exact ⟨hreleased.1, hcleared.1, hrest _ object hcleared.2 rfl⟩

theorem releaseConfigure_attached {s : State} (hattached : s.Attached)
    {rest : Steps Unit} {post : Unit → State → Prop}
    (hrest : ∀ s', s'.Attached → Always Transition.Attached rest post s') :
    Always Transition.Attached (do
        releaseConfigure
        rest) post s := by
  simp only [releaseConfigure, always_bind, always_current, always_statement]
  apply always_through
  intro configure _
  have hreleased := hattached.keeps (keeps_release_configuration s configure)
  exact ⟨hreleased.1, hrest _ hreleased.2⟩

/-- `Terminate` is called on a connection whose reference is still held, and
the reference goes back whether or not it throws a `std::exception`. -/
theorem terminate_attached {s : State} (hattached : s.Attached) {id : UInt32}
    (connection : RemoteConnection) (hholds : Holds s.ledger (.connection id))
    {rest : Steps Unit} {post : Unit → State → Prop}
    (hrest : ∀ s', s'.Attached → Always Transition.Attached rest post s') :
    Always Transition.Attached (do
        (terminate id connection).guarded logFailedTermination
        statement (.release (.connection id))
        rest) post s := by
  rw [always_bind, always_terminate_guarded, always_bind, always_statement]
  have hterminated : State.Attached
      { s with terminated := s.terminated ++ [id] } :=
    ⟨hattached.members, hattached.service⟩
  have hreleased := hterminated.keeps (keeps_release_connection _ id)
  refine ⟨⟨fun interface => .inl (hattached.members interface),
    hattached.service, ?_⟩, hreleased.1, hrest _ hreleased.2⟩
  intro other hmore
  have hsame : id = other := by simpa using hmore
  rw [← hsame]
  exact hholds

theorem leave_attached {s : State} (hattached : s.Attached) :
    Always Transition.Attached (do
        statement fun s => { s with connectionId := 0 }
        releaseService
        statement fun s => { s with service := none })
      (fun _ s' => s'.Idle) s := by
  have hforgot : State.Attached { s with connectionId := 0 } :=
    ⟨hattached.members, fun hne => absurd rfl hne⟩
  simp only [releaseService, always_bind, always_statement, always_current]
  refine ⟨Transition.attached_of_terminated hforgot rfl, ?_⟩
  apply always_through
  intro service _
  have hreleased : State.Attached
      (({ s with connectionId := 0 } : State).release (.shell service)) := by
    constructor
    · intro interface object hobject
      exact (hattached.members interface object hobject).append (by simp)
    · intro hne
      exact absurd rfl hne
  have hleft : State.Attached
      { ({ s with connectionId := 0 } : State).release (.shell service) with
        service := none } :=
    ⟨hreleased.members, fun hne => absurd rfl hne⟩
  exact ⟨Transition.attached_of_terminated hreleased rfl,
    Transition.attached_of_terminated hleft rfl, hleft, rfl⟩

theorem deinitializePlugin_attached (a : Activation) {s : State}
    (hattached : s.Attached) :
    Always Transition.Attached (deinitializePlugin a) (fun _ s' => s'.Idle)
      s := by
  rw [deinitializePlugin, always_bind, always_current]
  by_cases hall : s.members.AllSet
  · have hremoved := hattached.keeps (keeps_unregister s .deviceAudioCapabilities)
    rw [if_pos hall, always_bind, always_statement]
    refine ⟨hremoved.1, ?_⟩
    apply retireMember_attached hremoved.2
    intro s₁ _ hattached₁ _
    have hremoved₁ :=
      hattached₁.keeps (keeps_unregister s₁ .deviceVideoCapabilities)
    rw [always_bind, always_statement]
    refine ⟨hremoved₁.1, ?_⟩
    apply retireMember_attached hremoved₁.2
    intro s₂ _ hattached₂ _
    have hremoved₂ := hattached₂.keeps (keeps_unregister s₂ .deviceInfo)
    rw [always_bind, always_statement]
    refine ⟨hremoved₂.1, ?_⟩
    apply releaseConfigure_attached hremoved₂.2
    intro s₃ hattached₃
    rw [always_bind, remoteConnection, always_bind, always_current]
    split
    next connection _ =>
      have hacquired :=
        hattached₃.keeps (keeps_acquire s₃ (.connection s₃.connectionId))
      have hheld : Holds (s₃.acquire (.connection s₃.connectionId)).ledger
          (.connection s₃.connectionId) := holds_acquired _ _
      rw [always_bind, always_statement, always_pure]
      refine ⟨hacquired.1, ?_⟩
      apply retireMember_attached hacquired.2
      intro s₄ object hattached₄ hledger
      have hheld₄ : Holds s₄.ledger (.connection s₃.connectionId) := by
        rw [hledger]
        exact hheld.append (by simp)
      apply terminate_attached hattached₄ connection hheld₄
      intro s₅ hattached₅
      exact leave_attached hattached₅
    next =>
      rw [always_pure]
      apply retireMember_attached hattached₃
      intro s₄ _ hattached₄ _
      exact leave_attached hattached₄
  · rw [if_neg hall]
    exact leave_attached hattached

theorem activationRun_attached (activations : List Activation) :
    Always Transition.Attached (activationRun activations)
      (fun _ s' => s'.Idle) State.constructed := by
  have hidle : State.constructed.Idle := by
    refine ⟨⟨?_, ?_⟩, rfl⟩
    · intro interface object hobject
      cases interface <;> contradiction
    · intro hne
      exact absurd rfl hne
  apply always_forEach ?_ activations hidle
  intro a s hidle
  have hinitialize := initializePlugin_attached a hidle
  rw [activationCycle, always_bind]
  apply hinitialize.mono
  intro _ s' hattached
  exact deinitializePlugin_attached a hattached

/-- After every statement of every run, an aggregated interface is asked of an
object the plugin still holds, except between the `Release()` of an
implementation and the assignment of null that follows it. -/
theorem aggregated_objects_held (activations : List Activation) :
    ∀ t ∈ (activationRun activations State.constructed).trace,
      ∀ interface object, t.after.members.get interface = some object →
        Holds t.after.ledger (.implementation interface object) ∨
          t.after.ledger = t.before.ledger ++
            [.released (.implementation interface object)] := by
  intro t ht interface object hobject
  have hattached := (activationRun_attached activations).trace t ht
  rcases hattached.members interface with hheld | ⟨retired, hretired, hledger⟩
  · exact .inl (hheld object hobject)
  · rw [hobject, Option.some.injEq] at hretired
    rw [hretired]
    exact .inr hledger

/-- The statement that registers the last handler set. -/
theorem exists_registered_transition :
    ∃ t ∈ (activationRun [sharedProcessActivation] State.constructed).trace,
      t.after.members = sharedProcessActivation.objects ∧
        t.after.connectionId = 7 ∧ t.after.service = some 0 :=
  ⟨_, List.mem_of_getElem? (i := 9) rfl, rfl, rfl, rfl⟩

theorem aggregated_objects_held_shared :
    ∃ t ∈ (activationRun [sharedProcessActivation] State.constructed).trace,
      Holds t.after.ledger (.implementation .deviceInfo 1) ∨
        t.after.ledger = t.before.ledger ++
          [.released (.implementation .deviceInfo 1)] := by
  obtain ⟨t, ht, hmembers, -⟩ := exists_registered_transition
  have hobject : t.after.members.get .deviceInfo = some 1 := by
    rw [hmembers]
    rfl
  exact ⟨t, ht, aggregated_objects_held _ t ht .deviceInfo 1 hobject⟩

/-- Whenever a remote connection is reported gone, after any statement of any
run, the job `Deactivated` submits is for a shell the plugin holds a reference
on. -/
theorem deactivated_jobs_held (activations : List Activation) :
    ∀ t ∈ (activationRun activations State.constructed).trace,
      ∀ id : UInt32, id ≠ 0 →
        (deactivated id t.after).submitted = t.after.submitted ∨
          ∃ service, Holds t.after.ledger (.shell service) ∧
            (deactivated id t.after).submitted =
              t.after.submitted ++ [some service] := by
  intro t ht id hid
  have hattached := (activationRun_attached activations).trace t ht
  unfold deactivated
  by_cases heq : id = t.after.connectionId
  · right
    rw [heq] at hid
    obtain ⟨service, hservice, hholds⟩ := hattached.service hid
    refine ⟨service, hholds, ?_⟩
    rw [if_pos heq, hservice]
  · left
    rw [if_neg heq]

theorem deactivated_jobs_held_shared :
    ∃ t ∈ (activationRun [sharedProcessActivation] State.constructed).trace,
      (deactivated 7 t.after).submitted = t.after.submitted ∨
        ∃ service, Holds t.after.ledger (.shell service) ∧
          (deactivated 7 t.after).submitted =
            t.after.submitted ++ [some service] := by
  obtain ⟨t, ht, -⟩ := exists_registered_transition
  exact ⟨t, ht, deactivated_jobs_held _ t ht 7 (by decide)⟩

end Lifecycle
end DeviceInfoPlugin
