import DeviceInfoPlugin.ActivationOutcome
import DeviceInfoPlugin.PairedRuns
import DeviceInfoPlugin.ReferenceReturn

/-!
# A reactivated plugin and a new one

Earlier activations leave things behind: the members of an activation that
failed, the `configure` pointer, the shells stored in implementations that
live on.  A run that starts from there and a run of a newly constructed plugin
are executed side by side; the states may differ, but after no statement do
they differ in what they show to the outside or in what they add to the
records.
-/

namespace DeviceInfoPlugin
namespace Lifecycle

open InputRun
open Traced

/-- `now` shows what `fresh` shows, and its records are those of `earlier`
followed by those of `fresh`. -/
structure Since (earlier now fresh : State) : Prop where
  service : now.service = fresh.service
  connectionId : now.connectionId = fresh.connectionId
  handlers : now.handlers = fresh.handlers
  /-- A registered implementation finds the same shell. -/
  served : ∀ object, fresh.handlers.deviceInfo = some object →
    now.implementationService object = fresh.implementationService object
  ledger : now.ledger = earlier.ledger ++ fresh.ledger
  terminated : now.terminated = earlier.terminated ++ fresh.terminated
  submitted : now.submitted = earlier.submitted ++ fresh.submitted

def SameSince (earlier : State) (t fresh : Transition) : Prop :=
  Since earlier t.after fresh.after

theorem paired_statement_bind {α : Type} {agree : Transition → Transition → Prop}
    {update update' : State → State} {rest rest' : Unit → Steps α}
    {post : α → α → State → State → Prop} {s s' : State}
    (hagree : agree ⟨s, update s⟩ ⟨s', update' s'⟩)
    (hrest : Paired agree (rest ()) (rest' ()) post (update s) (update' s')) :
    Paired agree (statement update >>= rest) (statement update' >>= rest') post
      s s' := by
  have hstatement : Paired agree (statement update) (statement update')
      (fun _ _ t t' => t = update s ∧ t' = update' s') s s' :=
    ⟨.cons hagree .nil, rfl, rfl⟩
  apply hstatement.bind
  intro _ _ t t' ht
  rw [ht.1, ht.2]
  exact hrest

theorem paired_current_bind {α : Type} {agree : Transition → Transition → Prop}
    {rest rest' : State → Steps α} {post : α → α → State → State → Prop}
    {s s' : State} (hrest : Paired agree (rest s) (rest' s') post s s') :
    Paired agree (.current >>= rest) (.current >>= rest') post s s' := by
  have hcurrent : Paired agree (.current : Steps State) .current
      (fun s s' t t' => Paired agree (rest s) (rest' s') post t t') s s' :=
    paired_current.mpr hrest
  exact hcurrent.bind fun _ _ _ _ h => h

theorem paired_through_bind {α : Type} {agree : Transition → Transition → Prop}
    {pointer : Pointer} {value value' : Option Object}
    {rest rest' : Object → Steps α} {post : α → α → State → State → Prop}
    {s s' : State} (hvalue : value = value')
    (hrest : ∀ object, value' = some object →
      Paired agree (rest object) (rest' object) post s s') :
    Paired agree (through pointer value >>= rest) (through pointer value' >>= rest')
      post s s' := by
  subst hvalue
  cases value with
  | none =>
      have hraised : Paired agree (through pointer none) (through pointer none)
          (fun _ _ _ _ => False) s s' :=
        paired_raise _
      exact hraised.bind fun _ _ _ _ h => h.elim
  | some object => exact Paired.pure_bind (hrest object rfl)

section Statements

variable {earlier now fresh : State}

theorem Since.of_unregistered (hsince : Since earlier now fresh)
    (hunregistered : fresh.Unregistered) (services services' : Object → Option Shell) :
    Since earlier { now with implementationService := services }
      { fresh with implementationService := services' } := by
  refine { hsince with served := ?_ }
  intro object hobject
  have hnone : fresh.handlers.deviceInfo = none := hunregistered .deviceInfo
  rw [hnone] at hobject
  contradiction

theorem Since.acquire (hsince : Since earlier now fresh) (reference : Reference) :
    Since earlier (now.acquire reference) (fresh.acquire reference) := by
  refine { hsince with ledger := ?_ }
  simp [State.acquire, hsince.ledger]

theorem Since.release (hsince : Since earlier now fresh) (reference : Reference) :
    Since earlier (now.release reference) (fresh.release reference) := by
  refine { hsince with ledger := ?_ }
  simp [State.release, hsince.ledger]

theorem Since.root (hsince : Since earlier now fresh)
    (hunregistered : fresh.Unregistered) (interface : Interface)
    (outcome : RootOutcome) :
    Since earlier (now.root interface outcome) (fresh.root interface outcome) := by
  have hconstructed := hsince.of_unregistered hunregistered
    (constructService interface outcome.object now.implementationService)
    (constructService interface outcome.object fresh.implementationService)
  refine { hconstructed with connectionId := ?_, ledger := ?_ }
  · simp [State.root, hsince.connectionId]
  · simp [State.root, hsince.ledger]

theorem Since.unregister (hsince : Since earlier now fresh)
    (interface : Interface) :
    Since earlier (now.unregister interface) (fresh.unregister interface) := by
  refine { hsince with handlers := ?_, served := ?_ }
  · simp [State.unregister, State.setHandlers, hsince.handlers]
  · cases interface with
    | deviceInfo => simp [State.unregister, State.setHandlers, PerInterface.set]
    | deviceAudioCapabilities => exact hsince.served
    | deviceVideoCapabilities => exact hsince.served

theorem Since.setMember (hsince : Since earlier now fresh)
    (interface : Interface) (value : Option Object) :
    Since earlier (now.setMember interface value)
      (fresh.setMember interface value) :=
  { hsince with }

theorem Since.terminate (hsince : Since earlier now fresh) (id : UInt32) :
    Since earlier { now with terminated := now.terminated ++ [id] }
      { fresh with terminated := fresh.terminated ++ [id] } := by
  refine { hsince with terminated := ?_ }
  simp [hsince.terminated]

/-- From the third `Root<>` call on, nothing that is read differs. -/
structure Prepared (earlier now fresh : State) : Prop
    extends Since earlier now fresh where
  members : now.members = fresh.members
  stored : ∀ object, fresh.members.deviceInfo = some object →
    now.implementationService object = fresh.implementationService object

theorem Prepared.query (hprepared : Prepared earlier now fresh)
    (answer : Option Object) :
    Prepared earlier (now.query answer) (fresh.query answer) := by
  refine { hprepared with ledger := ?_ }
  simp [State.query, hprepared.ledger]

theorem Prepared.configured (hprepared : Prepared earlier now fresh)
    (hunregistered : fresh.Unregistered) (outcome : ConfigureOutcome)
    {deviceInfo : Object} (hinfo : fresh.members.deviceInfo = some deviceInfo) :
    Prepared earlier (now.configured outcome deviceInfo)
      (fresh.configured outcome deviceInfo) := by
  unfold State.configured
  split
  next =>
      have hsince := hprepared.toSince.of_unregistered hunregistered
        (Function.update now.implementationService deviceInfo now.service)
        (Function.update fresh.implementationService deviceInfo fresh.service)
      refine ⟨hsince, hprepared.members, ?_⟩
      intro object hobject
      have hsame : object = deviceInfo := by
        rw [hinfo, Option.some.injEq] at hobject
        exact hobject.symm
      simp [hsame, hprepared.service]
  next => exact hprepared

theorem Prepared.register (hprepared : Prepared earlier now fresh)
    (interface : Interface) :
    Prepared earlier (now.register interface) (fresh.register interface) := by
  refine { hprepared with handlers := ?_, served := ?_ }
  · simp [State.register, State.setHandlers, hprepared.handlers,
      hprepared.members]
  · cases interface with
    | deviceInfo => exact hprepared.stored
    | deviceAudioCapabilities => exact hprepared.served
    | deviceVideoCapabilities => exact hprepared.served

end Statements

/-! ## The two calls -/

section Calls

variable {a : Activation} {earlier now fresh : State}

theorem Since.rooted (hsince : Since earlier (now.rooted a) (fresh.rooted a)) :
    Prepared earlier (now.rooted a) (fresh.rooted a) := by
  refine ⟨hsince, rfl, ?_⟩
  intro object hobject
  have hnow := rooted_implementationService now hobject
  have hfresh := rooted_implementationService fresh hobject
  rw [hnow, hfresh]

theorem register_all_paired {s s' : State} (hprepared : Prepared earlier s s')
    (message : String) :
    Paired (SameSince earlier) (do
        statement (.register .deviceInfo)
        statement (.register .deviceAudioCapabilities)
        statement (.register .deviceVideoCapabilities)
        pure message : Steps String) (do
        statement (.register .deviceInfo)
        statement (.register .deviceAudioCapabilities)
        statement (.register .deviceVideoCapabilities)
        pure message) (fun _ _ => Since earlier) s s' := by
  have hinfo := hprepared.register .deviceInfo
  have haudio := hinfo.register .deviceAudioCapabilities
  have hvideo := haudio.register .deviceVideoCapabilities
  apply paired_statement_bind hinfo.toSince
  apply paired_statement_bind haudio.toSince
  apply paired_statement_bind hvideo.toSince
  exact (paired_pure _ _).mpr hvideo.toSince

theorem initializePlugin_paired (hsince : Since earlier now fresh)
    (hunregistered : fresh.Unregistered) :
    Paired (SameSince earlier) (initializePlugin a) (initializePlugin a)
      (fun _ _ => Since earlier) now fresh := by
  have hstarted : Since earlier { now with service := some a.service }
      { fresh with service := some a.service } :=
    { hsince with service := rfl }
  have hacquired := hstarted.acquire (.shell a.service)
  have hinfo := hacquired.root hunregistered .deviceInfo a.root.deviceInfo
  have haudio := hinfo.root hunregistered .deviceAudioCapabilities
    a.root.deviceAudioCapabilities
  have hrooted : Since earlier (now.rooted a) (fresh.rooted a) :=
    haudio.root hunregistered .deviceVideoCapabilities
      a.root.deviceVideoCapabilities
  apply paired_statement_bind hstarted
  apply paired_statement_bind hacquired
  apply paired_statement_bind hinfo
  apply paired_statement_bind haudio
  apply paired_statement_bind hrooted
  apply paired_current_bind
  change Paired _ (if a.objects.AllSet then _ else _)
    (if a.objects.AllSet then _ else _) _ (now.rooted a) (fresh.rooted a)
  by_cases hall : a.objects.AllSet
  · rw [if_pos hall, if_pos hall]
    apply paired_through_bind rfl
    intro info hinfo
    have hqueried := hrooted.rooted.query a.queryInterface
    apply paired_statement_bind hqueried.toSince
    cases hquery : a.queryInterface with
    | none =>
        rw [hquery] at hqueried
        apply Paired.pure_bind
        exact register_all_paired hqueried _
    | some configure =>
        rw [hquery] at hqueried
        have hconfigured := hqueried.configured hunregistered a.configure hinfo
        apply paired_statement_bind hconfigured.toSince
        apply Paired.pure_bind
        exact register_all_paired hconfigured _
  · rw [if_neg hall, if_neg hall]
    exact (paired_pure _ _).mpr hrooted

/-- Each of the three `Release()` statements. -/
theorem release_paired_bind {α : Type} {pointer : Pointer}
    {value value' : Option Object} {reference : Object → Reference}
    {rest rest' : Unit → Steps α} {post : α → α → State → State → Prop}
    {s s' : State} (hsince : Since earlier s s') (hvalue : value = value')
    (hrest : ∀ object, Since earlier (s.release (reference object))
        (s'.release (reference object)) →
      Paired (SameSince earlier) (rest ()) (rest' ()) post
        (s.release (reference object)) (s'.release (reference object))) :
    Paired (SameSince earlier)
      ((do
        let object ← through pointer value
        statement (.release (reference object)) : Steps Unit) >>= rest)
      ((do
        let object ← through pointer value'
        statement (.release (reference object)) : Steps Unit) >>= rest')
      post s s' := by
  have hreleased : Paired (SameSince earlier)
      (do
        let object ← through pointer value
        statement (.release (reference object)) : Steps Unit)
      (do
        let object ← through pointer value'
        statement (.release (reference object)) : Steps Unit)
      (fun _ _ t t' => ∃ object, t = s.release (reference object) ∧
        t' = s'.release (reference object)) s s' := by
    apply paired_through_bind hvalue
    intro object _
    exact ⟨.cons (hsince.release _) .nil, object, rfl, rfl⟩
  apply hreleased.bind
  intro _ _ t t' hended
  rcases hended with ⟨object, rfl, rfl⟩
  exact hrest object (hsince.release _)

theorem detach_paired {s s' : State} (hsince : Since earlier s s') :
    Paired (SameSince earlier) (do
        statement fun s => { s with connectionId := 0 }
        releaseService
        statement fun s => { s with service := none } : Steps Unit) (do
        statement fun s => { s with connectionId := 0 }
        releaseService
        statement fun s => { s with service := none })
      (fun _ _ => Since earlier) s s' := by
  have hreset : Since earlier { s with connectionId := 0 }
      { s' with connectionId := 0 } :=
    { hsince with connectionId := rfl }
  apply paired_statement_bind hreset
  apply release_paired_bind hreset hsince.service
  intro service hreleased
  have hdetached : Since earlier
      { { s with connectionId := 0 }.release (.shell service) with
        service := none }
      { { s' with connectionId := 0 }.release (.shell service) with
        service := none } :=
    { hreleased with service := rfl }
  exact ⟨.cons hdetached .nil, hdetached⟩

theorem remoteConnection_paired {s s' : State} (hsince : Since earlier s s')
    (hmembers : s.members = s'.members) :
    Paired (SameSince earlier) (remoteConnection a) (remoteConnection a)
      (fun connection connection' t t' => connection = connection' ∧
        Since earlier t t' ∧ t.members = t'.members) s s' := by
  apply paired_current_bind
  rw [hsince.connectionId]
  cases a.remoteConnection s'.connectionId with
  | none => exact (paired_pure _ _).mpr ⟨rfl, hsince, hmembers⟩
  | some connection =>
      have hacquired := hsince.acquire (.connection s'.connectionId)
      apply paired_statement_bind hacquired
      exact (paired_pure _ _).mpr ⟨rfl, hacquired, hmembers⟩

theorem terminate_guarded (id : UInt32) (connection : RemoteConnection) :
    (terminate id connection).guarded logFailedTermination =
      statement fun s => { s with terminated := s.terminated ++ [id] } := by
  unfold terminate
  cases connection.terminateThrows <;> rfl

theorem deinitializePlugin_paired {s s' : State} (hsince : Since earlier s s')
    (hmembers : s.members = s'.members)
    (hconfigure : s'.members.AllSet → s.configure = s'.configure) :
    Paired (SameSince earlier) (deinitializePlugin a) (deinitializePlugin a)
      (fun _ _ => Since earlier) s s' := by
  apply paired_current_bind
  dsimp only
  rw [hmembers]
  by_cases hall : s'.members.AllSet
  · rw [if_pos hall]
    have haudio := hsince.unregister .deviceAudioCapabilities
    apply paired_statement_bind haudio
    have haudioMember : s.members.deviceAudioCapabilities =
        s'.members.deviceAudioCapabilities := by
      rw [hmembers]
    apply release_paired_bind haudio haudioMember
    intro audio haudio
    have haudio := haudio.setMember .deviceAudioCapabilities none
    apply paired_statement_bind haudio
    have hvideo := haudio.unregister .deviceVideoCapabilities
    apply paired_statement_bind hvideo
    have hvideoMember : s.members.deviceVideoCapabilities =
        s'.members.deviceVideoCapabilities := by
      rw [hmembers]
    apply release_paired_bind hvideo hvideoMember
    intro video hvideo
    have hvideo := hvideo.setMember .deviceVideoCapabilities none
    apply paired_statement_bind hvideo
    have hinfo := hvideo.unregister .deviceInfo
    apply paired_statement_bind hinfo
    apply release_paired_bind hinfo (hconfigure hall)
    intro configure hinfo
    have hcleared : (⟨s.members.deviceInfo, none, none⟩ :
        PerInterface (Option Object)) = ⟨s'.members.deviceInfo, none, none⟩ := by
      rw [hmembers]
    apply (remoteConnection_paired hinfo hcleared).bind
    intro connection connection' t t' hconnected
    rcases hconnected with ⟨rfl, hinfo, hmember⟩
    have hinfoMember : t.members.deviceInfo = t'.members.deviceInfo := by
      rw [hmember]
    apply release_paired_bind hinfo hinfoMember
    intro info hinfo
    have hinfo := hinfo.setMember .deviceInfo none
    apply paired_statement_bind hinfo
    cases connection with
    | none => exact detach_paired hinfo
    | some remote =>
        rcases remote with ⟨id, connection⟩
        dsimp only
        rw [terminate_guarded]
        have hterminated := hinfo.terminate id
        apply paired_statement_bind hterminated
        have hreleased := hterminated.release (.connection id)
        apply paired_statement_bind hreleased
        exact detach_paired hreleased
  · rw [if_neg hall]
    exact detach_paired hsince

theorem activationCycle_paired (hsince : Since earlier now fresh)
    (hunregistered : fresh.Unregistered) :
    Paired (SameSince earlier) (activationCycle a) (activationCycle a)
      (fun _ _ t t' => Since earlier t t' ∧ t'.Unregistered) now fresh := by
  have hinitialize := initializePlugin_paired (a := a) hsince hunregistered
  have hstarted : Paired (SameSince earlier) (initializePlugin a)
      (initializePlugin a)
      (fun _ _ t t' => Since earlier t t' ∧ t = a.active now ∧
        t' = a.active fresh) now fresh := by
    apply hinitialize.mono
    intro _ _ _ _ hactive
    exact ⟨hactive, rfl, rfl⟩
  apply hstarted.bind
  intro _ _ t t' hactive
  rcases hactive with ⟨hactive, rfl, rfl⟩
  have hnow := active_initialized a now
  have hfresh := active_initialized a fresh
  have hmembers : (a.active now).members = (a.active fresh).members := by
    rw [hnow.members, hfresh.members]
  have hconfigure : (a.active fresh).members.AllSet →
      (a.active now).configure = (a.active fresh).configure := by
    intro hset
    have hall := (active_allSet_iff a fresh).mp hset
    rw [hnow.configure hall, hfresh.configure hall]
  apply (deinitializePlugin_paired hactive hmembers hconfigure).mono
  intro _ _ _ hcompletes hinactive
  exact ⟨hinactive, inactive_unregistered hcompletes hunregistered⟩

end Calls

/-! ## Whole runs -/

structure State.Detached (s : State) : Prop where
  service : s.service = none
  connectionId : s.connectionId = 0
  unregistered : s.Unregistered

theorem constructed_detached : State.constructed.Detached :=
  ⟨rfl, rfl, fun interface => by cases interface <;> rfl⟩

theorem detached_of_runInputs {history : List Activation} {s s' : State}
    (hdetached : s.Detached) (hreached : runInputs nextInactive history s = some s') :
    s'.Detached := by
  apply runInputs_invariant ?_ history hdetached hreached
  intro a t t' hdetached hnext
  rcases nextInactive_eq_some_iff.mp hnext with ⟨hcompletes, rfl⟩
  have hended := inactive_deinitialized hcompletes
  have hunregistered := inactive_unregistered hcompletes hdetached.unregistered
  exact ⟨hended.service, hended.connectionId, hunregistered⟩

theorem since_constructed {reached : State} (hdetached : reached.Detached) :
    Since reached reached State.constructed := by
  have hnone : reached.handlers = ⟨none, none, none⟩ := calc
    reached.handlers = ⟨reached.handlers.get .deviceInfo,
        reached.handlers.get .deviceAudioCapabilities,
        reached.handlers.get .deviceVideoCapabilities⟩ := rfl
    _ = ⟨none, none, none⟩ := by simp only [hdetached.unregistered _]
  refine ⟨hdetached.service, hdetached.connectionId, hnone, ?_, ?_, ?_, ?_⟩
  all_goals simp [State.constructed]

/-- After any activations that have run to their end, further ones are executed
as by a newly constructed plugin: as many statements, each leaving the same to
be seen and the same appended to the records, and the same end, a crash
included. -/
theorem reactivated_like_new (history activations : List Activation)
    {reached : State}
    (hreached : runInputs nextInactive history State.constructed = some reached) :
    Paired (SameSince reached) (activationRun activations)
      (activationRun activations) (fun _ _ => Since reached) reached
      State.constructed := by
  have hdetached := detached_of_runInputs constructed_detached hreached
  have hrun : Paired (SameSince reached) (activationRun activations)
      (activationRun activations)
      (fun _ _ t t' => Since reached t t' ∧ t'.Unregistered) reached
      State.constructed := by
    apply paired_forEach
    · intro a _ t t' hsince
      exact activationCycle_paired hsince.1 hsince.2
    · exact ⟨since_constructed hdetached, constructed_detached.unregistered⟩
  apply hrun.mono
  intro _ _ _ _ hended
  exact hended.1

/-- After an activation that left two members behind. -/
theorem reactivated_like_new_after_mixed :
    ∃ reached, reached.members ≠ ⟨none, none, none⟩ ∧
      Paired (SameSince reached) (activationRun [cleanActivation])
        (activationRun [cleanActivation]) (fun _ _ => Since reached) reached
        State.constructed := by
  have hreached : runInputs nextInactive [mixedActivation] State.constructed =
      some (mixedActivation.inactive State.constructed) := rfl
  refine ⟨_, ?_, reactivated_like_new [mixedActivation] [cleanActivation]
    hreached⟩
  decide

end Lifecycle
end DeviceInfoPlugin
