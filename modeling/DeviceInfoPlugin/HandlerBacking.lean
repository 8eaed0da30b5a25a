import DeviceInfoPlugin.ActivationOutcome

/-!
# Registered handlers are backed at every statement

The invariant `Backed` is checked on every transition of `Initialize` and
`Deinitialize`, on all paths and also on the one that ends in a crash.  It is
not derived from the outcomes of whole calls: the lemmas of the first part say
which statements preserve it.
-/

namespace DeviceInfoPlugin
namespace Lifecycle

open InputRun
open ReferenceLedger
open Traced

/-! ## Statements that preserve the invariant -/

theorem State.Unregistered.backed {s : State} (hunregistered : s.Unregistered) :
    s.Backed := by
  intro interface object hobject
  rw [hunregistered interface] at hobject
  contradiction

theorem State.Backed.append {s : State} (hbacked : s.Backed)
    {later : Ledger Reference}
    (hkept : ∀ interface object, s.handlers.get interface = some object →
      .released (.implementation interface object) ∉ later) :
    State.Backed { s with ledger := s.ledger ++ later } := by
  intro interface object hobject
  obtain ⟨hmember, hholds⟩ := hbacked interface object hobject
  have hlater := hholds.append (hkept interface object hobject)
  exact ⟨hmember, hlater⟩

theorem State.Backed.release {s : State} (hbacked : s.Backed)
    {reference : Reference}
    (hfree : ∀ interface object, reference = .implementation interface object →
      s.handlers.get interface = none) :
    (s.release reference).Backed := by
  apply hbacked.append
  intro interface object hobject hmem
  have heq : .implementation interface object = reference := by simpa using hmem
  rw [hfree interface object heq.symm] at hobject
  contradiction

theorem State.Backed.unregister {s : State} (hbacked : s.Backed)
    (interface : Interface) : (s.unregister interface).Backed := by
  intro other object hobject
  simp only [State.unregister, State.setHandlers, PerInterface.get_set] at hobject
  split at hobject
  next => contradiction
  next => exact hbacked other object hobject

theorem State.Backed.clearMember {s : State} (hbacked : s.Backed)
    (interface : Interface) (hfree : s.handlers.get interface = none) :
    (s.setMember interface none).Backed := by
  intro other object hobject
  obtain ⟨hmember, hholds⟩ := hbacked other object hobject
  have hne : other ≠ interface := by
    intro heq
    subst heq
    unfold State.setMember at hobject
    rw [hfree] at hobject
    contradiction
  have hkept : (s.setMember interface none).members.get other = some object := by
    unfold State.setMember
    rw [PerInterface.get_set, if_neg hne]
    exact hmember
  exact ⟨hkept, hholds⟩

theorem State.Backed.register {s : State} (hbacked : s.Backed)
    (interface : Interface)
    (hheld : ∀ object, s.members.get interface = some object →
      Holds s.ledger (.implementation interface object)) :
    (s.register interface).Backed := by
  intro other object hobject
  simp only [State.register, State.setHandlers, PerInterface.get_set] at hobject
  split at hobject
  next heq =>
    subst heq
    exact ⟨hobject, hheld object hobject⟩
  next => exact hbacked other object hobject

/-- A statement leaves the invariant intact and releases no implementation
whose handlers are registered. -/
structure Transition.Safe (t : Transition) : Prop where
  backed : t.after.Backed
  release : ∀ interface object,
    t.after.ledger =
        t.before.ledger ++ [.released (.implementation interface object)] →
      t.before.handlers.get interface ≠ some object

/-- A transition that leaves the handlers alone is safe as soon as the
invariant holds after it: a released implementation is not held. -/
theorem Transition.safe_of_handlers {t : Transition} (hbacked : t.after.Backed)
    (hhandlers : t.after.handlers = t.before.handlers) : t.Safe := by
  constructor
  · exact hbacked
  · intro interface object hledger hregistered
    rw [← hhandlers] at hregistered
    have hholds := (hbacked interface object hregistered).2
    rw [hledger] at hholds
    exact not_holds_released _ _ hholds

theorem Transition.safe_of_ledger {t : Transition} (hbacked : t.after.Backed)
    (hledger : t.after.ledger = t.before.ledger) : t.Safe := by
  constructor
  · exact hbacked
  · intro interface object hrelease
    rw [hledger] at hrelease
    have hlength := congrArg List.length hrelease
    simp at hlength

/-- While nothing is registered every statement that registers nothing is
safe. -/
theorem State.Unregistered.safe {s : State} (hunregistered : s.Unregistered)
    {t : Transition} (hbefore : t.before.handlers = s.handlers)
    (hafter : t.after.handlers = s.handlers) : t.Safe := by
  have hnone : t.after.Unregistered := by
    intro interface
    rw [hafter]
    exact hunregistered interface
  have hsame : t.after.handlers = t.before.handlers := by
    rw [hafter, hbefore]
  exact Transition.safe_of_handlers hnone.backed hsame

/-! ## The references of a fresh activation -/

theorem notMem_acquiredIf (reference : Object → Reference)
    (object : Option Object) (released : Reference) :
    .released released ∉ acquiredIf reference object := by
  cases object <;> simp [acquiredIf]

theorem root_holds {interface : Interface} {outcome : RootOutcome}
    {object : Object} (hobject : outcome.object = some object) (s : State) :
    Holds (s.root interface outcome).ledger
      (.implementation interface object) := by
  unfold State.root
  rw [hobject]
  exact holds_acquired s.ledger (.implementation interface object)

theorem root_keeps {s : State} {reference : Reference}
    (hholds : Holds s.ledger reference) (interface : Interface)
    (outcome : RootOutcome) :
    Holds (s.root interface outcome).ledger reference :=
  hholds.append (notMem_acquiredIf _ _ _)

theorem rooted_holds (a : Activation) (s : State) (interface : Interface)
    (object : Object) (hobject : a.objects.get interface = some object) :
    Holds (s.rooted a).ledger (.implementation interface object) := by
  unfold State.rooted
  cases interface with
  | deviceInfo => exact root_keeps (root_keeps (root_holds hobject _) _ _) _ _
  | deviceAudioCapabilities => exact root_keeps (root_holds hobject _) _ _
  | deviceVideoCapabilities => exact root_holds hobject _

/-! ## The two lifecycle calls -/

/-- What `Deinitialize` relies on: the invariant, and no handlers at all when
its guard is going to skip their removal. -/
structure State.Ready (s : State) : Prop where
  backed : s.Backed
  unregistered : ¬ s.members.AllSet → s.Unregistered

/-- The registration block of `Initialize`, from a state in which nothing is
registered and all members are held. -/
theorem register_all_safe {s : State} (hunregistered : s.Unregistered)
    (hall : s.members.AllSet)
    (hheld : ∀ interface object, s.members.get interface = some object →
      Holds s.ledger (.implementation interface object))
    (message : String) :
    Always Transition.Safe (do
        statement (.register .deviceInfo)
        statement (.register .deviceAudioCapabilities)
        statement (.register .deviceVideoCapabilities)
        pure message : Steps String)
      (fun _ s' => s'.Ready) s := by
  have hinfo := hunregistered.backed.register .deviceInfo (hheld _)
  have haudio := hinfo.register .deviceAudioCapabilities (hheld _)
  have hvideo := haudio.register .deviceVideoCapabilities (hheld _)
  simp only [always_bind, always_statement, always_pure]
  exact ⟨Transition.safe_of_ledger hinfo rfl,
    Transition.safe_of_ledger haudio rfl,
    Transition.safe_of_ledger hvideo rfl, hvideo, fun h => absurd hall h⟩

theorem initializePlugin_safe (a : Activation) {s : State}
    (hunregistered : s.Unregistered) :
    Always Transition.Safe (initializePlugin a) (fun _ s' => s'.Ready) s := by
  simp only [initializePlugin, always_bind, always_statement, always_current]
  refine ⟨hunregistered.safe rfl rfl, hunregistered.safe rfl rfl,
    hunregistered.safe rfl rfl, hunregistered.safe rfl rfl,
    hunregistered.safe rfl rfl, ?_⟩
  change Always _ (if (s.rooted a).members.AllSet then _ else _) _ (s.rooted a)
  by_cases hall : a.objects.AllSet
  · rcases Option.ne_none_iff_exists'.mp hall.1 with ⟨info, hinfo⟩
    have hheld : ∀ interface object, a.objects.get interface = some object →
        Holds ((s.rooted a).query a.queryInterface).ledger
          (.implementation interface object) := by
      intro interface object hobject
      have hrooted := rooted_holds a s interface object hobject
      exact hrooted.append (notMem_acquiredIf _ _ _)
    rw [rooted_members, if_pos hall, always_bind]
    change Always _ (through _ a.objects.deviceInfo) _ _
    rw [hinfo, always_through_some, always_bind, always_statement]
    refine ⟨hunregistered.safe rfl rfl, ?_⟩
    cases hquery : a.queryInterface with
    | none =>
        rw [hquery] at hheld
        rw [always_bind, always_pure]
        exact register_all_safe (s := (s.rooted a).query none)
          hunregistered hall hheld _
    | some configure =>
        rw [hquery] at hheld
        rw [always_bind, always_statement, always_bind, always_pure]
        by_cases hstored : a.configure.stored = true
        · rw [State.configured, if_pos hstored]
          refine ⟨hunregistered.safe rfl rfl, ?_⟩
          apply register_all_safe
          · exact hunregistered
          · exact hall
          · exact hheld
        · rw [State.configured, if_neg hstored]
          exact ⟨hunregistered.safe rfl rfl,
            register_all_safe (s := (s.rooted a).query (some configure))
              hunregistered hall hheld _⟩
  · rw [rooted_members, if_neg hall, always_pure]
    exact ⟨State.Unregistered.backed hunregistered, fun _ => hunregistered⟩

theorem releaseMember_safe {s : State} {interface : Interface}
    {post : Unit → State → Prop} (hbacked : s.Backed)
    (hfree : s.handlers.get interface = none)
    (hpost : ∀ object, (s.release (.implementation interface object)).Backed →
      post () (s.release (.implementation interface object))) :
    Always Transition.Safe (releaseMember interface) post s := by
  simp only [releaseMember, always_bind, always_current, always_statement]
  apply always_through
  intro object _
  have hreleased : (s.release (.implementation interface object)).Backed := by
    apply hbacked.release
    intro other object' heq
    have hsame : interface = other := (Reference.implementation.inj heq).1
    rwa [← hsame]
  exact ⟨Transition.safe_of_handlers hreleased rfl, hpost object hreleased⟩

/-- The order in which `Deinitialize` retires an implementation: its handlers
go before its reference, and the member last. -/
theorem retireMember_safe {s : State} (hbacked : s.Backed)
    (interface : Interface) {rest : Steps Unit} {post : Unit → State → Prop}
    (hrest : ∀ s', s'.Backed →
      s'.handlers = s.handlers.set interface none →
      Always Transition.Safe rest post s') :
    Always Transition.Safe (do
        statement (.unregister interface)
        releaseMember interface
        statement (.setMember interface none)
        rest) post s := by
  have hremoved := hbacked.unregister interface
  have hfree : (s.unregister interface).handlers.get interface = none := by
    simp [State.unregister, State.setHandlers]
  simp only [always_bind, always_statement]
  refine ⟨Transition.safe_of_ledger hremoved rfl, ?_⟩
  apply releaseMember_safe hremoved hfree
  intro object hreleased
  have hcleared := hreleased.clearMember interface hfree
  exact ⟨Transition.safe_of_handlers hcleared rfl, hrest _ hcleared rfl⟩

theorem always_terminate_guarded {Q : Transition → Prop} (id : UInt32)
    (connection : RemoteConnection) (post : Unit → State → Prop) {s : State} :
    Always Q ((terminate id connection).guarded logFailedTermination) post s ↔
      Q ⟨s, { s with terminated := s.terminated ++ [id] }⟩ ∧
        post () { s with terminated := s.terminated ++ [id] } := by
  rw [Always, wp_terminate_guarded]
  simp

theorem leave_safe {s : State} (hunregistered : s.Unregistered) :
    Transition.Safe ⟨s, { s with connectionId := 0 }⟩ ∧
      Always Transition.Safe releaseService
        (fun _ s' => Transition.Safe ⟨s', { s' with service := none }⟩ ∧
          State.Unregistered { s' with service := none })
        { s with connectionId := 0 } := by
  constructor
  · exact hunregistered.safe rfl rfl
  · simp only [releaseService, always_bind, always_statement, always_current]
    apply always_through
    intro service _
    exact ⟨hunregistered.safe rfl rfl, hunregistered.safe rfl rfl, hunregistered⟩

theorem deinitializePlugin_safe (a : Activation) {s : State}
    (hready : s.Ready) :
    Always Transition.Safe (deinitializePlugin a)
      (fun _ s' => s'.Unregistered) s := by
  rw [deinitializePlugin, always_bind, always_current]
  by_cases hall : s.members.AllSet
  · rw [if_pos hall]
    apply retireMember_safe hready.backed .deviceAudioCapabilities
    intro s₁ hbacked₁ hhandlers₁
    apply retireMember_safe hbacked₁ .deviceVideoCapabilities
    intro s₂ hbacked₂ hhandlers₂
    have hremoved := hbacked₂.unregister .deviceInfo
    -- from here on no handler set is registered
    have hunregistered : (s₂.unregister .deviceInfo).Unregistered := by
      intro interface
      simp only [State.unregister, State.setHandlers, hhandlers₂, hhandlers₁,
        PerInterface.get_set]
      cases interface <;> rfl
    rw [always_bind, always_statement]
    refine ⟨Transition.safe_of_ledger hremoved rfl, ?_⟩
    generalize s₂.unregister .deviceInfo = t at hunregistered
    simp only [releaseConfigure, releaseMember, always_bind, always_current,
      always_statement]
    apply always_through
    intro configure _
    refine ⟨hunregistered.safe rfl rfl, ?_⟩
    simp only [remoteConnection, always_bind, always_current]
    split
    next connection hremote =>
      simp only [always_bind, always_statement, always_pure]
      refine ⟨hunregistered.safe rfl rfl, ?_⟩
      apply always_through
      intro info _
      refine ⟨hunregistered.safe rfl rfl, hunregistered.safe rfl rfl, ?_⟩
      rw [always_terminate_guarded]
      exact ⟨hunregistered.safe rfl rfl, hunregistered.safe rfl rfl,
        leave_safe hunregistered⟩
    next =>
      simp only [always_bind, always_statement, always_pure]
      apply always_through
      intro info _
      exact ⟨hunregistered.safe rfl rfl, hunregistered.safe rfl rfl,
        leave_safe hunregistered⟩
  · have hunregistered := hready.unregistered hall
    simp only [if_neg hall, always_bind, always_statement]
    exact leave_safe hunregistered

theorem activationCycle_safe (a : Activation) {s : State}
    (hunregistered : s.Unregistered) :
    Always Transition.Safe (activationCycle a) (fun _ s' => s'.Unregistered)
      s := by
  have hinitialize := initializePlugin_safe a hunregistered
  rw [activationCycle, always_bind]
  apply hinitialize.mono
  intro _ s' hready
  exact deinitializePlugin_safe a hready

theorem activationRun_safe (activations : List Activation) :
    Always Transition.Safe (activationRun activations)
      (fun _ s' => s'.Unregistered) State.constructed := by
  apply always_forEach
  · intro a s hunregistered
    exact activationCycle_safe a hunregistered
  · exact constructed_unregistered

/-- In every run, whatever the calls made by the plugin answer, each statement
leaves every registered handler set backed and releases no implementation
whose handlers are registered, and each `Deinitialize` that completes leaves
no handler set registered. -/
theorem handlers_backed (activations : List Activation) :
    (∀ t ∈ (activationRun activations State.constructed).trace,
      t.after.Backed ∧
        ∀ interface object,
          t.after.ledger = t.before.ledger ++
              [.released (.implementation interface object)] →
            t.before.handlers.get interface ≠ some object) ∧
    Along nextInactive
      (fun a s => a.Completes s → (a.inactive s).Unregistered)
      activations State.constructed := by
  constructor
  · intro t ht
    have hsafe := (activationRun_safe activations).trace t ht
    exact ⟨hsafe.backed, hsafe.release⟩
  · apply along_of_invariant State.Unregistered ?_ ?_
      activations constructed_unregistered
    · intro a s hunregistered hcompletes
      exact inactive_unregistered hcompletes hunregistered
    · intro a s s' hunregistered hnext
      rcases nextInactive_eq_some_iff.mp hnext with ⟨hcompletes, hs'⟩
      rw [hs']
      exact inactive_unregistered hcompletes hunregistered

end Lifecycle
end DeviceInfoPlugin
