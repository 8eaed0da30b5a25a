import DeviceInfoPlugin.PluginLifecycle

/-!
# What one lifecycle call does

`Initialized` and `Deinitialized` say once, field by field, which state a call
leaves; everything later is derived from them and no other file executes the
statements again.  `Initialize` always returns.  `Deinitialize` has a single
way to fail, the call through a null `configure`.
-/

namespace DeviceInfoPlugin
namespace Lifecycle

open ReferenceLedger
open Traced

/-- What the three `Root<>` calls return. -/
def Activation.objects (a : Activation) : PerInterface (Option Object) :=
  ⟨a.root.deviceInfo.object, a.root.deviceAudioCapabilities.object,
    a.root.deviceVideoCapabilities.object⟩

/-- The connection id after the three `Root<>` calls: the last one stored. -/
def Activation.lastConnectionId (a : Activation) (before : UInt32) : UInt32 :=
  a.root.deviceVideoCapabilities.connectionId.getD
    (a.root.deviceAudioCapabilities.connectionId.getD
      (a.root.deviceInfo.connectionId.getD before))

def Activation.message (a : Activation) : String :=
  if a.objects.AllSet then
    match a.queryInterface with
    | some _ =>
        if a.configure.result ≠ ERROR_NONE then
          "DeviceInfo could not be configured" else ""
    | none => "DeviceInfo implementation did not provide a configuration interface"
  else "DeviceInfo plugin could not be initialised"

def Activation.taken (a : Activation) : Ledger Reference :=
  [.acquired (.shell a.service)] ++
    acquiredIf (.implementation .deviceInfo) a.root.deviceInfo.object ++
    acquiredIf (.implementation .deviceAudioCapabilities)
      a.root.deviceAudioCapabilities.object ++
    acquiredIf (.implementation .deviceVideoCapabilities)
      a.root.deviceVideoCapabilities.object ++
    (if a.objects.AllSet then acquiredIf .configuration a.queryInterface else [])

def Activation.StoresShell (a : Activation) : Prop :=
  a.queryInterface ≠ none ∧ a.configure.stored = true

structure Initialized (a : Activation) (s s' : State) : Prop where
  service : s'.service = some a.service
  connectionId : s'.connectionId = a.lastConnectionId s.connectionId
  members : s'.members = a.objects
  configure : a.objects.AllSet → s'.configure = a.queryInterface
  handlers : s'.handlers = if a.objects.AllSet then a.objects else s.handlers
  ledger : s'.ledger = s.ledger ++ a.taken
  implementationService : ∀ object, a.root.deviceInfo.object = some object →
    a.objects.AllSet →
      (s'.implementationService object ≠ none ↔ a.StoresShell)
  terminated : s'.terminated = s.terminated
  submitted : s'.submitted = s.submitted

def State.rooted (a : Activation) (s : State) : State :=
  ({ s with service := some a.service }.acquire (.shell a.service)
    |>.root .deviceInfo a.root.deviceInfo
    |>.root .deviceAudioCapabilities a.root.deviceAudioCapabilities
    |>.root .deviceVideoCapabilities a.root.deviceVideoCapabilities)

@[simp] theorem rooted_members (a : Activation) (s : State) :
    (s.rooted a).members = a.objects := rfl

theorem rooted_implementationService {a : Activation} (s : State)
    {object : Object} (hobject : a.root.deviceInfo.object = some object) :
    (s.rooted a).implementationService object = none := by
  have hfresh : (s.rooted a).implementationService =
      Function.update s.implementationService object none := by
    simp [State.rooted, State.root, State.acquire, constructService, hobject]
  rw [hfresh, Function.update_self]

theorem rooted_ledger (a : Activation) (s : State) :
    (s.rooted a).ledger ++
        (if a.objects.AllSet then
          acquiredIf .configuration a.queryInterface else []) =
      s.ledger ++ a.taken := by
  simp [State.rooted, State.root, State.acquire, Activation.taken]

theorem register_all_handlers (s : State) :
    (s.register .deviceInfo |>.register .deviceAudioCapabilities
      |>.register .deviceVideoCapabilities) =
      { s with handlers := s.members } := rfl

/-- With all three objects there, the state after registration is as
`Initialized` says once the implementation's own `_service` is settled. -/
theorem initialized_registered {a : Activation} {s : State} {info : Object}
    (hall : a.objects.AllSet) (hinfo : a.root.deviceInfo.object = some info)
    (services : Object → Option Shell)
    (hservices : services info ≠ none ↔ a.StoresShell) :
    Initialized a s
      { (s.rooted a).query a.queryInterface with
        handlers := a.objects
        implementationService := services } := by
  have hledger := rooted_ledger a s
  rw [if_pos hall] at hledger
  have hstored : ∀ object, a.root.deviceInfo.object = some object →
      a.objects.AllSet → (services object ≠ none ↔ a.StoresShell) := by
    intro object hobject _
    rw [hinfo, Option.some.injEq] at hobject
    subst hobject
    exact hservices
  exact ⟨rfl, rfl, rfl, fun _ => rfl, (if_pos hall).symm, hledger, hstored,
    rfl, rfl⟩

theorem initializePlugin_spec (a : Activation) (s : State) :
    Wp (initializePlugin a)
      (fun message _ s' => message = a.message ∧ Initialized a s s')
      (fun _ _ _ => False) s := by
  simp only [initializePlugin, wp_bind, wp_statement, wp_current]
  change Wp (if (s.rooted a).members.AllSet then _ else _) _ _ (s.rooted a)
  by_cases hall : a.objects.AllSet
  · rcases hall.eq_some with ⟨info, audio, video, hobjects⟩
    have hinfo : a.root.deviceInfo.object = some info :=
      congrArg PerInterface.deviceInfo hobjects
    have hfresh := rooted_implementationService s hinfo
    have hdone := initialized_registered (s := s) hall hinfo
    rw [rooted_members, if_pos hall, wp_bind]
    change Wp (through _ a.root.deviceInfo.object) _ _ _
    rw [hinfo, wp_through_some]
    simp only [wp_bind, wp_statement]
    cases hquery : a.queryInterface with
    | none =>
        have hmessage : a.message =
            "DeviceInfo implementation did not provide a configuration interface" := by
          simp [Activation.message, hall, hquery]
        have hstores : (s.rooted a).implementationService info ≠ none ↔
            a.StoresShell := by
          simp [Activation.StoresShell, hquery, hfresh]
        simp only [wp_bind, wp_pure, wp_statement, register_all_handlers]
        rw [hquery] at hdone
        exact ⟨hmessage.symm, hdone _ hstores⟩
    | some configure =>
        have hmessage : a.message =
            if a.configure.result ≠ ERROR_NONE then
              "DeviceInfo could not be configured" else "" := by
          simp [Activation.message, hall, hquery]
        simp only [wp_bind, wp_pure, wp_statement, register_all_handlers]
        rw [hquery] at hdone
        by_cases hstored : a.configure.stored = true
        · have hstores : Function.update (s.rooted a).implementationService info
              (some a.service) info ≠ none ↔ a.StoresShell := by
            simp [Activation.StoresShell, hquery, hstored]
          rw [State.configured, if_pos hstored]
          exact ⟨hmessage.symm, hdone _ hstores⟩
        · have hstores : (s.rooted a).implementationService info ≠ none ↔
              a.StoresShell := by
            simp [Activation.StoresShell, hstored, hfresh]
          rw [State.configured, if_neg hstored]
          exact ⟨hmessage.symm, hdone _ hstores⟩
  · have hmessage : a.message =
        "DeviceInfo plugin could not be initialised" := by
      simp [Activation.message, hall]
    have hledger := rooted_ledger a s
    rw [if_neg hall, List.append_nil] at hledger
    rw [rooted_members, if_neg hall, wp_pure]
    have hrooted : Initialized a s (s.rooted a) :=
      ⟨rfl, rfl, rfl, fun h => absurd h hall, (if_neg hall).symm, hledger,
        fun _ _ h => absurd h hall, rfl, rfl⟩
    exact ⟨hmessage.symm, hrooted⟩

/-! ## `Deinitialize` -/

def releasedIf (reference : Object → Reference) : Option Object → Ledger Reference
  | some object => [.released (reference object)]
  | none => []

def Activation.connectionEntries (a : Activation) (id : UInt32)
    (entry : Reference → Entry Reference) : Ledger Reference :=
  if (a.remoteConnection id).isSome then [entry (.connection id)] else []

def Activation.given (a : Activation) (s : State) : Ledger Reference :=
  (if s.members.AllSet then
    releasedIf (.implementation .deviceAudioCapabilities)
        s.members.deviceAudioCapabilities ++
      releasedIf (.implementation .deviceVideoCapabilities)
        s.members.deviceVideoCapabilities ++
      releasedIf .configuration s.configure ++
      a.connectionEntries s.connectionId .acquired ++
      releasedIf (.implementation .deviceInfo) s.members.deviceInfo ++
      a.connectionEntries s.connectionId .released
  else []) ++ releasedIf .shell s.service

structure Deinitialized (a : Activation) (s s' : State) : Prop where
  service : s'.service = none
  connectionId : s'.connectionId = 0
  members : s'.members =
    if s.members.AllSet then ⟨none, none, none⟩ else s.members
  handlers : s'.handlers =
    if s.members.AllSet then ⟨none, none, none⟩ else s.handlers
  implementationService : s'.implementationService = s.implementationService
  ledger : s'.ledger = s.ledger ++ a.given s
  terminated : s'.terminated = s.terminated ++
    (if s.members.AllSet ∧ (a.remoteConnection s.connectionId).isSome then
      [s.connectionId] else [])
  submitted : s'.submitted = s.submitted

/-- `Terminate` may throw a `std::exception`; the caller goes on either way. -/
theorem wp_terminate_guarded (id : UInt32) (connection : RemoteConnection)
    {returned : Unit → List Transition → State → Prop}
    {raised : Abort → List Transition → State → Prop} {s : State} :
    Wp ((terminate id connection).guarded logFailedTermination)
        returned raised s ↔
      returned () [⟨s, { s with terminated := s.terminated ++ [id] }⟩]
        { s with terminated := s.terminated ++ [id] } := by
  rw [wp_guarded]
  cases hthrows : connection.terminateThrows with
  | none => simp [terminate, hthrows]
  | some what => simp [terminate, hthrows, logFailedTermination]

theorem wp_releaseService {returned : Unit → List Transition → State → Prop}
    {raised : Abort → List Transition → State → Prop} {s : State} {service : Shell}
    (hservice : s.service = some service) :
    Wp releaseService returned raised s ↔
      returned () [⟨s, s.release (.shell service)⟩]
        (s.release (.shell service)) := by
  simp [releaseService, hservice]

/-- With the guard taken, the members and handlers are cleared whatever the
connection; what is left to show is the bookkeeping. -/
theorem deinitialized_cleared {a : Activation} {s : State}
    (hall : s.members.AllSet) {configure : Option Object}
    {ledger : Ledger Reference} {terminated : List UInt32}
    (hledger : ledger = s.ledger ++ a.given s)
    (hterminated : terminated = s.terminated ++
      if (a.remoteConnection s.connectionId).isSome then [s.connectionId]
      else []) :
    Deinitialized a s
      { s with
        service := none
        connectionId := 0
        members := ⟨none, none, none⟩
        handlers := ⟨none, none, none⟩
        configure, ledger, terminated } := by
  have hended : terminated = s.terminated ++
      if s.members.AllSet ∧ (a.remoteConnection s.connectionId).isSome then
        [s.connectionId] else [] := by
    simpa [hall] using hterminated
  exact ⟨rfl, rfl, (if_pos hall).symm, (if_pos hall).symm, rfl, hledger, hended,
    rfl⟩

theorem deinitializePlugin_spec (a : Activation) {s : State} {service : Shell}
    (hservice : s.service = some service) :
    Wp (deinitializePlugin a)
      (fun _ _ s' => Deinitialized a s s' ∧
        ¬ (s.members.AllSet ∧ s.configure = none))
      (fun e _ _ => e = .nullCall .configure ∧
        s.members.AllSet ∧ s.configure = none) s := by
  simp only [deinitializePlugin, wp_bind, wp_current]
  by_cases hall : s.members.AllSet
  · rcases hall.eq_some with ⟨info, audio, video, hmembers⟩
    rw [if_pos hall]
    simp only [releaseMember, releaseConfigure, wp_bind, wp_statement,
      wp_current, State.unregister, State.setHandlers, State.setMember,
      State.release, PerInterface.set, PerInterface.get, hmembers,
      wp_through_some]
    cases hconfigure : s.configure with
    | none => simp [← hmembers, hall]
    | some configure =>
        simp only [wp_through_some, remoteConnection, wp_bind, wp_current]
        cases hremote : a.remoteConnection s.connectionId with
        | none =>
            simp only [wp_pure, wp_bind, wp_statement, wp_through_some]
            rw [wp_releaseService (by exact hservice)]
            constructor
            · apply deinitialized_cleared hall
              · rw [Activation.given, if_pos hall]
                simp [State.release, Activation.connectionEntries, hconfigure,
                  hremote, hservice, hmembers, releasedIf]
              · simp [State.release, hremote]
            · simp
        | some connection =>
            simp only [wp_pure, wp_bind, wp_statement, wp_through_some,
              wp_terminate_guarded, State.acquire]
            rw [wp_releaseService (by exact hservice)]
            constructor
            · apply deinitialized_cleared hall
              · rw [Activation.given, if_pos hall]
                simp [State.release, Activation.connectionEntries, hconfigure,
                  hremote, hservice, hmembers, releasedIf]
              · simp [State.release, hremote]
            · simp
  · have hgiven : a.given s = [.released (.shell service)] := by
      simp [Activation.given, hall, hservice, releasedIf]
    rw [if_neg hall]
    simp only [wp_bind, wp_statement]
    rw [wp_releaseService (by exact hservice)]
    have hskipped : Deinitialized a s
        { s with
          service := none
          connectionId := 0
          ledger := s.ledger ++ [.released (.shell service)] } := by
      refine ⟨rfl, rfl, (if_neg hall).symm, (if_neg hall).symm, rfl, ?_, ?_, rfl⟩
      · rw [hgiven]
      · simp [hall]
    exact ⟨hskipped, fun h => hall h.1⟩

end Lifecycle
end DeviceInfoPlugin
