import DeviceInfoPlugin.BacktrackingRegex
import DeviceInfoPlugin.FirstOccurrences
import DeviceInfoPlugin.QueryOutcomes

/-!
# The supported video displays

Device Settings has a video port for every audio port on it, so names repeat.
`SupportedVideoDisplays` drops a name that its list already has.  The trace of
a call tells which names the ports have, and the list that is delivered depends
on these names alone.
-/

namespace DeviceInfoPlugin
namespace DeviceSettings

open DeviceInfo (Text)
open FirstOccurrences
open Unreliable

/-- The names of as many ports as were announced have been read, in order. -/
def ReadsPorts (names : List Text) (trace : List (Event Ds Thrown)) : Prop :=
  Lists (Returned .getVideoOutputPorts) PortNameAt names trace

theorem emplaceNew_eq_addNew (name : Text) (list : List Text) :
    emplaceNew name list = addNew name list := by
  by_cases hname : name ∈ list <;>
    simp [emplaceNew, addNew, emplaceBack, hname]

theorem firstOccurrences_eq_distinct (names : List Text) :
    firstOccurrences names = distinct names := by
  simp only [firstOccurrences, distinct, emplaceNew_eq_addNew]

/-! ## The names are determined by the trace -/

def fetchesElement (event : Event Ds Thrown) : Bool :=
  match event.call with
  | .portAt _ => true
  | .getPortName _ => true
  | _ => false

theorem fetchesElement_of_enumerates {start : Nat} {names : List Text}
    {trace : List (Event Ds Thrown)}
    (hnames : Enumerates PortNameAt start names trace) :
    ∀ event ∈ trace, fetchesElement event = true := by
  induction names generalizing start trace with
  | nil =>
      have htrace : trace = [] := hnames
      simp [htrace]
  | cons name names ih =>
      rcases hnames with ⟨first, later, htrace,
        ⟨port, event, event', hfirst, ⟨_, hevent⟩, ⟨_, hevent'⟩⟩, hlater⟩
      have hrest := ih hlater
      rw [htrace, hfirst, hevent, hevent']
      intro e he
      rcases List.mem_append.mp he with he | he
      · rcases List.mem_cons.mp he with rfl | he
        · rfl
        · rw [List.mem_singleton.mp he]
          rfl
      · exact hrest e he

theorem enumerates_unique {start : Nat} {names names' : List Text}
    {trace : List (Event Ds Thrown)}
    (hnames : Enumerates PortNameAt start names trace)
    (hnames' : Enumerates PortNameAt start names' trace) : names = names' := by
  induction names generalizing start names' trace with
  | nil =>
      have htrace : trace = [] := hnames
      cases names' with
      | nil => rfl
      | cons name' names' =>
          rcases hnames' with ⟨first, later, hsplit, ⟨_, _, _, hfirst, _⟩, _⟩
          rw [htrace, hfirst] at hsplit
          simp at hsplit
  | cons name names ih =>
      rcases hnames with ⟨first, later, htrace,
        ⟨port, event, event', hfirst, ⟨_, hevent⟩, ⟨_, hevent'⟩⟩, hlater⟩
      cases names' with
      | nil =>
          have hempty : trace = [] := hnames'
          rw [hempty, hfirst] at htrace
          simp at htrace
      | cons name' names' =>
          rcases hnames' with ⟨first', later', htrace',
            ⟨port', other, other', hfirst', ⟨_, hother⟩, ⟨_, hother'⟩⟩,
            hlater'⟩
          rw [htrace, hfirst, hfirst', List.cons_append, List.cons_append,
            List.cons_append, List.cons_append, List.cons.injEq,
            List.cons.injEq] at htrace'
          obtain ⟨-, hname, hrest⟩ := htrace'
          rw [hevent', hother'] at hname
          cases hname
          rw [List.nil_append, List.nil_append] at hrest
          rw [ih hlater (hrest ▸ hlater')]

/-- The last call before the names are fetched announces their number. -/
theorem ReadsPorts.unique {names names' : List Text}
    {trace : List (Event Ds Thrown)} (hnames : ReadsPorts names trace)
    (hnames' : ReadsPorts names' trace) : names = names' := by
  rcases hnames with ⟨before, announcement, later, htrace, ⟨_, hannounces⟩,
    hlater⟩
  rcases hnames' with ⟨before', announcement', later', htrace',
    ⟨_, hannounces'⟩, hlater'⟩
  have hfetch : ∀ names later, Enumerates PortNameAt 0 names later →
      ∀ event ∈ later.reverse, fetchesElement event = true := by
    intro names later hlater event hevent
    exact fetchesElement_of_enumerates hlater event (List.mem_reverse.mp hevent)
  have hstop : fetchesElement announcement = false := by rw [hannounces]; rfl
  have hstop' : fetchesElement announcement' = false := by rw [hannounces']; rfl
  -- read backwards, both parts end at the first call that fetches nothing
  have hreverse : later.reverse ++ announcement :: before.reverse =
      later'.reverse ++ announcement' :: before'.reverse := by
    have hsame := congrArg List.reverse (htrace.symm.trans htrace')
    simpa using hsame
  obtain ⟨hsame, -, -⟩ := Regex.taken_inj (hfetch _ _ hlater)
    (hfetch _ _ hlater') hstop hstop' hreverse
  rw [List.reverse_inj] at hsame
  rw [← hsame] at hlater'
  exact enumerates_unique hlater hlater'

/-! ## The method -/

variable {World : Type}

/-- Unless a call throws, the names of all announced ports are read and the
first occurrence of each is delivered. -/
theorem supportedVideoDisplays_delivers {ds : Callee Ds Thrown World}
    {world : World} {prior : ListResult Text}
    (hquiet : ¬ Threw (supportedVideoDisplays ds world prior).trace) :
    ∃ names, ReadsPorts names (supportedVideoDisplays ds world prior).trace ∧
      (supportedVideoDisplays ds world prior).state.caller =
        ⟨ERROR_NONE, .of (distinct names)⟩ := by
  rcases (supportedVideoDisplays_allOrNothing world prior).all hquiet
    with ⟨names, hnames, hpublished⟩
  rw [firstOccurrences_eq_distinct] at hpublished
  exact ⟨names, hnames, hpublished⟩

/-- What a caller can rely on when the ports have these names. -/
structure DeliversDistinct (names delivered : List Text)
    (published : Published (ListResult Text)) : Prop where
  published_eq : published = ⟨ERROR_NONE, .of delivered⟩
  once : ListsOnce names delivered

/-- If no call throws, the names of all announced ports have been read and are
delivered once each, in the order of their first occurrence.  Copies behind the
first port of a name change nothing, and the delivered names are delivered
again as they are. -/
theorem supportedVideoDisplays_distinct (ds : Callee Ds Thrown World)
    (world : World) (prior : ListResult Text)
    (hquiet : ¬ Threw (supportedVideoDisplays ds world prior).trace) :
    ∃ names delivered,
      ReadsPorts names (supportedVideoDisplays ds world prior).trace ∧
      DeliversDistinct names delivered
        (supportedVideoDisplays ds world prior).state.caller ∧
      ∀ (World' : Type) (ds' : Callee Ds Thrown World') (world' : World')
        (prior' : ListResult Text),
        ¬ Threw (supportedVideoDisplays ds' world' prior').trace →
        ∃ names', ReadsPorts names'
            (supportedVideoDisplays ds' world' prior').trace ∧
          (Repeats names names' ∨ names' = delivered →
            (supportedVideoDisplays ds' world' prior').state.caller =
              ⟨ERROR_NONE, .of delivered⟩) := by
  rcases supportedVideoDisplays_delivers hquiet with ⟨names, hnames, hpublished⟩
  use names, distinct names, hnames
  constructor
  · exact ⟨hpublished, listsOnce_distinct names⟩
  · intro World' ds' world' prior' hquiet'
    rcases supportedVideoDisplays_delivers hquiet' with
      ⟨names', hnames', hpublished'⟩
    use names', hnames'
    intro hsame
    rw [hpublished']
    rcases hsame with hrepeats | hdelivered
    · rw [hrepeats.distinct_eq]
    · rw [hdelivered, distinct_distinct]

/-- A port for each of the names. -/
def portsDs (names : List Text) : Callee Ds Thrown Unit := fun _ call =>
  match call with
  | .hostGetInstance => (⟨none, .ok ()⟩, ())
  | .getVideoOutputPorts => (⟨none, .ok names.length⟩, ())
  | .portAt index => (⟨none, .ok index⟩, ())
  | .getPortName port => (⟨none, .ok (names.getD port [])⟩, ())
  | _ => (⟨none, .error .other⟩, ())

def hdmiNames : List Text :=
  ["HDMI0".toList, "HDMI1".toList, "HDMI0".toList]

theorem hdmiNames_quiet : ¬ Threw
    (supportedVideoDisplays (portsDs hdmiNames) () ⟨none, false⟩).trace := by
  change ¬ Threw [_, _, _, _, _, _, _, _]
  simp [Threw, Event.Threw]

theorem hdmiNames_read : ReadsPorts hdmiNames
    (supportedVideoDisplays (portsDs hdmiNames) () ⟨none, false⟩).trace := by
  have hnames : Enumerates PortNameAt 0 hdmiNames
      (supportedVideoDisplays (portsDs hdmiNames) ()
        ⟨none, false⟩).trace.tail.tail := by
    refine ⟨[_, _], [_, _, _, _], rfl, ?_, [_, _], [_, _], rfl, ?_, [_, _], [],
      rfl, ?_, rfl⟩
    all_goals exact ⟨_, _, _, rfl, ⟨none, rfl⟩, ⟨none, rfl⟩⟩
  exact ⟨[_], _, _, rfl, ⟨none, rfl⟩, hnames⟩

theorem supportedVideoDisplays_distinct_hdmi :
    DeliversDistinct hdmiNames ["HDMI0".toList, "HDMI1".toList]
      (supportedVideoDisplays (portsDs hdmiNames) ()
        ⟨none, false⟩).state.caller := by
  rcases supportedVideoDisplays_distinct (portsDs hdmiNames) () ⟨none, false⟩
    hdmiNames_quiet with ⟨names, delivered, hnames, hdelivers, -⟩
  have hpublished : (supportedVideoDisplays (portsDs hdmiNames) ()
      ⟨none, false⟩).state.caller =
        ⟨ERROR_NONE, .of ["HDMI0".toList, "HDMI1".toList]⟩ := by
    rfl
  have hsame := hdelivers.published_eq
  rw [hpublished] at hsame
  cases hsame
  rw [hnames.unique hdmiNames_read] at hdelivers
  exact hdelivers

end DeviceSettings
end DeviceInfoPlugin
