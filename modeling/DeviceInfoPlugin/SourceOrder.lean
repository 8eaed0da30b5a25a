import DeviceInfoPlugin.TaggedLines
import DeviceInfoPlugin.TextAccessors

/-!
# Every accessor reports its first available source

A source is available or not by itself, independently of the string it would
write to.  Six accessors share one law: success means that some source of the
accessor's list is available, and the output is then the value of the first
such source.
-/

namespace DeviceInfoPlugin
namespace DeviceInfo

open Regex

inductive Source
  | file (filename : String) (regex : Pattern Char)
  | mfr (type : MfrSerializedType)
  | rfc (name : String)

namespace Source

def property (key : String) : Source :=
  file "/etc/device.properties" (propertyLine key)

def Available (device : Device) : Source → Prop
  | file filename regex =>
      ∃ content, device.files filename = some content ∧
        ∃ line ∈ getlines content, (fullMatch regex line).isSome
  | mfr type =>
      (device.mfr type).status = .success ∧ (device.mfr type).bufLen ≠ 0
  | rfc name =>
      (device.rfc name).status = .success ∧ cString (device.rfc name).value ≠ []

/-- The value of a source, meaningful only if the source is available. -/
def value (device : Device) : Source → Text
  | file filename regex => (lookup device.files filename regex).getD []
  | mfr type =>
      (device.mfr type).buffer.take (device.mfr type).bufLen.toNat
  | rfc name => cString (device.rfc name).value

def offered (device : Device) : Source → Option Text
  | file filename regex => lookup device.files filename regex
  | mfr type => (device.mfr type).offered
  | rfc name => (device.rfc name).offered

theorem offered_isSome_iff {device : Device} {source : Source} :
    (source.offered device).isSome ↔ source.Available device := by
  cases source with
  | file filename regex => exact lookup_isSome_iff
  | mfr type =>
      simp only [offered, MfrReply.offered, Available]
      split <;> simp_all
  | rfc name =>
      simp only [offered, RfcReply.offered, Available]
      split <;> simp_all

theorem value_of_offered {device : Device} {source : Source} {found : Text}
    (hoffered : source.offered device = some found) :
    source.value device = found := by
  cases source with
  | file filename regex =>
      simp only [offered] at hoffered
      simp [value, hoffered]
  | mfr type =>
      simp only [offered, MfrReply.offered] at hoffered
      split at hoffered
      next => exact Option.some.inj hoffered
      next => exact absurd hoffered (by simp)
  | rfc name =>
      simp only [offered, RfcReply.offered] at hoffered
      split at hoffered
      next => exact Option.some.inj hoffered
      next => exact absurd hoffered (by simp)

theorem offered_of_available {device : Device} {source : Source}
    (havailable : source.Available device) :
    source.offered device = some (source.value device) := by
  have hsome := offered_isSome_iff.mpr havailable
  rcases Option.isSome_iff_exists.mp hsome with ⟨found, hoffered⟩
  rw [hoffered, value_of_offered hoffered]

theorem offered_of_unavailable {device : Device} {source : Source}
    (hunavailable : ¬ source.Available device) :
    source.offered device = none := by
  rwa [← Option.not_isSome_iff_eq_none, offered_isSome_iff]

/-- The file sources of the accessors use expressions whose group is never
empty. -/
def Nonempty : Source → Prop
  | file _ regex => CapturesSome regex
  | mfr _ => True
  | rfc _ => True

@[simp] theorem mfr_nonempty (type : MfrSerializedType) : (mfr type).Nonempty :=
  trivial

@[simp] theorem rfc_nonempty (name : String) : (rfc name).Nonempty :=
  trivial

@[simp] theorem property_nonempty (key : String) : (property key).Nonempty :=
  propertyLine_capturesSome key

@[simp] theorem wholeLine_nonempty (filename : String) :
    (file filename wholeLine).Nonempty :=
  taggedLine_capturesSome ""

/-- Only the manufacturer library tells a length. -/
def Copyable (device : Device) : Source → Prop
  | file _ _ => True
  | mfr type => (device.mfr type).Copyable
  | rfc _ => True

theorem copyable_of_unavailable {device : Device} {source : Source}
    (hunavailable : ¬ source.Available device) : source.Copyable device := by
  cases source with
  | file filename regex => trivial
  | mfr type =>
      intro hstatus
      have hlength : (device.mfr type).bufLen = 0 := by
        by_contra hne
        exact hunavailable ⟨hstatus, hne⟩
      constructor <;> omega
  | rfc name => trivial

theorem value_ne_nil {device : Device} {source : Source}
    (hcopyable : source.Copyable device) (hsource : source.Nonempty)
    (havailable : source.Available device) : source.value device ≠ [] := by
  have hoffered := offered_of_available havailable
  cases source with
  | file filename regex => exact CapturesSome.lookup hsource hoffered
  | mfr type => exact MfrReply.offered_ne_nil hcopyable hoffered
  | rfc name => exact RfcReply.offered_ne_nil hoffered

def getter (device : Device) : Source → Getter
  | file filename regex => readFile device filename regex
  | mfr type => getMFRData device type
  | rfc name => getRFCData device name

theorem getter_offers {device : Device} {source : Source}
    (hcopyable : source.Copyable device) :
    (source.getter device).Offers (source.offered device) := by
  cases source with
  | file filename regex => exact readFile_offers device filename regex
  | mfr type => exact getMFRData_offers hcopyable
  | rfc name => exact getRFCData_offers device name

theorem getter_fails {device : Device} {source : Source}
    (hcopyable : ¬ source.Copyable device) (response : Text) :
    ∃ fault, source.getter device response = .error fault := by
  cases source with
  | file filename regex => exact absurd trivial hcopyable
  | mfr type => exact getMFRData_fails hcopyable response
  | rfc name => exact absurd trivial hcopyable

end Source

def firstOffered (device : Device) (sources : List Source) : Option Text :=
  sources.findSome? fun source => source.offered device

/-- `call` reports the first available source of `sources`, and leaves
`fallback` of the caller's string when there is none. -/
def FollowsOrder (device : Device) (sources : List Source)
    (fallback : Text → Text) (call : Getter) : Prop :=
  ∀ prior, ∃ result output, call prior = .ok (result, output) ∧
    (result = ERROR_NONE ↔ ∃ source ∈ sources, source.Available device) ∧
    (∀ before source after, sources = before ++ source :: after →
      (∀ earlier ∈ before, ¬ earlier.Available device) →
      source.Available device →
      output = source.value device ∧ output ≠ []) ∧
    ((∀ source ∈ sources, ¬ source.Available device) →
      result = ERROR_GENERAL ∧ output = fallback prior)

@[simp] theorem firstOffered_nil (device : Device) :
    firstOffered device [] = none := rfl

@[simp] theorem firstOffered_cons (device : Device) (source : Source)
    (rest : List Source) :
    firstOffered device (source :: rest) =
      (source.offered device).or (firstOffered device rest) := by
  rw [firstOffered, List.findSome?_cons]
  cases source.offered device <;> rfl

theorem firstOffered_eq_none_iff {device : Device} {sources : List Source} :
    firstOffered device sources = none ↔
      ∀ source ∈ sources, ¬ source.Available device := by
  simp only [firstOffered, List.findSome?_eq_none_iff,
    ← Source.offered_isSome_iff, Option.not_isSome_iff_eq_none]

theorem firstOffered_isSome_iff {device : Device} {sources : List Source} :
    (firstOffered device sources).isSome ↔
      ∃ source ∈ sources, source.Available device := by
  simp only [firstOffered, List.findSome?_isSome_iff, Source.offered_isSome_iff]

theorem firstOffered_append {device : Device} {before after : List Source}
    {source : Source}
    (hbefore : ∀ earlier ∈ before, ¬ earlier.Available device)
    (havailable : source.Available device) :
    firstOffered device (before ++ source :: after) =
      some (source.value device) := by
  have hnone : firstOffered device before = none :=
    firstOffered_eq_none_iff.mpr hbefore
  unfold firstOffered at hnone ⊢
  rw [List.findSome?_append, hnone, List.findSome?_cons,
    Source.offered_of_available havailable]
  rfl

/-! ## Trying the sources in turn -/

def unavailable : Getter :=
  fun response => .ok (ERROR_GENERAL, response)

def tryInTurn (device : Device) : List Source → Getter
  | [] => unavailable
  | source :: rest => (source.getter device).orElse (tryInTurn device rest)

/-- No source before this one has anything to offer. -/
def Reaches (device : Device) (sources : List Source) (source : Source) : Prop :=
  ∃ before after, sources = before ++ source :: after ∧
    ∀ earlier ∈ before, ¬ earlier.Available device

theorem reaches_cons {device : Device} {first source : Source}
    {rest : List Source} :
    Reaches device (first :: rest) source ↔
      source = first ∨
        ¬ first.Available device ∧ Reaches device rest source := by
  constructor
  · intro hreaches
    rcases hreaches with ⟨before, after, hsplit, hbefore⟩
    cases before with
    | nil =>
        rw [List.nil_append, List.cons.injEq] at hsplit
        exact Or.inl hsplit.1.symm
    | cons earlier before =>
        rw [List.cons_append, List.cons.injEq] at hsplit
        rw [← hsplit.1] at hbefore
        rcases List.forall_mem_cons.mp hbefore with ⟨hfirst, hbefore⟩
        exact Or.inr ⟨hfirst, before, after, hsplit.2, hbefore⟩
  · intro hreaches
    rcases hreaches with rfl | ⟨hfirst, before, after, hsplit, hbefore⟩
    · exact ⟨[], rest, rfl, by simp⟩
    · exact ⟨first :: before, after, by simp [hsplit],
        List.forall_mem_cons.mpr ⟨hfirst, hbefore⟩⟩

theorem tryInTurn_cons_of_unavailable {device : Device} {first : Source}
    {rest : List Source} (hfirst : ¬ first.Available device)
    (response : Text) :
    tryInTurn device (first :: rest) response =
      tryInTurn device rest response := by
  have hcopyable := Source.copyable_of_unavailable hfirst
  have hoffers := Source.getter_offers hcopyable response
  rw [Source.offered_of_unavailable hfirst] at hoffers
  exact Getter.orElse_of_unavailable hoffers

theorem tryInTurn_append_of_unavailable {device : Device}
    {before rest : List Source}
    (hbefore : ∀ earlier ∈ before, ¬ earlier.Available device)
    (response : Text) :
    tryInTurn device (before ++ rest) response =
      tryInTurn device rest response := by
  induction before with
  | nil => rfl
  | cons first before ih =>
      rcases List.forall_mem_cons.mp hbefore with ⟨hfirst, hbefore⟩
      rw [List.cons_append, tryInTurn_cons_of_unavailable hfirst, ih hbefore]

theorem tryInTurn_cons_of_available {device : Device} {first : Source}
    {rest : List Source} (hcopyable : first.Copyable device)
    (hfirst : first.Available device) (response : Text) :
    tryInTurn device (first :: rest) response =
      .ok (ERROR_NONE, first.value device) := by
  have hoffers := Source.getter_offers hcopyable response
  rw [Source.offered_of_available hfirst] at hoffers
  exact Getter.orElse_of_found hoffers

theorem tryInTurn_of_copyable {device : Device} {sources : List Source}
    (hcopyable : ∀ source, Reaches device sources source →
      source.Copyable device) (response : Text) :
    tryInTurn device sources response =
      .ok (reported (firstOffered device sources) response) := by
  induction sources with
  | nil => rfl
  | cons first rest ih =>
      have hfirst := hcopyable first (reaches_cons.mpr (Or.inl rfl))
      by_cases havailable : first.Available device
      · rw [tryInTurn_cons_of_available hfirst havailable]
        have hoffered : firstOffered device ([] ++ first :: rest) =
            some (first.value device) :=
          firstOffered_append (by simp) havailable
        rw [List.nil_append] at hoffered
        rw [hoffered]
        rfl
      · have hrest : ∀ source, Reaches device rest source →
            source.Copyable device := by
          intro source hreaches
          apply hcopyable
          exact reaches_cons.mpr (Or.inr ⟨havailable, hreaches⟩)
        rw [tryInTurn_cons_of_unavailable havailable, ih hrest,
          firstOffered_cons, Source.offered_of_unavailable havailable,
          Option.none_or]

/-- The call ends at the first source it reaches whose reply cannot be
copied. -/
theorem tryInTurn_fails {device : Device} {sources : List Source}
    {source : Source} (hreaches : Reaches device sources source)
    (hcopyable : ¬ source.Copyable device) (response : Text) :
    ∃ fault, tryInTurn device sources response = .error fault := by
  induction sources with
  | nil =>
      rcases hreaches with ⟨before, after, hsplit, -⟩
      simp at hsplit
  | cons first rest ih =>
      by_cases hfirst : first.Copyable device
      · rcases reaches_cons.mp hreaches with heq | ⟨havailable, hrest⟩
        · rw [heq] at hcopyable
          exact absurd hfirst hcopyable
        · rw [tryInTurn_cons_of_unavailable havailable]
          exact ih hrest
      · rcases Source.getter_fails hfirst response with ⟨fault, hfault⟩
        exact ⟨fault, Getter.orElse_of_error hfault⟩

/-- A result together with a string that only a success has changed, or no
result at all. -/
def Getter.Reports (getter : Getter) : Prop :=
  ∀ response, (∃ fault, getter response = .error fault) ∨
    ∃ value, getter response = .ok (reported value response)

theorem Source.getter_reports (device : Device) (source : Source) :
    (source.getter device).Reports := by
  intro response
  by_cases hcopyable : source.Copyable device
  · exact Or.inr ⟨_, Source.getter_offers hcopyable response⟩
  · exact Or.inl (Source.getter_fails hcopyable response)

theorem Getter.Reports.orElse_unavailable {getter : Getter}
    (hreports : getter.Reports) : getter.orElse unavailable = getter := by
  funext response
  rcases hreports response with ⟨fault, hfault⟩ | ⟨value, hvalue⟩
  · rw [hfault, Getter.orElse_of_error hfault]
  · cases value with
    | none => rw [hvalue, Getter.orElse_of_unavailable hvalue]; rfl
    | some found => rw [hvalue, Getter.orElse_of_found hvalue]; rfl

theorem tryInTurn_singleton (device : Device) (source : Source) :
    tryInTurn device [source] = source.getter device :=
  (source.getter_reports device).orElse_unavailable

theorem tryInTurn_reports (device : Device) (sources : List Source) :
    (tryInTurn device sources).Reports := by
  intro response
  by_cases hcopyable : ∀ source, Reaches device sources source →
      source.Copyable device
  · exact Or.inr ⟨_, tryInTurn_of_copyable hcopyable response⟩
  · push Not at hcopyable
    rcases hcopyable with ⟨source, hreaches, hfault⟩
    exact Or.inl (tryInTurn_fails hreaches hfault response)

theorem followsOrder_of_tryInTurn {device : Device} {sources : List Source}
    {fallback : Text → Text} {call : Getter}
    (hcopyable : ∀ source, Reaches device sources source →
      source.Copyable device)
    (hsources : ∀ source ∈ sources, source.Nonempty)
    (hcall : ∀ prior,
      call prior = tryInTurn device sources (fallback prior)) :
    FollowsOrder device sources fallback call := by
  intro prior
  have hreported := (hcall prior).trans
    (tryInTurn_of_copyable hcopyable (fallback prior))
  refine ⟨_, _, hreported, ?_, ?_, ?_⟩
  · rw [← firstOffered_isSome_iff]
    cases firstOffered device sources <;> simp
  · intro before source after hsplit hbefore havailable
    have hmem : source ∈ sources := by simp [hsplit]
    have hreaches : Reaches device sources source :=
      ⟨before, after, hsplit, hbefore⟩
    have hnonempty : source.value device ≠ [] :=
      Source.value_ne_nil (hcopyable source hreaches) (hsources source hmem)
        havailable
    rw [hsplit, firstOffered_append hbefore havailable]
    exact ⟨rfl, hnonempty⟩
  · intro hnone
    rw [firstOffered_eq_none_iff.mpr hnone]
    exact ⟨rfl, rfl⟩

/-! ## The accessors -/

inductive Accessor
  | serialNumber
  | sku
  | make
  | model
  | brand
  | distributorId

namespace Accessor

def call (device : Device) : Accessor → Getter
  | serialNumber => DeviceInfo.serialNumber device
  | sku => DeviceInfo.sku device
  | make => DeviceInfo.make device
  | model => DeviceInfo.model device
  | brand => DeviceInfo.brand device
  | distributorId => DeviceInfo.distributorId device

/-- The `DEVICE_NAME` lookup yields exactly one of the two names. -/
def Provisioned (device : Device) : Prop :=
  (Source.property "DEVICE_NAME").offered device = some "PLATCO".toList ∨
    (Source.property "DEVICE_NAME").offered device = some "LLAMA".toList

instance (device : Device) : Decidable (Provisioned device) :=
  inferInstanceAs (Decidable (_ ∨ _))

def sources (device : Device) : Accessor → List Source
  | serialNumber => [.mfr .serialNumber, .rfc "Device.DeviceInfo.SerialNumber"]
  | sku =>
      [.property "MODEL_NUM", .mfr .modelName,
        .rfc "Device.DeviceInfo.ModelName"]
  | make => [.mfr .manufacturer, .property "MFG_NAME"]
  | model =>
      if Provisioned device then
        [.mfr .provisionedModelName, .property "FRIENDLY_ID"]
      else
        [.property "FRIENDLY_ID"]
  | brand => [.file "/tmp/.manufacturer" wholeLine, .mfr .manufacturer]
  | distributorId =>
      [.file "/opt/www/authService/partnerId3.dat" wholeLine,
        .rfc "Device.DeviceInfo.X_RDKCENTRAL-COM_Syndication.PartnerId"]

def fallback : Accessor → Text → Text
  | brand, _ => "Unknown".toList
  | _, prior => prior

theorem sources_nonempty (device : Device) (accessor : Accessor) :
    ∀ source ∈ accessor.sources device, source.Nonempty := by
  cases accessor with
  | model =>
      rw [sources]
      split <;> simp
  | _ => simp [sources]

end Accessor

theorem provisioned_iff (value : Option Text) :
    (reported value []).1 = ERROR_NONE ∧
        isProvisioned (reported value []).2 = true ↔
      value = some "PLATCO".toList ∨ value = some "LLAMA".toList := by
  cases value with
  | none => simp [reported]
  | some deviceName =>
      change ERROR_NONE = ERROR_NONE ∧ isProvisioned deviceName = true ↔ _
      -- the two names stay folded: spelled out, they are slow to compare
      simp only [isProvisioned, Bool.or_eq_true, decide_eq_true_eq, true_and,
        Option.some.injEq]

theorem model_eq_tryInTurn (device : Device) (prior : Text) :
    model device prior =
      tryInTurn device (Accessor.model.sources device) prior := by
  have hname : readProperty device "DEVICE_NAME" [] =
      .ok (reported ((Source.property "DEVICE_NAME").offered device) []) :=
    readFile_offers device "/etc/device.properties" _ []
  simp only [model, hname, bind, Except.bind, Accessor.sources]
  by_cases hmember : Accessor.Provisioned device
  · rw [if_pos ((provisioned_iff _).mpr hmember), if_pos hmember, tryInTurn,
      tryInTurn_singleton]
    rfl
  · rw [if_neg (mt (provisioned_iff _).mp hmember), if_neg hmember,
      tryInTurn_singleton]
    rfl

theorem brand_eq_tryInTurn (device : Device) (prior : Text) :
    brand device prior =
      tryInTurn device (Accessor.brand.sources device) "Unknown".toList := by
  have hsources : tryInTurn device (Accessor.brand.sources device) =
      (readFile device "/tmp/.manufacturer" wholeLine).orElse
        (getMFRData device .manufacturer) := by
    rw [Accessor.sources, tryInTurn, tryInTurn_singleton]
    rfl
  rw [brand, ← hsources]
  rcases tryInTurn_reports device (Accessor.brand.sources device)
      "Unknown".toList with ⟨fault, hfault⟩ | ⟨value, hvalue⟩
  · rw [hfault]
    rfl
  · rw [hvalue]
    cases value <;> rfl

theorem Accessor.call_eq_tryInTurn (device : Device) (accessor : Accessor)
    (prior : Text) :
    accessor.call device prior =
      tryInTurn device (accessor.sources device) (accessor.fallback prior) := by
  cases accessor with
  | model => exact model_eq_tryInTurn device prior
  | brand => exact brand_eq_tryInTurn device prior
  | _ =>
      simp only [Accessor.sources, tryInTurn, (Source.getter_reports device
        _).orElse_unavailable]
      rfl

/-- An accessor that begins with a file of one line reports the first line of
it that is not empty. -/
theorem Accessor.call_of_firstLine (accessor : Accessor) {device : Device}
    {filename : String} {rest : List Source} {value : Text}
    (hsources : accessor.sources device = .file filename wholeLine :: rest)
    (hfirst : FirstLine value (fileLines device.files filename)) (prior : Text) :
    accessor.call device prior = .ok (ERROR_NONE, value) := by
  have hlookup : lookup device.files filename wholeLine = some value :=
    lookup_wholeLine_eq_some_iff.mpr hfirst
  have havailable : (Source.file filename wholeLine).Available device := by
    rw [← Source.offered_isSome_iff, Source.offered, hlookup]
    rfl
  have hvalue : (Source.file filename wholeLine).value device = value := by
    simp [Source.value, hlookup]
  have hcopyable : (Source.file filename wholeLine).Copyable device := trivial
  rw [accessor.call_eq_tryInTurn, hsources,
    tryInTurn_cons_of_available hcopyable havailable, hvalue]

/-- Whatever the files, the manufacturer library and RFC answer, and whatever
the output string held, each accessor reports its first available source. -/
theorem accessors_follow_order (device : Device)
    (hmfr : ∀ type, (device.mfr type).InBuffer) (accessor : Accessor) :
    FollowsOrder device (accessor.sources device) accessor.fallback
      (accessor.call device) := by
  have hcopyable : ∀ source : Source, source.Copyable device := by
    intro source
    cases source with
    | file filename regex => trivial
    | mfr type => exact (hmfr type).copyable
    | rfc name => trivial
  exact followsOrder_of_tryInTurn (fun source _ => hcopyable source)
    (Accessor.sources_nonempty device accessor)
    (accessor.call_eq_tryInTurn device)

/-- A device with a provisioned model name next to its friendly name, and
nothing in RFC. -/
def llamaDevice : Device where
  files := fun filename =>
    if filename = "/etc/device.properties" then
      some "DEVICE_NAME=LLAMA\nFRIENDLY_ID=\"Living room\"\n".toList
    else
      none
  mfr := fun type =>
    if type = .provisionedModelName then
      ⟨.success, "X100".toList, 4⟩
    else
      ⟨.failure 1, [], 0⟩
  rfc := fun _ => ⟨.failure 1, ['\x00'], by simp⟩

/-- The brand is in the third line of its file. -/
def brandedDevice : Device :=
  { llamaDevice with
    files := fun filename =>
      if filename = "/tmp/.manufacturer" then
        some "\n\nAndes\nPampas\n".toList
      else
        none }

theorem accessors_follow_order_llama :
    FollowsOrder llamaDevice
        [.mfr .provisionedModelName, .property "FRIENDLY_ID"] id
        (model llamaDevice) ∧
      model llamaDevice [] = .ok (ERROR_NONE, "X100".toList) ∧
      FollowsOrder brandedDevice
        [.file "/tmp/.manufacturer" wholeLine, .mfr .manufacturer]
        (fun _ => "Unknown".toList) (brand brandedDevice) ∧
      ∀ prior, brand brandedDevice prior =
        .ok (ERROR_NONE, "Andes".toList) := by
  have hmfr : ∀ type, (llamaDevice.mfr type).InBuffer := by
    intro type
    cases type <;> decide
  have hlines : fileLines brandedDevice.files "/tmp/.manufacturer" =
      [[], [], "Andes".toList, "Pampas".toList] := by
    decide
  have hfirst : FirstLine "Andes".toList
      (fileLines brandedDevice.files "/tmp/.manufacturer") := by
    rw [hlines]
    exact ⟨by decide, [[], []], ["Pampas".toList], rfl, by simp⟩
  exact ⟨accessors_follow_order llamaDevice hmfr .model, by decide,
    accessors_follow_order brandedDevice hmfr .brand,
    Accessor.brand.call_of_firstLine rfl hfirst⟩

end DeviceInfo
end DeviceInfoPlugin
