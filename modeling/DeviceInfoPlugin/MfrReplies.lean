import DeviceInfoPlugin.FirmwareVersion
import DeviceInfoPlugin.SourceOrder

/-!
# Replies of the manufacturer library

The remote side sets the status, the buffer and the length of a reply.  A call
is safe if it never copies from outside the buffer: it then takes a value out
of the buffer or goes on as if the library were unavailable.  Only a zero
length is refused, so every caller is safe exactly as far as the lengths that
it is given stay inside the buffer.
-/

namespace DeviceInfoPlugin
namespace DeviceInfo

/-- `value` is the non-empty front of the buffer that the length tells. -/
def MfrReply.Carries (reply : MfrReply) (value : Text) : Prop :=
  ∃ n : Nat, 1 ≤ n ∧ n ≤ reply.buffer.length ∧ reply.bufLen = n ∧
    value = reply.buffer.take n

def SafeCopy (device : Device) (type : MfrSerializedType) : Prop :=
  ∀ response,
    (∃ value, (device.mfr type).Carries value ∧
      getMFRData device type response = .ok (ERROR_NONE, value)) ∨
    getMFRData device type response = .ok (ERROR_GENERAL, response)

/-- A call that comes to a reply of the library takes its value or goes on
with the sources after it. -/
def SafeCall (device : Device) (accessor : Accessor) : Prop :=
  ∀ prior, (∃ result output,
      accessor.call device prior = .ok (result, output)) ∧
    ∀ before type after,
      accessor.sources device = before ++ .mfr type :: after →
      (∀ earlier ∈ before, ¬ earlier.Available device) →
      (∃ value, (device.mfr type).Carries value ∧
        accessor.call device prior = .ok (ERROR_NONE, value)) ∨
      accessor.call device prior =
        tryInTurn device after (accessor.fallback prior)

def SafeFirmware (device : Device) : Prop :=
  ∀ prior, ∃ result info,
    firmwareVersion device prior = .ok (result, info) ∧
    (result = ERROR_NONE →
      (device.mfr .pdriVersion).Carries info.pdri ∨ info.pdri = [])

/-! ## What a reply carries -/

theorem MfrReply.carries_of_offered {reply : MfrReply}
    (hcopyable : reply.Copyable) {value : Text}
    (hvalue : reply.offered = some value) : reply.Carries value := by
  rw [MfrReply.offered] at hvalue
  split at hvalue
  next havailable =>
    rcases hcopyable havailable.1 with ⟨hnonneg, hlength⟩
    have hne := havailable.2
    exact ⟨reply.bufLen.toNat, by omega, by omega, by omega,
      (Option.some.inj hvalue).symm⟩
  next => contradiction

theorem safeCopy_iff (device : Device) (type : MfrSerializedType) :
    SafeCopy device type ↔ (device.mfr type).Copyable := by
  constructor
  · intro hsafe
    by_contra hcopyable
    rcases getMFRData_fails hcopyable [] with ⟨fault, hfault⟩
    rcases hsafe [] with ⟨value, -, hok⟩ | hok <;> rw [hok] at hfault <;>
      contradiction
  · intro hcopyable response
    have hoffers := getMFRData_offers hcopyable response
    cases hvalue : (device.mfr type).offered with
    | none =>
        rw [hvalue] at hoffers
        exact Or.inr hoffers
    | some value =>
        rw [hvalue] at hoffers
        exact Or.inl ⟨value, MfrReply.carries_of_offered hcopyable hvalue,
          hoffers⟩

/-! ## The callers -/

/-- Of the sources that are tried, only a reply can be out of its buffer. -/
theorem reaches_copyable_iff {device : Device} {sources : List Source} :
    (∀ source, Reaches device sources source → source.Copyable device) ↔
      ∀ type, Reaches device sources (.mfr type) →
        (device.mfr type).Copyable := by
  constructor
  · intro hcopyable type hreaches
    exact hcopyable (.mfr type) hreaches
  · intro hmfr source hreaches
    cases source with
    | file filename regex => trivial
    | mfr type => exact hmfr type hreaches
    | rfc name => trivial

theorem tryInTurn_at_mfr {device : Device} {type : MfrSerializedType}
    (hcopyable : (device.mfr type).Copyable) (after : List Source)
    (response : Text) :
    (∃ value, (device.mfr type).Carries value ∧
      tryInTurn device (.mfr type :: after) response =
        .ok (ERROR_NONE, value)) ∨
    tryInTurn device (.mfr type :: after) response =
      tryInTurn device after response := by
  by_cases havailable : (Source.mfr type).Available device
  · have hvalue := Source.offered_of_available havailable
    left
    use (Source.mfr type).value device,
      MfrReply.carries_of_offered hcopyable hvalue
    have hsource : (Source.mfr type).Copyable device := hcopyable
    exact tryInTurn_cons_of_available hsource havailable response
  · exact Or.inr (tryInTurn_cons_of_unavailable havailable response)

theorem safeCall_iff (device : Device) (accessor : Accessor) :
    SafeCall device accessor ↔
      ∀ type, Reaches device (accessor.sources device) (.mfr type) →
        (device.mfr type).Copyable := by
  rw [← reaches_copyable_iff]
  constructor
  · intro hsafe source hreaches
    by_contra hcopyable
    rcases tryInTurn_fails hreaches hcopyable (accessor.fallback []) with
      ⟨fault, hfault⟩
    rcases (hsafe []).1 with ⟨result, output, hok⟩
    rw [accessor.call_eq_tryInTurn, hfault] at hok
    contradiction
  · intro hcopyable prior
    have hcall := accessor.call_eq_tryInTurn device prior
    constructor
    · rw [hcall, tryInTurn_of_copyable hcopyable]
      exact ⟨_, _, rfl⟩
    · intro before type after hsplit hbefore
      have hreply : (device.mfr type).Copyable :=
        hcopyable (.mfr type) ⟨before, after, hsplit, hbefore⟩
      rw [hcall, hsplit, tryInTurn_append_of_unavailable hbefore]
      exact tryInTurn_at_mfr hreply after _

theorem safeFirmware_iff (device : Device) :
    SafeFirmware device ↔
      (HasTag "imagename:" (versionLines device) →
        (device.mfr .pdriVersion).Copyable) := by
  constructor
  · intro hsafe hnamed
    by_contra hcopyable
    rcases versionField_of_hasTag hnamed with ⟨imagename, hname⟩
    let prior : FirmwareversionInfo := ⟨[], [], [], [], []⟩
    rcases firmwareVersion_fails hname hcopyable prior with ⟨fault, hfault⟩
    rcases hsafe prior with ⟨result, info, hok, -⟩
    rw [hok] at hfault
    contradiction
  · intro hcopyable prior
    cases hname : versionField device "imagename:" with
    | none =>
        refine ⟨_, _, firmwareVersion_of_unnamed hname prior, ?_⟩
        intro hresult
        exact absurd hresult ERROR_GENERAL_ne_ERROR_NONE
    | some imagename =>
        have hnamed : HasTag "imagename:" (versionLines device) :=
          versionField_isSome_iff.mp (by rw [hname]; rfl)
        have hreply := hcopyable hnamed
        refine ⟨_, _, firmwareVersion_of_named hname hreply prior, ?_⟩
        intro _
        change (device.mfr .pdriVersion).Carries
            ((device.mfr .pdriVersion).offered.getD []) ∨
          (device.mfr .pdriVersion).offered.getD [] = []
        cases hvalue : (device.mfr .pdriVersion).offered with
        | none => exact Or.inr rfl
        | some value =>
            exact Or.inl (MfrReply.carries_of_offered hreply hvalue)

/-- Each call is safe if and only if every successful reply that it comes to
has its length inside its buffer. -/
theorem mfr_replies_safe_iff (device : Device) :
    (∀ type, SafeCopy device type ↔ (device.mfr type).Copyable) ∧
    (∀ accessor : Accessor, SafeCall device accessor ↔
      ∀ type, Reaches device (accessor.sources device) (.mfr type) →
        (device.mfr type).Copyable) ∧
    (SafeFirmware device ↔
      (HasTag "imagename:" (versionLines device) →
        (device.mfr .pdriVersion).Copyable)) :=
  ⟨safeCopy_iff device, safeCall_iff device, safeFirmware_iff device⟩

/-- RFC knows the serial number, but the reply of the library comes with a
negative length. -/
def negativeSerialDevice : Device where
  files := fun _ => none
  mfr := fun type =>
    if type = .serialNumber then
      ⟨.success, "SN1".toList, -1⟩
    else
      ⟨.failure 1, [], 0⟩
  rfc := fun _ => ⟨.success, ['S', 'N', '2', '\x00'], by simp⟩

theorem serialNumber_negative_length :
    serialNumber negativeSerialDevice [] = .error .lengthError ∧
      ¬ SafeCopy negativeSerialDevice .serialNumber ∧
      ¬ SafeCall negativeSerialDevice .serialNumber := by
  have hcall : serialNumber negativeSerialDevice [] = .error .lengthError := by
    decide
  refine ⟨hcall, ?_, ?_⟩
  · intro hsafe
    rcases hsafe [] with ⟨value, ⟨n, -, -, hlength, -⟩, -⟩ | hok
    · have hnegative : (-1 : Int) = n := hlength
      omega
    · exact absurd hok (by decide)
  · intro hsafe
    rcases (hsafe []).1 with ⟨result, output, hok⟩
    change serialNumber negativeSerialDevice [] = .ok (result, output) at hok
    rw [hcall] at hok
    contradiction

end DeviceInfo
end DeviceInfoPlugin
