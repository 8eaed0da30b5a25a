import DeviceInfoPlugin.Base64
import DeviceInfoPlugin.DeviceSettings

/-!
# The EDID of the host

`HostEDID` hands the bytes of Device Settings to `Core::ToString`, which takes
their number as 16 bits.  The model records the elements of `edidVec` that the
function names, with the length of the vector at that moment: an empty vector
has no element 0 to take the address of.
-/

namespace DeviceInfoPlugin
namespace DeviceSettings

open DeviceInfo (Text)

abbrev Bytes := List UInt8

/-- An element that the function names, in a vector of `size` elements. -/
structure Access where
  index : Nat
  size : Nat
deriving DecidableEq

structure HostEdidReport where
  result : Hresult
  edid : Text
  accesses : List Access
deriving DecidableEq

/-- `{ 'u', 'n', 'k', 'n', 'o', 'w', 'n' }` -/
def unknownEdid : Bytes :=
  "unknown".toList.map fun c => UInt8.ofNat c.toNat

/-- `Core::ToString(object, length, padding, result)` on an empty result. -/
abbrev ToString := Bytes → UInt16 → Bool → Text

/-- `getHostEDID` is the outcome of the call, and `edid` what the caller's
`hostEdid.EDID` holds. -/
def hostEDID (toString : ToString) (getHostEDID : Except Thrown Bytes)
    (edid : Text) : HostEdidReport :=
  let (result, edidVec) :=
    match getHostEDID with
    | .ok edidVec2 => (ERROR_NONE, edidVec2)
    | .error .deviceException => (ERROR_GENERAL, unknownEdid)
    | .error .stdException => (ERROR_GENERAL, unknownEdid)
    | .error .other => (ERROR_GENERAL, unknownEdid)
  if result = ERROR_NONE then
    if edidVec.length > 65535 then
      ⟨ERROR_GENERAL, edid, []⟩
    else
      -- `edidVec.size()` is narrowed to the length argument
      let base64String := toString edidVec (UInt16.ofNat edidVec.length) true
      ⟨result, base64String, [⟨0, edidVec.length⟩]⟩
  else
    ⟨result, edid, []⟩

/-- The first `length` bytes are written, as base64 with padding. -/
def WritesBase64 (toString : ToString) : Prop :=
  ∀ (object : Bytes) (length : UInt16), length.toNat ≤ object.length →
    toString object length true = Base64.encode (object.take length.toNat)

/-! ## The contract -/

structure ReportsEdid (toString : ToString)
    (getHostEDID : Except Thrown Bytes) : Prop where
  succeeds_iff : ∀ edid, (hostEDID toString getHostEDID edid).result =
      ERROR_NONE ↔ ∃ bytes, getHostEDID = .ok bytes ∧ bytes.length ≤ 65535
  decodes : ∀ edid bytes, getHostEDID = .ok bytes → bytes.length ≤ 65535 →
    Base64.decode (hostEDID toString getHostEDID edid).edid = some bytes
  unchanged : ∀ edid,
    (hostEDID toString getHostEDID edid).result ≠ ERROR_NONE →
    (hostEDID toString getHostEDID edid).result = ERROR_GENERAL ∧
      (hostEDID toString getHostEDID edid).edid = edid
  inside : ∀ edid, ∀ access ∈ (hostEDID toString getHostEDID edid).accesses,
    access.index < access.size

theorem hostEDID_of_thrown (toString : ToString) (thrown : Thrown)
    (edid : Text) :
    hostEDID toString (.error thrown) edid = ⟨ERROR_GENERAL, edid, []⟩ := by
  cases thrown <;> rfl

theorem hostEDID_of_long {toString : ToString} {bytes : Bytes}
    (hlength : 65535 < bytes.length) (edid : Text) :
    hostEDID toString (.ok bytes) edid = ⟨ERROR_GENERAL, edid, []⟩ := by
  simp only [hostEDID, if_true]
  rw [if_pos hlength]

/-- Up to 65535 bytes the length survives the narrowing. -/
theorem hostEDID_of_short {toString : ToString}
    (htoString : WritesBase64 toString) {bytes : Bytes}
    (hlength : bytes.length ≤ 65535) (edid : Text) :
    hostEDID toString (.ok bytes) edid =
      ⟨ERROR_NONE, Base64.encode bytes, [⟨0, bytes.length⟩]⟩ := by
  have hnarrow : (UInt16.ofNat bytes.length).toNat = bytes.length := by
    rw [UInt16.toNat_ofNat']
    omega
  have hencoded := htoString bytes (UInt16.ofNat bytes.length) (by omega)
  rw [hnarrow, List.take_length] at hencoded
  simp only [hostEDID, if_true]
  rw [if_neg (by omega), hencoded]

/-- The contract is met unless Device Settings returns no bytes at all. -/
theorem hostEDID_reports_iff (toString : ToString)
    (htoString : WritesBase64 toString) (getHostEDID : Except Thrown Bytes) :
    ReportsEdid toString getHostEDID ↔ getHostEDID ≠ .ok [] := by
  constructor
  · intro hreports hempty
    subst hempty
    have hcall : hostEDID toString (.ok []) [] = ⟨ERROR_NONE, [], [⟨0, 0⟩]⟩ :=
      hostEDID_of_short htoString (by simp) []
    have hinside := hreports.inside [] ⟨0, 0⟩ (by simp [hcall])
    exact absurd hinside (by simp)
  · intro hnonempty
    cases getHostEDID with
    | error thrown =>
        constructor <;> simp [hostEDID_of_thrown]
    | ok bytes =>
        by_cases hlength : bytes.length ≤ 65535
        · have hcall := hostEDID_of_short htoString hlength
          have hne : bytes ≠ [] := by
            intro hnil
            exact hnonempty (by rw [hnil])
          have hfirst : 0 < bytes.length := List.length_pos_iff.mpr hne
          constructor
          case succeeds_iff => simp [hcall, hlength]
          case decodes =>
            intro edid bytes' hbytes _
            rw [hcall, Base64.decode_encode, Except.ok.inj hbytes]
          case unchanged => simp [hcall]
          case inside => simpa [hcall] using hfirst
        · have hcall : ∀ edid, hostEDID toString (.ok bytes) edid =
              ⟨ERROR_GENERAL, edid, []⟩ :=
            hostEDID_of_long (by omega)
          constructor
          case succeeds_iff => simp [hcall, hlength]
          case decodes =>
            intro edid bytes' hbytes hshort
            rw [← Except.ok.inj hbytes] at hshort
            exact absurd hshort hlength
          case unchanged => simp [hcall]
          case inside => simp [hcall]

def writeBase64 : ToString :=
  fun object length _ => Base64.encode (object.take length.toNat)

theorem writesBase64_writeBase64 : WritesBase64 writeBase64 :=
  fun _ _ _ => rfl

theorem hostEDID_reports_three_bytes :
    ReportsEdid writeBase64 (.ok [0x00, 0xff, 0xff]) ∧
      hostEDID writeBase64 (.ok [0x00, 0xff, 0xff]) [] =
        ⟨ERROR_NONE, "AP//".toList, [⟨0, 3⟩]⟩ := by
  constructor
  · apply (hostEDID_reports_iff writeBase64 writesBase64_writeBase64 _).mpr
    simp
  · decide

/-- The address of element 0 of an empty vector is taken. -/
theorem hostEDID_empty_access :
    hostEDID writeBase64 (.ok []) [] = ⟨ERROR_NONE, [], [⟨0, 0⟩]⟩ ∧
      ¬ ReportsEdid writeBase64 (.ok []) := by
  have hcall : hostEDID writeBase64 (.ok []) [] =
      ⟨ERROR_NONE, [], [⟨0, 0⟩]⟩ := by
    decide
  constructor
  · exact hcall
  · intro hreports
    have hinside := hreports.inside [] ⟨0, 0⟩ (by simp [hcall])
    exact absurd hinside (by simp)

end DeviceSettings
end DeviceInfoPlugin
