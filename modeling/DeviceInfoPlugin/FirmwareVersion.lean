import DeviceInfoPlugin.DataSources
import DeviceInfoPlugin.TaggedLines

/-!
# The firmware version

`FirmwareVersion` scans version.txt once for each of four tags and asks the
manufacturer library for the fifth field.  Only the image name is required.
The other fields are emptied when their source has nothing, so on success
nothing of the caller's structure is left.
-/

namespace DeviceInfoPlugin
namespace DeviceInfo

structure FirmwareversionInfo where
  imagename : Text
  sdk : Text
  mediarite : Text
  yocto : Text
  pdri : Text
deriving DecidableEq

def readVersion (device : Device) (tag : String) : Getter :=
  readFile device "/version.txt" (taggedLine tag)

/-- `if (getter(field) != Core::ERROR_NONE) field = ""` -/
def Getter.orEmpty (getter : Getter) (field : Text) : Except CopyFault Text := do
  let (result, field) ← getter field
  return if result ≠ ERROR_NONE then [] else field

def firmwareVersion (device : Device) (firmwareVersionInfo : FirmwareversionInfo) :
    Except CopyFault (Hresult × FirmwareversionInfo) := do
  let (result, imagename) ←
    readVersion device "imagename:" firmwareVersionInfo.imagename
  if result = ERROR_NONE then
    let sdk ← (readVersion device "SDK_VERSION=").orEmpty
      firmwareVersionInfo.sdk
    let mediarite ← (readVersion device "MEDIARITE=").orEmpty
      firmwareVersionInfo.mediarite
    let yocto ← (readVersion device "YOCTO_VERSION=").orEmpty
      firmwareVersionInfo.yocto
    let pdri ← (getMFRData device .pdriVersion).orEmpty
      firmwareVersionInfo.pdri
    return (result, ⟨imagename, sdk, mediarite, yocto, pdri⟩)
  else
    return (result, { firmwareVersionInfo with imagename })

/-! ## The contract -/

def versionLines (device : Device) : List Text :=
  fileLines device.files "/version.txt"

def OptionalTagged (tag : String) (value : Text) (lines : List Text) : Prop :=
  FirstTagged tag value lines ∨ ¬ HasTag tag lines ∧ value = []

structure FirmwareversionInfo.ReadFrom (info : FirmwareversionInfo)
    (lines : List Text) (reply : MfrReply) : Prop where
  imagename : FirstTagged "imagename:" info.imagename lines
  sdk : OptionalTagged "SDK_VERSION=" info.sdk lines
  mediarite : OptionalTagged "MEDIARITE=" info.mediarite lines
  yocto : OptionalTagged "YOCTO_VERSION=" info.yocto lines
  pdri : info.pdri = reply.offered.getD []

def versionTags : List String :=
  ["imagename:", "SDK_VERSION=", "MEDIARITE=", "YOCTO_VERSION="]

/-- The same lines, those with one prefix in the same order. -/
structure Reordered (lines lines' : List Text) : Prop where
  perm : lines'.Perm lines
  order : ∀ tag ∈ versionTags,
    lines'.filter (hasPrefix tag) = lines.filter (hasPrefix tag)

structure ReportsFirmware (device : Device) : Prop where
  succeeds_iff : ∀ prior,
    (∃ info, firmwareVersion device prior = .ok (ERROR_NONE, info)) ↔
      HasTag "imagename:" (versionLines device)
  named : HasTag "imagename:" (versionLines device) →
    ∃ info : FirmwareversionInfo,
      info.ReadFrom (versionLines device) (device.mfr .pdriVersion) ∧
      ∀ prior, firmwareVersion device prior = .ok (ERROR_NONE, info)
  unnamed : ¬ HasTag "imagename:" (versionLines device) →
    ∀ prior, firmwareVersion device prior = .ok (ERROR_GENERAL, prior)
  reordered : ∀ device' : Device,
    device'.mfr .pdriVersion = device.mfr .pdriVersion →
    Reordered (versionLines device) (versionLines device') →
    ∀ prior, firmwareVersion device' prior = firmwareVersion device prior

/-! ## What the calls yield -/

def versionField (device : Device) (tag : String) : Option Text :=
  lookup device.files "/version.txt" (taggedLine tag)

theorem readVersion_offers (device : Device) (tag : String) :
    (readVersion device tag).Offers (versionField device tag) :=
  readFile_offers device "/version.txt" (taggedLine tag)

theorem versionField_eq_none_iff {device : Device} {tag : String} :
    versionField device tag = none ↔ ¬ HasTag tag (versionLines device) :=
  lookup_taggedLine_eq_none_iff

theorem versionField_isSome_iff {device : Device} {tag : String} :
    (versionField device tag).isSome ↔ HasTag tag (versionLines device) := by
  rw [← not_iff_not, ← versionField_eq_none_iff,
    Option.not_isSome_iff_eq_none]

theorem versionField_of_hasTag {device : Device} {tag : String}
    (hhas : HasTag tag (versionLines device)) :
    ∃ value, versionField device tag = some value :=
  Option.isSome_iff_exists.mp (versionField_isSome_iff.mpr hhas)

theorem optionalTagged_versionField (device : Device) (tag : String) :
    OptionalTagged tag ((versionField device tag).getD [])
      (versionLines device) := by
  cases hvalue : versionField device tag with
  | none => exact Or.inr ⟨versionField_eq_none_iff.mp hvalue, rfl⟩
  | some value => exact Or.inl (lookup_taggedLine_eq_some_iff.mp hvalue)

theorem Getter.Offers.orEmpty {getter : Getter} {value : Option Text}
    (hoffers : getter.Offers value) (field : Text) :
    getter.orEmpty field = .ok (value.getD []) := by
  rw [Getter.orEmpty, hoffers field]
  cases value <;> rfl

theorem Getter.orEmpty_of_error {getter : Getter} {field : Text}
    {fault : CopyFault} (hgetter : getter field = .error fault) :
    getter.orEmpty field = .error fault := by
  rw [Getter.orEmpty, hgetter]
  rfl

theorem firmwareVersion_of_unnamed {device : Device}
    (hname : versionField device "imagename:" = none)
    (prior : FirmwareversionInfo) :
    firmwareVersion device prior = .ok (ERROR_GENERAL, prior) := by
  have hread := readVersion_offers device "imagename:" prior.imagename
  rw [hname] at hread
  rw [firmwareVersion, hread]
  rfl

/-- The structure that a successful call leaves behind, whatever it was
given. -/
def reportedFirmware (device : Device) (imagename : Text) :
    FirmwareversionInfo where
  imagename := imagename
  sdk := (versionField device "SDK_VERSION=").getD []
  mediarite := (versionField device "MEDIARITE=").getD []
  yocto := (versionField device "YOCTO_VERSION=").getD []
  pdri := (device.mfr .pdriVersion).offered.getD []

theorem firmwareVersion_of_named {device : Device} {imagename : Text}
    (hname : versionField device "imagename:" = some imagename)
    (hcopyable : (device.mfr .pdriVersion).Copyable)
    (prior : FirmwareversionInfo) :
    firmwareVersion device prior =
      .ok (ERROR_NONE, reportedFirmware device imagename) := by
  have hread := readVersion_offers device "imagename:" prior.imagename
  rw [hname] at hread
  rw [firmwareVersion, hread]
  simp only [reported, bind, Except.bind, if_true,
    (readVersion_offers device _).orEmpty,
    (getMFRData_offers hcopyable).orEmpty]
  rfl

theorem firmwareVersion_fails {device : Device} {imagename : Text}
    (hname : versionField device "imagename:" = some imagename)
    (hcopyable : ¬ (device.mfr .pdriVersion).Copyable)
    (prior : FirmwareversionInfo) :
    ∃ fault, firmwareVersion device prior = .error fault := by
  have hread := readVersion_offers device "imagename:" prior.imagename
  rw [hname] at hread
  rcases getMFRData_fails hcopyable prior.pdri with ⟨fault, hfault⟩
  use fault
  rw [firmwareVersion, hread]
  simp only [reported, bind, Except.bind, if_true,
    (readVersion_offers device _).orEmpty, Getter.orEmpty_of_error hfault]

theorem reportedFirmware_readFrom {device : Device} {imagename : Text}
    (hname : versionField device "imagename:" = some imagename) :
    (reportedFirmware device imagename).ReadFrom (versionLines device)
      (device.mfr .pdriVersion) where
  imagename := lookup_taggedLine_eq_some_iff.mp hname
  sdk := optionalTagged_versionField device _
  mediarite := optionalTagged_versionField device _
  yocto := optionalTagged_versionField device _
  pdri := rfl

/-! ## The order of the lines -/

theorem Reordered.versionField_eq {device device' : Device} {tag : String}
    (hreordered : Reordered (versionLines device) (versionLines device'))
    (htag : tag ∈ versionTags) :
    versionField device' tag = versionField device tag :=
  lookup_taggedLine_eq_of_filter_eq (hreordered.order tag htag)

theorem firmwareVersion_reordered {device device' : Device}
    (hreply : device'.mfr .pdriVersion = device.mfr .pdriVersion)
    (hreordered : Reordered (versionLines device) (versionLines device'))
    (prior : FirmwareversionInfo) :
    firmwareVersion device' prior = firmwareVersion device prior := by
  have hread : ∀ tag ∈ versionTags,
      readVersion device' tag = readVersion device tag := by
    intro tag htag
    funext response
    rw [readVersion_offers device' tag response,
      readVersion_offers device tag response, hreordered.versionField_eq htag]
  have hmfr : getMFRData device' .pdriVersion =
      getMFRData device .pdriVersion := by
    unfold getMFRData
    rw [hreply]
  simp only [versionTags, List.forall_mem_cons, List.not_mem_nil,
    false_implies, implies_true, and_true] at hread
  simp only [firmwareVersion, hread, hmfr]

/-! ## When the contract holds -/

/-- The firmware version is reported as it should be if and only if a
successful reply about the PDRI version has its length inside its buffer, or
no image is named and the reply is never asked for. -/
theorem firmwareVersion_reports_iff (device : Device) :
    ReportsFirmware device ↔
      (HasTag "imagename:" (versionLines device) →
        (device.mfr .pdriVersion).Copyable) := by
  constructor
  · intro hreports hnamed
    by_contra hcopyable
    rcases hreports.named hnamed with ⟨info, -, hcall⟩
    rcases versionField_of_hasTag hnamed with ⟨imagename, hname⟩
    rcases firmwareVersion_fails hname hcopyable info with ⟨fault, hfault⟩
    rw [hcall info] at hfault
    contradiction
  · intro hcopyable
    have hunnamed : ¬ HasTag "imagename:" (versionLines device) →
        ∀ prior, firmwareVersion device prior = .ok (ERROR_GENERAL, prior) := by
      intro hno prior
      exact firmwareVersion_of_unnamed (versionField_eq_none_iff.mpr hno) prior
    have hnamed : HasTag "imagename:" (versionLines device) →
        ∃ info : FirmwareversionInfo,
          info.ReadFrom (versionLines device) (device.mfr .pdriVersion) ∧
          ∀ prior, firmwareVersion device prior = .ok (ERROR_NONE, info) := by
      intro hhas
      rcases versionField_of_hasTag hhas with ⟨imagename, hname⟩
      use reportedFirmware device imagename, reportedFirmware_readFrom hname
      exact firmwareVersion_of_named hname (hcopyable hhas)
    have hsucceeds : ∀ prior,
        (∃ info, firmwareVersion device prior = .ok (ERROR_NONE, info)) ↔
          HasTag "imagename:" (versionLines device) := by
      intro prior
      constructor
      · intro hok
        by_contra hno
        rcases hok with ⟨info, hok⟩
        rw [hunnamed hno prior, Except.ok.injEq, Prod.mk.injEq] at hok
        exact ERROR_GENERAL_ne_ERROR_NONE hok.1
      · intro hhas
        rcases hnamed hhas with ⟨info, -, hcall⟩
        exact ⟨info, hcall prior⟩
    exact ⟨hsucceeds, hnamed, hunnamed,
      fun _ hreply hreordered => firmwareVersion_reordered hreply hreordered⟩

/-- A named image, and a negative length in the reply about the PDRI
version. -/
def negativeLengthDevice : Device where
  files := fun filename =>
    if filename = "/version.txt" then some "imagename:X1\n".toList else none
  mfr := fun _ => ⟨.success, [], -1⟩
  rfc := fun _ => ⟨.failure 1, ['?', '\x00'], by simp⟩

theorem firmwareVersion_negative_length :
    (∀ prior, firmwareVersion negativeLengthDevice prior =
      .error .lengthError) ∧
    ¬ ReportsFirmware negativeLengthDevice := by
  have hcall : ∀ prior, firmwareVersion negativeLengthDevice prior =
      .error .lengthError := by
    intro prior
    rfl
  constructor
  · exact hcall
  · intro hreports
    have hhas : HasTag "imagename:" (versionLines negativeLengthDevice) :=
      ⟨"imagename:X1".toList, by decide, "X1".toList, by decide, by decide⟩
    rcases hreports.named hhas with ⟨info, -, hok⟩
    have hfault := hcall info
    rw [hok info] at hfault
    contradiction

end DeviceInfo
end DeviceInfoPlugin
