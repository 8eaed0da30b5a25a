import DeviceInfoPlugin.DataSources
import DeviceInfoPlugin.PropertyValues

/-!
# The device type

`DeviceType` looks in two files, translates what it finds in the second one,
and maps the resulting name to an enumeration value.  The result code comes
from the file lookups and the output from the map, so the two need not agree.
-/

namespace DeviceInfoPlugin
namespace DeviceInfo

open Regex

inductive DeviceTypeInfo
  | iptv
  | ipstb
  | qamipstb
  /-- Anything else the field may hold before it is assigned. -/
  | other (value : UInt8)
deriving DecidableEq, Repr

def stringToDeviceType (deviceTypeInfo : Text) : Option DeviceTypeInfo :=
  if deviceTypeInfo = "IpTv".toList then
    some .iptv
  else if deviceTypeInfo = "IpStb".toList then
    some .ipstb
  else if deviceTypeInfo = "QamIpStb".toList then
    some .qamipstb
  else
    none

/-- The conversion of a name from device.properties, where `strcmp` sees the
characters up to the first NUL. -/
def pluginName (deviceTypeInfo : Text) : Text :=
  let deviceType := cString deviceTypeInfo
  if deviceType = "mediaclient".toList then
    "IpStb".toList
  else if deviceType = "hybrid".toList then
    "QamIpStb".toList
  else
    "IpTv".toList

def deviceTypeName (files : FileSystem) : Hresult × Text :=
  let (result, deviceTypeInfo) :=
    getFileRegex files "/etc/authService.conf" (propertyLine "deviceType") []
  if result ≠ ERROR_NONE then
    let (result, deviceTypeInfo) :=
      getFileRegex files "/etc/device.properties" (propertyLine "DEVICE_TYPE")
        deviceTypeInfo
    if result = ERROR_NONE then
      (result, pluginName deviceTypeInfo)
    else
      (result, deviceTypeInfo)
  else
    (result, deviceTypeInfo)

/-- `prior` is what the caller's `devicetype` holds before the call. -/
def deviceType (files : FileSystem) (prior : DeviceTypeInfo) :
    Hresult × DeviceTypeInfo :=
  let (result, deviceTypeInfo) := deviceTypeName files
  match stringToDeviceType deviceTypeInfo with
  | some found => (result, found)
  | none => (result, prior)

/-- The device type is a function of the two files, and stays as it was when
they do not tell it. -/
structure DeterminedByFiles (files : FileSystem) : Prop where
  assigned : ∃ type, ∀ prior, (deviceType files prior).1 = ERROR_NONE →
    (deviceType files prior).2 = type
  kept : ∀ prior, (deviceType files prior).1 = ERROR_GENERAL →
    (deviceType files prior).2 = prior

theorem stringToDeviceType_pluginName (name : Text) :
    ∃ type, stringToDeviceType (pluginName name) = some type := by
  rw [pluginName]
  split
  next => exact ⟨.ipstb, rfl⟩
  next =>
    split
    next => exact ⟨.qamipstb, rfl⟩
    next => exact ⟨.iptv, rfl⟩

def knownNames : List Text :=
  ["IpTv".toList, "IpStb".toList, "QamIpStb".toList]

theorem stringToDeviceType_isSome_iff (name : Text) :
    (stringToDeviceType name).isSome ↔ name ∈ knownNames := by
  simp only [knownNames, List.mem_cons, List.not_mem_nil, or_false]
  rw [stringToDeviceType]
  split
  next h => simp [h]
  next hiptv =>
    split
    next h => simp [h]
    next hipstb => split <;> simp_all

theorem deviceTypeName_of_authService {files : FileSystem} {name : Text}
    (hname : lookup files "/etc/authService.conf" (propertyLine "deviceType") =
      some name) :
    deviceTypeName files = (ERROR_NONE, name) := by
  simp [deviceTypeName, getFileRegex_eq_reported, hname, reported]

/-- Without a line in authService.conf, the result and the map agree. -/
theorem deviceTypeName_of_no_authService {files : FileSystem}
    (hname : lookup files "/etc/authService.conf" (propertyLine "deviceType") =
      none) :
    deviceTypeName files = (ERROR_GENERAL, []) ∨
      ∃ name, deviceTypeName files = (ERROR_NONE, pluginName name) := by
  cases hproperty : lookup files "/etc/device.properties"
      (propertyLine "DEVICE_TYPE") with
  | none =>
      left
      simp [deviceTypeName, getFileRegex_eq_reported, hname, hproperty, reported]
  | some name =>
      right
      use name
      simp [deviceTypeName, getFileRegex_eq_reported, hname, hproperty, reported]

theorem determinedByFiles_of_found {files : FileSystem} {name : Text}
    {type : DeviceTypeInfo}
    (hname : deviceTypeName files = (ERROR_NONE, name))
    (htype : stringToDeviceType name = some type) :
    DeterminedByFiles files := by
  have hcall : ∀ prior, deviceType files prior = (ERROR_NONE, type) := by
    intro prior
    simp [deviceType, hname, htype]
  constructor
  · use type
    intro prior _
    rw [hcall]
  · intro prior hresult
    rw [hcall] at hresult
    exact absurd hresult.symm ERROR_GENERAL_ne_ERROR_NONE

/-- A line that assigns a name of the map, quoted or not, with no blanks
directly behind the name. -/
def AssignsKnownName (line : Text) : Prop :=
  ∃ padding leading quote name quote' trailing, AllBlank padding ∧
    AllBlank leading ∧ QuoteOrNothing quote ∧ QuoteOrNothing quote' ∧
    AllBlank trailing ∧ name ∈ knownNames ∧ (quote' = [] → trailing = []) ∧
    line = "deviceType".toList ++ (padding ++
      '=' :: (leading ++ (quote ++ (name ++ (quote' ++ trailing)))))

theorem isUnquoted_of_isBlank {c : Char} (hblank : isBlank c = true)
    (hc : c ≠ '\n') : isUnquoted c = true := by
  have hquote : c ≠ '\x22' := by
    intro heq
    subst heq
    rw [not_isBlank_quote] at hblank
    contradiction
  simp [isUnquoted, hc, hquote]

theorem knownNames_plain : ∀ name ∈ knownNames, name ≠ [] ∧
    (∀ c ∈ name, isUnquoted c = true) ∧
      ∀ c ∈ name.head?, isBlank c = false := by
  intro name hname
  have hplain : knownNames.all (fun name => !name.isEmpty &&
      name.all isUnquoted && name.head?.all fun c => !isBlank c) = true := by
    decide
  have hall := List.all_eq_true.mp hplain name hname
  simpa [Option.all_eq_true, and_assoc] using hall

/-- The first assignment of `deviceType` in authService.conf, if there is one,
assigns a name of the map. -/
def AuthServiceKnown (files : FileSystem) : Prop :=
  ∀ content before line after, files "/etc/authService.conf" = some content →
    getlines content = before ++ line :: after →
    (∀ earlier ∈ before, ¬ ∃ value, Assigns "deviceType" value earlier) →
    (∃ value, Assigns "deviceType" value line) →
    AssignsKnownName line

/-- Without a closing quote the group takes the trailing blanks as well. -/
theorem captured_of_open {padding leading quote name trailing : Text}
    (hpadding : AllBlank padding) (hleading : AllBlank leading)
    (hquote : QuoteOrNothing quote) (hname : name ∈ knownNames)
    (htrailing : AllBlank trailing) (hline : '\n' ∉ trailing) :
    (fullMatch (propertyLine "deviceType")
        ("deviceType".toList ++ (padding ++ '=' :: (leading ++
          (quote ++ (name ++ trailing)))))).map (·.group 1) =
      some (name ++ trailing) := by
  obtain ⟨hnonempty, hunquoted, hhead⟩ := knownNames_plain name hname
  have hstart : ∀ c ∈ (quote ++ (name ++ trailing)).head?,
      isBlank c = false := by
    apply start_of_head hquote
    rwa [List.head?_append_of_ne_nil _ hnonempty]
  have hall : ∀ c ∈ name ++ trailing, isUnquoted c = true := by
    intro c hc
    rcases List.mem_append.mp hc with hc | hc
    · exact hunquoted c hc
    · have hbreak : c ≠ '\n' := by
        intro heq
        subst heq
        exact hline hc
      exact isUnquoted_of_isBlank (htrailing c hc) hbreak
  have hvalue := fullMatch_propertyLine_value "deviceType" hpadding hleading
    hquote hstart (by simp [hnonempty]) hall (Or.inl rfl)
  simpa using hvalue

/-- With a closing quote, or nothing behind the name, the group is the
name. -/
theorem captured_of_closed {padding leading quote name quote' trailing : Text}
    (hpadding : AllBlank padding) (hleading : AllBlank leading)
    (hquote : QuoteOrNothing quote) (hquote' : QuoteOrNothing quote')
    (hname : name ∈ knownNames) (htrailing : AllBlank trailing)
    (hclosed : quote' = [] → trailing = []) :
    (fullMatch (propertyLine "deviceType")
        ("deviceType".toList ++ (padding ++ '=' :: (leading ++
          (quote ++ (name ++ (quote' ++ trailing))))))).map (·.group 1) =
      some name := by
  obtain ⟨hnonempty, hunquoted, hhead⟩ := knownNames_plain name hname
  have hcloses : Closes (quote' ++ trailing) := by
    rcases hquote' with rfl | rfl
    · exact Or.inl (by simp [hclosed])
    · exact Or.inr ⟨trailing, htrailing, rfl⟩
  have hstart : ∀ c ∈ (quote ++ name).head?, isBlank c = false :=
    start_of_head hquote hhead
  exact fullMatch_propertyLine_value "deviceType" hpadding hleading hquote
    hstart hnonempty hunquoted hcloses

theorem captured_mem_knownNames_iff {line : Text} {m : Match Char}
    (hmatch : fullMatch (propertyLine "deviceType") line = some m)
    (hline : '\n' ∉ line) :
    m.group 1 ∈ knownNames ↔ AssignsKnownName line := by
  constructor
  · intro hname
    obtain ⟨padding, text, hpadding, hassigned, hparts⟩ :=
      assigns_of_fullMatch hmatch
    rcases hassigned.parts with ⟨leading, quote, quote', trailing, hleading,
      hquote, hquote', htrailing, htext⟩
    have htext' : line = "deviceType".toList ++ (padding ++ '=' :: (leading ++
        (quote ++ (m.group 1 ++ (quote' ++ trailing))))) := by
      simp [hparts, htext]
    have hclosed : quote' = [] → trailing = [] := by
      intro hopen
      subst hopen
      have hbreak : '\n' ∉ trailing := by
        intro hmem
        exact hline (by simp [htext', hmem])
      have hcaptured := captured_of_open hpadding hleading hquote hname
        htrailing hbreak
      rw [List.nil_append] at htext'
      rw [← htext', hmatch, Option.map_some, Option.some.injEq] at hcaptured
      simpa using hcaptured
    exact ⟨padding, leading, quote, m.group 1, quote', trailing, hpadding,
      hleading, hquote, hquote', htrailing, hname, hclosed, htext'⟩
  · intro hassigns
    rcases hassigns with ⟨padding, leading, quote, name, quote', trailing,
      hpadding, hleading, hquote, hquote', htrailing, hname, hclosed, htext⟩
    have hcaptured := captured_of_closed hpadding hleading hquote hquote' hname
      htrailing hclosed
    rw [← htext, hmatch, Option.map_some, Option.some.injEq] at hcaptured
    rwa [hcaptured]

theorem lookup_known_iff {files : FileSystem} :
    (∀ name, lookup files "/etc/authService.conf" (propertyLine "deviceType") =
        some name → name ∈ knownNames) ↔
      AuthServiceKnown files := by
  constructor
  · intro hknown content before line after hcontent hlines hbefore hassigns
    have hsome := fullMatch_propertyLine_isSome_iff.mpr hassigns
    rcases Option.isSome_iff_exists.mp hsome with ⟨m, hmatch⟩
    have hline : '\n' ∉ line := by
      apply newline_notMem_of_mem_getlines content
      simp [hlines]
    have hnone : ∀ earlier ∈ before,
        fullMatch (propertyLine "deviceType") earlier = none := by
      intro earlier hearlier
      rw [← Option.not_isSome_iff_eq_none, fullMatch_propertyLine_isSome_iff]
      exact hbefore earlier hearlier
    have hlookup : lookup files "/etc/authService.conf"
        (propertyLine "deviceType") = some (m.group 1) := by
      rw [lookup_eq_some_iff]
      exact ⟨content, before, line, after, m, hcontent, hlines, hnone, hmatch,
        rfl⟩
    exact (captured_mem_knownNames_iff hmatch hline).mp (hknown _ hlookup)
  · intro hknown name hlookup
    rw [lookup_eq_some_iff] at hlookup
    rcases hlookup with
      ⟨content, before, line, after, m, hcontent, hlines, hnone, hmatch, hname⟩
    have hline : '\n' ∉ line := by
      apply newline_notMem_of_mem_getlines content
      simp [hlines]
    have hbefore : ∀ earlier ∈ before,
        ¬ ∃ value, Assigns "deviceType" value earlier := by
      intro earlier hearlier
      rw [← fullMatch_propertyLine_isSome_iff, Option.not_isSome_iff_eq_none]
      exact hnone earlier hearlier
    have hassigns := assigns_of_fullMatch hmatch
    have hfirst := hknown content before line after hcontent hlines hbefore
      ⟨_, hassigns⟩
    rw [← hname]
    exact (captured_mem_knownNames_iff hmatch hline).mpr hfirst

/-- The device type is determined by the files if and only if authService.conf
names one the map knows, or none at all. -/
theorem deviceType_determined_iff (files : FileSystem) :
    DeterminedByFiles files ↔ AuthServiceKnown files := by
  rw [← lookup_known_iff]
  constructor
  · intro hdetermined name hname
    have hauthService := deviceTypeName_of_authService hname
    rw [← stringToDeviceType_isSome_iff]
    by_contra hunknown
    have hnone := Option.not_isSome_iff_eq_none.mp hunknown
    have hcall : ∀ prior, deviceType files prior = (ERROR_NONE, prior) := by
      intro prior
      simp [deviceType, hauthService, hnone]
    rcases hdetermined.assigned with ⟨type, htype⟩
    have hiptv : DeviceTypeInfo.iptv = type := by
      simpa [hcall] using htype .iptv
    have hipstb : DeviceTypeInfo.ipstb = type := by
      simpa [hcall] using htype .ipstb
    exact absurd (hiptv.trans hipstb.symm) (by simp)
  · intro hknown
    cases hname : lookup files "/etc/authService.conf"
        (propertyLine "deviceType") with
    | some name =>
        have hauthService := deviceTypeName_of_authService hname
        have hsome : (stringToDeviceType name).isSome := by
          rw [stringToDeviceType_isSome_iff]
          exact hknown name hname
        rcases Option.isSome_iff_exists.mp hsome with ⟨type, htype⟩
        exact determinedByFiles_of_found hauthService htype
    | none =>
        rcases deviceTypeName_of_no_authService hname with hfail | ⟨name, hfound⟩
        · have hcall : ∀ prior, deviceType files prior = (ERROR_GENERAL, prior) := by
            intro prior
            simp [deviceType, hfail, stringToDeviceType]
          constructor
          · use .iptv
            intro prior hresult
            rw [hcall] at hresult
            exact absurd hresult ERROR_GENERAL_ne_ERROR_NONE
          · intro prior _
            rw [hcall]
        · obtain ⟨type, htype⟩ := stringToDeviceType_pluginName name
          exact determinedByFiles_of_found hfound htype

def unknownTypeFiles : FileSystem :=
  fun filename =>
    if filename = "/etc/authService.conf" then
      some "deviceType=mediaclient\n".toList
    else
      none

/-- Two calls on the same files succeed with different device types. -/
theorem deviceType_keeps_prior :
    deviceType unknownTypeFiles .iptv = (ERROR_NONE, .iptv) ∧
      deviceType unknownTypeFiles .ipstb = (ERROR_NONE, .ipstb) ∧
      ¬ DeterminedByFiles unknownTypeFiles := by
  have hiptv : deviceType unknownTypeFiles .iptv = (ERROR_NONE, .iptv) := by
    decide
  have hipstb : deviceType unknownTypeFiles .ipstb = (ERROR_NONE, .ipstb) := by
    decide
  refine ⟨hiptv, hipstb, ?_⟩
  intro hdetermined
  rcases hdetermined.assigned with ⟨type, htype⟩
  have hfirst := htype .iptv (congrArg Prod.fst hiptv)
  have hsecond := htype .ipstb (congrArg Prod.fst hipstb)
  rw [hiptv] at hfirst
  rw [hipstb, ← hfirst] at hsecond
  contradiction

end DeviceInfo
end DeviceInfoPlugin
