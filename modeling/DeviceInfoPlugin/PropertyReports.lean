import DeviceInfoPlugin.PropertySettings
import DeviceInfoPlugin.SourceOrder

/-!
# What the accessors see of the properties files

Six accessors read properties.  They look at nothing but what is found for each
key, and most of them report it as it is; the device name and the two device
types are only compared with names.
-/

namespace DeviceInfoPlugin
namespace DeviceInfo

/-! ## What is found for a key -/

/-- Every accessor that reads properties reports the same, for whatever the
caller passes. -/
structure SameReports (device device' : Device) : Prop where
  sku : DeviceInfo.sku device = DeviceInfo.sku device'
  make : DeviceInfo.make device = DeviceInfo.make device'
  model : DeviceInfo.model device = DeviceInfo.model device'
  deviceType : DeviceInfo.deviceType device.files =
    DeviceInfo.deviceType device'.files
  socName : DeviceInfo.socName device = DeviceInfo.socName device'
  chipSet : DeviceInfo.chipSet device = DeviceInfo.chipSet device'

/-- The file in which a key is looked up. -/
def PropertyKey.filename : PropertyKey → String
  | authDeviceType => "/etc/authService.conf"
  | _ => "/etc/device.properties"

def PropertyKey.found (key : PropertyKey) (lines : List Text) : Option Text :=
  lines.findSome? (captured key)

def PropertyKey.lookedUp (key : PropertyKey) (device : Device) : Option Text :=
  lookup device.files key.filename (propertyLine key.name)

/-- The two findings are the same to the accessor that looks the key up. -/
def PropertyKey.Alike (key : PropertyKey) (found found' : Option Text) : Prop :=
  match key with
  | deviceName => found.any isProvisioned = found'.any isProvisioned
  | deviceType => found.map pluginName = found'.map pluginName
  | authDeviceType =>
      found.map stringToDeviceType = found'.map stringToDeviceType
  | _ => found = found'

theorem PropertyKey.alike_refl (key : PropertyKey) (found : Option Text) :
    key.Alike found found := by
  cases key <;> rfl

section Found

variable {device device' : Device}

theorem readProperty_offers (device : Device) (key : PropertyKey)
    (hfile : key.filename = "/etc/device.properties") :
    (readProperty device key.name).Offers (key.lookedUp device) := by
  intro response
  rw [PropertyKey.lookedUp, hfile]
  exact readFile_offers device _ _ response

theorem readProperty_eq_iff {key : PropertyKey}
    (hfile : key.filename = "/etc/device.properties") :
    readProperty device key.name = readProperty device' key.name ↔
      key.lookedUp device = key.lookedUp device' := by
  constructor
  · intro hread
    have hreported := congrFun hread []
    rw [readProperty_offers _ _ hfile, readProperty_offers _ _ hfile,
      Except.ok.injEq] at hreported
    exact reported_inj hreported
  · intro hfound
    funext response
    rw [readProperty_offers _ _ hfile, readProperty_offers _ _ hfile, hfound]

end Found

theorem model_eq (device : Device) (prior : Text) :
    model device prior =
      if (PropertyKey.deviceName.lookedUp device).any isProvisioned then
        (getMFRData device .provisionedModelName).orElse
          (readProperty device "FRIENDLY_ID") prior
      else
        readProperty device "FRIENDLY_ID" prior := by
  have hname := readProperty_offers device .deviceName rfl []
  simp only [PropertyKey.name] at hname
  simp only [model, hname, bind, Except.bind]
  cases PropertyKey.deviceName.lookedUp device with
  | none => rfl
  | some name => simp [reported]

/-- What `DeviceType` returns for a name that is found or not, and that stands
for a type or not. -/
def typeReport (found : Option (Option DeviceTypeInfo))
    (prior : DeviceTypeInfo) : Hresult × DeviceTypeInfo :=
  match found with
  | some type => (ERROR_NONE, type.getD prior)
  | none => (ERROR_GENERAL, prior)

theorem typeReport_inj {found found' : Option (Option DeviceTypeInfo)}
    (hsame : typeReport found = typeReport found') : found = found' := by
  have hiptv := congrFun hsame .iptv
  have hipstb := congrFun hsame .ipstb
  cases found with
  | none =>
      cases found' with
      | none => rfl
      | some type' => simp [typeReport, ERROR_GENERAL, ERROR_NONE] at hiptv
  | some type =>
      cases found' with
      | none => simp [typeReport, ERROR_GENERAL, ERROR_NONE] at hiptv
      | some type' =>
          -- two prior values tell an assignment from none
          have hdiffer : DeviceTypeInfo.iptv ≠ .ipstb := by decide
          simp only [typeReport, Prod.mk.injEq, true_and] at hiptv hipstb
          cases type with
          | none =>
              cases type' with
              | none => rfl
              | some type' => exact absurd (hiptv.trans hipstb.symm) hdiffer
          | some type =>
              cases type' with
              | none => exact absurd (hiptv.symm.trans hipstb) hdiffer
              | some type' =>
                  have hsame : type = type' := hiptv
                  rw [hsame]

/-- A name from authService.conf is looked up as it is, one from
device.properties is translated first. -/
theorem deviceType_eq (files : FileSystem) :
    deviceType files = typeReport
      (((lookup files "/etc/authService.conf" (propertyLine "deviceType")).map
          stringToDeviceType).or
        (((lookup files "/etc/device.properties"
          (propertyLine "DEVICE_TYPE")).map pluginName).map
            stringToDeviceType)) := by
  funext prior
  cases hname : lookup files "/etc/authService.conf"
      (propertyLine "deviceType") with
  | some name =>
      simp only [deviceType, deviceTypeName_of_authService hname,
        Option.map_some, Option.some_or, typeReport]
      cases stringToDeviceType name <;> rfl
  | none =>
      cases hproperty : lookup files "/etc/device.properties"
          (propertyLine "DEVICE_TYPE") with
      | none =>
          simp [deviceType, deviceTypeName, getFileRegex_eq_reported, hname,
            hproperty, reported, stringToDeviceType, typeReport]
      | some name =>
          have hfound : deviceTypeName files = (ERROR_NONE, pluginName name) := by
            simp [deviceTypeName, getFileRegex_eq_reported, hname, hproperty,
              reported]
          simp only [deviceType, hfound, Option.map_none, Option.map_some,
            Option.none_or, typeReport]
          cases stringToDeviceType (pluginName name) <;> rfl

/-- The accessors look at nothing else in the two files. -/
theorem sameReports_of_alike {device device' : Device}
    (hmfr : device.mfr = device'.mfr) (hrfc : device.rfc = device'.rfc)
    (halike : ∀ key : PropertyKey,
      key.Alike (key.lookedUp device) (key.lookedUp device')) :
    SameReports device device' := by
  have hmfr : getMFRData device = getMFRData device' := by
    funext type
    unfold getMFRData
    rw [hmfr]
  have hrfc : getRFCData device = getRFCData device' := by
    funext name
    unfold getRFCData
    rw [hrfc]
  have hfriendly := (readProperty_eq_iff rfl).mpr (halike .friendlyId)
  simp only [PropertyKey.name] at hfriendly
  constructor
  case sku =>
    have hproperty := (readProperty_eq_iff rfl).mpr (halike .modelNum)
    simp only [PropertyKey.name] at hproperty
    unfold DeviceInfo.sku
    rw [hproperty, hmfr, hrfc]
  case make =>
    have hproperty := (readProperty_eq_iff rfl).mpr (halike .mfgName)
    simp only [PropertyKey.name] at hproperty
    unfold DeviceInfo.make
    rw [hproperty, hmfr]
  case model =>
    have hname : (PropertyKey.deviceName.lookedUp device).any isProvisioned =
        (PropertyKey.deviceName.lookedUp device').any isProvisioned :=
      halike .deviceName
    funext prior
    rw [model_eq, model_eq, hname, hmfr, hfriendly]
  case deviceType =>
    have hauth : (PropertyKey.authDeviceType.lookedUp device).map _ =
      (PropertyKey.authDeviceType.lookedUp device').map _ :=
      halike .authDeviceType
    have hproperty : (PropertyKey.deviceType.lookedUp device).map _ =
      (PropertyKey.deviceType.lookedUp device').map _ := halike .deviceType
    simp only [PropertyKey.lookedUp, PropertyKey.name, PropertyKey.filename]
      at hauth hproperty
    rw [deviceType_eq, deviceType_eq, hauth, hproperty]
  case socName =>
    have hproperty := (readProperty_eq_iff rfl).mpr (halike .soc)
    exact hproperty
  case chipSet =>
    have hproperty := (readProperty_eq_iff rfl).mpr (halike .chipsetName)
    exact hproperty

/-! ## Equal settings -/

/-- Two devices whose properties files may differ in comments, blanks, quotes
and the place of the settings of different keys. -/
structure SameSettings (device device' : Device) : Prop where
  properties : ∀ key,
    (settings (fileLines device.files "/etc/device.properties")).lookup key =
      (settings (fileLines device'.files "/etc/device.properties")).lookup key
  authService : ∀ key,
    (settings (fileLines device.files "/etc/authService.conf")).lookup key =
      (settings (fileLines device'.files "/etc/authService.conf")).lookup key
  mfr : device.mfr = device'.mfr
  rfc : device.rfc = device'.rfc

section Settings

variable {device device' : Device}

theorem SameSettings.lookedUp (hsame : SameSettings device device')
    (key : PropertyKey) : key.lookedUp device = key.lookedUp device' := by
  have hsettings : ∀ device : Device, key.lookedUp device =
      (settings (fileLines device.files key.filename)).lookup key := by
    intro device
    rw [PropertyKey.lookedUp, lookup_eq_findSome?, lookup_settings]
    rfl
  rw [hsettings, hsettings]
  cases key with
  | authDeviceType => exact hsame.authService .authDeviceType
  | modelNum | mfgName | deviceName | friendlyId | deviceType | soc
  | chipsetName => exact hsame.properties _

/-- The accessors that read properties files depend on nothing in them but the
settings. -/
theorem accessors_see_settings (hsame : SameSettings device device') :
    sku device = sku device' ∧ make device = make device' ∧
      model device = model device' ∧ socName device = socName device' ∧
      chipSet device = chipSet device' ∧
      deviceType device.files = deviceType device'.files := by
  have hreports : SameReports device device' := by
    apply sameReports_of_alike hsame.mfr hsame.rfc
    intro key
    rw [hsame.lookedUp key]
    exact key.alike_refl _
  exact ⟨hreports.sku, hreports.make, hreports.model, hreports.socName,
    hreports.chipSet, hreports.deviceType⟩

end Settings

def plainProperties : Device where
  files := fun _ => some "SOC=X\nMODEL_NUM=Y\n".toList
  mfr := fun _ => ⟨.failure 1, [], 0⟩
  rfc := fun _ => ⟨.failure 1, ['#', '\x00'], by simp⟩

def quotedProperties : Device :=
  { plainProperties with
    files := fun _ => some "# SOC=Z\nMODEL_NUM= \"Y\"\nSOC=\"X\"\n".toList }

theorem accessors_see_quoted_settings :
    sku plainProperties = sku quotedProperties := by
  have hlookups : ∀ key,
      (settings (fileLines plainProperties.files "")).lookup key =
        (settings (fileLines quotedProperties.files "")).lookup key := by
    intro key
    cases key <;> decide
  have hsame : SameSettings plainProperties quotedProperties :=
    ⟨hlookups, hlookups, rfl, rfl⟩
  exact (accessors_see_settings hsame).1

/-! ## Telling two findings apart -/

def Device.withLines (device : Device) (filename : String)
    (lines : List Text) : Device :=
  { device with
    files := Function.update device.files filename (some (putlines lines)) }

section WithLines

variable {device : Device} {lines : List Text}

theorem lookedUp_withLines (device : Device) (key key' : PropertyKey)
    (hlines : ∀ line ∈ lines, '\n' ∉ line) (hfile : key'.filename = key.filename) :
    key'.lookedUp (device.withLines key.filename lines) = key'.found lines := by
  have hread : fileLines (device.withLines key.filename lines).files
      key'.filename = lines := by
    simp [fileLines, Device.withLines, hfile, getlines_putlines hlines]
  rw [PropertyKey.lookedUp, lookup_eq_findSome?, hread]
  rfl

theorem lookedUp_withLines_of_ne {key key' : PropertyKey}
    (hfile : key'.filename ≠ key.filename) :
    key'.lookedUp (device.withLines key.filename lines) =
      key'.lookedUp device := by
  simp [PropertyKey.lookedUp, lookup, Device.withLines, hfile]

end WithLines

/-- Nothing but the file that is put there. -/
def silentDevice : Device where
  files := fun _ => none
  mfr := fun _ => ⟨.failure 1, [], 0⟩
  rfc := fun _ => ⟨.failure 1, ['-', '\x00'], by simp⟩

section Silent

variable (filename : String) (lines : List Text)

theorem sku_silent : sku (silentDevice.withLines filename lines) =
    readProperty (silentDevice.withLines filename lines) "MODEL_NUM" := by
  exact Getter.Reports.orElse_unavailable
    (Source.getter_reports _ (.property "MODEL_NUM"))

theorem make_silent : make (silentDevice.withLines filename lines) =
    readProperty (silentDevice.withLines filename lines) "MFG_NAME" := rfl

theorem model_silent : model (silentDevice.withLines filename lines) =
    readProperty (silentDevice.withLines filename lines) "FRIENDLY_ID" := by
  funext prior
  rw [model_eq]
  split <;> rfl

end Silent

def MfrReply.telling (name : Text) : MfrReply :=
  ⟨.success, name, name.length⟩

theorem telling_inBuffer (name : Text) : (MfrReply.telling name).InBuffer :=
  ⟨Int.natCast_nonneg _, Int.le_refl _⟩

theorem telling_offered {name : Text} (hname : name ≠ []) :
    (MfrReply.telling name).offered = some name := by
  simp [MfrReply.offered, MfrReply.telling, hname]

def provisionedDevice (name : Text) : Device :=
  { silentDevice with mfr := fun _ => .telling name }

/-- With a name from the library that no line of the file gives, the model
shows whether the device is provisioned. -/
theorem model_provisioned_iff {lines : List Text}
    (hlines : ∀ line ∈ lines, '\n' ∉ line) {name : Text} (hname : name ≠ [])
    (hother : PropertyKey.friendlyId.found lines ≠ some name) :
    model ((provisionedDevice name).withLines "/etc/device.properties" lines)
        [] = .ok (ERROR_NONE, name) ↔
      (PropertyKey.deviceName.found lines).any isProvisioned = true := by
  have hdevice : PropertyKey.deviceName.lookedUp
      ((provisionedDevice name).withLines "/etc/device.properties" lines) =
        PropertyKey.deviceName.found lines :=
    lookedUp_withLines _ .deviceName .deviceName hlines rfl
  have hmfr : (getMFRData
      ((provisionedDevice name).withLines "/etc/device.properties" lines)
        .provisionedModelName).Offers (MfrReply.telling name).offered :=
    getMFRData_offers (telling_inBuffer name).copyable
  have hfriendly := readProperty_offers
    ((provisionedDevice name).withLines PropertyKey.friendlyId.filename lines)
    .friendlyId rfl []
  rw [lookedUp_withLines _ _ _ hlines rfl] at hfriendly
  simp only [PropertyKey.name, PropertyKey.filename] at hfriendly
  rw [telling_offered hname] at hmfr
  rw [model_eq, hdevice]
  split
  next hprovisioned =>
    rw [Getter.orElse_of_found (hmfr [])]
    simp [hprovisioned]
  next hplain =>
    rw [hfriendly]
    cases hfound : PropertyKey.friendlyId.found lines with
    | none => simp [reported, hplain, ERROR_GENERAL, ERROR_NONE]
    | some found =>
        have hne : found ≠ name := by
          intro heq
          exact hother (by rw [hfound, heq])
        simp [reported, hplain, hne]

section Compared

variable {key : PropertyKey} {lines lines' : List Text}

theorem deviceType_property (hlines : ∀ line ∈ lines, '\n' ∉ line) :
    deviceType (silentDevice.withLines "/etc/device.properties" lines).files =
      typeReport (((PropertyKey.deviceType.found lines).map pluginName).map
        stringToDeviceType) := by
  have hfound := lookedUp_withLines silentDevice .deviceType .deviceType hlines rfl
  simp only [PropertyKey.lookedUp, PropertyKey.name, PropertyKey.filename]
    at hfound
  rw [deviceType_eq, hfound]
  rfl

theorem deviceType_authService (hlines : ∀ line ∈ lines, '\n' ∉ line) :
    deviceType (silentDevice.withLines "/etc/authService.conf" lines).files =
      typeReport
        ((PropertyKey.authDeviceType.found lines).map stringToDeviceType) := by
  have hfound := lookedUp_withLines silentDevice .authDeviceType .authDeviceType
    hlines rfl
  simp only [PropertyKey.lookedUp, PropertyKey.name, PropertyKey.filename]
    at hfound
  have hnothing : lookup (silentDevice.withLines "/etc/authService.conf"
      lines).files "/etc/device.properties" (propertyLine "DEVICE_TYPE") =
        none := rfl
  rw [deviceType_eq, hfound, hnothing, Option.map_none, Option.map_none,
    Option.or_none]

theorem stringToDeviceType_inj {name name' : Text} {type : DeviceTypeInfo}
    (hname : stringToDeviceType name = some type)
    (hname' : stringToDeviceType name' = some type) : name = name' := by
  unfold stringToDeviceType at hname hname'
  split_ifs at hname hname' <;> cases hname <;> cases hname' <;> simp_all

/-- A finding that is reported as it is can be read off the silent device. -/
theorem found_eq_of_read (hlines : ∀ line ∈ lines, '\n' ∉ line)
    (hlines' : ∀ line ∈ lines', '\n' ∉ line)
    (hfile : key.filename = "/etc/device.properties")
    (hread : readProperty (silentDevice.withLines key.filename lines) key.name =
      readProperty (silentDevice.withLines key.filename lines') key.name) :
    key.found lines = key.found lines' := by
  have hfound := (readProperty_eq_iff hfile).mp hread
  rwa [lookedUp_withLines _ key key hlines rfl,
    lookedUp_withLines _ key key hlines' rfl] at hfound

theorem alike_of_model (hlines : ∀ line ∈ lines, '\n' ∉ line)
    (hlines' : ∀ line ∈ lines', '\n' ∉ line)
    (hfriendly : PropertyKey.friendlyId.found lines =
      PropertyKey.friendlyId.found lines')
    (hsame : ∀ device : Device,
      model (device.withLines "/etc/device.properties" lines) =
        model (device.withLines "/etc/device.properties" lines')) :
    PropertyKey.deviceName.Alike (PropertyKey.deviceName.found lines)
      (PropertyKey.deviceName.found lines') := by
  -- one letter longer than what the file says
  let name := 'X' :: (PropertyKey.friendlyId.found lines).getD []
  have hname : name ≠ [] := by simp [name]
  have hother : PropertyKey.friendlyId.found lines ≠ some name := by
    intro heq
    have hlength := congrArg (fun found => (found.getD []).length) heq
    simp [name] at hlength
  have hprovisioned := model_provisioned_iff hlines hname hother
  have hprovisioned' := model_provisioned_iff hlines' hname (hfriendly ▸ hother)
  rw [hsame (provisionedDevice name), hprovisioned'] at hprovisioned
  exact (Bool.eq_iff_iff.mpr hprovisioned).symm

theorem alike_of_deviceType (hlines : ∀ line ∈ lines, '\n' ∉ line)
    (hlines' : ∀ line ∈ lines', '\n' ∉ line)
    (hsame : deviceType
        (silentDevice.withLines "/etc/device.properties" lines).files =
      deviceType
        (silentDevice.withLines "/etc/device.properties" lines').files) :
    PropertyKey.deviceType.Alike (PropertyKey.deviceType.found lines)
      (PropertyKey.deviceType.found lines') := by
  rw [deviceType_property hlines, deviceType_property hlines'] at hsame
  have htypes := typeReport_inj hsame
  change (PropertyKey.deviceType.found lines).map pluginName =
    (PropertyKey.deviceType.found lines').map pluginName
  cases hfound : PropertyKey.deviceType.found lines with
  | none =>
      cases hfound' : PropertyKey.deviceType.found lines' with
      | none => rfl
      | some name' => simp [hfound, hfound'] at htypes
  | some name =>
      cases hfound' : PropertyKey.deviceType.found lines' with
      | none => simp [hfound, hfound'] at htypes
      | some name' =>
          obtain ⟨type, htype⟩ := stringToDeviceType_pluginName name
          simp only [hfound, hfound', Option.map_some, htype,
            Option.some.injEq] at htypes
          rw [Option.map_some, Option.map_some,
            stringToDeviceType_inj htype htypes.symm]

theorem alike_of_authDeviceType (hlines : ∀ line ∈ lines, '\n' ∉ line)
    (hlines' : ∀ line ∈ lines', '\n' ∉ line)
    (hsame : deviceType
        (silentDevice.withLines "/etc/authService.conf" lines).files =
      deviceType
        (silentDevice.withLines "/etc/authService.conf" lines').files) :
    PropertyKey.authDeviceType.Alike (PropertyKey.authDeviceType.found lines)
      (PropertyKey.authDeviceType.found lines') := by
  rw [deviceType_authService hlines, deviceType_authService hlines'] at hsame
  exact typeReport_inj hsame

/-- Two files that differ in one key at most are reported the same on every
device exactly if the findings for that key are alike. -/
theorem sameReports_iff_alike (hlines : ∀ line ∈ lines, '\n' ∉ line)
    (hlines' : ∀ line ∈ lines', '\n' ∉ line)
    (hothers : ∀ other, other ≠ key → other.found lines = other.found lines') :
    (∀ device : Device, SameReports (device.withLines key.filename lines)
        (device.withLines key.filename lines')) ↔
      key.Alike (key.found lines) (key.found lines') := by
  constructor
  · intro hsame
    cases key with
    | modelNum =>
        have hsku := (hsame silentDevice).sku
        rw [sku_silent, sku_silent] at hsku
        exact found_eq_of_read hlines hlines' rfl hsku
    | mfgName =>
        have hmake := (hsame silentDevice).make
        rw [make_silent, make_silent] at hmake
        exact found_eq_of_read hlines hlines' rfl hmake
    | friendlyId =>
        have hmodel := (hsame silentDevice).model
        rw [model_silent, model_silent] at hmodel
        exact found_eq_of_read hlines hlines' rfl hmodel
    | soc =>
        exact found_eq_of_read hlines hlines' rfl (hsame silentDevice).socName
    | chipsetName =>
        exact found_eq_of_read hlines hlines' rfl (hsame silentDevice).chipSet
    | deviceName =>
        exact alike_of_model hlines hlines' (hothers .friendlyId (by simp))
          fun device => (hsame device).model
    | deviceType =>
        exact alike_of_deviceType hlines hlines' (hsame silentDevice).deviceType
    | authDeviceType =>
        exact alike_of_authDeviceType hlines hlines'
          (hsame silentDevice).deviceType
  · intro halike device
    refine sameReports_of_alike rfl rfl ?_
    intro other
    by_cases hfile : other.filename = key.filename
    · rw [lookedUp_withLines _ key other hlines hfile,
        lookedUp_withLines _ key other hlines' hfile]
      by_cases heq : other = key
      · rw [heq]
        exact halike
      · rw [hothers other heq]
        exact other.alike_refl _
    · rw [lookedUp_withLines_of_ne hfile, lookedUp_withLines_of_ne hfile]
      exact other.alike_refl _

end Compared

end DeviceInfo
end DeviceInfoPlugin
