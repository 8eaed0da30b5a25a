import DeviceInfoPlugin.AssignmentLookup
import DeviceInfoPlugin.DeviceTypeLookup

/-!
# The settings in a properties file

A line assigns to one key at most, so a properties file is a list of settings
and each lookup is a search in that list, in which the other keys do not
count.
-/

namespace DeviceInfoPlugin
namespace DeviceInfo

deriving instance DecidableEq for PropertyKey

/-! ## The key of an assignment -/

/-- What a key consists of. -/
def isKeyCharacter (c : Char) : Bool :=
  !isBlank c && c ≠ '='

theorem isKeyCharacter_of_mem_name {key : PropertyKey} {c : Char}
    (hc : c ∈ key.name.toList) : isKeyCharacter c = true := by
  have hall : key.name.toList.all isKeyCharacter = true := by
    cases key <;> decide
  exact List.all_eq_true.mp hall c hc

theorem name_injective {key key' : PropertyKey}
    (hname : key.name.toList = key'.name.toList) : key = key' := by
  cases key <;> cases key' <;> first | rfl | exact absurd hname (by decide)

theorem exists_key_end {padding : Text} (hpadding : AllBlank padding)
    (text : Text) :
    ∃ c rest, padding ++ '=' :: text = c :: rest ∧ isKeyCharacter c = false := by
  cases padding with
  | nil => exact ⟨'=', text, rfl, by decide⟩
  | cons c padding =>
      have hc := hpadding c List.mem_cons_self
      exact ⟨c, padding ++ '=' :: text, rfl, by simp [isKeyCharacter, hc]⟩

theorem Assigns.key_of_text {key key' : PropertyKey}
    {value padding text : Text} (hpadding : AllBlank padding)
    (hassigns : Assigns key'.name value
      (key.name.toList ++ (padding ++ '=' :: text))) : key' = key := by
  rcases hassigns with ⟨padding', text', hpadding', -, hline⟩
  obtain ⟨c, rest, hrest, hc⟩ := exists_key_end hpadding text
  obtain ⟨c', rest', hrest', hc'⟩ := exists_key_end hpadding' text'
  rw [List.append_assoc, hrest, hrest'] at hline
  have hsame := Regex.taken_inj (fun _ => isKeyCharacter_of_mem_name)
    (fun _ => isKeyCharacter_of_mem_name) hc' hc hline.symm
  exact name_injective hsame.1

theorem Assigns.key_eq {key key' : PropertyKey} {value value' line : Text}
    (hassigns : Assigns key.name value line)
    (hassigns' : Assigns key'.name value' line) : key = key' := by
  rcases hassigns' with ⟨padding, text, hpadding, -, hline⟩
  rw [hline, List.append_assoc] at hassigns
  exact hassigns.key_of_text hpadding

/-! ## Settings -/

def PropertyKey.all : List PropertyKey :=
  [.modelNum, .mfgName, .deviceName, .friendlyId, .deviceType, .soc,
    .chipsetName, .authDeviceType]

theorem PropertyKey.mem_all (key : PropertyKey) : key ∈ PropertyKey.all := by
  cases key <;> decide

abbrev Setting := PropertyKey × Text

def settingOf (line : Text) : Option Setting :=
  PropertyKey.all.findSome? fun key => (captured key line).map (Prod.mk key)

def settings (lines : List Text) : List Setting :=
  lines.filterMap settingOf

theorem captured_of_settingOf {line value : Text} {key : PropertyKey}
    (hsetting : settingOf line = some (key, value)) :
    captured key line = some value := by
  obtain ⟨key', -, hkey⟩ := List.exists_of_findSome?_eq_some hsetting
  simp only [Option.map_eq_some_iff, Prod.mk.injEq] at hkey
  rcases hkey with ⟨value', hvalue, rfl, rfl⟩
  exact hvalue

theorem settingOf_eq_some_iff {line value : Text} {key : PropertyKey} :
    settingOf line = some (key, value) ↔ captured key line = some value := by
  constructor
  · exact captured_of_settingOf
  · intro hcaptured
    have hsome : (settingOf line).isSome := by
      rw [settingOf, List.findSome?_isSome_iff]
      exact ⟨key, key.mem_all, by simp [hcaptured]⟩
    rcases Option.isSome_iff_exists.mp hsome with ⟨⟨key', value'⟩, hsetting⟩
    have hcaptured' := captured_of_settingOf hsetting
    have hkey : key' = key :=
      (assigns_of_captured hcaptured').key_eq (assigns_of_captured hcaptured)
    rw [hkey, hcaptured, Option.some.injEq] at hcaptured'
    rw [hsetting, hkey, hcaptured']

theorem lookup_settings (key : PropertyKey) (lines : List Text) :
    (settings lines).lookup key = lines.findSome? (captured key) := by
  induction lines with
  | nil => rfl
  | cons line lines ih =>
      rw [List.findSome?_cons, ← ih]
      cases hcaptured : captured key line with
      | some value =>
          have hsetting := settingOf_eq_some_iff.mpr hcaptured
          simp [settings, hsetting]
      | none =>
          cases hsetting : settingOf line with
          | none => simp [settings, hsetting]
          | some setting =>
              rcases setting with ⟨key', value⟩
              have hother : (key == key') = false := by
                rw [beq_eq_false_iff_ne]
                intro hkey
                rw [hkey, captured_of_settingOf hsetting] at hcaptured
                contradiction
              simp [settings, hsetting, List.lookup_cons, hother]

theorem getFileRegex_eq_lookup (files : FileSystem) (filename : String)
    (key : PropertyKey) (response : Text) :
    getFileRegex files filename (propertyLine key.name) response =
      reported ((settings (fileLines files filename)).lookup key) response := by
  rw [getFileRegex_property_eq, lookup_settings]

/-! ## Writing settings -/

/-- What a setting can be written for: a value for the expression, in one
line. -/
def Writable (setting : Setting) : Prop :=
  setting.2 ≠ [] ∧ '\x22' ∉ setting.2 ∧ '\n' ∉ setting.2

/-- `KEY="value"` -/
def assignment (setting : Setting) : Text :=
  setting.1.name.toList ++ '=' :: '\x22' :: (setting.2 ++ ['\x22'])

theorem newline_notMem_assignment {setting : Setting}
    (hwritable : Writable setting) : '\n' ∉ assignment setting := by
  have hname : '\n' ∉ setting.1.name.toList := by
    intro hmem
    have hkey := isKeyCharacter_of_mem_name hmem
    revert hkey
    decide
  simp [assignment, hname, hwritable.2.2]

theorem settingOf_assignment {setting : Setting} (hwritable : Writable setting) :
    settingOf (assignment setting) = some setting := by
  have hquoted : AssignsQuoted setting.1 setting.2 (assignment setting) := by
    refine ⟨[], [], [], ?_, ?_, ?_, hwritable.1, hwritable.2.1, ?_⟩
    · simp [AllBlank]
    · simp [AllBlank]
    · simp [AllBlank]
    · simp [assignment]
  have hbreak := newline_notMem_assignment hwritable
  exact settingOf_eq_some_iff.mpr (captured_of_assignsQuoted hbreak hquoted)

theorem writable_of_settingOf {line : Text} {setting : Setting}
    (hsetting : settingOf line = some setting) : Writable setting := by
  rcases assigns_of_captured (captured_of_settingOf hsetting) with
    ⟨padding, text, -, hassigned, -⟩
  refine ⟨hassigned.nonempty, hassigned.quote_notMem, ?_⟩
  intro hmem
  have hunquoted := hassigned.unquoted _ hmem
  simp [isUnquoted] at hunquoted

theorem settings_assignments {entries : List Setting}
    (hwritable : ∀ setting ∈ entries, Writable setting) :
    settings (getlines (putlines (entries.map assignment))) = entries := by
  have hlines : ∀ line ∈ entries.map assignment, '\n' ∉ line := by
    intro line hline
    rcases List.mem_map.mp hline with ⟨setting, hsetting, rfl⟩
    exact newline_notMem_assignment (hwritable setting hsetting)
  rw [getlines_putlines hlines, settings, List.filterMap_map]
  have hsame : ∀ setting ∈ entries,
      (settingOf ∘ assignment) setting = some setting := by
    intro setting hsetting
    exact settingOf_assignment (hwritable setting hsetting)
  rw [List.filterMap_congr hsame, List.filterMap_some]

/-- A lookup in a file is a search in its settings, and the settings that files
can have are the lists of writable ones. -/
theorem lookups_search_settings :
    (∀ files filename (key : PropertyKey) response,
      getFileRegex files filename (propertyLine key.name) response =
        reported ((settings (fileLines files filename)).lookup key) response) ∧
    ∀ entries : List Setting,
      (∃ content, settings (getlines content) = entries) ↔
        ∀ setting ∈ entries, Writable setting := by
  constructor
  · exact getFileRegex_eq_lookup
  · intro entries
    constructor
    · intro hcontent setting hsetting
      rcases hcontent with ⟨content, rfl⟩
      rcases List.mem_filterMap.mp hsetting with ⟨line, -, hline⟩
      exact writable_of_settingOf hline
    · intro hwritable
      exact ⟨_, settings_assignments hwritable⟩

end DeviceInfo
end DeviceInfoPlugin
