import DeviceInfoPlugin.PropertyReports

/-!
# What padding does to the reports

Blanks behind an unquoted value become part of what the lookup finds.  They are
reported where the text is reported, and elsewhere they keep a name from being
recognised.
-/

namespace DeviceInfoPlugin
namespace DeviceInfo

/-! ## A comparison with names -/

/-- `view` tells a text from the same text with blanks behind it exactly if the
text is one of the names. -/
def Compares {β : Type} (view : Text → β) (names : List Text) : Prop :=
  ∀ (text : Text) (blanks : Padding), blanks.1 ≠ [] →
    (view (text ++ blanks.1) = view text ↔ text ∉ names)

def provisionedNames : List Text :=
  ["PLATCO".toList, "LLAMA".toList]

/-- The names that device.properties has for a device type. -/
def translatedNames : List Text :=
  ["mediaclient".toList, "hybrid".toList]

def Blankless (names : List Text) : Prop :=
  ∀ name ∈ names, ∀ c ∈ name, isPadding c = false

section Names

variable {names : List Text} {text : Text} {blanks : Padding}

theorem blankless_of_all
    (hall : names.all (fun name => name.all fun c => !isPadding c) = true) :
    Blankless names := by
  intro name hname c hc
  have hplain := List.all_eq_true.mp (List.all_eq_true.mp hall name hname) c hc
  simpa using hplain

theorem Blankless.padded_notMem (hnames : Blankless names)
    (hblanks : blanks.1 ≠ []) (text : Text) : text ++ blanks.1 ∉ names := by
  intro hmem
  obtain ⟨c, rest, hc⟩ := List.exists_cons_of_ne_nil hblanks
  have hpadding := blanks.2 c (by simp [hc])
  have hplain := hnames _ hmem c (by simp [hc])
  rw [hpadding] at hplain
  contradiction

theorem isProvisioned_iff : isProvisioned text = true ↔ text ∈ provisionedNames := by
  simp only [isProvisioned, provisionedNames, Bool.or_eq_true,
    decide_eq_true_eq, List.mem_cons, List.not_mem_nil, or_false]

theorem provisionedNames_blankless : Blankless provisionedNames :=
  blankless_of_all (by decide)

theorem knownNames_blankless : Blankless knownNames :=
  blankless_of_all (by decide)

theorem translatedNames_blankless : Blankless translatedNames :=
  blankless_of_all (by decide)

theorem compares_isProvisioned : Compares isProvisioned provisionedNames := by
  intro text blanks hblanks
  have hpadded := provisionedNames_blankless.padded_notMem hblanks text
  rw [← isProvisioned_iff, Bool.not_eq_true] at hpadded
  rw [hpadded, ← isProvisioned_iff, Bool.not_eq_true, eq_comm]

theorem compares_stringToDeviceType : Compares stringToDeviceType knownNames := by
  intro text blanks hblanks
  have hpadded := knownNames_blankless.padded_notMem hblanks text
  rw [← stringToDeviceType_isSome_iff, Option.not_isSome_iff_eq_none] at hpadded
  rw [hpadded, ← stringToDeviceType_isSome_iff, Option.not_isSome_iff_eq_none,
    eq_comm]

/-- What stands behind a NUL is not seen. -/
theorem cString_append_of_mem (htext : '\x00' ∈ text) (more : Text) :
    cString (text ++ more) = cString text := by
  obtain ⟨before, after, hsplit, hbefore⟩ := List.eq_append_cons_of_mem htext
  rw [hsplit, List.append_assoc, cString_append hbefore, cString_append hbefore]
  rfl

theorem pluginName_eq_iff :
    pluginName text = "IpTv".toList ↔ cString text ∉ translatedNames := by
  simp only [pluginName, translatedNames, List.mem_cons, List.not_mem_nil,
    or_false, not_or]
  split
  next h => simp [h]
  next hclient =>
    split
    next h => simp [h]
    next hhybrid => exact iff_of_true rfl ⟨hclient, hhybrid⟩

theorem translatedNames_plain : ∀ name ∈ translatedNames, '\x00' ∉ name := by
  decide

theorem compares_pluginName : Compares pluginName translatedNames := by
  intro text blanks hblanks
  by_cases hnul : '\x00' ∈ text
  · have hother : text ∉ translatedNames := by
      intro hmem
      have hplain := translatedNames_plain text hmem
      exact hplain hnul
    have hsame : pluginName (text ++ blanks.1) = pluginName text := by
      rw [pluginName, pluginName, cString_append_of_mem hnul]
    exact iff_of_true hsame hother
  · have hpadded : '\x00' ∉ text ++ blanks.1 := by
      intro hmem
      rcases List.mem_append.mp hmem with hmem | hmem
      · exact hnul hmem
      · have hpadding := blanks.2 _ hmem
        simp [isPadding] at hpadding
    have hother : pluginName (text ++ blanks.1) = "IpTv".toList := by
      rw [pluginName_eq_iff, cString_of_notMem hpadded]
      exact translatedNames_blankless.padded_notMem hblanks text
    rw [hother, eq_comm, pluginName_eq_iff, cString_of_notMem hnul]

end Names

/-! ## The lines that may be padded -/

namespace UnquotedLine

/-- Something stands behind the equals sign. -/
def Filled (line : UnquotedLine) : Prop :=
  line.leading.1 ++ (line.value ++ line.trailing.1) ≠ []

/-- The value is none of the names, or is followed by blanks already. -/
def Unrecognised (line : UnquotedLine) (names : List Text) : Prop :=
  line.trailing.1 ≠ [] ∨ line.value ∉ names

/-- No accessor reports the blanks when they are added to the line. -/
def KeepsReports (key : PropertyKey) (line : UnquotedLine)
    (blanks : Padding) : Prop :=
  blanks.1 = [] ∨
    match key with
    | .deviceName => line.Unrecognised provisionedNames
    | .deviceType => line.Filled ∧ line.Unrecognised translatedNames
    | .authDeviceType => line.Filled ∧ line.Unrecognised knownNames
    | _ => line.value = [] ∧
        (line.leading.1 ++ line.trailing.1).getLast? = blanks.1.getLast?

end UnquotedLine

section Line

variable {β : Type} {view : Text → β} {names : List Text} {key : PropertyKey}
  {line : UnquotedLine} {blanks : Padding}

theorem notMem_iff_unrecognised (hnames : Blankless names) :
    line.value ++ line.trailing.1 ∉ names ↔ line.Unrecognised names := by
  unfold UnquotedLine.Unrecognised
  by_cases htrailing : line.trailing.1 = []
  · simp [htrailing]
  · exact iff_of_true (hnames.padded_notMem htrailing line.value)
      (Or.inl htrailing)

theorem captured_appendBlanks_of_value (key : PropertyKey) (blanks : Padding)
    (hvalue : line.value ≠ []) :
    captured key ((line.appendBlanks blanks).text key) =
      some (line.value ++ line.trailing.1 ++ blanks.1) := by
  have hpadded : (line.appendBlanks blanks).value ≠ [] := hvalue
  rw [captured_of_value key hpadded, List.append_assoc]
  rfl

theorem Compares.of_value (hview : Compares view names) (key : PropertyKey)
    (hnames : Blankless names) (hblanks : blanks.1 ≠ [])
    (hvalue : line.value ≠ []) :
    (captured key (line.text key)).map view =
        (captured key ((line.appendBlanks blanks).text key)).map view ↔
      line.Unrecognised names := by
  rw [captured_of_value key hvalue,
    captured_appendBlanks_of_value key blanks hvalue, Option.map_some,
    Option.map_some, Option.some.injEq, eq_comm, hview _ _ hblanks,
    notMem_iff_unrecognised hnames]

/-- Without a value a blank is taken for one, and no name is a blank. -/
theorem Compares.of_no_value (hview : Compares view names) (hnil : [] ∉ names)
    (hvalue : line.value = []) :
    (captured key (line.text key)).map view =
      if line.leading.1 ++ line.trailing.1 = [] then none
      else some (view []) := by
  have hblank : ∀ c ∈ line.leading.1 ++ line.trailing.1,
      isPadding c = true := by
    intro c hc
    rcases List.mem_append.mp hc with h | h
    · exact line.leading.2 c h
    · exact line.trailing.2 c h
  rw [captured_of_no_value key hvalue]
  rcases List.eq_nil_or_concat' (line.leading.1 ++ line.trailing.1) with
    hempty | ⟨front, c, hfront⟩
  · simp [hempty]
  · rw [hfront] at hblank ⊢
    have hsingle : ∀ d ∈ [c], isPadding d = true := by
      intro d hd
      exact hblank d (by simp [List.mem_singleton.mp hd])
    have hsame : view [c] = view [] :=
      (hview [] ⟨[c], hsingle⟩ (by simp)).mpr hnil
    simp [hsame]

theorem Compares.of_padded_no_value (hview : Compares view names)
    (hnil : [] ∉ names) (hblanks : blanks.1 ≠ []) (hvalue : line.value = []) :
    (captured key ((line.appendBlanks blanks).text key)).map view =
      some (view []) := by
  have hpadded : (line.appendBlanks blanks).value = [] := hvalue
  have hfilled : (line.appendBlanks blanks).leading.1 ++
      (line.appendBlanks blanks).trailing.1 ≠ [] := by
    simp [UnquotedLine.appendBlanks, hblanks]
  rw [hview.of_no_value hnil hpadded, if_neg hfilled]

theorem Compares.map_eq_iff (hview : Compares view names)
    (hnames : Blankless names) (hnil : [] ∉ names) (hblanks : blanks.1 ≠ []) :
    (captured key (line.text key)).map view =
        (captured key ((line.appendBlanks blanks).text key)).map view ↔
      line.Filled ∧ line.Unrecognised names := by
  by_cases hvalue : line.value = []
  · have hother : line.Unrecognised names := Or.inr (hvalue ▸ hnil)
    rw [hview.of_no_value hnil hvalue,
      hview.of_padded_no_value hnil hblanks hvalue]
    simp [UnquotedLine.Filled, hvalue, hother]
  · have hfilled : line.Filled := by simp [UnquotedLine.Filled, hvalue]
    rw [hview.of_value key hnames hblanks hvalue]
    simp [hfilled]

theorem any_isProvisioned (found : Option Text) :
    found.any isProvisioned = (found.map isProvisioned).getD false := by
  cases found <;> rfl

theorem alike_deviceName_iff (hblanks : blanks.1 ≠ []) :
    PropertyKey.deviceName.Alike (captured .deviceName (line.text .deviceName))
        (captured .deviceName ((line.appendBlanks blanks).text .deviceName)) ↔
      line.Unrecognised provisionedNames := by
  have hnil : [] ∉ provisionedNames := by decide
  simp only [PropertyKey.Alike, any_isProvisioned]
  by_cases hvalue : line.value = []
  · have hother : line.Unrecognised provisionedNames := Or.inr (hvalue ▸ hnil)
    have hplain : isProvisioned [] = false := by decide
    rw [compares_isProvisioned.of_no_value hnil hvalue,
      compares_isProvisioned.of_padded_no_value hnil hblanks hvalue, hplain]
    refine iff_of_true ?_ hother
    split <;> rfl
  · rw [← compares_isProvisioned.of_value .deviceName
      provisionedNames_blankless hblanks hvalue, captured_of_value _ hvalue,
      captured_appendBlanks_of_value _ blanks hvalue]
    simp

theorem alike_appendBlanks_iff (key : PropertyKey) (line : UnquotedLine)
    (blanks : Padding) :
    key.Alike (captured key (line.text key))
        (captured key ((line.appendBlanks blanks).text key)) ↔
      line.KeepsReports key blanks := by
  by_cases hblanks : blanks.1 = []
  · have hsame : (line.appendBlanks blanks).text key = line.text key := by
      simp [UnquotedLine.text, UnquotedLine.appendBlanks, hblanks]
    rw [hsame]
    exact iff_of_true (key.alike_refl _) (Or.inl hblanks)
  · simp only [UnquotedLine.KeepsReports, hblanks, false_or]
    have htext := captured_appendBlanks_iff key line blanks
    simp only [hblanks, false_or] at htext
    cases key with
    | deviceName => exact alike_deviceName_iff hblanks
    | deviceType =>
        exact compares_pluginName.map_eq_iff translatedNames_blankless
          (by decide) hblanks
    | authDeviceType =>
        exact compares_stringToDeviceType.map_eq_iff knownNames_blankless
          (by decide) hblanks
    | modelNum | mfgName | friendlyId | soc | chipsetName =>
        exact eq_comm.trans htext

theorem alike_none_iff (key : PropertyKey) (hvalue : line.value = []) :
    key.Alike (captured key (line.text key)) none ↔
      key = .deviceName ∨ line.leading.1 ++ line.trailing.1 = [] := by
  have hnone : captured key (line.text key) = none ↔
      line.leading.1 ++ line.trailing.1 = [] := by
    simp [captured_of_no_value key hvalue, and_comm]
  cases key with
  | deviceName =>
      have hnil : [] ∉ provisionedNames := by decide
      have hplain : isProvisioned [] = false := by decide
      refine iff_of_true ?_ (Or.inl rfl)
      simp only [PropertyKey.Alike, any_isProvisioned]
      rw [compares_isProvisioned.of_no_value hnil hvalue, hplain]
      split <;> rfl
  | deviceType | authDeviceType | modelNum | mfgName | friendlyId | soc
  | chipsetName => simp [PropertyKey.Alike, hnone]

end Line

/-! ## The file -/

section File

variable {key other : PropertyKey} {before after : List Text}

theorem found_cons_of_captured (text : Text)
    (hother : ∀ line ∈ before ++ after, ¬ IsAssignment key line) :
    key.found (before ++ text :: after) = captured key text := by
  have hnone : ∀ line ∈ before ++ after, captured key line = none := by
    intro line hline
    exact captured_eq_none_iff.mpr (hother line hline)
  have hbefore : before.findSome? (captured key) = none := by
    rw [List.findSome?_eq_none_iff]
    intro line hline
    exact hnone line (List.mem_append_left after hline)
  have hafter : after.findSome? (captured key) = none := by
    rw [List.findSome?_eq_none_iff]
    intro line hline
    exact hnone line (List.mem_append_right before hline)
  rw [PropertyKey.found, List.findSome?_append, hbefore, Option.none_or,
    List.findSome?_cons]
  cases hcaptured : captured key text with
  | some value => rfl
  | none => exact hafter

theorem found_of_no_assignment
    (hother : ∀ line ∈ before ++ after, ¬ IsAssignment key line) :
    key.found (before ++ after) = none := by
  rw [PropertyKey.found, List.findSome?_eq_none_iff]
  intro line hline
  exact captured_eq_none_iff.mpr (hother line hline)

theorem found_other (line : UnquotedLine) (hkey : other ≠ key) :
    other.found (before ++ line.text key :: after) =
      other.found (before ++ after) := by
  have hnone : captured other (line.text key) = none := by
    rw [captured_eq_none_iff]
    rintro ⟨value, hassigns⟩
    exact hkey (Assigns.key_of_text line.padding.allBlank hassigns)
  simp [PropertyKey.found, List.findSome?_append, hnone]

theorem newline_notMem_insert (line : UnquotedLine)
    (hlines : ∀ other ∈ before ++ after, '\n' ∉ other) :
    ∀ other ∈ before ++ line.text key :: after, '\n' ∉ other := by
  intro other hmem
  rcases List.mem_append.mp hmem with hmem | hmem
  · exact hlines other (List.mem_append_left after hmem)
  rcases List.mem_cons.mp hmem with rfl | hmem
  · exact line.newline_notMem key
  · exact hlines other (List.mem_append_right before hmem)

/-- The only assignment of a key may be padded without a change in any report
of any device exactly if `KeepsReports`.  If it has no value, the reports are
those without the line, so that the next source is asked, exactly if nothing
at all follows the equals sign or the key is the device name. -/
theorem reports_keep_iff (key : PropertyKey) (line : UnquotedLine)
    (before after : List Text)
    (hother : ∀ other ∈ before ++ after,
      '\n' ∉ other ∧ ¬ IsAssignment key other) :
    (∀ blanks : Padding,
      (∀ device : Device,
        SameReports
          (device.withLines key.filename (before ++ line.text key :: after))
          (device.withLines key.filename
            (before ++ (line.appendBlanks blanks).text key :: after))) ↔
        line.KeepsReports key blanks) ∧
    (line.value = [] →
      ((∀ device : Device,
        SameReports
          (device.withLines key.filename (before ++ line.text key :: after))
          (device.withLines key.filename (before ++ after))) ↔
        key = .deviceName ∨ line.leading.1 ++ line.trailing.1 = [])) := by
  have hbreak : ∀ other ∈ before ++ after, '\n' ∉ other :=
    fun other hmem => (hother other hmem).1
  have hunassigned : ∀ other ∈ before ++ after, ¬ IsAssignment key other :=
    fun other hmem => (hother other hmem).2
  constructor
  · intro blanks
    rw [sameReports_iff_alike (newline_notMem_insert line hbreak)
      (newline_notMem_insert (line.appendBlanks blanks) hbreak)
      fun other hkey =>
        (found_other line hkey).trans
          (found_other (line.appendBlanks blanks) hkey).symm,
      found_cons_of_captured _ hunassigned, found_cons_of_captured _ hunassigned]
    exact alike_appendBlanks_iff key line blanks
  · intro hvalue
    rw [sameReports_iff_alike (newline_notMem_insert line hbreak) hbreak
      fun other hkey => found_other line hkey,
      found_cons_of_captured _ hunassigned, found_of_no_assignment hunassigned]
    exact alike_none_iff key hvalue

end File

def hybridLine : UnquotedLine :=
  { carriageReturnLine with
    value := ['h', 'y', 'b', 'r', 'i', 'd']
    trailing := carriageReturnLine.leading
    plain := by simp
    start := by simp [isBlank]
    stop := by simp [isBlank] }

def carriageReturn : Padding := carriageReturnLine.trailing

/-- Behind `DEVICE_TYPE=hybrid` a carriage return is noticed, behind
`DEVICE_NAME=hybrid` it is not. -/
theorem reports_keep_hybrid :
    (¬ ∀ device : Device,
      SameReports
        (device.withLines "/etc/device.properties"
          [hybridLine.text .deviceType])
        (device.withLines "/etc/device.properties"
          [(hybridLine.appendBlanks carriageReturn).text .deviceType])) ∧
    ∀ device : Device,
      SameReports
        (device.withLines "/etc/device.properties"
          [hybridLine.text .deviceName])
        (device.withLines "/etc/device.properties"
          [(hybridLine.appendBlanks carriageReturn).text .deviceName]) := by
  constructor
  · intro hsame
    have hreports := reports_keep_iff .deviceType hybridLine [] [] (by simp)
    have hkeeps := (hreports.1 carriageReturn).mp hsame
    rcases hkeeps with hblanks | ⟨-, htrailing | hname⟩
    · exact absurd hblanks (by decide)
    · exact htrailing rfl
    · exact hname (by decide)
  · have hother : hybridLine.value ∉ provisionedNames := by decide
    have hreports := reports_keep_iff .deviceName hybridLine [] [] (by simp)
    exact (hreports.1 carriageReturn).mpr (Or.inr (Or.inr hother))

end DeviceInfo
end DeviceInfoPlugin
