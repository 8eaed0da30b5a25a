import DeviceInfoPlugin.PropertyValues
import DeviceInfoPlugin.TextAccessors

/-!
# Blanks around an unquoted value

A line `KEY s1 = s2 v s3` yields `v` only if no blank follows the value: the
group of the expression takes trailing blanks as well.  When there is no
value, one of the blanks after the equals sign is taken for it.
-/

namespace DeviceInfoPlugin
namespace DeviceInfo

open Regex

/-- The keys that are looked up with `propertyLine`. -/
inductive PropertyKey
  | modelNum
  | mfgName
  | deviceName
  | friendlyId
  | deviceType
  | soc
  | chipsetName
  /-- The one in authService.conf. -/
  | authDeviceType

def PropertyKey.name : PropertyKey → String
  | modelNum => "MODEL_NUM"
  | mfgName => "MFG_NAME"
  | deviceName => "DEVICE_NAME"
  | friendlyId => "FRIENDLY_ID"
  | deviceType => "DEVICE_TYPE"
  | soc => "SOC"
  | chipsetName => "CHIPSET_NAME"
  | authDeviceType => "deviceType"

/-- The blanks that can stand in a line. -/
def isPadding (c : Char) : Bool :=
  c = ' ' || c = '\t' || c = '\r' || c = '\x0b' || c = '\x0c'

abbrev Padding := { text : Text // ∀ c ∈ text, isPadding c = true }

structure UnquotedLine where
  padding : Padding
  leading : Padding
  value : Text
  trailing : Padding
  plain : ∀ c ∈ value, c ≠ '\x22' ∧ c ≠ '\n'
  start : ∀ c ∈ value.head?, isBlank c = false
  stop : ∀ c ∈ value.getLast?, isBlank c = false

namespace UnquotedLine

def text (key : PropertyKey) (line : UnquotedLine) : Text :=
  key.name.toList ++ (line.padding.1 ++
    '=' :: (line.leading.1 ++ (line.value ++ line.trailing.1)))

def appendBlanks (line : UnquotedLine) (blanks : Padding) : UnquotedLine :=
  { line with
    trailing := ⟨line.trailing.1 ++ blanks.1, by
      intro c hc
      rcases List.mem_append.mp hc with h | h
      · exact line.trailing.2 c h
      · exact blanks.2 c h⟩ }

end UnquotedLine

def lookupLine (key : PropertyKey) (line response : Text) : Hresult × Text :=
  getFileRegex (fun _ => some line) "/etc/device.properties"
    (propertyLine key.name) response

def captured (key : PropertyKey) (line : Text) : Option Text :=
  (fullMatch (propertyLine key.name) line).map (·.group 1)

theorem isBlank_of_isPadding {c : Char} (hc : isPadding c = true) :
    isBlank c = true := by
  simp only [isPadding, Bool.or_eq_true, decide_eq_true_eq] at hc
  rcases hc with (((rfl | rfl) | rfl) | rfl) | rfl <;> rfl

theorem isUnquoted_of_isPadding {c : Char} (hc : isPadding c = true) :
    isUnquoted c = true := by
  simp only [isPadding, Bool.or_eq_true, decide_eq_true_eq] at hc
  rcases hc with (((rfl | rfl) | rfl) | rfl) | rfl <;> rfl

theorem Padding.allBlank (padding : Padding) : AllBlank padding.1 :=
  fun c hc => isBlank_of_isPadding (padding.2 c hc)

theorem UnquotedLine.newline_notMem (key : PropertyKey) (line : UnquotedLine) :
    '\n' ∉ line.text key := by
  have hpadding : ∀ padding : Padding, '\n' ∉ padding.1 := by
    intro padding hmem
    have hpads := padding.2 '\n' hmem
    simp [isPadding] at hpads
  have hvalue : '\n' ∉ line.value := by
    intro hmem
    exact (line.plain '\n' hmem).2 rfl
  have hkey : '\n' ∉ key.name.toList := by cases key <;> decide
  simp [UnquotedLine.text, hpadding, hvalue, hkey]

theorem lookupLine_text (key : PropertyKey) (line : UnquotedLine)
    (response : Text) :
    lookupLine key (line.text key) response =
      reported (captured key (line.text key)) response := by
  have hsingle : getlines (line.text key) = [line.text key] :=
    getlines_of_single (by simp [UnquotedLine.text]) (line.newline_notMem key)
  rw [lookupLine, getFileRegex_eq_reported, lookup, captured]
  simp [hsingle]

theorem captured_of_value (key : PropertyKey) {line : UnquotedLine}
    (hvalue : line.value ≠ []) :
    captured key (line.text key) = some (line.value ++ line.trailing.1) := by
  have hnonempty : line.value ++ line.trailing.1 ≠ [] := by simp [hvalue]
  have hstart : ∀ c ∈ ([] ++ (line.value ++ line.trailing.1)).head?,
      isBlank c = false := by
    intro c hc
    rw [List.nil_append, List.head?_append_of_ne_nil _ hvalue] at hc
    exact line.start c hc
  have hunquoted : ∀ c ∈ line.value ++ line.trailing.1,
      isUnquoted c = true := by
    intro c hc
    rcases List.mem_append.mp hc with hc | hc
    · simp [isUnquoted, line.plain c hc]
    · exact isUnquoted_of_isPadding (line.trailing.2 c hc)
  -- no quote on either side, and the end of the line closes the value
  have hmatch := fullMatch_propertyLine_value key.name line.padding.allBlank
    line.leading.allBlank (Or.inl rfl) hstart hnonempty hunquoted (Or.inl rfl)
  unfold captured UnquotedLine.text
  simpa using hmatch

theorem captured_of_no_value (key : PropertyKey) {line : UnquotedLine}
    (hvalue : line.value = []) :
    captured key (line.text key) =
      (line.leading.1 ++ line.trailing.1).getLast?.map fun c => [c] := by
  have hblank : ∀ c ∈ line.leading.1 ++ line.trailing.1,
      isPadding c = true := by
    intro c hc
    rcases List.mem_append.mp hc with h | h
    · exact line.leading.2 c h
    · exact line.trailing.2 c h
  rw [UnquotedLine.text, hvalue, List.nil_append, captured]
  generalize line.leading.1 ++ line.trailing.1 = blanks at hblank
  rcases List.eq_nil_or_concat' blanks with rfl | ⟨front, c, rfl⟩
  · rw [fullMatch_propertyLine_empty key.name line.padding.allBlank]
    rfl
  · have hall : AllBlank (front ++ [c]) := by
      intro d hd
      exact isBlank_of_isPadding (hblank d hd)
    have hlast : isUnquoted c = true := by
      apply isUnquoted_of_isPadding
      exact hblank c (by simp)
    rw [fullMatch_propertyLine_blank key.name line.padding.allBlank hall hlast]
    simp

/-- The contract of one line: its value, or nothing when there is none. -/
def UnquotedLine.YieldsValue (key : PropertyKey) (line : UnquotedLine) : Prop :=
  ∀ response, lookupLine key (line.text key) response =
    reported (if line.value = [] then none else some line.value) response

/-- A value without blanks behind it, or nothing at all after the equals
sign. -/
def UnquotedLine.Tight (line : UnquotedLine) : Prop :=
  line.trailing.1 = [] ∧ (line.value = [] → line.leading.1 = [])

theorem yieldsValue_iff_tight (key : PropertyKey) (line : UnquotedLine) :
    line.YieldsValue key ↔ line.Tight := by
  have hcaptured : line.YieldsValue key ↔ captured key (line.text key) =
      if line.value = [] then none else some line.value := by
    constructor
    · intro hyields
      have hlookup := hyields []
      rw [lookupLine_text] at hlookup
      exact reported_inj hlookup
    · intro hcaptured response
      rw [lookupLine_text, hcaptured]
  rw [hcaptured, UnquotedLine.Tight]
  by_cases hvalue : line.value = []
  · simp [captured_of_no_value key hvalue, hvalue, and_comm]
  · simp [captured_of_value key hvalue, hvalue]

/-- More blanks at the end of a line show up in the value, unless there is no
value and the last blank stays the same. -/
theorem captured_appendBlanks_iff (key : PropertyKey) (line : UnquotedLine)
    (blanks : Padding) :
    captured key ((line.appendBlanks blanks).text key) =
        captured key (line.text key) ↔
      blanks.1 = [] ∨ line.value = [] ∧
        (line.leading.1 ++ line.trailing.1).getLast? = blanks.1.getLast? := by
  have hsame : (line.appendBlanks blanks).value = line.value := rfl
  by_cases hvalue : line.value = []
  · have hinjective : Function.Injective (Option.map fun c : Char => [c]) :=
      Option.map_injective fun c d h => by simpa using h
    rw [captured_of_no_value key hvalue,
      captured_of_no_value key (hsame.trans hvalue), hinjective.eq_iff]
    change (line.leading.1 ++ (line.trailing.1 ++ blanks.1)).getLast? = _ ↔ _
    rw [← List.append_assoc]
    rcases List.eq_nil_or_concat' blanks.1 with hblanks | ⟨front, c, hblanks⟩
    · simp [hblanks]
    · rw [hblanks, List.getLast?_append]
      simp only [hvalue, List.getLast?_concat, Option.some_or]
      constructor
      · intro hlast
        exact Or.inr ⟨trivial, hlast.symm⟩
      · intro hlast
        rcases hlast with hnil | ⟨-, hlast⟩
        · simp at hnil
        · exact hlast.symm
  · rw [captured_of_value key hvalue, captured_of_value key (hsame ▸ hvalue)]
    change some (line.value ++ (line.trailing.1 ++ blanks.1)) = _ ↔ _
    simp [hvalue]

theorem lookupLine_appendBlanks_iff (key : PropertyKey) (line : UnquotedLine)
    (blanks : Padding) :
    (∀ response, lookupLine key ((line.appendBlanks blanks).text key) response =
        lookupLine key (line.text key) response) ↔
      blanks.1 = [] ∨ line.value = [] ∧
        (line.leading.1 ++ line.trailing.1).getLast? = blanks.1.getLast? := by
  simp only [lookupLine_text]
  rw [← captured_appendBlanks_iff key line blanks]
  constructor
  · intro hsame
    exact reported_inj (hsame [])
  · intro hsame response
    rw [hsame]

/-- The line yields exactly its value if and only if no blanks follow it (or,
without a value, none stand there at all), and appending blanks is noticed. -/
theorem property_value_iff (key : PropertyKey) (line : UnquotedLine) :
    (line.YieldsValue key ↔ line.Tight) ∧
      ∀ blanks : Padding,
        (∀ response,
          lookupLine key ((line.appendBlanks blanks).text key) response =
            lookupLine key (line.text key) response) ↔
          blanks.1 = [] ∨ line.value = [] ∧
            (line.leading.1 ++ line.trailing.1).getLast? = blanks.1.getLast? :=
  ⟨yieldsValue_iff_tight key line, lookupLine_appendBlanks_iff key line⟩

def carriageReturnLine : UnquotedLine where
  padding := ⟨[], by simp⟩
  leading := ⟨[], by simp⟩
  value := ['X']
  trailing := ⟨['\r'], by simp [isPadding]⟩
  plain := by simp
  start := by simp [isBlank]
  stop := by simp [isBlank]

/-- `Sku` reports the carriage return as part of the model number. -/
theorem sku_keeps_carriage_return :
    ¬ carriageReturnLine.YieldsValue .modelNum ∧
      ∀ mfr rfc, sku
        ⟨fun filename =>
            if filename = "/etc/device.properties" then
              some (carriageReturnLine.text .modelNum ++ ['\n'])
            else
              none,
          mfr, rfc⟩ [] = .ok (ERROR_NONE, ['X', '\r']) := by
  constructor
  · intro hyields
    have htight := (yieldsValue_iff_tight _ _).mp hyields
    have htrailing : ['\r'] = [] := htight.1
    contradiction
  · intro mfr rfc
    rfl

end DeviceInfo
end DeviceInfoPlugin
