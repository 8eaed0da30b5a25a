import DeviceInfoPlugin.CoreResult
import DeviceInfoPlugin.BacktrackingRegex

/-!
# Looking up a value in a text file

`GetFileRegex` and the regular expressions it is called with.  A file is read
line by line with `std::getline`; the first line that the expression matches
as a whole supplies the value, and without one the caller's string stays as it
was.
-/

namespace DeviceInfoPlugin
namespace DeviceInfo

open Regex

abbrev Text := List Char

/-- The lines `std::getline` delivers until it fails.  A line break at the very
end does not start another line. -/
def getlines : Text → List Text
  | [] => []
  | c :: rest =>
      if c = '\n' then
        [] :: getlines rest
      else
        match getlines rest with
        | [] => [[c]]
        | line :: lines => (c :: line) :: lines

theorem newline_notMem_of_mem_getlines (text : Text) {line : Text}
    (hline : line ∈ getlines text) : '\n' ∉ line := by
  induction text generalizing line with
  | nil => simp [getlines] at hline
  | cons c rest ih =>
      rw [getlines] at hline
      split at hline
      next =>
        rcases List.mem_cons.mp hline with rfl | hline
        · simp
        · exact ih hline
      next hc =>
        split at hline
        next =>
          have heq := List.mem_singleton.mp hline
          subst heq
          simpa using Ne.symm hc
        next first lines heq =>
          rw [heq] at ih
          rcases List.mem_cons.mp hline with rfl | hline
          · simpa [Ne.symm hc] using ih List.mem_cons_self
          · exact ih (List.mem_cons_of_mem _ hline)

theorem getlines_of_single {text : Text} (hnonempty : text ≠ [])
    (hline : '\n' ∉ text) : getlines text = [text] := by
  induction text with
  | nil => exact absurd rfl hnonempty
  | cons c rest ih =>
      have hboth : '\n' ≠ c ∧ '\n' ∉ rest := by simpa using hline
      rw [getlines, if_neg (Ne.symm hboth.1)]
      cases rest with
      | nil => rfl
      | cons d rest => rw [ih (by simp) hboth.2]

/-- Each line with a line break behind it. -/
def putlines (lines : List Text) : Text :=
  lines.flatMap fun line => line ++ ['\n']

theorem getlines_line_append {line : Text} (hline : '\n' ∉ line) (rest : Text) :
    getlines (line ++ '\n' :: rest) = line :: getlines rest := by
  induction line with
  | nil => simp [getlines]
  | cons c line ih =>
      have hboth : '\n' ≠ c ∧ '\n' ∉ line := by simpa using hline
      rw [List.cons_append, getlines, if_neg (Ne.symm hboth.1), ih hboth.2]

theorem getlines_putlines {lines : List Text}
    (hlines : ∀ line ∈ lines, '\n' ∉ line) : getlines (putlines lines) = lines := by
  induction lines with
  | nil => rfl
  | cons line lines ih =>
      have hline := hlines line List.mem_cons_self
      have hrest := ih fun later hlater => hlines later (List.mem_cons_of_mem _ hlater)
      have hsplit : putlines (line :: lines) = line ++ '\n' :: putlines lines := by
        simp [putlines]
      rw [hsplit, getlines_line_append hline, hrest]

/-- Contents by path; `none` for a file that cannot be opened. -/
abbrev FileSystem := String → Option Text

/-- The result of a lookup that writes `response` only when it succeeds. -/
def reported (value : Option Text) (response : Text) : Hresult × Text :=
  match value with
  | some found => (ERROR_NONE, found)
  | none => (ERROR_GENERAL, response)

theorem reported_inj {value value' : Option Text} {response : Text}
    (heq : reported value response = reported value' response) :
    value = value' := by
  cases value <;> cases value' <;> simp_all [reported, eq_comm]

def matchLines (regex : Pattern Char) (response : Text) :
    List Text → Hresult × Text
  | [] => (ERROR_GENERAL, response)
  | line :: lines =>
      match fullMatch regex line with
      | some sm => (ERROR_NONE, sm.group 1)
      | none => matchLines regex response lines

def getFileRegex (files : FileSystem) (filename : String)
    (regex : Pattern Char) (response : Text) : Hresult × Text :=
  match files filename with
  | some content => matchLines regex response (getlines content)
  | none => (ERROR_GENERAL, response)

def lookup (files : FileSystem) (filename : String) (regex : Pattern Char) :
    Option Text :=
  ((files filename).map getlines).bind fun lines =>
    lines.findSome? fun line => (fullMatch regex line).map (·.group 1)

theorem matchLines_eq_reported (regex : Pattern Char) (response : Text)
    (lines : List Text) :
    matchLines regex response lines =
      reported (lines.findSome? fun line =>
        (fullMatch regex line).map (·.group 1)) response := by
  induction lines with
  | nil => rfl
  | cons line lines ih =>
      rw [matchLines, List.findSome?_cons]
      cases fullMatch regex line with
      | none => exact ih
      | some sm => rfl

theorem getFileRegex_eq_reported (files : FileSystem) (filename : String)
    (regex : Pattern Char) (response : Text) :
    getFileRegex files filename regex response =
      reported (lookup files filename regex) response := by
  unfold getFileRegex lookup
  cases files filename with
  | none => rfl
  | some content => exact matchLines_eq_reported regex response _

/-- The lines of a file, none for a file that cannot be opened. -/
def fileLines (files : FileSystem) (filename : String) : List Text :=
  ((files filename).map getlines).getD []

theorem lookup_eq_findSome? (files : FileSystem) (filename : String)
    (regex : Pattern Char) :
    lookup files filename regex =
      (fileLines files filename).findSome? fun line =>
        (fullMatch regex line).map (·.group 1) := by
  unfold lookup fileLines
  cases files filename <;> rfl

theorem newline_notMem_of_mem_fileLines {files : FileSystem}
    {filename : String} {line : Text} (hline : line ∈ fileLines files filename) :
    '\n' ∉ line := by
  unfold fileLines at hline
  cases hcontent : files filename with
  | none => simp [hcontent] at hline
  | some content =>
      apply newline_notMem_of_mem_getlines content
      simpa [hcontent] using hline

/-! ## The regular expressions -/

/-- `\s` -/
def isBlank (c : Char) : Bool :=
  c = ' ' || c = '\t' || c = '\n' || c = '\x0b' || c = '\x0c' || c = '\r'

/-- `[^"\n]` -/
def isUnquoted (c : Char) : Bool :=
  c ≠ '\x22' && c ≠ '\n'

def isQuote (c : Char) : Bool :=
  c = '\x22'

def blanks : Pattern Char :=
  .many (.symbol isBlank)

/-- `"{0,1}` -/
def optionalQuote : Pattern Char :=
  .optional (.symbol isQuote)

def assignedValue : Pattern Char :=
  .sequence
    [blanks, optionalQuote, .group 1 (.some (.symbol isUnquoted)),
      optionalQuote, blanks, .lineEnd]

/-- `^KEY(?:\s*)=(?:\s*)(?:"{0,1})([^"\n]+)(?:"{0,1})(?:\s*)$` -/
def propertyLine (key : String) : Pattern Char :=
  .seq .lineStart (.seq (.literal key.toList) (.seq blanks
    (.seq (.literal ['=']) assignedValue)))

/-- `^TAG([^\n]+)$` -/
def taggedLine (tag : String) : Pattern Char :=
  .sequence
    [.lineStart, .literal tag.toList,
      .group 1 (.some (.symbol fun c => c ≠ '\n')), .lineEnd]

/-- `^([^\n]+)$` -/
def wholeLine : Pattern Char :=
  taggedLine ""

/-! ## The lines they match -/

def AllBlank (text : Text) : Prop :=
  ∀ c ∈ text, isBlank c = true

def QuoteOrNothing (text : Text) : Prop :=
  text = [] ∨ text = ['\x22']

/-- The line after the equals sign, cut into the parts of `assignedValue`. -/
structure AssignedBy (value text : Text) : Prop where
  nonempty : value ≠ []
  unquoted : ∀ c ∈ value, isUnquoted c = true
  parts : ∃ padding quote quote' trailing, AllBlank padding ∧
    QuoteOrNothing quote ∧ QuoteOrNothing quote' ∧ AllBlank trailing ∧
      text = padding ++ quote ++ value ++ quote' ++ trailing

def Assigns (key : String) (value line : Text) : Prop :=
  ∃ padding text, AllBlank padding ∧ AssignedBy value text ∧
    line = key.toList ++ padding ++ '=' :: text

theorem takes_blanks : Takes blanks AllBlank :=
  takes_many_symbol isBlank

theorem takes_optionalQuote : Takes optionalQuote QuoteOrNothing := by
  apply (takes_optional_symbol isQuote).congr
  intro consumed
  simp [QuoteOrNothing, isQuote]

theorem derives_assignedValue {atStart : Bool} {text : Text}
    {groups : List (Nat × Text)} :
    Derives assignedValue atStart ⟨text, [], groups⟩ ↔
      ∃ value, AssignedBy value text ∧ groups = [(1, value)] := by
  have hvalue := takes_some_symbol isUnquoted
  simp only [assignedValue, Pattern.sequence, List.foldr,
    takes_blanks.derives_seq, takes_optionalQuote.derives_seq,
    hvalue.derives_group_seq, derives_lineEnd, true_and]
  constructor
  · intro hparts
    rcases hparts with ⟨padding, _, rfl, hpadding, quote, _, rfl, hquote, value,
      _, later, rfl, ⟨hnonempty, hunquoted⟩, hgroups, quote', _, rfl, hquote',
      trailing, _, rfl, htrailing, rfl, rfl⟩
    have hassigned : AssignedBy value
        (padding ++ (quote ++ (value ++ (quote' ++ (trailing ++ []))))) :=
      ⟨hnonempty, hunquoted, padding, quote, quote', trailing, hpadding, hquote,
        hquote', htrailing, by simp⟩
    exact ⟨value, hassigned, hgroups⟩
  · intro hassigns
    rcases hassigns with ⟨value, hassigned, hgroups⟩
    rcases hassigned.parts with ⟨padding, quote, quote', trailing, hpadding,
      hquote, hquote', htrailing, htext⟩
    exact ⟨padding, quote ++ (value ++ (quote' ++ trailing)), by simp [htext],
      hpadding, quote, value ++ (quote' ++ trailing), rfl, hquote, value,
      quote' ++ trailing, [], rfl, ⟨hassigned.nonempty, hassigned.unquoted⟩,
      hgroups, quote', trailing, rfl, hquote', trailing, [], by simp, htrailing,
      rfl, rfl⟩

theorem derives_propertyLine {key : String} {line : Text}
    {groups : List (Nat × Text)} :
    Derives (propertyLine key) true ⟨line, [], groups⟩ ↔
      ∃ value, Assigns key value line ∧ groups = [(1, value)] := by
  have hkey := takes_literal key.toList
  have hequals := takes_literal ['=']
  simp only [propertyLine, derives_lineStart_seq, hkey.derives_seq,
    takes_blanks.derives_seq, hequals.derives_seq, derives_assignedValue]
  constructor
  · intro hparts
    rcases hparts with ⟨_, _, rfl, rfl, padding, _, rfl, hpadding, _, text, rfl,
      rfl, value, hassigned, hgroups⟩
    have hline : Assigns key value
        (key.toList ++ (padding ++ (['='] ++ text))) :=
      ⟨padding, text, hpadding, hassigned, by simp⟩
    exact ⟨value, hline, hgroups⟩
  · intro hassigns
    rcases hassigns with ⟨value, ⟨padding, text, hpadding, hassigned, hline⟩,
      hgroups⟩
    exact ⟨key.toList, padding ++ '=' :: text, by simp [hline], rfl, padding,
      '=' :: text, rfl, hpadding, ['='], text, rfl, rfl, value, hassigned,
      hgroups⟩

theorem derives_taggedLine {tag : String} {line : Text}
    {groups : List (Nat × Text)} :
    Derives (taggedLine tag) true ⟨line, [], groups⟩ ↔
      ∃ value, value ≠ [] ∧ (∀ c ∈ value, c ≠ '\n') ∧
        line = tag.toList ++ value ∧ groups = [(1, value)] := by
  have htag := takes_literal tag.toList
  have hvalue := takes_some_symbol fun c : Char => decide (c ≠ '\n')
  simp only [taggedLine, Pattern.sequence, List.foldr, derives_lineStart_seq,
    htag.derives_seq, hvalue.derives_group_seq, derives_lineEnd, true_and]
  constructor
  · intro hparts
    rcases hparts with ⟨_, _, rfl, rfl, value, _, later, rfl,
      ⟨hnonempty, hline⟩, hgroups, rfl, rfl⟩
    exact ⟨value, hnonempty, by simpa using hline, by simp, hgroups⟩
  · intro hline
    rcases hline with ⟨value, hnonempty, hline, htext, hgroups⟩
    exact ⟨tag.toList, value, htext, rfl, value, [], [], by simp,
      ⟨hnonempty, by simpa using hline⟩, hgroups, rfl, rfl⟩

theorem assigns_of_fullMatch {key : String} {line : Text} {m : Match Char}
    (hmatch : fullMatch (propertyLine key) line = some m) :
    Assigns key (m.group 1) line := by
  obtain ⟨groups, rfl, hderives⟩ := derives_of_fullMatch hmatch
  rcases derives_propertyLine.mp hderives with ⟨value, hassigns, rfl⟩
  exact hassigns

/-- Whatever the expression matches, its group is not empty. -/
def CapturesSome (regex : Pattern Char) : Prop :=
  ∀ line m, fullMatch regex line = some m → m.group 1 ≠ []

theorem propertyLine_capturesSome (key : String) :
    CapturesSome (propertyLine key) := by
  intro line m hmatch
  obtain ⟨_, _, _, hassigned, _⟩ := assigns_of_fullMatch hmatch
  exact hassigned.nonempty

theorem taggedLine_capturesSome (tag : String) :
    CapturesSome (taggedLine tag) := by
  intro line m hmatch
  obtain ⟨groups, rfl, hderives⟩ := derives_of_fullMatch hmatch
  rcases derives_taggedLine.mp hderives with ⟨value, hnonempty, _, _, rfl⟩
  exact hnonempty

theorem CapturesSome.lookup {regex : Pattern Char}
    (hregex : CapturesSome regex) {files : FileSystem} {filename : String}
    {value : Text} (hvalue : lookup files filename regex = some value) :
    value ≠ [] := by
  rw [DeviceInfo.lookup, Option.bind_eq_some_iff] at hvalue
  rcases hvalue with ⟨lines, -, hfirst⟩
  obtain ⟨line, -, hline⟩ := List.exists_of_findSome?_eq_some hfirst
  rcases Option.map_eq_some_iff.mp hline with ⟨m, hmatch, rfl⟩
  exact hregex line m hmatch

theorem lookup_isSome_iff {files : FileSystem} {filename : String}
    {regex : Pattern Char} :
    (lookup files filename regex).isSome ↔
      ∃ content, files filename = some content ∧
        ∃ line ∈ getlines content, (fullMatch regex line).isSome := by
  unfold lookup
  cases files filename with
  | none => simp
  | some content => simp [List.findSome?_isSome_iff]

theorem lookup_eq_some_iff {files : FileSystem} {filename : String}
    {regex : Pattern Char} {value : Text} :
    lookup files filename regex = some value ↔
      ∃ content before line after m, files filename = some content ∧
        getlines content = before ++ line :: after ∧
        (∀ earlier ∈ before, fullMatch regex earlier = none) ∧
        fullMatch regex line = some m ∧ m.group 1 = value := by
  unfold lookup
  cases files filename with
  | none => simp
  | some content =>
      simp only [Option.map_some, Option.bind_some, List.findSome?_eq_some_iff,
        Option.map_eq_some_iff, Option.map_eq_none_iff]
      constructor
      · intro hfirst
        rcases hfirst with
          ⟨before, line, after, hlines, ⟨m, hmatch, hvalue⟩, hbefore⟩
        exact ⟨content, before, line, after, m, rfl, hlines, hbefore, hmatch,
          hvalue⟩
      · intro hfirst
        rcases hfirst with ⟨content', before, line, after, m, heq, hlines,
          hbefore, hmatch, hvalue⟩
        have hcontent : content = content' := Option.some.inj heq
        subst hcontent
        exact ⟨before, line, after, hlines, ⟨m, hmatch, hvalue⟩, hbefore⟩

theorem fullMatch_propertyLine_isSome_iff {key : String} {line : Text} :
    (fullMatch (propertyLine key) line).isSome ↔
      ∃ value, Assigns key value line := by
  rw [fullMatch_isSome_iff]
  constructor
  · intro hmatch
    rcases hmatch with ⟨groups, hderives⟩
    rcases derives_propertyLine.mp hderives with ⟨value, hassigns, -⟩
    exact ⟨value, hassigns⟩
  · intro hline
    rcases hline with ⟨value, hassigns⟩
    have hderives := derives_propertyLine.mpr ⟨value, hassigns, rfl⟩
    exact ⟨[(1, value)], hderives⟩

end DeviceInfo
end DeviceInfoPlugin
