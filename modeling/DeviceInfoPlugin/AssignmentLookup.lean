import DeviceInfoPlugin.FirstHit
import DeviceInfoPlugin.PropertyPadding

/-!
# Which lines of a properties file count

A lookup runs its expression over the lines of a file and stops at the first
match.  The lines that match are the assignments of the key, so the answer is
a function of the assignments alone: every other line is passed over, wherever
it stands.
-/

namespace DeviceInfoPlugin
namespace DeviceInfo

open Regex

/-- `K s1 = s2 q v q' s3` for some value `v`. -/
def IsAssignment (key : PropertyKey) (line : Text) : Prop :=
  ∃ value, Assigns key.name value line

/-- `K s1 = s2 "v" s3` -/
def AssignsQuoted (key : PropertyKey) (value line : Text) : Prop :=
  ∃ padding leading trailing, AllBlank padding ∧ AllBlank leading ∧
    AllBlank trailing ∧ value ≠ [] ∧ '\x22' ∉ value ∧
    line = key.name.toList ++ (padding ++ '=' ::
      (leading ++ (['\x22'] ++ (value ++ '\x22' :: trailing))))

theorem captured_isSome_iff {key : PropertyKey} {line : Text} :
    (captured key line).isSome ↔ IsAssignment key line := by
  rw [captured, Option.isSome_map]
  exact fullMatch_propertyLine_isSome_iff

theorem captured_eq_none_iff {key : PropertyKey} {line : Text} :
    captured key line = none ↔ ¬ IsAssignment key line := by
  rw [← captured_isSome_iff, Option.not_isSome_iff_eq_none]

theorem assigns_of_captured {key : PropertyKey} {value line : Text}
    (hcaptured : captured key line = some value) :
    Assigns key.name value line := by
  rcases Option.map_eq_some_iff.mp hcaptured with ⟨m, hmatch, rfl⟩
  exact assigns_of_fullMatch hmatch

theorem AssignedBy.quote_notMem {value text : Text}
    (hassigned : AssignedBy value text) : '\x22' ∉ value := by
  intro hmem
  have hunquoted := hassigned.unquoted _ hmem
  simp [isUnquoted] at hunquoted

/-- Between quotes the group takes the value and nothing else: it cannot begin
before the opening quote nor go past the closing one. -/
theorem captured_of_assignsQuoted {key : PropertyKey} {value line : Text}
    (hline : '\n' ∉ line) (hquoted : AssignsQuoted key value line) :
    captured key line = some value := by
  rcases hquoted with ⟨padding, leading, trailing, hpadding, hleading,
    htrailing, hnonempty, hquote, htext⟩
  subst htext
  have hunquoted : ∀ c ∈ value, isUnquoted c = true := by
    intro c hc
    have hne : c ≠ '\x22' := by
      intro heq
      subst heq
      exact hquote hc
    have hbreak : c ≠ '\n' := by
      intro heq
      subst heq
      exact hline (by simp [hc])
    simp [isUnquoted, hne, hbreak]
  have hstart : ∀ c ∈ (['\x22'] ++ value).head?, isBlank c = false := by
    simp [not_isBlank_quote]
  exact fullMatch_propertyLine_value key.name hpadding hleading (Or.inr rfl)
    hstart hnonempty hunquoted (Or.inr ⟨trailing, htrailing, rfl⟩)

/-! ## Lines that are no assignments -/

/-- Comments, indented and longer keys, stray quotes, and text behind the
closing quote. -/
inductive Noise (key : PropertyKey) : Text → Prop
  | otherStart {line : Text} (hstart : ¬ key.name.toList <+: line) :
      Noise key line
  | longerKey {c : Char} (rest : Text) (hblank : isBlank c = false)
      (hequals : c ≠ '=') :
      Noise key (key.name.toList ++ c :: rest)
  | strayQuote {padding before after : Text} (hpadding : AllBlank padding)
      (hbefore : ¬ AllBlank before) (hafter : ¬ AllBlank after) :
      Noise key (key.name.toList ++
        (padding ++ '=' :: (before ++ '\x22' :: after)))

/-- With two quotes in a text, a quote is the first or the second of them. -/
theorem quote_first_or_second {leading value trailing before after : Text}
    (hleading : '\x22' ∉ leading) (hvalue : '\x22' ∉ value)
    (htrailing : '\x22' ∉ trailing)
    (htext : before ++ '\x22' :: after =
      leading ++ '\x22' :: (value ++ '\x22' :: trailing)) :
    before = leading ∨ after = trailing := by
  rcases List.append_eq_append_iff.mp htext with
    ⟨more, hmore, htail⟩ | ⟨more, hmore, htail⟩
  · -- the quote stands no later than the first one
    cases more with
    | nil =>
        rw [List.append_nil] at hmore
        exact Or.inl hmore.symm
    | cons c more =>
        rw [List.cons_append, List.cons.injEq] at htail
        have hmem : '\x22' ∈ leading := by simp [hmore, ← htail.1]
        exact absurd hmem hleading
  · -- or it is the first one, or behind it and hence the second one
    cases more with
    | nil =>
        rw [List.append_nil] at hmore
        exact Or.inl hmore
    | cons c more =>
        rw [List.cons_append, List.cons.injEq] at htail
        have hlast := htail.2
        rw [List.append_cons_inj_of_notMem hvalue htrailing] at hlast
        exact Or.inr hlast.2.2.symm

theorem quote_notMem_of_allBlank {blanks : Text} (hblanks : AllBlank blanks) :
    '\x22' ∉ blanks := by
  intro hmem
  have hblank := hblanks _ hmem
  rw [not_isBlank_quote] at hblank
  contradiction

/-- A quote in the text of an assignment opens or closes its value. -/
theorem AssignedBy.blank_of_quote {value before after : Text}
    (hassigned : AssignedBy value (before ++ '\x22' :: after)) :
    AllBlank before ∨ AllBlank after := by
  have hvalue := hassigned.quote_notMem
  rcases hassigned.parts with ⟨leading, quote, quote', trailing, hleading,
    hquote, hquote', htrailing, htext⟩
  have hfront := quote_notMem_of_allBlank hleading
  have hback := quote_notMem_of_allBlank htrailing
  rcases hquote with rfl | rfl <;> rcases hquote' with rfl | rfl
  · have hmem : '\x22' ∈ before ++ '\x22' :: after := by simp
    rw [htext] at hmem
    simp [hfront, hback, hvalue] at hmem
  · -- the only quote closes the value
    have hopen : '\x22' ∉ leading ++ value := by
      simp [hfront, hvalue]
    have hsplit : (leading ++ value) ++ '\x22' :: trailing =
        before ++ '\x22' :: after := by simp [htext]
    rw [List.append_cons_inj_of_notMem hopen hback] at hsplit
    rw [← hsplit.2.2]
    exact Or.inr htrailing
  · -- the only quote opens the value
    have hclose : '\x22' ∉ value ++ trailing := by
      simp [hvalue, hback]
    have hsplit : leading ++ '\x22' :: (value ++ trailing) =
        before ++ '\x22' :: after := by simp [htext]
    rw [List.append_cons_inj_of_notMem hfront hclose] at hsplit
    rw [← hsplit.1]
    exact Or.inl hleading
  · have hsplit : before ++ '\x22' :: after =
        leading ++ '\x22' :: (value ++ '\x22' :: trailing) := by simp [htext]
    rcases quote_first_or_second hfront hvalue hback hsplit with hsame | hsame
    · rw [hsame]
      exact Or.inl hleading
    · rw [hsame]
      exact Or.inr htrailing

theorem Noise.not_isAssignment {key : PropertyKey} {line : Text}
    (hnoise : Noise key line) : ¬ IsAssignment key line := by
  intro hassignment
  rcases hassignment with ⟨value, padding, text, hpadding, hassigned, hline⟩
  cases hnoise with
  | otherStart hstart =>
      apply hstart
      rw [hline, List.append_assoc]
      exact List.prefix_append _ _
  | @longerKey c rest hblank hequals =>
      rw [List.append_assoc, List.append_cancel_left_eq] at hline
      cases padding with
      | nil =>
          rw [List.nil_append, List.cons.injEq] at hline
          exact hequals hline.1
      | cons d padding =>
          rw [List.cons_append, List.cons.injEq] at hline
          have hd := hpadding d (by simp)
          rw [← hline.1, hblank] at hd
          contradiction
  | @strayQuote padding' before after hpadding' hbefore hafter =>
      rw [List.append_assoc, List.append_cancel_left_eq] at hline
      obtain ⟨-, -, htext⟩ := taken_inj hpadding' hpadding not_isBlank_equals
        not_isBlank_equals hline
      rw [← htext] at hassigned
      rcases hassigned.blank_of_quote with hblank | hblank
      · exact hbefore hblank
      · exact hafter hblank

/-! ## The lookup -/

theorem getFileRegex_property_eq (files : FileSystem) (filename : String)
    (key : PropertyKey) (response : Text) :
    getFileRegex files filename (propertyLine key.name) response =
      reported ((fileLines files filename).findSome? (captured key))
        response := by
  rw [getFileRegex_eq_reported, lookup_eq_findSome?]
  rfl

/-- What a lookup of `key` makes of a file. -/
structure ReadsAssignments (key : PropertyKey) (files : FileSystem)
    (filename : String) : Prop where
  succeeds_iff : ∀ response,
    (getFileRegex files filename (propertyLine key.name) response).1 =
        ERROR_NONE ↔
      ∃ line ∈ fileLines files filename, IsAssignment key line
  first : ∀ before line after,
    fileLines files filename = before ++ line :: after →
    (∀ earlier ∈ before, ¬ IsAssignment key earlier) →
    IsAssignment key line →
    ∃ value, Assigns key.name value line ∧ value ≠ [] ∧ '\x22' ∉ value ∧
      (∀ quoted, AssignsQuoted key quoted line → value = quoted) ∧
      ∀ response, getFileRegex files filename (propertyLine key.name)
        response = (ERROR_NONE, value)
  absent : (∀ line ∈ fileLines files filename, ¬ IsAssignment key line) →
    ∀ response, getFileRegex files filename (propertyLine key.name) response =
      (ERROR_GENERAL, response)
  edited : ∀ files' filename',
    Relation.ReflTransGen (FirstHit.Edit (IsAssignment key))
        (fileLines files filename) (fileLines files' filename') →
    ∀ response,
      getFileRegex files' filename' (propertyLine key.name) response =
        getFileRegex files filename (propertyLine key.name) response

theorem reported_succeeds_iff {value : Option Text} {response : Text} :
    (reported value response).1 = ERROR_NONE ↔ value.isSome := by
  cases value <;> simp [reported]

/-- The lookup reads the first assignment of its key, whatever else the file
holds, and the usual kinds of other lines are no assignments. -/
theorem lookup_reads_assignments (key : PropertyKey) (files : FileSystem)
    (filename : String) :
    ReadsAssignments key files filename ∧
      ∀ line, Noise key line → ¬ IsAssignment key line := by
  have hnone : ∀ line, ¬ IsAssignment key line → captured key line = none := by
    intro line hline
    exact captured_eq_none_iff.mpr hline
  constructor
  · constructor
    case succeeds_iff =>
      intro response
      rw [getFileRegex_property_eq, reported_succeeds_iff,
        List.findSome?_isSome_iff]
      simp only [captured_isSome_iff]
    case first =>
      intro before line after hlines hbefore hline
      have hsome := captured_isSome_iff.mpr hline
      rcases Option.isSome_iff_exists.mp hsome with ⟨value, hcaptured⟩
      have hassigns := assigns_of_captured hcaptured
      have hshape : value ≠ [] ∧ '\x22' ∉ value := by
        rcases hassigns with ⟨_, _, _, hassigned, _⟩
        exact ⟨hassigned.nonempty, hassigned.quote_notMem⟩
      have hbreak : '\n' ∉ line := by
        have hmem : line ∈ fileLines files filename := by
          rw [hlines]
          simp
        exact newline_notMem_of_mem_fileLines hmem
      have hexact : ∀ quoted, AssignsQuoted key quoted line →
          value = quoted := by
        intro quoted hquoted
        have hsame := captured_of_assignsQuoted hbreak hquoted
        rw [hcaptured, Option.some.injEq] at hsame
        exact hsame
      have hfirst : (fileLines files filename).findSome? (captured key) =
          some value := by
        rw [List.findSome?_eq_some_iff]
        exact ⟨before, line, after, hlines, hcaptured,
          fun earlier hearlier => hnone earlier (hbefore earlier hearlier)⟩
      use value, hassigns, hshape.1, hshape.2, hexact
      intro response
      rw [getFileRegex_property_eq, hfirst]
      rfl
    case absent =>
      intro habsent response
      have hfirst : (fileLines files filename).findSome? (captured key) =
          none := by
        rw [List.findSome?_eq_none_iff]
        intro line hline
        exact hnone line (habsent line hline)
      rw [getFileRegex_property_eq, hfirst]
      rfl
    case edited =>
      intro files' filename' hedits response
      rw [getFileRegex_property_eq, getFileRegex_property_eq,
        FirstHit.edits_findSome? hnone hedits]
  · intro line hnoise
    exact hnoise.not_isAssignment

end DeviceInfo
end DeviceInfoPlugin
