import DeviceInfoPlugin.PropertyFiles

/-!
# Which value a property line yields

Leading blanks, the captured run and trailing blanks can all take the same
characters, so the value depends on the order in which the matcher tries the
alternatives.  The group is greedy: it runs up to the closing quote or to the
end of the line, trailing blanks included.
-/

namespace DeviceInfoPlugin
namespace DeviceInfo

open Regex

variable {β : Type}

theorem not_isBlank_equals : isBlank '=' = false := by decide

theorem not_isBlank_quote : isBlank '\x22' = false := by decide

theorem fullMatch_propertyLine_assignment (key : String) {padding : Text}
    (hpadding : AllBlank padding) (text : Text) :
    fullMatch (propertyLine key) (key.toList ++ (padding ++ '=' :: text)) =
      attempt assignedValue false text fun m =>
        Option.guard (fun m : Match Char => m.rest.isEmpty)
          (Match.andThen ⟨key.toList ++ padding ++ ['='], text, []⟩ m) := by
  rw [fullMatch_eq_attempt, propertyLine]
  simp only [attempt_seq, attempt_lineStart, Match.nothing_rest,
    attempt_literal, blanks]
  rw [attempt_many_symbol_longest hpadding (by simp [not_isBlank_equals])]
  · change attempt (.literal ['=']) _ (['='] ++ text) _ = _
    rw [attempt_literal]
    simp [Match.andThen, Match.nothing]
  · intro front back heq hback
    obtain ⟨c, back, rfl⟩ := List.exists_cons_of_ne_nil hback
    have hblank : isBlank c = true := hpadding c (by simp [heq])
    have hc : c ≠ '=' := by
      intro hc
      subst hc
      rw [not_isBlank_equals] at hblank
      contradiction
    exact attempt_literal_of_ne hc

/-- The end of the captured run: a closing quote or the end of the line. -/
def Closes (closing : Text) : Prop :=
  closing = [] ∨ ∃ trailing, AllBlank trailing ∧ closing = '\x22' :: trailing

variable {atStart : Bool} {value closing : Text} {next : Match Char → Option β}
  {b : β}

theorem isUnquoted_of_closes (hcloses : Closes closing) :
    ∀ c ∈ closing.head?, isUnquoted c = false := by
  rcases hcloses with rfl | ⟨trailing, -, rfl⟩
  · simp
  · simp [isUnquoted]

theorem attempt_closing (hcloses : Closes closing)
    (hnext : next ⟨closing, [], []⟩ = some b) :
    attempt (.seq optionalQuote (.seq blanks (.seq .lineEnd .empty))) atStart
      closing next = some b := by
  have hend : ∀ (trailing : Text) (atStart : Bool) (next : Match Char → Option β),
      AllBlank trailing → next ⟨trailing, [], []⟩ = some b →
      attempt (.seq blanks (.seq .lineEnd .empty)) atStart trailing next =
        some b := by
    intro trailing atStart next htrailing hnext
    rw [attempt_seq, ← List.append_nil trailing]
    apply attempt_many_symbol_greedy htrailing (by simp)
    simpa [Match.andThen, Match.nothing] using hnext
  rw [attempt_seq, optionalQuote]
  rcases hcloses with rfl | ⟨trailing, htrailing, rfl⟩
  · rw [attempt_optional_symbol_absent (by simp)]
    exact hend [] _ _ (by simp [AllBlank]) hnext
  · apply attempt_optional_symbol_present rfl
    exact hend trailing _ _ htrailing hnext

def openedValue : Pattern Char :=
  .sequence
    [optionalQuote, .group 1 (.some (.symbol isUnquoted)), optionalQuote, blanks,
      .lineEnd]

theorem attempt_openedValue_nil :
    attempt openedValue atStart [] next = none := by
  change attempt (.seq optionalQuote _) _ _ _ = none
  rw [attempt_seq, optionalQuote, attempt_optional_symbol_absent (by simp)]
  simp [Pattern.some]

theorem attempt_openedValue {quote : Text} (hquote : QuoteOrNothing quote)
    (hnonempty : value ≠ []) (hunquoted : ∀ c ∈ value, isUnquoted c = true)
    (hcloses : Closes closing)
    (hnext : next ⟨quote ++ (value ++ closing), [], [(1, value)]⟩ = some b) :
    attempt openedValue atStart (quote ++ (value ++ closing)) next = some b := by
  have hvalue : ∀ (atStart : Bool) (next : Match Char → Option β),
      next ⟨value ++ closing, [], [(1, value)]⟩ = some b →
      attempt (.seq (.group 1 (.some (.symbol isUnquoted)))
          (.seq optionalQuote (.seq blanks (.seq .lineEnd .empty))))
        atStart (value ++ closing) next = some b := by
    intro atStart next hnext
    rw [attempt_seq, attempt_group]
    apply attempt_some_symbol_greedy hnonempty hunquoted
      (isUnquoted_of_closes hcloses)
    exact attempt_closing hcloses hnext
  change attempt (.seq optionalQuote _) _ _ _ = some b
  rw [attempt_seq, optionalQuote]
  rcases hquote with rfl | rfl
  · rw [List.nil_append, attempt_optional_symbol_absent]
    · exact hvalue _ _ hnext
    · obtain ⟨c, value, rfl⟩ := List.exists_cons_of_ne_nil hnonempty
      have hc := hunquoted c (by simp)
      intro d hd
      have heq : c = d := by simpa using hd
      subst heq
      simp only [isUnquoted, Bool.and_eq_true, decide_eq_true_eq] at hc
      simp [isQuote, hc.1]
  · apply attempt_optional_symbol_present rfl
    exact hvalue _ _ hnext

/-- The line behind its key, once `assignedValue` has found `value` in it. -/
theorem fullMatch_propertyLine_of_attempt {key : String} {padding text : Text}
    (hpadding : AllBlank padding)
    (htext : ∀ (next : Match Char → Option (Match Char)) (b : Match Char),
      next ⟨text, [], [(1, value)]⟩ = some b →
      attempt assignedValue false text next = some b) :
    fullMatch (propertyLine key) (key.toList ++ (padding ++ '=' :: text)) =
      some ⟨key.toList ++ (padding ++ '=' :: text), [], [(1, value)]⟩ := by
  rw [fullMatch_propertyLine_assignment key hpadding]
  apply htext
  simp [Match.andThen, Option.guard]

theorem start_of_head {quote text : Text} (hquote : QuoteOrNothing quote)
    (hhead : ∀ c ∈ text.head?, isBlank c = false) :
    ∀ c ∈ (quote ++ text).head?, isBlank c = false := by
  rcases hquote with rfl | rfl
  · exact hhead
  · simp [not_isBlank_quote]

/-- The value runs up to the closing quote or the end of the line. -/
theorem fullMatch_propertyLine_value (key : String)
    {padding leading quote value closing : Text}
    (hpadding : AllBlank padding) (hleading : AllBlank leading)
    (hquote : QuoteOrNothing quote)
    (hstart : ∀ c ∈ (quote ++ value).head?, isBlank c = false)
    (hnonempty : value ≠ []) (hunquoted : ∀ c ∈ value, isUnquoted c = true)
    (hcloses : Closes closing) :
    (fullMatch (propertyLine key) (key.toList ++
        (padding ++ '=' :: (leading ++ (quote ++ (value ++ closing)))))).map
      (·.group 1) = some value := by
  have hhead : (quote ++ (value ++ closing)).head? =
      (quote ++ value).head? := by
    obtain ⟨c, value, rfl⟩ := List.exists_cons_of_ne_nil hnonempty
    cases quote <;> rfl
  have hfound : ∀ (next : Match Char → Option (Match Char)) (b : Match Char),
      next ⟨leading ++ (quote ++ (value ++ closing)), [], [(1, value)]⟩ =
        some b →
      attempt assignedValue false (leading ++ (quote ++ (value ++ closing)))
        next = some b := by
    intro next b hnext
    change attempt (.seq blanks openedValue) _ _ _ = some b
    rw [attempt_seq]
    apply attempt_many_symbol_greedy hleading
    · rwa [hhead]
    · exact attempt_openedValue hquote hnonempty hunquoted hcloses hnext
  rw [fullMatch_propertyLine_of_attempt hpadding hfound]
  rfl

/-- On a line with only blanks after the equals sign, the group takes the last
of them. -/
theorem fullMatch_propertyLine_blank (key : String) {padding front : Text}
    {c : Char} (hpadding : AllBlank padding) (hfront : AllBlank (front ++ [c]))
    (hunquoted : isUnquoted c = true) :
    (fullMatch (propertyLine key) (key.toList ++
        (padding ++ '=' :: (front ++ [c])))).map (·.group 1) = some [c] := by
  have hfound : ∀ (next : Match Char → Option (Match Char)) (b : Match Char),
      next ⟨front ++ [c], [], [(1, [c])]⟩ = some b →
      attempt assignedValue false (front ++ [c]) next = some b := by
    intro next b hnext
    change attempt (.seq blanks openedValue) _ (front ++ ([c] ++ [])) _ = some b
    rw [attempt_seq]
    apply attempt_many_symbol_first front [c] hfront (by simp)
    · -- nothing is left for the group once the last blank is taken
      intro more back heq hmore
      have hback : back = [] := by
        cases more with
        | nil => contradiction
        | cons d more => simp_all
      subst hback
      exact attempt_openedValue_nil
    · change attempt openedValue _ ([] ++ ([c] ++ [])) _ = some b
      exact attempt_openedValue (Or.inl rfl) (by simp) (by simpa using hunquoted)
        (Or.inl rfl) hnext
  rw [fullMatch_propertyLine_of_attempt hpadding hfound]
  rfl

theorem fullMatch_propertyLine_empty (key : String) {padding : Text}
    (hpadding : AllBlank padding) :
    fullMatch (propertyLine key) (key.toList ++ (padding ++ ['='])) = none := by
  rw [fullMatch_propertyLine_assignment key hpadding]
  change attempt (.seq blanks openedValue) _ _ _ = none
  rw [attempt_seq, blanks, attempt_many_symbol_stop (by simp)]
  exact attempt_openedValue_nil

end DeviceInfo
end DeviceInfoPlugin
