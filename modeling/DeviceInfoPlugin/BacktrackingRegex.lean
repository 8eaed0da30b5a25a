import Mathlib.Data.List.Basic

/-!
# A backtracking matcher

Patterns over an arbitrary alphabet with the greedy quantifiers and the
capture groups of ECMAScript.  `run` lists all ways to match the front of an
input in the order in which a backtracking matcher tries them, so the match
such a matcher reports is the first one that meets the demands of whatever
follows.

`Derives` says which matches there are without any order, and `mem_run_iff`
connects the two.  The rules for `attempt` at the end follow the order.
-/

namespace DeviceInfoPlugin
namespace Regex

variable {α β : Type}

inductive Pattern (α : Type)
  | empty
  | lineStart
  | lineEnd
  | symbol (accepts : α → Bool)
  | seq (first second : Pattern α)
  | optional (body : Pattern α)
  | many (body : Pattern α)
  | group (index : Nat) (body : Pattern α)

namespace Pattern

def some (body : Pattern α) : Pattern α :=
  seq body (many body)

def sequence (parts : List (Pattern α)) : Pattern α :=
  parts.foldr seq empty

def literal [DecidableEq α] (word : List α) : Pattern α :=
  sequence (word.map fun a => symbol fun b => decide (b = a))

end Pattern

/-- One way to match a pattern: the input is `consumed` followed by `rest`.
The most recent capture of a group stands first. -/
structure Match (α : Type) where
  consumed : List α
  rest : List α
  groups : List (Nat × List α)
deriving DecidableEq, Repr

namespace Match

def nothing (input : List α) : Match α :=
  ⟨[], input, []⟩

def andThen (first second : Match α) : Match α :=
  ⟨first.consumed ++ second.consumed, second.rest,
    second.groups ++ first.groups⟩

def capture (index : Nat) (m : Match α) : Match α :=
  { m with groups := (index, m.consumed) :: m.groups }

/-- The text of a group; a group that took no part in the match is empty. -/
def group (m : Match α) (index : Nat) : List α :=
  (m.groups.lookup index).getD []

@[simp] theorem nothing_consumed (input : List α) :
    (nothing input).consumed = [] := rfl

@[simp] theorem nothing_rest (input : List α) :
    (nothing input).rest = input := rfl

@[simp] theorem andThen_consumed (first second : Match α) :
    (first.andThen second).consumed = first.consumed ++ second.consumed := rfl

@[simp] theorem andThen_rest (first second : Match α) :
    (first.andThen second).rest = second.rest := rfl

end Match

/-! ## The matcher -/

/-- Repetitions, more of them first.  A repetition that consumes nothing is
not tried, so the length of the input is enough fuel. -/
def repetitions (body : Bool → List α → List (Match α)) :
    Nat → Bool → List α → List (Match α)
  | 0, _, input => [Match.nothing input]
  | fuel + 1, atStart, input =>
      ((body atStart input).filter fun m => !m.consumed.isEmpty).flatMap
          (fun m => (repetitions body fuel false m.rest).map m.andThen) ++
        [Match.nothing input]

/-- All matches of the front of `input`, in the order of a backtracking
matcher.  `atStart` tells whether nothing precedes `input`. -/
def run : Pattern α → Bool → List α → List (Match α)
  | .empty, _, input => [Match.nothing input]
  | .lineStart, atStart, input =>
      if atStart then [Match.nothing input] else []
  | .lineEnd, _, input => if input.isEmpty then [Match.nothing input] else []
  | .symbol _, _, [] => []
  | .symbol accepts, _, a :: rest =>
      if accepts a then [⟨[a], rest, []⟩] else []
  | .seq first second, atStart, input =>
      (run first atStart input).flatMap fun m =>
        (run second (atStart && m.consumed.isEmpty) m.rest).map m.andThen
  | .optional body, atStart, input =>
      ((run body atStart input).filter fun m => !m.consumed.isEmpty) ++
        [Match.nothing input]
  | .many body, atStart, input =>
      repetitions (run body) input.length atStart input
  | .group index body, atStart, input =>
      (run body atStart input).map (Match.capture index)

theorem run_symbol_cons (accepts : α → Bool) (atStart : Bool) (a : α)
    (rest : List α) :
    run (.symbol accepts) atStart (a :: rest) =
      if accepts a then [⟨[a], rest, []⟩] else [] := rfl

def fullMatch (pattern : Pattern α) (input : List α) : Option (Match α) :=
  (run pattern true input).find? fun m => m.rest.isEmpty

/-! ## The matches without their order -/

inductive Derives : Pattern α → Bool → Match α → Prop
  | empty {atStart : Bool} {input : List α} :
      Derives .empty atStart (Match.nothing input)
  | lineStart {input : List α} :
      Derives .lineStart true (Match.nothing input)
  | lineEnd {atStart : Bool} :
      Derives .lineEnd atStart (Match.nothing [])
  | symbol {accepts : α → Bool} {atStart : Bool} {a : α} {rest : List α}
      (haccepts : accepts a = true) :
      Derives (.symbol accepts) atStart ⟨[a], rest, []⟩
  | seq {first second : Pattern α} {atStart : Bool} {m m' : Match α}
      (hfirst : Derives first atStart m)
      (hsecond : Derives second (atStart && m.consumed.isEmpty) m')
      (hinput : m'.consumed ++ m'.rest = m.rest) :
      Derives (.seq first second) atStart (m.andThen m')
  | absent {body : Pattern α} {atStart : Bool} {input : List α} :
      Derives (.optional body) atStart (Match.nothing input)
  | present {body : Pattern α} {atStart : Bool} {m : Match α}
      (hbody : Derives body atStart m) (hconsumed : m.consumed ≠ []) :
      Derives (.optional body) atStart m
  | done {body : Pattern α} {atStart : Bool} {input : List α} :
      Derives (.many body) atStart (Match.nothing input)
  | more {body : Pattern α} {atStart : Bool} {m m' : Match α}
      (hbody : Derives body atStart m) (hconsumed : m.consumed ≠ [])
      (hmany : Derives (.many body) false m')
      (hinput : m'.consumed ++ m'.rest = m.rest) :
      Derives (.many body) atStart (m.andThen m')
  | group {index : Nat} {body : Pattern α} {atStart : Bool} {m : Match α}
      (hbody : Derives body atStart m) :
      Derives (.group index body) atStart (m.capture index)

theorem mem_repetitions_succ {body : Bool → List α → List (Match α)}
    {fuel : Nat} {atStart : Bool} {input : List α} {m : Match α} :
    m ∈ repetitions body (fuel + 1) atStart input ↔
      (∃ m₁ ∈ body atStart input, m₁.consumed ≠ [] ∧
        ∃ m₂ ∈ repetitions body fuel false m₁.rest, m₁.andThen m₂ = m) ∨
      m = Match.nothing input := by
  simp [repetitions, and_assoc]

theorem repetitions_sound {pattern : Pattern α}
    (hpattern : ∀ atStart input, ∀ m ∈ run pattern atStart input,
      Derives pattern atStart m ∧ m.consumed ++ m.rest = input)
    (fuel : Nat) (atStart : Bool) (input : List α) :
    ∀ m ∈ repetitions (run pattern) fuel atStart input,
      Derives (.many pattern) atStart m ∧ m.consumed ++ m.rest = input := by
  induction fuel generalizing atStart input with
  | zero =>
      intro m hm
      obtain rfl : m = Match.nothing input := by simpa [repetitions] using hm
      exact ⟨.done, rfl⟩
  | succ fuel ih =>
      intro m hm
      rcases mem_repetitions_succ.mp hm with
        ⟨m₁, hm₁, hconsumed, m₂, hm₂, rfl⟩ | rfl
      · obtain ⟨hbody, hinput⟩ := hpattern atStart input m₁ hm₁
        obtain ⟨hmany, hrest⟩ := ih false m₁.rest m₂ hm₂
        have hwhole : (m₁.andThen m₂).consumed ++ (m₁.andThen m₂).rest =
            input := by
          simp [hrest, hinput]
        exact ⟨.more hbody hconsumed hmany hrest, hwhole⟩
      · exact ⟨.done, rfl⟩

theorem run_sound (pattern : Pattern α) (atStart : Bool) (input : List α) :
    ∀ m ∈ run pattern atStart input,
      Derives pattern atStart m ∧ m.consumed ++ m.rest = input := by
  induction pattern generalizing atStart input with
  | empty =>
      intro m hm
      obtain rfl : m = Match.nothing input := by simpa [run] using hm
      exact ⟨.empty, rfl⟩
  | lineStart =>
      intro m hm
      obtain ⟨rfl, rfl⟩ : atStart = true ∧ m = Match.nothing input := by
        simpa [run] using hm
      exact ⟨.lineStart, rfl⟩
  | lineEnd =>
      intro m hm
      obtain ⟨rfl, rfl⟩ : input = [] ∧ m = Match.nothing input := by
        simpa [run] using hm
      exact ⟨.lineEnd, rfl⟩
  | symbol accepts =>
      intro m hm
      cases input with
      | nil => simp [run] at hm
      | cons a rest =>
          obtain ⟨haccepts, rfl⟩ : accepts a = true ∧ m = ⟨[a], rest, []⟩ := by
            simpa [run] using hm
          exact ⟨.symbol haccepts, rfl⟩
  | seq first second ihfirst ihsecond =>
      intro m hm
      simp only [run, List.mem_flatMap, List.mem_map] at hm
      rcases hm with ⟨m₁, hm₁, m₂, hm₂, rfl⟩
      obtain ⟨hfirst, hinput⟩ := ihfirst _ _ m₁ hm₁
      obtain ⟨hsecond, hrest⟩ := ihsecond _ _ m₂ hm₂
      exact ⟨.seq hfirst hsecond hrest, by simp [hrest, hinput]⟩
  | optional body ih =>
      intro m hm
      rcases List.mem_append.mp hm with hpresent | habsent
      · rcases List.mem_filter.mp hpresent with ⟨hm₁, hconsumed⟩
        obtain ⟨hbody, hinput⟩ := ih _ _ m hm₁
        exact ⟨.present hbody (by simpa using hconsumed), hinput⟩
      · obtain rfl : m = Match.nothing input := by simpa using habsent
        exact ⟨.absent, rfl⟩
  | many body ih => exact repetitions_sound ih input.length atStart input
  | group index body ih =>
      intro m hm
      rcases List.mem_map.mp hm with ⟨m₁, hm₁, rfl⟩
      obtain ⟨hbody, hinput⟩ := ih _ _ m₁ hm₁
      exact ⟨.group hbody, hinput⟩

theorem repetitions_nil (pattern : Pattern α) (fuel : Nat)
    (atStart : Bool) :
    repetitions (run pattern) fuel atStart [] = [Match.nothing []] := by
  cases fuel with
  | zero => rfl
  | succ fuel =>
      have hnone : (run pattern atStart []).filter
          (fun m => !m.consumed.isEmpty) = [] := by
        rw [List.filter_eq_nil_iff]
        intro m hm
        obtain ⟨-, hinput⟩ := run_sound pattern atStart [] m hm
        simp [(List.append_eq_nil_iff.mp hinput).1]
      simp [repetitions, hnone]

theorem repetitions_fuel (pattern : Pattern α) (fuel fuel' : Nat)
    {atStart : Bool} {input : List α}
    (hfuel : input.length ≤ fuel) (hfuel' : input.length ≤ fuel') :
    repetitions (run pattern) fuel atStart input =
      repetitions (run pattern) fuel' atStart input := by
  induction fuel generalizing fuel' atStart input with
  | zero =>
      obtain rfl : input = [] := by simpa using hfuel
      rw [repetitions_nil, repetitions_nil]
  | succ fuel ih =>
      cases fuel' with
      | zero =>
          obtain rfl : input = [] := by simpa using hfuel'
          rw [repetitions_nil, repetitions_nil]
      | succ fuel' =>
          simp only [repetitions]
          congr 1
          apply List.flatMap_congr
          intro m hm
          rcases List.mem_filter.mp hm with ⟨hm, hconsumed⟩
          obtain ⟨-, hinput⟩ := run_sound pattern atStart input m hm
          have hlength : m.rest.length < input.length := by
            have : m.consumed.length ≠ 0 := by simpa using hconsumed
            rw [← hinput, List.length_append]
            omega
          rw [ih fuel' (by omega) (by omega)]

theorem run_many (body : Pattern α) (atStart : Bool) (input : List α) :
    run (.many body) atStart input =
      ((run body atStart input).filter fun m => !m.consumed.isEmpty).flatMap
          (fun m => (run (.many body) false m.rest).map m.andThen) ++
        [Match.nothing input] := by
  have hfuel : repetitions (run body) input.length atStart input =
      repetitions (run body) (input.length + 1) atStart input :=
    repetitions_fuel body _ _ (Nat.le_refl _) (Nat.le_succ _)
  simp only [run, hfuel, repetitions]
  congr 1
  apply List.flatMap_congr
  intro m hm
  have hmem : m ∈ run body atStart input := (List.mem_filter.mp hm).1
  have hinput := (run_sound body atStart input m hmem).2
  have hlength : m.rest.length ≤ input.length := by
    rw [← hinput, List.length_append]
    omega
  rw [repetitions_fuel body input.length m.rest.length hlength (Nat.le_refl _)]

theorem mem_run_of_derives {pattern : Pattern α} {atStart : Bool}
    {m : Match α} (hderives : Derives pattern atStart m) :
    m ∈ run pattern atStart (m.consumed ++ m.rest) := by
  induction hderives with
  | empty => simp [run]
  | lineStart => simp [run]
  | lineEnd => simp [run]
  | symbol haccepts => simp [run, haccepts]
  | @seq first second atStart m m' _ _ hinput ihfirst ihsecond =>
      have hfirst : m ∈ run first atStart
          ((m.andThen m').consumed ++ (m.andThen m').rest) := by
        simpa [hinput] using ihfirst
      rw [hinput] at ihsecond
      simp only [run, List.mem_flatMap, List.mem_map]
      exact ⟨m, hfirst, m', ihsecond, rfl⟩
  | absent => simp [run]
  | present _ hconsumed ih =>
      simp only [run, List.mem_append, List.mem_filter]
      exact Or.inl ⟨ih, by simpa using hconsumed⟩
  | done =>
      rw [run_many]
      simp
  | @more body atStart m m' _ hconsumed _ hinput ihbody ihmany =>
      have hbody : m ∈ run body atStart
          ((m.andThen m').consumed ++ (m.andThen m').rest) := by
        simpa [hinput] using ihbody
      have hnonempty : (!m.consumed.isEmpty) = true := by simpa using hconsumed
      rw [hinput] at ihmany
      rw [run_many, List.mem_append, List.mem_flatMap]
      exact Or.inl ⟨m, List.mem_filter.mpr ⟨hbody, hnonempty⟩,
        List.mem_map_of_mem ihmany⟩
  | group _ ih => exact List.mem_map_of_mem ih

/-- The matcher finds the matches the pattern derives and no others. -/
theorem mem_run_iff {pattern : Pattern α} {atStart : Bool} {input : List α}
    {m : Match α} :
    m ∈ run pattern atStart input ↔
      Derives pattern atStart m ∧ m.consumed ++ m.rest = input := by
  constructor
  · exact run_sound pattern atStart input m
  · intro hderives
    rw [← hderives.2]
    exact mem_run_of_derives hderives.1

theorem derives_of_fullMatch {pattern : Pattern α} {input : List α}
    {m : Match α} (hmatch : fullMatch pattern input = .some m) :
    ∃ groups, m = ⟨input, [], groups⟩ ∧
      Derives pattern true ⟨input, [], groups⟩ := by
  have hrest : m.rest = [] := by simpa using List.find?_some hmatch
  obtain ⟨hderives, hinput⟩ := mem_run_iff.mp (List.mem_of_find?_eq_some hmatch)
  rw [hrest, List.append_nil] at hinput
  have hm : m = ⟨input, [], m.groups⟩ := by rw [← hinput, ← hrest]
  exact ⟨m.groups, hm, hm ▸ hderives⟩

theorem fullMatch_isSome_iff {pattern : Pattern α} {input : List α} :
    (fullMatch pattern input).isSome ↔
      ∃ groups, Derives pattern true ⟨input, [], groups⟩ := by
  constructor
  · intro hsome
    rcases Option.isSome_iff_exists.mp hsome with ⟨m, hmatch⟩
    obtain ⟨groups, -, hderives⟩ := derives_of_fullMatch hmatch
    exact ⟨groups, hderives⟩
  · intro hsome
    rcases hsome with ⟨groups, hderives⟩
    have hmem : ⟨input, [], groups⟩ ∈ run pattern true input :=
      mem_run_iff.mpr ⟨hderives, List.append_nil _⟩
    rw [fullMatch, List.find?_isSome]
    exact ⟨_, hmem, rfl⟩

/-! ### What a derivation consists of -/

section Derivations

variable {atStart : Bool} {consumed rest : List α}
  {groups : List (Nat × List α)} {first second body : Pattern α}
  {P Q : List α → Prop}

theorem derives_seq :
    Derives (.seq first second) atStart ⟨consumed, rest, groups⟩ ↔
      ∃ front back earlier later, consumed = front ++ back ∧
        groups = later ++ earlier ∧
        Derives first atStart ⟨front, back ++ rest, earlier⟩ ∧
        Derives second (atStart && front.isEmpty) ⟨back, rest, later⟩ := by
  constructor
  · generalize hm : Match.mk consumed rest groups = m
    intro hderives
    cases hderives with
    | @seq _ _ _ m₁ m₂ hfirst hsecond hinput =>
        obtain ⟨rfl, rfl, rfl⟩ := Match.mk.inj hm
        have hfront : Derives first atStart
            ⟨m₁.consumed, m₂.consumed ++ m₂.rest, m₁.groups⟩ := by
          rw [hinput]
          exact hfirst
        exact ⟨m₁.consumed, m₂.consumed, m₁.groups, m₂.groups, rfl, rfl,
          hfront, hsecond⟩
  · intro hparts
    rcases hparts with
      ⟨front, back, earlier, later, rfl, rfl, hfirst, hsecond⟩
    exact .seq hfirst hsecond rfl

/-- The anchors consume nothing, so they only restrict where they stand. -/
theorem derives_lineStart_seq :
    Derives (.seq .lineStart second) true ⟨consumed, rest, groups⟩ ↔
      Derives second true ⟨consumed, rest, groups⟩ := by
  rw [derives_seq]
  constructor
  · intro hparts
    rcases hparts with
      ⟨front, back, earlier, later, rfl, rfl, hfirst, hsecond⟩
    cases hfirst
    simpa using hsecond
  · intro hsecond
    exact ⟨[], consumed, [], groups, rfl, by simp, .lineStart, hsecond⟩

theorem derives_lineEnd :
    Derives (.seq .lineEnd .empty) atStart ⟨consumed, rest, groups⟩ ↔
      consumed = [] ∧ rest = [] ∧ groups = [] := by
  rw [derives_seq]
  constructor
  · intro hparts
    rcases hparts with
      ⟨front, back, earlier, later, rfl, rfl, hfirst, hsecond⟩
    cases hsecond
    generalize hrest : [] ++ rest = input at hfirst
    cases hfirst
    simpa using hrest
  · intro hnothing
    rcases hnothing with ⟨rfl, rfl, rfl⟩
    exact ⟨[], [], [], [], rfl, rfl, .lineEnd, .empty⟩

/-- The pattern takes exactly the texts that satisfy `P`, wherever it stands,
and captures nothing. -/
def Takes (pattern : Pattern α) (P : List α → Prop) : Prop :=
  ∀ atStart consumed rest groups,
    Derives pattern atStart ⟨consumed, rest, groups⟩ ↔
      P consumed ∧ groups = []

theorem Takes.congr (htakes : Takes body P)
    (hiff : ∀ consumed, P consumed ↔ Q consumed) : Takes body Q := by
  intro atStart consumed rest groups
  rw [htakes, hiff]

/-- A part that captures nothing only contributes its text. -/
theorem Takes.derives_seq (hfirst : Takes first P) :
    Derives (.seq first second) atStart ⟨consumed, rest, groups⟩ ↔
      ∃ front back, consumed = front ++ back ∧ P front ∧
        Derives second (atStart && front.isEmpty) ⟨back, rest, groups⟩ := by
  rw [Regex.derives_seq]
  constructor
  · intro hparts
    rcases hparts with
      ⟨front, back, earlier, later, hconsumed, hgroups, hfront, hback⟩
    rw [hfirst] at hfront
    rw [hfront.2, List.append_nil] at hgroups
    subst hgroups
    exact ⟨front, back, hconsumed, hfront.1, hback⟩
  · intro hparts
    rcases hparts with ⟨front, back, hconsumed, hfront, hback⟩
    have hderives : Derives first atStart ⟨front, back ++ rest, []⟩ :=
      (hfirst _ _ _ _).mpr ⟨hfront, rfl⟩
    exact ⟨front, back, [], groups, hconsumed, by simp, hderives, hback⟩

theorem Takes.derives_group_seq {index : Nat} (hbody : Takes body P) :
    Derives (.seq (.group index body) second) atStart
        ⟨consumed, rest, groups⟩ ↔
      ∃ value back later, consumed = value ++ back ∧ P value ∧
        groups = later ++ [(index, value)] ∧
        Derives second (atStart && value.isEmpty) ⟨back, rest, later⟩ := by
  rw [Regex.derives_seq]
  constructor
  · intro hparts
    rcases hparts with
      ⟨value, back, earlier, later, hconsumed, hgroups, hgroup, hback⟩
    generalize hm : Match.mk value (back ++ rest) earlier = m at hgroup
    cases hgroup with
    | @group _ _ _ m hderives =>
        obtain ⟨rfl, -, rfl⟩ := Match.mk.inj hm
        have hvalue := (hbody _ _ _ _).mp hderives
        rw [hvalue.2] at hgroups
        exact ⟨_, back, later, hconsumed, hvalue.1, hgroups, hback⟩
  · intro hparts
    rcases hparts with ⟨value, back, later, hconsumed, hvalue, hgroups, hback⟩
    have hderives : Derives body atStart ⟨value, back ++ rest, []⟩ :=
      (hbody _ _ _ _).mpr ⟨hvalue, rfl⟩
    exact ⟨value, back, [(index, value)], later, hconsumed, hgroups,
      .group hderives, hback⟩

theorem Takes.seq (hfirst : Takes first P) (hsecond : Takes second Q) :
    Takes (.seq first second) fun consumed =>
      ∃ front back, consumed = front ++ back ∧ P front ∧ Q back := by
  intro atStart consumed rest groups
  rw [hfirst.derives_seq]
  constructor
  · intro hparts
    rcases hparts with ⟨front, back, hconsumed, hfront, hback⟩
    have hgroups := (hsecond _ _ _ _).mp hback
    exact ⟨⟨front, back, hconsumed, hfront, hgroups.1⟩, hgroups.2⟩
  · intro hparts
    rcases hparts with ⟨⟨front, back, hconsumed, hfront, hback⟩, hgroups⟩
    have hderives := (hsecond (atStart && front.isEmpty) back rest groups).mpr
      ⟨hback, hgroups⟩
    exact ⟨front, back, hconsumed, hfront, hderives⟩

theorem takes_empty : Takes (.empty : Pattern α) fun consumed => consumed = [] := by
  intro atStart consumed rest groups
  constructor
  · intro hderives
    cases hderives
    exact ⟨rfl, rfl⟩
  · intro hnothing
    rcases hnothing with ⟨rfl, rfl⟩
    exact .empty

theorem takes_symbol (accepts : α → Bool) :
    Takes (.symbol accepts) fun consumed =>
      ∃ a, accepts a = true ∧ consumed = [a] := by
  intro atStart consumed rest groups
  constructor
  · intro hderives
    cases hderives with
    | symbol haccepts => exact ⟨⟨_, haccepts, rfl⟩, rfl⟩
  · intro hone
    rcases hone with ⟨⟨a, haccepts, rfl⟩, rfl⟩
    exact .symbol haccepts

theorem takes_optional_symbol (accepts : α → Bool) :
    Takes (.optional (.symbol accepts)) fun consumed =>
      consumed = [] ∨ ∃ a, accepts a = true ∧ consumed = [a] := by
  intro atStart consumed rest groups
  constructor
  · generalize hm : Match.mk consumed rest groups = m
    intro hderives
    cases hderives with
    | absent =>
        obtain ⟨rfl, -, rfl⟩ := Match.mk.inj hm
        exact ⟨Or.inl rfl, rfl⟩
    | present hbody =>
        subst hm
        have hone := (takes_symbol accepts _ _ _ _).mp hbody
        exact ⟨Or.inr hone.1, hone.2⟩
  · intro htaken
    rcases htaken with ⟨rfl | ⟨a, haccepts, rfl⟩, rfl⟩
    · exact .absent
    · exact .present (.symbol haccepts) (by simp)

theorem takes_many_symbol (accepts : α → Bool) :
    Takes (.many (.symbol accepts)) fun consumed =>
      ∀ a ∈ consumed, accepts a = true := by
  intro atStart consumed rest groups
  constructor
  · generalize hpattern : Pattern.many (.symbol accepts) = pattern
    generalize hm : Match.mk consumed rest groups = m
    intro hderives
    induction hderives generalizing consumed rest groups with
    | done =>
        obtain ⟨rfl, -, rfl⟩ := Match.mk.inj hm
        exact ⟨by simp, rfl⟩
    | @more _ _ m₁ m₂ hbody _ _ _ _ ihmany =>
        cases hpattern
        obtain ⟨rfl, rfl, rfl⟩ := Match.mk.inj hm
        obtain ⟨⟨a, haccepts, hconsumed⟩, hgroups⟩ :=
          (takes_symbol accepts _ _ _ _).mp hbody
        obtain ⟨hall, hgroups'⟩ := ihmany _ _ _ rfl rfl
        rw [hconsumed, hgroups, hgroups']
        exact ⟨by simpa using ⟨haccepts, hall⟩, rfl⟩
    | _ => cases hpattern
  · intro htaken
    rcases htaken with ⟨hall, rfl⟩
    induction consumed generalizing atStart with
    | nil => exact .done
    | cons a consumed ih =>
        rcases List.forall_mem_cons.mp hall with ⟨ha, hconsumed⟩
        have hbody : Derives (.symbol accepts) atStart
            ⟨[a], consumed ++ rest, []⟩ := .symbol ha
        exact .more hbody (by simp) (ih false hconsumed) rfl

theorem takes_some_symbol (accepts : α → Bool) :
    Takes (.some (.symbol accepts)) fun consumed =>
      consumed ≠ [] ∧ ∀ a ∈ consumed, accepts a = true := by
  apply ((takes_symbol accepts).seq (takes_many_symbol accepts)).congr
  intro consumed
  cases consumed with
  | nil => simp
  | cons a consumed => simp [and_assoc]

theorem takes_literal [DecidableEq α] (word : List α) :
    Takes (.literal word) fun consumed => consumed = word := by
  induction word with
  | nil => exact takes_empty
  | cons a word ih =>
      have hparts := (takes_symbol fun b => decide (b = a)).seq ih
      apply hparts.congr
      intro consumed
      simp

end Derivations

/-! ## The first match -/

/-- The first match with which the rest of the matcher succeeds. -/
def attempt (pattern : Pattern α) (atStart : Bool) (input : List α)
    (next : Match α → Option β) : Option β :=
  (run pattern atStart input).findSome? next

theorem fullMatch_eq_attempt (pattern : Pattern α) (input : List α) :
    fullMatch pattern input =
      attempt pattern true input
        (Option.guard fun m : Match α => m.rest.isEmpty) :=
  List.find?_eq_findSome?_guard

section Attempts

variable {atStart : Bool} {input : List α} {next : Match α → Option β}

@[simp] theorem attempt_empty :
    attempt .empty atStart input next = next (Match.nothing input) := by
  simp [attempt, run]

@[simp] theorem attempt_lineStart :
    attempt .lineStart true input next = next (Match.nothing input) := by
  simp [attempt, run]

@[simp] theorem attempt_lineEnd_nil :
    attempt .lineEnd atStart [] next = next (Match.nothing []) := by
  simp [attempt, run]

@[simp] theorem attempt_symbol_nil {accepts : α → Bool} :
    attempt (.symbol accepts) atStart [] next = none := rfl

theorem attempt_symbol_cons {accepts : α → Bool} {a : α} :
    attempt (.symbol accepts) atStart (a :: input) next =
      if accepts a = true then next ⟨[a], input, []⟩ else none := by
  rw [attempt, run_symbol_cons]
  split <;> simp

@[simp] theorem attempt_seq {first second : Pattern α} :
    attempt (.seq first second) atStart input next =
      attempt first atStart input fun m =>
        attempt second (atStart && m.consumed.isEmpty) m.rest fun m' =>
          next (m.andThen m') := by
  simp only [attempt, run]
  generalize run first atStart input = found
  induction found with
  | nil => rfl
  | cons m found ih =>
      rw [List.flatMap_cons, List.findSome?_append, ih, List.findSome?_map,
        List.findSome?_cons]
      simp only [Function.comp_def]
      cases List.findSome? _ _ <;> rfl

@[simp] theorem attempt_group {index : Nat} {body : Pattern α} :
    attempt (.group index body) atStart input next =
      attempt body atStart input fun m => next (m.capture index) := by
  simp [attempt, run, List.findSome?_map, Function.comp_def]

@[simp] theorem attempt_literal [DecidableEq α] {word : List α} :
    attempt (.literal word) atStart (word ++ input) next =
      next ⟨word, input, []⟩ := by
  induction word generalizing atStart next with
  | nil => exact attempt_empty
  | cons a word ih =>
      change attempt (.seq _ (.literal word)) _ (a :: (word ++ input)) _ = _
      rw [attempt_seq, attempt_symbol_cons, if_pos (by simp), ih]
      rfl

theorem attempt_literal_of_ne [DecidableEq α] {a b : α} {word : List α}
    (hne : b ≠ a) :
    attempt (.literal (a :: word)) atStart (b :: input) next = none := by
  change attempt (.seq _ (.literal word)) _ _ _ = none
  rw [attempt_seq, attempt_symbol_cons, if_neg (by simpa using hne)]

theorem attempt_optional_symbol_present {accepts : α → Bool} {a : α} {b : β}
    (haccepts : accepts a = true) (hnext : next ⟨[a], input, []⟩ = .some b) :
    attempt (.optional (.symbol accepts)) atStart (a :: input) next =
      .some b := by
  simp [attempt, run, haccepts, hnext]

theorem attempt_optional_symbol_absent {accepts : α → Bool}
    (habsent : ∀ a ∈ input.head?, accepts a = false) :
    attempt (.optional (.symbol accepts)) atStart input next =
      next (Match.nothing input) := by
  cases input with
  | nil => simp [attempt, run]
  | cons a input => simp [attempt, run, habsent a rfl]

theorem attempt_many_symbol_cons {accepts : α → Bool} {a : α}
    (haccepts : accepts a = true) :
    attempt (.many (.symbol accepts)) atStart (a :: input) next =
      (attempt (.many (.symbol accepts)) false input fun m =>
        next (Match.andThen ⟨[a], input, []⟩ m)).or
          (next (Match.nothing (a :: input))) := by
  unfold attempt
  rw [run_many]
  simp [run_symbol_cons, haccepts, List.findSome?_map, Function.comp_def]

theorem attempt_many_symbol_stop {accepts : α → Bool}
    (hstop : ∀ a ∈ input.head?, accepts a = false) :
    attempt (.many (.symbol accepts)) atStart input next =
      next (Match.nothing input) := by
  unfold attempt
  rw [run_many]
  cases input with
  | nil => simp [run]
  | cons a input => simp [run, hstop a rfl]

end Attempts

/-! ### Repetitions of one symbol

`taken` is the longest run of accepted symbols at the front of the input. -/

section Repetitions

variable {accepts : α → Bool} {atStart : Bool} {taken rest : List α}
  {next : Match α → Option β}

/-- Where the longest run ends is determined by the input. -/
theorem taken_inj {taken' rest' : List α} {a a' : α}
    (haccepts : ∀ a ∈ taken, accepts a = true)
    (haccepts' : ∀ a ∈ taken', accepts a = true)
    (hstop : accepts a = false) (hstop' : accepts a' = false)
    (heq : taken ++ a :: rest = taken' ++ a' :: rest') :
    taken = taken' ∧ a = a' ∧ rest = rest' := by
  have htake : ∀ (taken rest : List α) (a : α), accepts a = false →
      (∀ a ∈ taken, accepts a = true) →
      (taken ++ a :: rest).takeWhile accepts = taken := by
    intro taken rest a ha htaken
    rw [List.takeWhile_append_of_pos htaken,
      List.takeWhile_cons_of_neg (by simp [ha]), List.append_nil]
  have hsame : taken = taken' := by
    rw [← htake taken rest a hstop haccepts, heq,
      htake taken' rest' a' hstop' haccepts']
  subst hsame
  simpa using heq

/-- The shorter ways to repeat do not count when what follows cannot
continue from any of them. -/
theorem attempt_many_symbol_longest
    (haccepts : ∀ a ∈ taken, accepts a = true)
    (hstop : ∀ a ∈ rest.head?, accepts a = false)
    (hshorter : ∀ front back, taken = front ++ back → back ≠ [] →
      next ⟨front, back ++ rest, []⟩ = none) :
    attempt (.many (.symbol accepts)) atStart (taken ++ rest) next =
      next ⟨taken, rest, []⟩ := by
  induction taken generalizing atStart next with
  | nil => exact attempt_many_symbol_stop hstop
  | cons a taken ih =>
      rcases List.forall_mem_cons.mp haccepts with ⟨ha, htaken⟩
      have hnone : next (Match.nothing (a :: (taken ++ rest))) = none :=
        hshorter [] (a :: taken) rfl (by simp)
      rw [List.cons_append, attempt_many_symbol_cons ha, hnone, Option.or_none]
      apply ih htaken
      intro front back heq hback
      exact hshorter (a :: front) back (by simp [heq]) hback

theorem attempt_many_symbol_shortest
    (haccepts : ∀ a ∈ taken, accepts a = true)
    (hstop : ∀ a ∈ rest.head?, accepts a = false)
    (hlonger : ∀ front back, taken = front ++ back → front ≠ [] →
      next ⟨front, back ++ rest, []⟩ = none) :
    attempt (.many (.symbol accepts)) atStart (taken ++ rest) next =
      next (Match.nothing (taken ++ rest)) := by
  induction taken generalizing atStart next with
  | nil => exact attempt_many_symbol_stop hstop
  | cons a taken ih =>
      rcases List.forall_mem_cons.mp haccepts with ⟨ha, htaken⟩
      rw [List.cons_append, attempt_many_symbol_cons ha, ih htaken]
      · have hnone : next ⟨[a], taken ++ rest, []⟩ = none :=
          hlonger [a] taken rfl (by simp)
        exact (congrArg (Option.or · _) hnone).trans rfl
      · intro front back heq hfront
        exact hlonger (a :: front) back (by simp [heq]) (by simp)

/-- Greedy choice: the longest repetition from which the rest of the matcher
succeeds is the one taken. -/
theorem attempt_many_symbol_first (front back : List α) {b : β}
    (haccepts : ∀ a ∈ front ++ back, accepts a = true)
    (hstop : ∀ a ∈ rest.head?, accepts a = false)
    (hlonger : ∀ more back', back = more ++ back' → more ≠ [] →
      next ⟨front ++ more, back' ++ rest, []⟩ = none)
    (hnext : next ⟨front, back ++ rest, []⟩ = some b) :
    attempt (.many (.symbol accepts)) atStart (front ++ (back ++ rest)) next =
      some b := by
  induction front generalizing atStart next with
  | nil =>
      rw [List.nil_append, ← hnext]
      exact attempt_many_symbol_shortest haccepts hstop hlonger
  | cons a front ih =>
      rcases List.forall_mem_cons.mp haccepts with ⟨ha, hfront⟩
      rw [List.cons_append, attempt_many_symbol_cons ha, ih hfront]
      · rfl
      · exact hlonger
      · exact hnext

theorem attempt_many_symbol_greedy {b : β}
    (haccepts : ∀ a ∈ taken, accepts a = true)
    (hstop : ∀ a ∈ rest.head?, accepts a = false)
    (hnext : next ⟨taken, rest, []⟩ = some b) :
    attempt (.many (.symbol accepts)) atStart (taken ++ rest) next =
      some b := by
  apply attempt_many_symbol_first taken []
  · simpa using haccepts
  · exact hstop
  · intro more back' heq hmore
    exact absurd (List.append_eq_nil_iff.mp heq.symm).1 hmore
  · exact hnext

theorem attempt_some_symbol_greedy {b : β}
    (hsome : taken ≠ [])
    (haccepts : ∀ a ∈ taken, accepts a = true)
    (hstop : ∀ a ∈ rest.head?, accepts a = false)
    (hnext : next ⟨taken, rest, []⟩ = some b) :
    attempt (.some (.symbol accepts)) atStart (taken ++ rest) next =
      some b := by
  cases taken with
  | nil => exact absurd rfl hsome
  | cons a taken =>
      rcases List.forall_mem_cons.mp haccepts with ⟨ha, htaken⟩
      rw [Pattern.some, attempt_seq, List.cons_append, attempt_symbol_cons,
        if_pos ha]
      exact attempt_many_symbol_greedy htaken hstop hnext

end Repetitions

end Regex
end DeviceInfoPlugin
