import Mathlib.Data.List.Basic

/-!
# Reading in pieces

A stream is read piece by piece until nothing is left.  A reader carries the
two facts that a read loop needs: it finds the end exactly when the stream is
empty, and otherwise takes a non-empty piece off its front.  However it cuts
the stream, the pieces make up the whole.
-/

namespace DeviceInfoPlugin
namespace PiecewiseRead

variable {α : Type}

structure Reader (α : Type) where
  next : List α → Option (List α × List α)
  ends : ∀ stream, next stream = none ↔ stream = []
  splits : ∀ stream piece rest, next stream = some (piece, rest) →
    piece ≠ [] ∧ piece ++ rest = stream

theorem Reader.length_lt (reader : Reader α) {stream piece rest : List α}
    (hnext : reader.next stream = some (piece, rest)) :
    rest.length < stream.length := by
  obtain ⟨hpiece, hsplit⟩ := reader.splits stream piece rest hnext
  have hlength := List.length_pos_iff.mpr hpiece
  rw [← hsplit, List.length_append]
  omega

theorem Reader.induction (reader : Reader α) {motive : List α → Prop}
    (stop : ∀ stream, reader.next stream = none → motive stream)
    (step : ∀ stream piece rest, reader.next stream = some (piece, rest) →
      motive rest → motive stream) (stream : List α) : motive stream := by
  induction hlength : stream.length using Nat.strongRecOn generalizing stream with
  | ind n ih =>
      cases hnext : reader.next stream with
      | none => exact stop stream hnext
      | some read =>
          rcases read with ⟨piece, rest⟩
          have hlt := reader.length_lt hnext
          exact step stream piece rest hnext (ih _ (by omega) rest rfl)

/-! ## Lines of a limited length -/

/-- The front of the stream up to the first symbol that ends a piece, at most
`room` symbols of it, and the rest. -/
def upTo (stops : α → Bool) : Nat → List α → List α × List α
  | 0, stream => ([], stream)
  | _, [] => ([], [])
  | room + 1, a :: stream =>
      if stops a then
        ([a], stream)
      else
        let (piece, rest) := upTo stops room stream
        (a :: piece, rest)

section UpTo

variable (stops : α → Bool)

theorem upTo_append (room : Nat) (stream : List α) :
    (upTo stops room stream).1 ++ (upTo stops room stream).2 = stream := by
  induction stream generalizing room with
  | nil => cases room <;> rfl
  | cons a stream ih =>
      cases room with
      | zero => rfl
      | succ room =>
          rw [upTo]
          split
          next => rfl
          next => rw [List.cons_append, ih]

/-- A piece fills the room or ends with a stop or with the stream, and has no
stop before its end. -/
theorem upTo_piece (room : Nat) (stream : List α) :
    (upTo stops room stream).1.length ≤ room ∧
      (∀ a ∈ (upTo stops room stream).1.dropLast, stops a = false) ∧
      ((upTo stops room stream).1.length = room ∨
        (∃ a ∈ (upTo stops room stream).1.getLast?, stops a = true) ∨
        (upTo stops room stream).2 = []) := by
  induction stream generalizing room with
  | nil => cases room <;> simp [upTo]
  | cons a stream ih =>
      cases room with
      | zero => simp [upTo]
      | succ room =>
          rw [upTo]
          split
          next hstop => simp [hstop]
          next hstop =>
            obtain ⟨hlength, hfront, hend⟩ := ih room
            generalize upTo stops room stream = read at hlength hfront hend
            rcases read with ⟨piece, rest⟩
            cases piece with
            | nil =>
                refine ⟨by simp, by simp, ?_⟩
                rcases hend with hfull | hlast | hrest
                · exact Or.inl (by simp [← hfull])
                · simp at hlast
                · exact Or.inr (Or.inr hrest)
            | cons b piece =>
                refine ⟨by simpa using hlength, ?_, ?_⟩
                · rw [List.dropLast_cons_cons]
                  exact List.forall_mem_cons.mpr ⟨by simpa using hstop, hfront⟩
                · rcases hend with hfull | hlast | hrest
                  · exact Or.inl (by simpa using hfull)
                  · exact Or.inr (Or.inl (by simpa using hlast))
                  · exact Or.inr (Or.inr hrest)

theorem upTo_ne_nil {room : Nat} (hroom : 0 < room) {stream : List α}
    (hstream : stream ≠ []) : (upTo stops room stream).1 ≠ [] := by
  obtain ⟨a, stream, rfl⟩ := List.exists_cons_of_ne_nil hstream
  obtain ⟨room, rfl⟩ := Nat.exists_eq_succ_of_ne_zero (by omega : room ≠ 0)
  rw [upTo]
  split <;> simp

/-- The reader of lines that are cut where the room is used up. -/
def lineReader (room : Nat) (hroom : 0 < room) : Reader α where
  next := fun stream =>
    match stream with
    | [] => none
    | _ :: _ => some (upTo stops room stream)
  ends := by
    intro stream
    cases stream <;> simp
  splits := by
    intro stream piece rest hnext
    cases stream with
    | nil => simp at hnext
    | cons a stream =>
        have hread := Option.some.inj hnext
        have hpiece := upTo_ne_nil stops hroom
          (List.cons_ne_nil a stream)
        have hsplit := upTo_append stops room (a :: stream)
        rw [hread] at hpiece hsplit
        exact ⟨hpiece, hsplit⟩

theorem lineReader_piece {room : Nat} (hroom : 0 < room)
    {stream piece rest : List α}
    (hnext : (lineReader stops room hroom).next stream = some (piece, rest)) :
    piece.length ≤ room ∧ (∀ a ∈ piece.dropLast, stops a = false) ∧
      (piece.length = room ∨ (∃ a ∈ piece.getLast?, stops a = true) ∨
        rest = []) := by
  cases stream with
  | nil => simp [lineReader] at hnext
  | cons a stream =>
      have hread := Option.some.inj hnext
      have hpiece := upTo_piece stops room (a :: stream)
      rw [hread] at hpiece
      exact hpiece

/-! ## The cut of a stream -/

def Closed (room : Nat) (piece : List α) : Prop :=
  piece.length = room ∨ ∃ a ∈ piece.getLast?, stops a = true

/-- `pieces` make up the stream, none has a stop before its end or is longer
than the room, and all but the last are closed. -/
structure Cut (room : Nat) (stream : List α) (pieces : List (List α)) :
    Prop where
  whole : pieces.flatten = stream
  nonempty : ∀ piece ∈ pieces, piece ≠ []
  fits : ∀ piece ∈ pieces, piece.length ≤ room
  inner : ∀ piece ∈ pieces, ∀ a ∈ piece.dropLast, stops a = false
  closed : ∀ piece ∈ pieces.dropLast, Closed stops room piece

section Cut

variable {stops} {room : Nat} {stream piece : List α} {pieces : List (List α)}

theorem Cut.tail (hcut : Cut stops room stream (piece :: pieces)) :
    Cut stops room pieces.flatten pieces where
  whole := rfl
  nonempty := fun p hp => hcut.nonempty p (List.mem_cons_of_mem piece hp)
  fits := fun p hp => hcut.fits p (List.mem_cons_of_mem piece hp)
  inner := fun p hp => hcut.inner p (List.mem_cons_of_mem piece hp)
  closed := by
    intro p hp
    cases pieces with
    | nil => simp at hp
    | cons second pieces =>
        apply hcut.closed
        rw [List.dropLast_cons_cons]
        exact List.mem_cons_of_mem piece hp

/-- A piece does not go on behind a closed front. -/
theorem not_closed_of_prefix {front more : List α} (hmore : more ≠ [])
    (hfits : (front ++ more).length ≤ room)
    (hinner : ∀ a ∈ (front ++ more).dropLast, stops a = false) :
    ¬ Closed stops room front := by
  have hlength := List.length_pos_iff.mpr hmore
  rw [List.length_append] at hfits
  rintro (hfull | ⟨a, ha, hstop⟩)
  · omega
  · have hmem : a ∈ (front ++ more).dropLast := by
      rw [List.dropLast_append_of_ne_nil hmore]
      exact List.mem_append_left _ (List.mem_of_getLast? ha)
    rw [hinner a hmem] at hstop
    contradiction

/-- The reader takes the first piece of the cut, so there is only one cut. -/
theorem Cut.next (hroom : 0 < room)
    (hcut : Cut stops room stream (piece :: pieces)) :
    (lineReader stops room hroom).next stream =
      some (piece, pieces.flatten) := by
  have hpiece : piece ≠ [] := hcut.nonempty piece List.mem_cons_self
  have hwhole : piece ++ pieces.flatten = stream := hcut.whole
  cases hnext : (lineReader stops room hroom).next stream with
  | none =>
      have hempty := ((lineReader stops room hroom).ends stream).mp hnext
      rw [hempty, List.append_eq_nil_iff] at hwhole
      exact absurd hwhole.1 hpiece
  | some read =>
      rcases read with ⟨front, rest⟩
      obtain ⟨-, hsplit⟩ :=
        (lineReader stops room hroom).splits stream front rest hnext
      obtain ⟨hfits, hinner, hend⟩ := lineReader_piece stops hroom hnext
      rw [← hwhole] at hsplit
      rcases List.append_eq_append_iff.mp hsplit with
        ⟨more, hmore, hrest⟩ | ⟨more, hmore, hrest⟩
      · by_cases hnil : more = []
        · simp [hmore, hrest, hnil]
        · -- the reader would have stopped at a front that is not closed
          have hopen : ¬ Closed stops room front := by
            apply not_closed_of_prefix hnil
            · exact hmore ▸ hcut.fits piece List.mem_cons_self
            · exact hmore ▸ hcut.inner piece List.mem_cons_self
          rw [← or_assoc] at hend
          have hempty := hend.resolve_left hopen
          simp [hempty, hnil] at hrest
      · by_cases hnil : more = []
        · simp [hmore, hrest, hnil]
        · -- and the cut would end with a piece that is not closed
          have hopen : ¬ Closed stops room piece := by
            apply not_closed_of_prefix hnil
            · exact hmore ▸ hfits
            · exact hmore ▸ hinner
          cases pieces with
          | nil => simp [hnil] at hrest
          | cons second pieces =>
              exact absurd (hcut.closed piece (by simp)) hopen

theorem exists_cut (hroom : 0 < room) (stream : List α) :
    ∃ pieces, Cut stops room stream pieces := by
  induction stream using (lineReader stops room hroom).induction with
  | stop stream hnext =>
      have hempty := ((lineReader stops room hroom).ends stream).mp hnext
      rw [hempty]
      exact ⟨[], by constructor <;> simp⟩
  | step stream piece rest hnext ih =>
      obtain ⟨pieces, hcut⟩ := ih
      obtain ⟨hpiece, hsplit⟩ :=
        (lineReader stops room hroom).splits stream piece rest hnext
      obtain ⟨hfits, hinner, hend⟩ := lineReader_piece stops hroom hnext
      refine ⟨piece :: pieces, ?_⟩
      constructor
      case whole => rw [List.flatten_cons, hcut.whole, hsplit]
      case nonempty => exact List.forall_mem_cons.mpr ⟨hpiece, hcut.nonempty⟩
      case fits => exact List.forall_mem_cons.mpr ⟨hfits, hcut.fits⟩
      case inner => exact List.forall_mem_cons.mpr ⟨hinner, hcut.inner⟩
      case closed =>
        cases pieces with
        | nil => simp
        | cons second pieces =>
            have hrest : rest ≠ [] := by
              rw [← hcut.whole, List.flatten_cons]
              simp [hcut.nonempty second List.mem_cons_self]
            rw [← or_assoc] at hend
            rw [List.dropLast_cons_cons]
            exact List.forall_mem_cons.mpr
              ⟨hend.resolve_right hrest, hcut.closed⟩

end Cut

end UpTo

end PiecewiseRead
end DeviceInfoPlugin
