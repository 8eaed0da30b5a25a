import DeviceInfoPlugin.CoreResult
import DeviceInfoPlugin.DataSources
import DeviceInfoPlugin.PiecewiseRead

/-!
# The device details

`EthMac`, `EstbMac`, `WifiMac` and `EstbIp` read what a script writes into a
pipe, one buffer at a time, and store the whole without its final newline.
The calls that concern the pipe are recorded in their order.
-/

namespace DeviceInfoPlugin
namespace DeviceInfo

open PiecewiseRead

inductive PipeEvent
  | popen (command : String) (opened : Bool)
  | fgets (piece : Option Text)
  | pclose
deriving DecidableEq

/-- A call, with what it leaves in the field of its output record. -/
structure DetailsCall where
  events : List PipeEvent
  result : Hresult
  field : Text
deriving DecidableEq

/-- `fgets` on a `char` array of 256: the last place is for the terminator. -/
def fgets : Reader Char :=
  lineReader (fun c => c = '\n') 255 (by decide)

/-- The buffer after `fgets`: the piece, the terminator and what was there. -/
def stored (piece buffer : Text) : Text :=
  piece ++ '\x00' :: buffer.drop (piece.length + 1)

/-- `while (fgets(...) != nullptr) oss << buffer`, on a pipe that still holds
`stream`. -/
def readLoop (reader : Reader Char) (stream buffer oss : Text) :
    List PipeEvent × Text :=
  match _hnext : reader.next stream with
  | none => ([.fgets none], oss)
  | some (piece, rest) =>
      let buffer := stored piece buffer
      let (events, text) := readLoop reader rest buffer (oss ++ cString buffer)
      (.fgets (some piece) :: events, text)
termination_by stream.length
decreasing_by exact reader.length_lt _hnext

/-- `popen` is the output of each command whose pipe can be opened, and
`buffer` the array as the function finds it. -/
def readDetails (reader : Reader Char) (popen : String → Option Text)
    (buffer : Text) (command : String) (field : Text) : DetailsCall :=
  match popen command with
  | none => ⟨[.popen command false], ERROR_GENERAL, field⟩
  | some stream =>
      let (events, text) := readLoop reader stream buffer []
      let field := text
      let field :=
        if field ≠ [] ∧ field.getLast? = some '\n' then field.dropLast else field
      ⟨.popen command true :: events ++ [.pclose], ERROR_NONE, field⟩

section Accessors

variable (reader : Reader Char) (popen : String → Option Text)
  (buffer field : Text)

def ethMac : DetailsCall :=
  readDetails reader popen buffer
    "/lib/rdk/getDeviceDetails.sh read eth_mac" field

def estbMac : DetailsCall :=
  readDetails reader popen buffer
    "/lib/rdk/getDeviceDetails.sh read estb_mac" field

def wifiMac : DetailsCall :=
  readDetails reader popen buffer
    "/lib/rdk/getDeviceDetails.sh read wifi_mac" field

def estbIp : DetailsCall :=
  readDetails reader popen buffer
    "/lib/rdk/getDeviceDetails.sh read estb_ip" field

end Accessors

inductive Detail
  | ethMac
  | estbMac
  | wifiMac
  | estbIp
deriving DecidableEq, Repr

/-- What the script is asked to read. -/
def Detail.key : Detail → String
  | ethMac => "eth_mac"
  | estbMac => "estb_mac"
  | wifiMac => "wifi_mac"
  | estbIp => "estb_ip"

def Detail.command (detail : Detail) : String :=
  "/lib/rdk/getDeviceDetails.sh read " ++ detail.key

def Detail.call (reader : Reader Char) (popen : String → Option Text)
    (buffer field : Text) : Detail → DetailsCall
  | ethMac => DeviceInfo.ethMac reader popen buffer field
  | estbMac => DeviceInfo.estbMac reader popen buffer field
  | wifiMac => DeviceInfo.wifiMac reader popen buffer field
  | estbIp => DeviceInfo.estbIp reader popen buffer field

theorem Detail.call_eq (detail : Detail) (reader : Reader Char)
    (popen : String → Option Text) (buffer field : Text) :
    detail.call reader popen buffer field =
      readDetails reader popen buffer detail.command field := by
  cases detail <;> rfl

/-! ## The contract -/

/-- `value` is `text` without the newline at its end, if there is one. -/
def DropsFinalNewline (text value : Text) : Prop :=
  text = value ++ ['\n'] ∨ (text = value ∧ text.getLast? ≠ some '\n')

@[simp] def PipeEvent.opens : PipeEvent → Bool
  | popen _ opened => opened
  | fgets _ => false
  | pclose => false

/-- A call whose pipe carries `output`, if it can be opened at all. -/
structure ReportsDetails (command : String) (output : Option Text)
    (field : Text) (call : DetailsCall) : Prop where
  opened : ∀ text, output = some text →
    call.result = ERROR_NONE ∧ DropsFinalNewline text call.field
  notOpened : output = none →
    call.result = ERROR_GENERAL ∧ call.field = field
  asks : call.events.head? = some (.popen command output.isSome)
  opens : call.events.countP PipeEvent.opens = if output.isSome then 1 else 0
  closes : call.events.count .pclose = call.events.countP PipeEvent.opens

/-! ## The read loop -/

theorem cString_stored {piece : Text} (hpiece : '\x00' ∉ piece)
    (buffer : Text) : cString (stored piece buffer) = piece := by
  rw [stored, cString_append hpiece, cString_terminator, List.append_nil]

section ReadLoop

variable (reader : Reader Char)

theorem readLoop_of_end {stream : Text} (hnext : reader.next stream = none)
    (buffer oss : Text) :
    readLoop reader stream buffer oss = ([.fgets none], oss) := by
  rw [readLoop]
  split
  next => rfl
  next piece rest hread => simp [hnext] at hread

theorem readLoop_of_piece {stream piece rest : Text}
    (hnext : reader.next stream = some (piece, rest)) (buffer oss : Text) :
    readLoop reader stream buffer oss =
      let loop := readLoop reader rest (stored piece buffer)
        (oss ++ cString (stored piece buffer))
      (.fgets (some piece) :: loop.1, loop.2) := by
  rw [readLoop]
  split
  next hread => simp [hnext] at hread
  next piece' rest' hread =>
    rw [hnext] at hread
    cases hread
    rfl

/-- The pieces that are appended make up what was left in the pipe. -/
theorem readLoop_text (stream : Text) (hstream : '\x00' ∉ stream)
    (buffer oss : Text) :
    (readLoop reader stream buffer oss).2 = oss ++ stream := by
  induction stream using reader.induction generalizing buffer oss with
  | stop stream hnext =>
      rw [readLoop_of_end reader hnext, (reader.ends stream).mp hnext,
        List.append_nil]
  | step stream piece rest hnext ih =>
      obtain ⟨-, rfl⟩ := reader.splits stream piece rest hnext
      rw [List.mem_append, not_or] at hstream
      rw [readLoop_of_piece reader hnext, cString_stored hstream.1]
      calc
        (readLoop reader rest (stored piece buffer) (oss ++ piece)).2 =
            oss ++ piece ++ rest := ih hstream.2 _ _
        _ = oss ++ (piece ++ rest) := List.append_assoc _ _ _

theorem readLoop_events (stream buffer oss : Text) :
    ∀ event ∈ (readLoop reader stream buffer oss).1,
      ∃ piece, event = .fgets piece := by
  induction stream using reader.induction generalizing buffer oss with
  | stop stream hnext =>
      rw [readLoop_of_end reader hnext]
      simp
  | step stream piece rest hnext ih =>
      rw [readLoop_of_piece reader hnext]
      intro event hmem
      rcases List.mem_cons.mp hmem with rfl | hmem
      · exact ⟨some piece, rfl⟩
      · exact ih _ _ event hmem

theorem readLoop_count (stream buffer oss : Text) :
    (readLoop reader stream buffer oss).1.countP PipeEvent.opens = 0 ∧
      (readLoop reader stream buffer oss).1.count .pclose = 0 := by
  have hreads := readLoop_events reader stream buffer oss
  constructor
  · apply List.countP_eq_zero.mpr
    intro event hmem
    obtain ⟨piece, rfl⟩ := hreads event hmem
    simp
  · apply List.count_eq_zero.mpr
    intro hmem
    obtain ⟨piece, hpiece⟩ := hreads _ hmem
    cases hpiece

end ReadLoop

/-- The cut of an output by `fgets` into its buffer of 256. -/
abbrev FgetsPieces (stream : Text) (pieces : List Text) : Prop :=
  Cut (fun c => c = '\n') 255 stream pieces

theorem readLoop_of_fgetsPieces {stream : Text} {pieces : List Text}
    (hpieces : FgetsPieces stream pieces) (buffer oss : Text) :
    (readLoop fgets stream buffer oss).1 =
      pieces.map (fun piece => .fgets (some piece)) ++ [.fgets none] := by
  induction pieces generalizing stream buffer oss with
  | nil =>
      have hnext : fgets.next stream = none :=
        (fgets.ends stream).mpr hpieces.whole.symm
      rw [readLoop_of_end fgets hnext]
      rfl
  | cons piece pieces ih =>
      have hnext : fgets.next stream = some (piece, pieces.flatten) :=
        hpieces.next (by decide)
      rw [readLoop_of_piece fgets hnext]
      dsimp only
      rw [ih hpieces.tail]
      rfl

/-! ## The four accessors -/

theorem dropsFinalNewline_dropLast (text : Text) :
    DropsFinalNewline text
      (if text ≠ [] ∧ text.getLast? = some '\n' then text.dropLast
        else text) := by
  by_cases hlast : text.getLast? = some '\n'
  · have hne : text ≠ [] := by
      intro hnil
      simp [hnil] at hlast
    rw [if_pos ⟨hne, hlast⟩]
    exact Or.inl (List.dropLast_append_getLast? '\n' hlast).symm
  · rw [if_neg (fun h => hlast h.2)]
    exact Or.inr ⟨rfl, hlast⟩

/-- Nothing but the text decides what is stored. -/
theorem DropsFinalNewline.unique {text value value' : Text}
    (hvalue : DropsFinalNewline text value)
    (hvalue' : DropsFinalNewline text value') : value = value' := by
  rcases hvalue with rfl | ⟨rfl, hlast⟩
  · rcases hvalue' with hsame | ⟨-, hlast⟩
    · exact List.append_cancel_right hsame
    · exact absurd List.getLast?_concat hlast
  · rcases hvalue' with rfl | ⟨rfl, -⟩
    · exact absurd List.getLast?_concat hlast
    · rfl

theorem readDetails_reports (reader : Reader Char)
    (popen : String → Option Text) (buffer : Text) (command : String)
    (field : Text) (htext : ∀ text ∈ popen command, '\x00' ∉ text) :
    ReportsDetails command (popen command) field
      (readDetails reader popen buffer command field) := by
  cases hopen : popen command with
  | none =>
      have hcall : readDetails reader popen buffer command field =
          ⟨[.popen command false], ERROR_GENERAL, field⟩ := by
        simp [readDetails, hopen]
      rw [hcall]
      constructor <;> simp
  | some stream =>
      have hstream := htext stream hopen
      obtain ⟨hopens, hcloses⟩ := readLoop_count reader stream buffer []
      have hread := readLoop_text reader stream hstream buffer []
      rw [List.nil_append] at hread
      simp only [readDetails, hopen, hread]
      constructor
      case opened =>
        intro text htext
        cases htext
        exact ⟨rfl, dropsFinalNewline_dropLast stream⟩
      case notOpened => simp
      case asks => simp
      case opens =>
        rw [List.countP_append, List.countP_cons_of_pos rfl, hopens]
        rfl
      case closes =>
        rw [List.countP_append, List.countP_cons_of_pos rfl, hopens,
          List.count_append, List.count_cons_of_ne (by simp), hcloses]
        rfl

/-- However the output is cut into pieces, each accessor reports the whole. -/
theorem details_report (detail : Detail) (reader : Reader Char)
    (popen : String → Option Text)
    (hpopen : ∀ command, ∀ text ∈ popen command, '\x00' ∉ text)
    (buffer field : Text) :
    ReportsDetails detail.command (popen detail.command) field
      (detail.call reader popen buffer field) := by
  rw [detail.call_eq]
  exact readDetails_reports reader popen buffer detail.command field
    (hpopen detail.command)

/-- A script that writes one line of 300 characters. -/
def longLine (_command : String) : Option Text :=
  some (List.replicate 300 'a' ++ ['\n'])

theorem nul_notMem_longLine (command : String) :
    ∀ text ∈ longLine command, '\x00' ∉ text := by
  intro text htext hmem
  cases htext
  rcases List.mem_append.mp hmem with hline | hnewline
  · exact absurd (List.eq_of_mem_replicate hline) (by decide)
  · exact absurd (List.mem_singleton.mp hnewline) (by decide)

theorem details_report_long_line :
    (Detail.ethMac.call fgets longLine [] "old".toList).field =
      List.replicate 300 'a' := by
  have hreport := details_report .ethMac fgets longLine nul_notMem_longLine []
    "old".toList
  exact (hreport.opened _ rfl).2.unique (Or.inl rfl)

/-- What each accessor asks of its pipe: `popen` alone if the pipe cannot be
opened, and otherwise `fgets` for every piece of the one cut of the output, then
once more at the end, then `pclose`. -/
theorem details_events (detail : Detail) (popen : String → Option Text)
    (buffer field : Text) :
    match popen detail.command with
    | none =>
        (detail.call fgets popen buffer field).events =
          [.popen detail.command false]
    | some stream =>
        (∃ pieces, FgetsPieces stream pieces) ∧
          ∀ pieces, FgetsPieces stream pieces →
            (detail.call fgets popen buffer field).events =
              .popen detail.command true ::
                (pieces.map (fun piece => .fgets (some piece)) ++
                  [.fgets none, .pclose]) := by
  rw [detail.call_eq]
  cases hopen : popen detail.command with
  | none => simp [readDetails, hopen]
  | some stream =>
      refine ⟨exists_cut (by decide) stream, ?_⟩
      intro pieces hpieces
      simp only [readDetails, hopen]
      rw [readLoop_of_fgetsPieces hpieces]
      simp

theorem details_events_long_line :
    (Detail.ethMac.call fgets longLine [] []).events =
      [.popen "/lib/rdk/getDeviceDetails.sh read eth_mac" true,
        .fgets (some (List.replicate 255 'a')),
        .fgets (some (List.replicate 45 'a' ++ ['\n'])), .fgets none, .pclose] := by
  have hpieces : FgetsPieces (List.replicate 300 'a' ++ ['\n'])
      [List.replicate 255 'a', List.replicate 45 'a' ++ ['\n']] := by
    -- 300 characters, 255 of them in the first piece
    have hline : List.replicate 300 'a' =
        List.replicate 255 'a' ++ List.replicate 45 'a' := by
      rw [List.replicate_append_replicate]
    constructor
    case whole =>
      rw [hline, List.append_assoc]
      simp [-List.reduceReplicate]
    case nonempty => simp [-List.reduceReplicate]
    case fits => simp [-List.reduceReplicate]
    case inner => simp [-List.reduceReplicate, List.dropLast_replicate]
    case closed => simp [-List.reduceReplicate, Closed]
  have hevents := details_events .ethMac longLine [] []
  exact hevents.2 _ hpieces

end DeviceInfo
end DeviceInfoPlugin
