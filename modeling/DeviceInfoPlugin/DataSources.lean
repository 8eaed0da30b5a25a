import DeviceInfoPlugin.PropertyFiles

/-!
# Text files, the manufacturer library and RFC

The three kinds of source the text accessors draw on.  The replies of the
manufacturer library (an IARM bus call) and of RFC come from other processes,
one reply for each serialized type and for each parameter name.

A getter acts on the string of its caller, which several getters share, and
may be cut short by the copy out of the reply buffer.
-/

namespace DeviceInfoPlugin
namespace DeviceInfo

open Regex

/-- `IARM_Result_t` and `WDMP_STATUS`, of which only success is told apart. -/
inductive CallStatus
  | success
  | failure (code : Int)
deriving DecidableEq, Repr

inductive MfrSerializedType
  | serialNumber
  | modelName
  | manufacturer
  | provisionedModelName
  | pdriVersion
deriving DecidableEq, Repr

/-- `IARM_Bus_MFRLib_GetSerializedData_Param_t` after the call.  The capacity
of the buffer is its length here. -/
structure MfrReply where
  status : CallStatus
  buffer : Text
  bufLen : Int

def MfrReply.InBuffer (reply : MfrReply) : Prop :=
  0 ≤ reply.bufLen ∧ reply.bufLen ≤ reply.buffer.length

instance (reply : MfrReply) : Decidable reply.InBuffer :=
  inferInstanceAs (Decidable (_ ∧ _))

/-- The copy out of the reply stays inside the buffer if there is one. -/
def MfrReply.Copyable (reply : MfrReply) : Prop :=
  reply.status = .success → reply.InBuffer

theorem MfrReply.InBuffer.copyable {reply : MfrReply}
    (hbuffer : reply.InBuffer) : reply.Copyable :=
  fun _ => hbuffer

/-- `RFC_ParamData_t` after the call; `value` is the whole character array. -/
structure RfcReply where
  status : CallStatus
  value : Text
  terminated : '\x00' ∈ value

def cString (characters : Text) : Text :=
  characters.takeWhile fun c => c ≠ '\x00'

structure Device where
  files : FileSystem
  mfr : MfrSerializedType → MfrReply
  rfc : String → RfcReply

inductive CopyFault
  | lengthError
  | outOfBounds
deriving DecidableEq, Repr

/-- `std::string::assign(buffer, count)`.  A negative count becomes a size
above `max_size`. -/
def assignFrom (buffer : Text) (count : Int) : Except CopyFault Text :=
  if count < 0 then
    .error .lengthError
  else if buffer.length < count then
    .error .outOfBounds
  else
    .ok (buffer.take count.toNat)

/-- A call with an output string: the result and what it leaves there. -/
abbrev Getter := Text → Except CopyFault (Hresult × Text)

def getMFRData (device : Device) (type : MfrSerializedType) : Getter :=
  fun response => do
    let param := device.mfr type
    if param.status = .success ∧ param.bufLen ≠ 0 then
      let response ← assignFrom param.buffer param.bufLen
      return (ERROR_NONE, response)
    else
      return (ERROR_GENERAL, response)

def getRFCData (device : Device) (name : String) : Getter :=
  fun response => do
    let param := device.rfc name
    if param.status = .success ∧ param.value.head? ≠ some '\x00' then
      return (ERROR_NONE, cString param.value)
    else
      return (ERROR_GENERAL, response)

def readFile (device : Device) (filename : String) (regex : Pattern Char) :
    Getter :=
  fun response => return getFileRegex device.files filename regex response

namespace Getter

/-- `first == Core::ERROR_NONE ? Core::ERROR_NONE : second` on one string. -/
def orElse (first second : Getter) : Getter :=
  fun response => do
    let (result, response) ← first response
    if result = ERROR_NONE then
      return (ERROR_NONE, response)
    else
      second response

/-- The getter succeeds with `value`, or fails and leaves the string alone. -/
def Offers (getter : Getter) (value : Option Text) : Prop :=
  ∀ response, getter response = .ok (reported value response)

section OrElse

variable {first second : Getter} {response response' : Text}

theorem orElse_of_error {fault : CopyFault}
    (hfirst : first response = .error fault) :
    first.orElse second response = .error fault := by
  simp [orElse, hfirst, bind, Except.bind]

theorem orElse_of_found
    (hfirst : first response = .ok (ERROR_NONE, response')) :
    first.orElse second response = .ok (ERROR_NONE, response') := by
  simp [orElse, hfirst, bind, Except.bind, pure, Except.pure]

theorem orElse_of_unavailable
    (hfirst : first response = .ok (ERROR_GENERAL, response')) :
    first.orElse second response = second response' := by
  simp [orElse, hfirst, bind, Except.bind]

end OrElse

end Getter

/-! ## What the sources offer -/

def MfrReply.offered (reply : MfrReply) : Option Text :=
  if reply.status = .success ∧ reply.bufLen ≠ 0 then
    some (reply.buffer.take reply.bufLen.toNat)
  else
    none

def RfcReply.offered (reply : RfcReply) : Option Text :=
  if reply.status = .success ∧ cString reply.value ≠ [] then
    some (cString reply.value)
  else
    none

theorem assignFrom_of_inBuffer {reply : MfrReply} (hbuffer : reply.InBuffer) :
    assignFrom reply.buffer reply.bufLen =
      .ok (reply.buffer.take reply.bufLen.toNat) := by
  rw [assignFrom, if_neg (Int.not_lt.mpr hbuffer.1),
    if_neg (Int.not_lt.mpr hbuffer.2)]

theorem getMFRData_offers {device : Device} {type : MfrSerializedType}
    (hcopyable : (device.mfr type).Copyable) :
    (getMFRData device type).Offers (device.mfr type).offered := by
  intro response
  rw [getMFRData, MfrReply.offered]
  by_cases havailable :
      (device.mfr type).status = .success ∧ (device.mfr type).bufLen ≠ 0
  · have hbuffer := hcopyable havailable.1
    rw [if_pos havailable, if_pos havailable, assignFrom_of_inBuffer hbuffer]
    rfl
  · rw [if_neg havailable, if_neg havailable]
    rfl

theorem getMFRData_fails {device : Device} {type : MfrSerializedType}
    (hcopyable : ¬ (device.mfr type).Copyable) (response : Text) :
    ∃ fault, getMFRData device type response = .error fault := by
  rw [MfrReply.Copyable, Classical.not_imp] at hcopyable
  rcases hcopyable with ⟨hstatus, hbuffer⟩
  have hlength : (device.mfr type).bufLen ≠ 0 := by
    intro hzero
    apply hbuffer
    simp [MfrReply.InBuffer, hzero]
  rw [getMFRData, if_pos ⟨hstatus, hlength⟩, assignFrom]
  by_cases hnegative : (device.mfr type).bufLen < 0
  · rw [if_pos hnegative]
    exact ⟨.lengthError, rfl⟩
  · have hbeyond : ((device.mfr type).buffer.length : Int) <
        (device.mfr type).bufLen := by
      apply Int.not_le.mp
      intro hlength
      exact hbuffer ⟨Int.not_lt.mp hnegative, hlength⟩
    rw [if_neg hnegative, if_pos hbeyond]
    exact ⟨.outOfBounds, rfl⟩

theorem cString_append {text : Text} (htext : '\x00' ∉ text) (more : Text) :
    cString (text ++ more) = text ++ cString more := by
  apply List.takeWhile_append_of_pos
  intro c hc
  exact decide_eq_true (ne_of_mem_of_not_mem hc htext)

@[simp] theorem cString_terminator (more : Text) :
    cString ('\x00' :: more) = [] := rfl

theorem cString_of_notMem {text : Text} (htext : '\x00' ∉ text) :
    cString text = text := by
  have happend := cString_append htext []
  simpa [cString] using happend

/-- The test of the first character finds out whether the string is empty. -/
theorem cString_eq_nil_iff (reply : RfcReply) :
    cString reply.value = [] ↔ reply.value.head? = some '\x00' := by
  rcases reply with ⟨status, value, hterminated⟩
  cases value with
  | nil => simp at hterminated
  | cons c rest => simp [cString, List.takeWhile_cons]

theorem getRFCData_offers (device : Device) (name : String) :
    (getRFCData device name).Offers (device.rfc name).offered := by
  intro response
  have hempty := not_congr (cString_eq_nil_iff (device.rfc name))
  rw [getRFCData, RfcReply.offered]
  by_cases havailable :
      (device.rfc name).status = .success ∧ cString (device.rfc name).value ≠ []
  · rw [if_pos havailable, if_pos (havailable.imp_right hempty.mp)]
    rfl
  · rw [if_neg havailable, if_neg (mt (And.imp_right hempty.mpr) havailable)]
    rfl

theorem readFile_offers (device : Device) (filename : String)
    (regex : Pattern Char) :
    (readFile device filename regex).Offers
      (lookup device.files filename regex) := by
  intro response
  rw [readFile, getFileRegex_eq_reported]
  rfl

theorem MfrReply.offered_ne_nil {reply : MfrReply}
    (hcopyable : reply.Copyable) {value : Text}
    (hvalue : reply.offered = some value) : value ≠ [] := by
  rw [MfrReply.offered] at hvalue
  split at hvalue
  next havailable =>
    rcases hcopyable havailable.1 with ⟨hnonneg, hlength⟩
    have heq := Option.some.inj hvalue
    have hlength : (reply.buffer.take reply.bufLen.toNat).length ≠ 0 := by
      rw [List.length_take]
      omega
    rw [← heq]
    intro hnil
    exact hlength (congrArg List.length hnil)
  next => contradiction

theorem RfcReply.offered_ne_nil {reply : RfcReply} {value : Text}
    (hvalue : reply.offered = some value) : value ≠ [] := by
  rw [RfcReply.offered] at hvalue
  split at hvalue
  next havailable =>
    rw [← Option.some.inj hvalue]
    exact havailable.2
  next => contradiction

end DeviceInfo
end DeviceInfoPlugin
