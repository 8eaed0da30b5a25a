import DeviceInfoPlugin.FlagWord
import DeviceInfoPlugin.QueryOutcomes

/-!
# The capability words

`AudioCapabilities` and `MS12Capabilities` decode a word of Device Settings bit
by bit, but decide from the whole word whether to report that there is no
capability.  A word with none but unknown bits is therefore reported as an
empty list.
-/

namespace DeviceInfoPlugin
namespace DeviceSettings

open DeviceInfo (Text)
open FlagWord
open Unreliable

def AudioSupport.bit (bits : AudioSupport) : AudioCapability → Word
  | .none => bits.none
  | .atmos => bits.atmos
  | .dd => bits.dd
  | .ddplus => bits.ddplus
  | .dad => bits.dad
  | .dapv2 => bits.dapv2
  | .ms12 => bits.ms12

def AudioSupport.flags (bits : AudioSupport) : Flags AudioCapability 32 where
  none := .none
  known := [.atmos, .dd, .ddplus, .dad, .dapv2, .ms12]
  bit := bits.bit
  none_notMem := by decide
  nodup := by decide

def MS12Support.bit (bits : MS12Support) : MS12Capability → Word
  | .none => bits.none
  | .dolbyVolume => bits.dolbyVolume
  | .inteligentEqualizer => bits.inteligentEqualizer
  | .dialogueEnhancer => bits.dialogueEnhancer

def MS12Support.flags (bits : MS12Support) : Flags MS12Capability 32 where
  none := .none
  known := [.dolbyVolume, .inteligentEqualizer, .dialogueEnhancer]
  bit := bits.bit
  none_notMem := by decide
  nodup := by decide

theorem foldl_emplaceIf {α : Type} (p : α → Prop) [DecidablePred p]
    (items list : List α) :
    items.foldl (fun list item => emplaceIf (p item) item list) list =
      list ++ items.filter fun item => p item := by
  induction items generalizing list with
  | nil => simp
  | cons item items ih =>
      rw [List.foldl_cons, ih, List.filter_cons]
      by_cases hitem : p item
      · simp [emplaceIf, emplaceBack, hitem]
      · simp [emplaceIf, hitem]

theorem decodeAudio_list (bits : AudioSupport) (word : Word) :
    (decodeAudio bits ⟨word, []⟩).list = bits.flags.listed word := by
  have hlist := foldl_emplaceIf (fun item => word &&& bits.bit item ≠ 0)
    bits.flags.known (emplaceIf (word = 0) .none [])
  exact hlist

theorem decodeMS12_list (bits : MS12Support) (word : Word) :
    (decodeMS12 bits ⟨word, []⟩).list = bits.flags.listed word := by
  have hlist := foldl_emplaceIf (fun item => word &&& bits.bit item ≠ 0)
    bits.flags.known (emplaceIf (word = 0) .none [])
  exact hlist

/-- The word that the last call left is reported as a list, and the list tells
what the word does exactly if the word is recognised. -/
def ReportsWord {α : Type} (flags : Flags α 32)
    (leaves : Word → Event Ds Thrown → Prop) (trace : List (Event Ds Thrown))
    (published : Published (ListResult α)) : Prop :=
  ∃ word list, EndsWith leaves word trace ∧
    published = ⟨ERROR_NONE, .of list⟩ ∧
    (flags.Reports word list ↔ flags.Recognised word)

variable {World : Type}

theorem capabilities_report_iff (ds : Callee Ds Thrown World) (world : World)
    (audioBits : AudioSupport) (ms12Bits : MS12Support)
    (haudio : audioBits.flags.DistinctBits) (hms12 : ms12Bits.flags.DistinctBits)
    (port : Text) :
    (∀ prior, ¬ Threw (audioCapabilities ds audioBits port world prior).trace →
      ReportsWord audioBits.flags (LeavesAudioWord audioBits.none)
        (audioCapabilities ds audioBits port world prior).trace
        (audioCapabilities ds audioBits port world prior).state.caller) ∧
    ∀ prior, ¬ Threw (ms12Capabilities ds ms12Bits port world prior).trace →
      ReportsWord ms12Bits.flags (LeavesMS12Word ms12Bits.none)
        (ms12Capabilities ds ms12Bits port world prior).trace
        (ms12Capabilities ds ms12Bits port world prior).state.caller := by
  constructor
  · intro prior hquiet
    rcases (audioCapabilities_allOrNothing audioBits port world prior).all
      hquiet with ⟨word, hleaves, hpublished⟩
    rw [decodeAudio_list] at hpublished
    exact ⟨word, _, hleaves, hpublished, Flags.reports_listed_iff haudio word⟩
  · intro prior hquiet
    rcases (ms12Capabilities_allOrNothing ms12Bits port world prior).all
      hquiet with ⟨word, hleaves, hpublished⟩
    rw [decodeMS12_list] at hpublished
    exact ⟨word, _, hleaves, hpublished, Flags.reports_listed_iff hms12 word⟩

/-- One bit each, in the order of the tests. -/
def sampleAudioSupport : AudioSupport :=
  ⟨0, 1, 2, 4, 8, 16, 32⟩

def sampleMS12Support : MS12Support :=
  ⟨0, 1, 2, 4⟩

theorem sampleAudioSupport_distinctBits :
    sampleAudioSupport.flags.DistinctBits where
  none_zero := rfl
  single := by
    simp only [AudioSupport.flags, List.forall_mem_cons]
    exact ⟨⟨0, by decide, rfl⟩, ⟨1, by decide, rfl⟩, ⟨2, by decide, rfl⟩,
      ⟨3, by decide, rfl⟩, ⟨4, by decide, rfl⟩, ⟨5, by decide, rfl⟩, by simp⟩
  distinct := by
    intro a ha b hb
    cases a <;> cases b <;> decide

theorem sampleMS12Support_distinctBits :
    sampleMS12Support.flags.DistinctBits where
  none_zero := rfl
  single := by
    simp only [MS12Support.flags, List.forall_mem_cons]
    exact ⟨⟨0, by decide, rfl⟩, ⟨1, by decide, rfl⟩, ⟨2, by decide, rfl⟩,
      by simp⟩
  distinct := by
    intro a ha b hb
    cases a <;> cases b <;> decide

/-- A Device Settings library whose ports all have the same word. -/
def wordDs (word : Word) : Callee Ds Thrown Unit := fun _ call =>
  match call with
  | .hostGetInstance => (⟨none, .ok ()⟩, ())
  | .getAudioOutputPort _ => (⟨none, .ok (0 : Nat)⟩, ())
  | .getAudioCapabilities _ => (⟨some word, .ok ()⟩, ())
  | .getMS12Capabilities _ => (⟨some word, .ok ()⟩, ())
  | _ => (⟨none, .error .other⟩, ())

theorem wordDs_quiet (word : Word) :
    ¬ Threw (audioCapabilities (wordDs word) sampleAudioSupport "HDMI0".toList ()
        ⟨none, false⟩).trace ∧
      ¬ Threw (ms12Capabilities (wordDs word) sampleMS12Support "HDMI0".toList ()
        ⟨none, false⟩).trace := by
  constructor
  · change ¬ Threw [_, _, _]
    simp [Threw, Event.Threw]
  · change ¬ Threw [_, _, _]
    simp [Threw, Event.Threw]

theorem capabilities_report_atmos_ms12 :
    ReportsWord sampleAudioSupport.flags (LeavesAudioWord sampleAudioSupport.none)
        (audioCapabilities (wordDs 33) sampleAudioSupport "HDMI0".toList ()
          ⟨none, false⟩).trace
        (audioCapabilities (wordDs 33) sampleAudioSupport "HDMI0".toList ()
          ⟨none, false⟩).state.caller ∧
      ReportsWord sampleMS12Support.flags (LeavesMS12Word sampleMS12Support.none)
        (ms12Capabilities (wordDs 33) sampleMS12Support "HDMI0".toList ()
          ⟨none, false⟩).trace
        (ms12Capabilities (wordDs 33) sampleMS12Support "HDMI0".toList ()
          ⟨none, false⟩).state.caller := by
  have hreports := capabilities_report_iff (wordDs 33) () sampleAudioSupport
    sampleMS12Support sampleAudioSupport_distinctBits
    sampleMS12Support_distinctBits "HDMI0".toList
  have hquiet := wordDs_quiet 33
  exact ⟨hreports.1 _ hquiet.1, hreports.2 _ hquiet.2⟩

/-- One bit that neither method knows leaves both lists empty. -/
theorem capabilities_unknown_bit :
    (sampleAudioSupport.flags.DistinctBits ∧
      (audioCapabilities (wordDs 64) sampleAudioSupport "HDMI0".toList ()
        ⟨none, false⟩).state.caller = ⟨ERROR_NONE, .of []⟩ ∧
      ¬ sampleAudioSupport.flags.Reports 64 []) ∧
    sampleMS12Support.flags.DistinctBits ∧
      (ms12Capabilities (wordDs 64) sampleMS12Support "HDMI0".toList ()
        ⟨none, false⟩).state.caller = ⟨ERROR_NONE, .of []⟩ ∧
      ¬ sampleMS12Support.flags.Reports 64 [] :=
  ⟨⟨sampleAudioSupport_distinctBits, rfl, fun h => h.nonempty rfl⟩,
    sampleMS12Support_distinctBits, rfl, fun h => h.nonempty rfl⟩

end DeviceSettings
end DeviceInfoPlugin
