import DeviceInfoPlugin.CapabilityQueries

/-!
# The default port

Six queries take the name of a port and ask for the default one when it is
empty.  That question is all the difference: what follows is the query about
the port it names, in the state Device Settings is left in.
-/

namespace DeviceInfoPlugin
namespace DeviceSettings

open DeviceInfo (Text)
open Traced
open Unreliable

section Default

variable {World L Out : Type} {ds : Callee Ds Thrown World} {world world' : World}
  {told : List (Event Ds Thrown)} {name : Text}

/-- In `world` the host is there and answers the question; `told` are the two
calls, and `world'` is where they lead. -/
def Tells (ds : Callee Ds Thrown World) (world : World) (question : Call)
    (reply : question.Reply) (told : List (Event Ds Thrown))
    (world' : World) : Prop :=
  ∃ middle written written',
    ds world .hostGetInstance = (⟨written, .ok ()⟩, middle) ∧
      ds middle question = (⟨written', .ok reply⟩, world') ∧
      told = [⟨.hostGetInstance, written, .ok ()⟩,
        ⟨question, written', .ok reply⟩]

theorem Tells.ask {question : Call} {reply : question.Reply}
    (htells : Tells ds world question reply told world') (locals : L)
    (caller : Published Out) :
    (do
      let _ ← Method.ask ds .hostGetInstance
      Method.ask ds question : Query World L Out _) ⟨world, locals, caller⟩ =
      ⟨told, .ok reply, ⟨world', locals, caller⟩⟩ := by
  rcases htells with ⟨middle, written, written', hinstance, hquestion, rfl⟩
  change Program.andThen (Method.ask ds .hostGetInstance)
    (fun _ => Method.ask ds question) ⟨world, locals, caller⟩ = _
  simp only [Program.andThen, Method.ask, Method.askInto, hinstance, hquestion,
    Outcome.after]
  cases written <;> cases written' <;> rfl

theorem audioPortOrDefault_told
    (htells : Tells ds world .getDefaultAudioPortName name told world')
    (hnonempty : name ≠ []) (locals : L) (caller : Published Out) :
    audioPortOrDefault ds [] ⟨world, locals, caller⟩ =
      (audioPortOrDefault ds name ⟨world', locals, caller⟩).after told := by
  have hasked := htells.ask locals caller
  cases name with
  | nil => contradiction
  | cons c rest =>
      change _ = (⟨told ++ [], .ok (c :: rest), _⟩ : Outcome _ _ _ _)
      rw [List.append_nil]
      exact hasked

theorem videoPortOrDefault_told
    (htells : Tells ds world .getDefaultVideoPortName name told world')
    (hnonempty : name ≠ []) (locals : L) (caller : Published Out) :
    videoPortOrDefault ds [] ⟨world, locals, caller⟩ =
      (videoPortOrDefault ds name ⟨world', locals, caller⟩).after told := by
  have hasked := htells.ask locals caller
  cases name with
  | nil => contradiction
  | cons c rest =>
      change _ = (⟨told ++ [], .ok (c :: rest), _⟩ : Outcome _ _ _ _)
      rw [List.append_nil]
      exact hasked

/-- What a method does after the question is the same. -/
theorem invoke_caught_after {body body' : Query World L Out Unit}
    (rest : Unit → Query World L Out Unit) {locals : L} {prior : Out}
    (hbody : body ⟨world, locals, ⟨ERROR_NONE, prior⟩⟩ =
      (body' ⟨world', locals, ⟨ERROR_NONE, prior⟩⟩).after told) :
    invoke locals (caught body >>= rest) world prior =
      (invoke locals (caught body' >>= rest) world' prior).after told :=
  bind_after rest (guarded_after _ hbody)

/-- An empty port name stands for the default one, provided that one has a
name: each query then does what it does for that name in the state the question
leaves, and nothing else has happened before. -/
theorem default_port_resolved (ds : Callee Ds Thrown World) (world world' : World)
    (told : List (Event Ds Thrown)) (name : Text) (hnonempty : name ≠ []) :
    (Tells ds world .getDefaultAudioPortName name told world' →
      (∀ prior, supportedMS12AudioProfiles ds [] world prior =
        (supportedMS12AudioProfiles ds name world' prior).after told) ∧
      (∀ bits prior, audioCapabilities ds bits [] world prior =
        (audioCapabilities ds bits name world' prior).after told) ∧
      ∀ bits prior, ms12Capabilities ds bits [] world prior =
        (ms12Capabilities ds bits name world' prior).after told) ∧
    (Tells ds world .getDefaultVideoPortName name told world' →
      (∀ prior, supportedResolutions ds [] world prior =
        (supportedResolutions ds name world' prior).after told) ∧
      (∀ prior, defaultResolution ds [] world prior =
        (defaultResolution ds name world' prior).after told) ∧
      ∀ prior, supportedHdcp ds [] world prior =
        (supportedHdcp ds name world' prior).after told) := by
  constructor
  · intro htells
    refine ⟨?_, ?_, ?_⟩
    · intro prior
      apply invoke_caught_after
      apply bind_after
      apply bind_after
      exact audioPortOrDefault_told htells hnonempty _ _
    · intro bits prior
      apply invoke_caught_after
      apply bind_after
      exact audioPortOrDefault_told htells hnonempty _ _
    · intro bits prior
      apply invoke_caught_after
      apply bind_after
      exact audioPortOrDefault_told htells hnonempty _ _
  · intro htells
    refine ⟨?_, ?_, ?_⟩
    · intro prior
      apply invoke_caught_after
      apply bind_after
      apply bind_after
      exact videoPortOrDefault_told htells hnonempty _ _
    · intro prior
      apply guarded_after
      apply bind_after
      apply bind_after
      exact videoPortOrDefault_told htells hnonempty _ _
    · intro prior
      apply guarded_after
      apply bind_after
      apply bind_after
      exact videoPortOrDefault_told htells hnonempty _ _

end Default

/-- The only port that can be asked for is the default one. -/
def hdmiDs : Callee Ds Thrown Unit := fun _ call =>
  match call with
  | .hostGetInstance => (⟨none, .ok ()⟩, ())
  | .getDefaultVideoPortName => (⟨none, .ok "HDMI0".toList⟩, ())
  | _ => (⟨none, .error .deviceException⟩, ())

theorem default_port_resolved_hdmi :
    ∃ told, told.length = 2 ∧ ∀ prior, supportedHdcp hdmiDs [] () prior =
      (supportedHdcp hdmiDs "HDMI0".toList () prior).after told := by
  have hnonempty : "HDMI0".toList ≠ [] := by decide
  have htells : Tells hdmiDs () .getDefaultVideoPortName "HDMI0".toList
      [⟨.hostGetInstance, none, .ok ()⟩,
        ⟨.getDefaultVideoPortName, none, .ok "HDMI0".toList⟩] () :=
    ⟨(), none, none, rfl, rfl, rfl⟩
  have hvideo := (default_port_resolved hdmiDs () () _ _ hnonempty).2 htells
  exact ⟨_, rfl, hvideo.2.2⟩

end DeviceSettings
end DeviceInfoPlugin
