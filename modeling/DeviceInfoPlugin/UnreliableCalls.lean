import DeviceInfoPlugin.TracedProgram

/-!
# Calls to an unreliable callee

A method calls functions of a callee that keeps a state of its own.  Each call
may return any value or throw, and may store something through a pointer
argument before it does either.  The trace of a method is the list of its
calls together with their answers.

`Quiet` is the judgement for the part of a method whose failure must stay
invisible: when it is cut short some call has thrown, when it returns none
has, and in both cases what the caller sees is untouched.
-/

namespace DeviceInfoPlugin
namespace Unreliable

open Traced

structure Interface where
  Call : Type
  Reply : Call → Type
  /-- What the call may store through a pointer argument. -/
  Written : Call → Type

structure Answer (I : Interface) (ε : Type) (call : I.Call) where
  written : Option (I.Written call)
  result : Except ε (I.Reply call)

structure Event (I : Interface) (ε : Type) where
  call : I.Call
  answer : Answer I ε call

abbrev Callee (I : Interface) (ε World : Type) :=
  World → (call : I.Call) → Answer I ε call × World

/-- The state of a method: the callee, the method's local variables, and what
its caller sees. -/
structure Frame (World L C : Type) where
  world : World
  locals : L
  caller : C

abbrev Method (I : Interface) (ε World L C : Type) :=
  Program (Event I ε) ε (Frame World L C)

variable {I : Interface} {ε World L C α β : Type}

namespace Method

def askInto (callee : Callee I ε World) (call : I.Call)
    (store : I.Written call → L → L) : Method I ε World L C (I.Reply call) :=
  fun s =>
    let (answer, world) := callee s.world call
    let locals :=
      match answer.written with
      | some written => store written s.locals
      | none => s.locals
    ⟨[⟨call, answer⟩], answer.result, { s with world, locals }⟩

def ask (callee : Callee I ε World) (call : I.Call) :
    Method I ε World L C (I.Reply call) :=
  askInto callee call fun _ locals => locals

def setLocals (update : L → L) : Method I ε World L C Unit :=
  Program.assign fun s => { s with locals := update s.locals }

def setCaller (update : L → C → C) : Method I ε World L C Unit :=
  Program.assign fun s => { s with caller := update s.locals s.caller }

end Method

/-! ## Whether a call has thrown -/

def Event.Threw (event : Event I ε) : Prop :=
  ∃ e, event.answer.result = .error e

def Threw (trace : List (Event I ε)) : Prop :=
  ∃ event ∈ trace, event.Threw

@[simp] theorem threw_nil : ¬ Threw ([] : List (Event I ε)) := by
  simp [Threw]

@[simp] theorem threw_append (trace later : List (Event I ε)) :
    Threw (trace ++ later) ↔ Threw trace ∨ Threw later := by
  simp [Threw, or_and_right, exists_or]

@[simp] theorem threw_singleton (event : Event I ε) :
    Threw [event] ↔ event.Threw := by
  simp [Threw]

/-! ## Methods that fail unseen -/

/-- Whatever the callee does, `body` leaves the caller alone; it is cut short
exactly if a call throws, and otherwise ends as `post` says. -/
def Quiet (body : Method I ε World L C α) (locals : L)
    (post : α → List (Event I ε) → L → Prop) : Prop :=
  ∀ world caller, Wp body
    (fun a trace s => ¬ Threw trace ∧ s.caller = caller ∧ post a trace s.locals)
    (fun _ trace s => Threw trace ∧ s.caller = caller)
    ⟨world, locals, caller⟩

section Rules

variable {locals : L}

theorem quiet_pure {a : α} {post : α → List (Event I ε) → L → Prop}
    (hpost : post a [] locals) :
    Quiet (pure a : Method I ε World L C α) locals post := by
  intro world caller
  simpa using hpost

theorem quiet_askInto {callee : Callee I ε World} {call : I.Call}
    {store : I.Written call → L → L}
    {post : I.Reply call → List (Event I ε) → L → Prop}
    (hpost : ∀ written reply,
      post reply [⟨call, written, .ok reply⟩]
        (written.elim locals fun w => store w locals)) :
    Quiet (Method.askInto callee call store : Method I ε World L C _) locals
      post := by
  intro world caller
  rcases hanswer : callee world call with ⟨⟨written, result⟩, world'⟩
  cases result with
  | ok reply =>
      have hquiet : ¬ (Event.mk call ⟨written, .ok reply⟩ : Event I ε).Threw := by
        simp [Event.Threw]
      have hlast := hpost written reply
      cases written <;>
        simpa [Wp, Method.askInto, hanswer, hquiet] using hlast
  | error e =>
      have hthrew : (Event.mk call ⟨written, .error e⟩ : Event I ε).Threw :=
        ⟨e, rfl⟩
      simpa [Wp, Method.askInto, hanswer] using hthrew

theorem quiet_ask {callee : Callee I ε World} {call : I.Call}
    {post : I.Reply call → List (Event I ε) → L → Prop}
    (hpost : ∀ written reply, post reply [⟨call, written, .ok reply⟩] locals) :
    Quiet (Method.ask callee call : Method I ε World L C _) locals post := by
  apply quiet_askInto
  intro written reply
  cases written with
  | none => exact hpost none reply
  | some written => exact hpost (some written) reply

theorem quiet_setLocals {update : L → L}
    {post : Unit → List (Event I ε) → L → Prop}
    (hpost : post () [] (update locals)) :
    Quiet (Method.setLocals update : Method I ε World L C Unit) locals post := by
  intro world caller
  simpa [Method.setLocals] using hpost

theorem Quiet.mono {body : Method I ε World L C α}
    {post post' : α → List (Event I ε) → L → Prop}
    (hbody : Quiet body locals post)
    (hpost : ∀ a trace locals', post a trace locals' → post' a trace locals') :
    Quiet body locals post' := by
  intro world caller
  apply (hbody world caller).mono
  · intro a trace s hended
    rcases hended with ⟨hquiet, hcaller, hpost'⟩
    exact ⟨hquiet, hcaller, hpost a trace s.locals hpost'⟩
  · intro e trace s hended
    exact hended

theorem Quiet.bind {first : Method I ε World L C β}
    {second : β → Method I ε World L C α}
    {middle : β → List (Event I ε) → L → Prop}
    {post : α → List (Event I ε) → L → Prop}
    (hfirst : Quiet first locals middle)
    (hsecond : ∀ b trace locals', middle b trace locals' →
      Quiet (second b) locals' fun a later => post a (trace ++ later)) :
    Quiet (first >>= second) locals post := by
  intro world caller
  rw [wp_bind]
  apply (hfirst world caller).mono
  · intro b trace s hended
    rcases hended with ⟨hquiet, hcaller, hmiddle⟩
    have hlater := hsecond b trace s.locals hmiddle s.world s.caller
    rw [hcaller] at hlater
    have hs : s = ⟨s.world, s.locals, caller⟩ := by rw [← hcaller]
    rw [hs]
    apply hlater.mono
    · intro a later s' hended
      rcases hended with ⟨hnone, hcaller', hpost⟩
      exact ⟨by simp [hquiet, hnone], hcaller', hpost⟩
    · intro e later s' hended
      rcases hended with ⟨hthrew, hcaller'⟩
      exact ⟨by simp [hthrew], hcaller'⟩
  · intro e trace s hended
    exact hended

theorem quiet_ask_bind {callee : Callee I ε World} {call : I.Call}
    {second : I.Reply call → Method I ε World L C α}
    {post : α → List (Event I ε) → L → Prop}
    (hsecond : ∀ written reply, Quiet (second reply) locals
      fun a later => post a (⟨call, written, .ok reply⟩ :: later)) :
    Quiet (Method.ask callee call >>= second) locals post := by
  have hfirst : Quiet (Method.ask callee call : Method I ε World L C _) locals
      fun reply trace locals' => locals' = locals ∧
        ∃ written, trace = [⟨call, written, .ok reply⟩] :=
    quiet_ask fun written reply => ⟨rfl, written, rfl⟩
  apply hfirst.bind
  intro reply trace locals' hcalled
  rcases hcalled with ⟨hlocals, written, htrace⟩
  rw [hlocals, htrace]
  exact hsecond written reply

/-! ### Straight-line code -/

/-- The last call of the trace, its reply and the local variables are related
by `R`. -/
def EndsIn (R : α → Event I ε → L → Prop) (a : α) (trace : List (Event I ε))
    (locals : L) : Prop :=
  ∃ before last, trace = before ++ [last] ∧ R a last locals

theorem quiet_askInto_endsIn {callee : Callee I ε World} {call : I.Call}
    {store : I.Written call → L → L}
    {R : I.Reply call → Event I ε → L → Prop}
    (hlast : ∀ written reply, R reply ⟨call, written, .ok reply⟩
      (written.elim locals fun w => store w locals)) :
    Quiet (Method.askInto callee call store : Method I ε World L C _) locals
      (EndsIn R) :=
  quiet_askInto fun written reply => ⟨[], _, rfl, hlast written reply⟩

theorem quiet_ask_endsIn {callee : Callee I ε World} {call : I.Call}
    {R : I.Reply call → Event I ε → L → Prop}
    (hlast : ∀ written reply, R reply ⟨call, written, .ok reply⟩ locals) :
    Quiet (Method.ask callee call : Method I ε World L C _) locals (EndsIn R) :=
  quiet_ask fun written reply => ⟨[], _, rfl, hlast written reply⟩

theorem Quiet.bind_endsIn {first : Method I ε World L C β}
    {second : β → Method I ε World L C α} {R : α → Event I ε → L → Prop}
    (hfirst : Quiet first locals fun _ _ locals' => locals' = locals)
    (hsecond : ∀ b, Quiet (second b) locals (EndsIn R)) :
    Quiet (first >>= second) locals (EndsIn R) := by
  apply hfirst.bind
  intro b trace locals' hlocals
  rw [hlocals]
  apply (hsecond b).mono
  intro a later locals'' hends
  rcases hends with ⟨before, last, hlater, hlast⟩
  exact ⟨trace ++ before, last, by simp [hlater], hlast⟩

theorem quiet_ask_bind_endsIn {callee : Callee I ε World} {call : I.Call}
    {second : I.Reply call → Method I ε World L C α}
    {R : α → Event I ε → L → Prop}
    (hsecond : ∀ reply, Quiet (second reply) locals (EndsIn R)) :
    Quiet (Method.ask callee call >>= second) locals (EndsIn R) := by
  have hfirst : Quiet (Method.ask callee call : Method I ε World L C _) locals
      fun _ _ locals' => locals' = locals :=
    quiet_ask fun _ _ => rfl
  exact hfirst.bind_endsIn hsecond

end Rules

/-! ## Collecting the elements of a list -/

variable {γ : Type}

/-- The trace consists of one part for each item, in order; `element` says
which trace yields the item at an index. -/
def Enumerates (element : Nat → γ → List (Event I ε) → Prop) :
    Nat → List γ → List (Event I ε) → Prop
  | _, [], trace => trace = []
  | index, item :: items, trace =>
      ∃ first later, trace = first ++ later ∧ element index item first ∧
        Enumerates element (index + 1) items later

/-- A loop over the indices from `start` on, which adds what it fetches to the
local variables. -/
theorem quiet_collect {fetch : Nat → Method I ε World L C γ}
    {add : γ → L → L} {element : Nat → γ → List (Event I ε) → Prop}
    (hfetch : ∀ index locals, Quiet (fetch index) locals
      fun item trace locals' => element index item trace ∧ locals' = locals)
    (start size : Nat) (locals : L) :
    Quiet (Program.forEach
        (fun index => do
          let item ← fetch index
          Method.setLocals (add item))
        (List.range' start size)) locals
      fun _ trace locals' => ∃ items, items.length = size ∧
        Enumerates element start items trace ∧
        locals' = items.foldl (fun locals item => add item locals) locals := by
  induction size generalizing start locals with
  | zero => exact quiet_pure ⟨[], rfl, rfl, rfl⟩
  | succ size ih =>
      rw [List.range'_succ, Program.forEach]
      have hbody : Quiet (do
            let item ← fetch start
            Method.setLocals (add item) : Method I ε World L C Unit) locals
          fun _ trace locals' => ∃ item, element start item trace ∧
            locals' = add item locals := by
        apply (hfetch start locals).bind
        intro item trace locals' hfetched
        rcases hfetched with ⟨helement, hlocals⟩
        apply quiet_setLocals
        exact ⟨item, by simpa using helement, by rw [hlocals]⟩
      apply hbody.bind
      intro _ first locals' hadded
      rcases hadded with ⟨item, helement, hlocals⟩
      rw [hlocals]
      apply (ih (start + 1) (add item locals)).mono
      intro _ later locals'' hcollected
      rcases hcollected with ⟨items, hlength, hitems, hlocals'⟩
      have hlength' : (item :: items).length = size + 1 := by
        rw [List.length_cons, hlength]
      exact ⟨item :: items, hlength', ⟨first, later, rfl, helement, hitems⟩,
        hlocals'⟩

end Unreliable
end DeviceInfoPlugin
