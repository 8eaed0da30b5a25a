import DeviceInfoPlugin.UnreliableCalls

/-!
# Which calls may follow which

A rule says what must have happened before a call is made.  `Disciplined` is
the judgement for a method that keeps to a rule whatever its callee answers,
and that calls nothing more once a call has thrown.
-/

namespace DeviceInfoPlugin
namespace Unreliable

open Traced

variable {I : Interface} {ε World L C α β : Type}

abbrev Rule (I : Interface) (ε : Type) :=
  List (Event I ε) → I.Call → Prop

/-- Each call of the trace keeps to the rule after the calls before it, none
of which has thrown. -/
def Obeys (rule : Rule I ε) (history trace : List (Event I ε)) : Prop :=
  ∀ before event after, trace = before ++ event :: after →
    rule (history ++ before) event.call ∧ ¬ Threw (history ++ before)

/-- The call was answered with this reply. -/
def Answered (call : I.Call) (reply : I.Reply call)
    (history : List (Event I ε)) : Prop :=
  ∃ written, ⟨call, written, .ok reply⟩ ∈ history

section Obeys

variable {rule : Rule I ε} {history : List (Event I ε)}

theorem obeys_nil : Obeys rule history [] := by
  intro before event after hsplit
  simp at hsplit

theorem obeys_singleton {event : Event I ε} (hrule : rule history event.call)
    (hquiet : ¬ Threw history) : Obeys rule history [event] := by
  intro before event' after hsplit
  have hbefore : before = [] ∧ event' = event ∧ after = [] := by
    cases before with
    | nil => simpa [eq_comm] using hsplit
    | cons first rest => simp at hsplit
  rcases hbefore with ⟨rfl, rfl, rfl⟩
  rw [List.append_nil]
  exact ⟨hrule, hquiet⟩

theorem Obeys.append {trace later : List (Event I ε)}
    (htrace : Obeys rule history trace)
    (hlater : Obeys rule (history ++ trace) later) :
    Obeys rule history (trace ++ later) := by
  intro before event after hsplit
  rcases List.append_eq_append_iff.mp hsplit with
    ⟨more, hbefore, hmore⟩ | ⟨more, htrace', hmore⟩
  · have hstep := hlater more event after hmore
    rwa [hbefore, ← List.append_assoc]
  · cases more with
    | nil =>
        rw [List.append_nil] at htrace'
        have hstep := hlater [] event after (by simpa using hmore.symm)
        rw [List.append_nil] at hstep
        rwa [← htrace']
    | cons first rest =>
        simp only [List.cons_append, List.cons.injEq] at hmore
        rw [← hmore.1] at htrace'
        exact htrace before event rest htrace'

theorem Answered.later {call : I.Call} {reply : I.Reply call}
    (hanswered : Answered call reply history) {history' : List (Event I ε)}
    (hlater : history <+: history') : Answered call reply history' := by
  rcases hanswered with ⟨written, hmem⟩
  exact ⟨written, hlater.subset hmem⟩

theorem answered_last {call : I.Call} {reply : I.Reply call}
    (written : Option (I.Written call)) :
    Answered call reply
      (history ++ [(⟨call, written, .ok reply⟩ : Event I ε)]) :=
  ⟨written, by simp⟩

end Obeys

/-! ## Disciplined methods -/

/-- After `history`, `body` keeps to the rule; when it returns no call has
thrown and `post` holds of all that has happened by then. -/
def Disciplined (rule : Rule I ε) (body : Method I ε World L C α)
    (history : List (Event I ε)) (post : α → List (Event I ε) → Prop) : Prop :=
  ∀ s, Wp body
    (fun a trace _ => Obeys rule history trace ∧ ¬ Threw (history ++ trace) ∧
      post a (history ++ trace))
    (fun _ trace _ => Obeys rule history trace) s

section Rules

variable {rule : Rule I ε} {history : List (Event I ε)}

theorem disciplined_pure {a : α} {post : α → List (Event I ε) → Prop}
    (hquiet : ¬ Threw history) (hpost : post a history) :
    Disciplined rule (pure a : Method I ε World L C α) history post := by
  intro s
  rw [wp_pure, List.append_nil]
  exact ⟨obeys_nil, hquiet, hpost⟩

theorem disciplined_setLocals {update : L → L}
    {post : Unit → List (Event I ε) → Prop}
    (hquiet : ¬ Threw history) (hpost : post () history) :
    Disciplined rule (Method.setLocals update : Method I ε World L C Unit)
      history post := by
  intro s
  rw [Method.setLocals, wp_assign, List.append_nil]
  exact ⟨obeys_nil, hquiet, hpost⟩

theorem disciplined_setCaller {update : L → C → C}
    {post : Unit → List (Event I ε) → Prop}
    (hquiet : ¬ Threw history) (hpost : post () history) :
    Disciplined rule (Method.setCaller update : Method I ε World L C Unit)
      history post := by
  intro s
  rw [Method.setCaller, wp_assign, List.append_nil]
  exact ⟨obeys_nil, hquiet, hpost⟩

theorem disciplined_askInto {callee : Callee I ε World} {call : I.Call}
    {store : I.Written call → L → L}
    {post : I.Reply call → List (Event I ε) → Prop}
    (hrule : rule history call) (hquiet : ¬ Threw history)
    (hpost : ∀ reply history', Answered call reply history' →
      history <+: history' → post reply history') :
    Disciplined rule (Method.askInto callee call store : Method I ε World L C _)
      history post := by
  intro s
  rcases hanswer : callee s.world call with ⟨⟨written, result⟩, world'⟩
  have hobeys : Obeys rule history [(⟨call, written, result⟩ : Event I ε)] :=
    obeys_singleton hrule hquiet
  cases result with
  | error e => simpa [Wp, Method.askInto, hanswer] using hobeys
  | ok reply =>
      have hnone : ¬ (Event.mk call ⟨written, .ok reply⟩ : Event I ε).Threw := by
        simp [Event.Threw]
      have hlast := hpost reply _ (answered_last written)
        (List.prefix_append history _)
      simpa [Wp, Method.askInto, hanswer, hquiet, hnone] using ⟨hobeys, hlast⟩

theorem disciplined_ask {callee : Callee I ε World} {call : I.Call}
    {post : I.Reply call → List (Event I ε) → Prop}
    (hrule : rule history call) (hquiet : ¬ Threw history)
    (hpost : ∀ reply history', Answered call reply history' →
      history <+: history' → post reply history') :
    Disciplined rule (Method.ask callee call : Method I ε World L C _) history
      post :=
  disciplined_askInto hrule hquiet hpost

theorem Disciplined.bind {first : Method I ε World L C β}
    {second : β → Method I ε World L C α}
    {middle : β → List (Event I ε) → Prop} {post : α → List (Event I ε) → Prop}
    (hfirst : Disciplined rule first history middle)
    (hsecond : ∀ b history', ¬ Threw history' → history <+: history' →
      middle b history' → Disciplined rule (second b) history' post) :
    Disciplined rule (first >>= second) history post := by
  intro s
  rw [wp_bind]
  apply (hfirst s).mono
  · intro b trace s' hended
    rcases hended with ⟨hobeys, hquiet, hmiddle⟩
    have hlater := hsecond b _ hquiet (List.prefix_append _ _) hmiddle s'
    apply hlater.mono
    · intro a later s'' hended
      rcases hended with ⟨hobeys', hquiet', hpost⟩
      rw [List.append_assoc] at hquiet' hpost
      exact ⟨hobeys.append hobeys', hquiet', hpost⟩
    · intro e later s'' hobeys'
      exact hobeys.append hobeys'
  · intro e trace s' hobeys
    exact hobeys

theorem Disciplined.mono {body : Method I ε World L C α}
    {post post' : α → List (Event I ε) → Prop}
    (hbody : Disciplined rule body history post)
    (hpost : ∀ a history', post a history' → post' a history') :
    Disciplined rule body history post' := by
  intro s
  apply (hbody s).mono
  · intro a trace s' hended
    exact ⟨hended.1, hended.2.1, hpost a _ hended.2.2⟩
  · intro e trace s' hobeys
    exact hobeys

theorem disciplined_ask_bind {callee : Callee I ε World} {call : I.Call}
    {second : I.Reply call → Method I ε World L C α}
    {post : α → List (Event I ε) → Prop} (hrule : rule history call)
    (hquiet : ¬ Threw history)
    (hsecond : ∀ reply history', ¬ Threw history' → history <+: history' →
      Answered call reply history' →
      Disciplined rule (second reply) history' post) :
    Disciplined rule (Method.ask callee call >>= second) history post := by
  have hfirst : Disciplined rule
      (Method.ask callee call : Method I ε World L C _) history
      (Answered call) :=
    disciplined_ask hrule hquiet fun _ _ hanswered _ => hanswered
  exact hfirst.bind hsecond

theorem disciplined_forEach {body : β → Method I ε World L C Unit}
    {invariant : List (Event I ε) → Prop} (xs : List β)
    (hbody : ∀ b ∈ xs, ∀ history, ¬ Threw history → invariant history →
      Disciplined rule (body b) history fun _ => invariant)
    (hquiet : ¬ Threw history) (hinvariant : invariant history) :
    Disciplined rule (Program.forEach body xs) history fun _ => invariant := by
  induction xs generalizing history with
  | nil => exact disciplined_pure hquiet hinvariant
  | cons b rest ih =>
      have hfirst := hbody b List.mem_cons_self history hquiet hinvariant
      rw [Program.forEach]
      apply hfirst.bind
      intro _ history' hquiet' _ hinvariant'
      apply ih ?_ hquiet' hinvariant'
      intro b' hb'
      exact hbody b' (List.mem_cons_of_mem _ hb')

end Rules

end Unreliable
end DeviceInfoPlugin
