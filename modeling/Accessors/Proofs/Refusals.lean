import Accessors.Proofs.Lockstep

/-!
Calls that an emitter refuses. They come in between other calls, in any order, and the emitter goes
on after them. A refused call changes nothing that the emitter holds, so the calls around it find
what they would find without it.
-/

set_option autoImplicit false

namespace Accessors.Cpp

namespace Emit

variable {σ : Type}

/-- A call of a run: the state that it finds, its answer, and the state that it leaves. -/
structure Step (σ : Type) where
  call : Visit
  before : σ
  answer : Except Error Unit
  after : σ

namespace Step

def accepted (step : Step σ) : Bool := step.answer.isOk

/-- What stands behind the text that the call found. -/
def added (text : σ → String) (step : Step σ) : List Char :=
  (text step.after).toList.drop (text step.before).toList.length

end Step

variable (visit : Visit → Emit σ Unit)

/-- Every call is made, also after one that was refused. -/
def steps : σ → List Visit → List (Step σ)
  | _, [] => []
  | s, call :: calls =>
    ⟨call, s, (visit call s).1, after visit s call⟩ :: steps (after visit s call) calls

/-- The calls of a run without those that it refuses. -/
def acceptedCalls (s : σ) (calls : List Visit) : List Visit :=
  ((steps visit s calls).filter Step.accepted).map Step.call

/-- Refused calls leave no trace. The state that they leave is the whole state: with the text also
the level, and for definitions the scope. -/
structure Traceless (text : σ → String) (s : σ) (calls : List Visit) : Prop where
  untouched : ∀ step ∈ steps visit s calls, step.accepted = false → step.after = step.before
  extended : ∀ step ∈ steps visit s calls, step.accepted = true →
    (text step.before).toList <+: (text step.after).toList
  /-- Without the refused calls each of the others adds the same text. -/
  added : (steps visit s (acceptedCalls visit s calls)).map (Step.added text) =
    ((steps visit s calls).filter Step.accepted).map (Step.added text)
  total : text ((acceptedCalls visit s calls).foldl (after visit) s) =
    text (calls.foldl (after visit) s)

variable {visit} {fault : Visit → Option Error} {next : σ → Visit → σ}

theorem Follows.after_eq (h : Follows visit fault next) (s : σ) (call : Visit) :
    after visit s call = match fault call with
      | some _ => s
      | none => next s call := by
  rw [after, h]
  cases fault call <;> rfl

theorem Follows.isOk_eq (h : Follows visit fault next) (s : σ) (call : Visit) :
    (visit call s).1.isOk = (fault call).isNone := by
  rw [h]
  cases fault call <;> rfl

theorem Follows.mem_steps (h : Follows visit fault next) {s : σ} {calls : List Visit}
    {step : Step σ} (hstep : step ∈ steps visit s calls) :
    step.accepted = (fault step.call).isNone ∧
      step.after = after visit step.before step.call := by
  induction calls generalizing s with
  | nil => exact nomatch hstep
  | cons call calls ih =>
    rcases List.mem_cons.mp hstep with rfl | hstep
    · exact ⟨h.isOk_eq s call, rfl⟩
    · exact ih hstep

theorem Follows.steps_cons_of_refused (h : Follows visit fault next) {call : Visit} {e : Error}
    (he : fault call = some e) (s : σ) (calls : List Visit) :
    (steps visit s (call :: calls)).filter Step.accepted =
      (steps visit s calls).filter Step.accepted := by
  have hafter : after visit s call = s := by rw [h.after_eq, he]
  rw [steps, hafter, List.filter_cons_of_neg]
  rw [Step.accepted, h.isOk_eq, he]
  exact Bool.false_ne_true

theorem Follows.steps_cons_of_accepted (h : Follows visit fault next) {call : Visit}
    (hcall : fault call = none) (s : σ) (calls : List Visit) :
    (steps visit s (call :: calls)).filter Step.accepted =
      ⟨call, s, (visit call s).1, after visit s call⟩ ::
        (steps visit (after visit s call) calls).filter Step.accepted := by
  rw [steps, List.filter_cons_of_pos]
  rw [Step.accepted, h.isOk_eq, hcall]
  rfl

/-- Each call that is kept finds, answers and leaves the same. -/
theorem Follows.steps_acceptedCalls (h : Follows visit fault next) (s : σ)
    (calls : List Visit) :
    steps visit s (acceptedCalls visit s calls) =
      (steps visit s calls).filter Step.accepted := by
  induction calls generalizing s with
  | nil => rfl
  | cons call calls ih =>
    cases hcall : fault call with
    | some e =>
      rw [acceptedCalls, h.steps_cons_of_refused hcall]
      exact ih s
    | none =>
      rw [acceptedCalls, h.steps_cons_of_accepted hcall, List.map_cons, steps]
      exact congrArg _ (ih (after visit s call))

theorem Follows.foldl_acceptedCalls (h : Follows visit fault next) (s : σ)
    (calls : List Visit) :
    (acceptedCalls visit s calls).foldl (after visit) s = calls.foldl (after visit) s := by
  induction calls generalizing s with
  | nil => rfl
  | cons call calls ih =>
    cases hcall : fault call with
    | some e =>
      have hafter : after visit s call = s := by rw [h.after_eq, hcall]
      rw [acceptedCalls, h.steps_cons_of_refused hcall, List.foldl_cons, hafter]
      exact ih s
    | none =>
      rw [acceptedCalls, h.steps_cons_of_accepted hcall, List.map_cons, List.foldl_cons,
        List.foldl_cons]
      exact ih (after visit s call)

theorem Follows.traceless (h : Follows visit fault next) {text : σ → String}
    (hnext : ∀ s call, (text s).toList <+: (text (next s call)).toList) (s : σ)
    (calls : List Visit) : Traceless visit text s calls where
  untouched := by
    intro step hstep hrefused
    obtain ⟨haccepted, hafter⟩ := h.mem_steps hstep
    rw [hafter, h.after_eq]
    cases hcall : fault step.call with
    | some e => rfl
    | none => simp [haccepted, hcall] at hrefused
  extended := by
    intro step hstep haccepted
    obtain ⟨haccepted', hafter⟩ := h.mem_steps hstep
    have hcall : fault step.call = none :=
      Option.isNone_iff_eq_none.mp (haccepted'.symm.trans haccepted)
    rw [hafter, h.after_eq, hcall]
    exact hnext step.before step.call
  added := by rw [h.steps_acceptedCalls]
  total := by rw [h.foldl_acceptedCalls]

end Emit

theorem Declarations.text_next_prefix (settings : Settings) (s : Declarations) (call : Visit) :
    s.out.text.toList <+: (next settings s call).out.text.toList := by
  rw [next_out, String.toList_append]
  exact List.prefix_append _ _

theorem Definitions.text_next_prefix (settings : Settings) (s : Definitions) (call : Visit) :
    s.out.text.toList <+: (next settings s call).out.text.toList := by
  rw [next_out, String.toList_append]
  exact List.prefix_append _ _

/-- Both emitters, from any state that they can be in and so from the first one, under any calls. -/
theorem refused_calls_leave_no_trace (settings : Settings) (declared : Declarations)
    (defined : Definitions) (calls : List Visit) :
    Emit.Traceless (Declarations.visit settings) (·.out.text) declared calls ∧
      Emit.Traceless (Definitions.visit settings) (·.out.text) defined calls := by
  constructor
  · exact (Declarations.follows settings).traceless (Declarations.text_next_prefix settings)
      declared calls
  · exact (Definitions.follows settings).traceless (Definitions.text_next_prefix settings)
      defined calls

end Accessors.Cpp
