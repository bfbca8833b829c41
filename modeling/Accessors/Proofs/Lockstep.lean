import Mathlib.Data.List.Forall2
import Accessors.Proofs.Emitters

/-!
Both emitters under the same calls. The calls come in any order: classes may be left that were never
entered, and a call that is refused is followed by the next one. One emitter counts how deep it is,
the other lists the classes around it, and the two never get apart.
-/

set_option autoImplicit false

namespace Accessors

/-- What is kept when both sides take the same step is kept all along a run. -/
theorem forall₂_scanl {σ τ α : Type} {R : σ → τ → Prop} {f : σ → α → σ} {g : τ → α → τ}
    (hstep : ∀ s t x, R s t → R (f s x) (g t x)) {s : σ} {t : τ} (h : R s t) (xs : List α) :
    List.Forall₂ R (xs.scanl f s) (xs.scanl g t) := by
  induction xs generalizing s t with
  | nil => exact .cons h .nil
  | cons x xs ih =>
    rw [List.scanl_cons, List.scanl_cons]
    exact .cons h (ih (hstep s t x h))

namespace Cpp

namespace Emit

variable {σ : Type} {visit : Visit → Emit σ Unit} {fault : Visit → Option Error}
  {next : σ → Visit → σ}

/-- The state that a call leaves behind, whether it is refused or not. -/
def after (visit : Visit → Emit σ Unit) (s : σ) (call : Visit) : σ := (visit call s).2

/-- A part of the state moves with every call as it moves with the calls that are not refused, if a
refused call would not have moved it. -/
theorem Follows.view_after {κ : Type} (h : Follows visit fault next) (view : σ → κ)
    (move : κ → Visit → κ) (hnext : ∀ s v, view (next s v) = move (view s) v)
    (hfault : ∀ v e, fault v = some e → ∀ k, move k v = k) (s : σ) (v : Visit) :
    view (after visit s v) = move (view s) v := by
  rw [after, h]
  cases hv : fault v with
  | some e => exact (hfault v e hv (view s)).symm
  | none => exact hnext s v

end Emit

namespace Declarations

/-- Only scalars and arrays are refused, and neither of them changes the level. -/
theorem levelAfter_of_fault {settings : Settings} {v : Visit} {e : Error}
    (h : fault settings v = some e) (level : Nat) : levelAfter level v = level := by
  cases v with
  | enter name address members => exact nomatch h
  | leave name address members => exact nomatch h
  | scalar kind name address => rfl
  | array kind size name address => rfl

theorem after_level (settings : Settings) (s : Declarations) (v : Visit) :
    (Emit.after (visit settings) s v).out.level = levelAfter s.out.level v := by
  apply (follows settings).view_after (fun s => s.out.level) levelAfter
  · intro s v
    rw [next_out]
  · exact fun _ _ => levelAfter_of_fault

end Declarations

namespace Definitions

theorem scopeAfter_of_fault {settings : Settings} {v : Visit} {e : Error}
    (h : fault settings v = some e) (scope : List String) : scopeAfter scope v = scope := by
  cases v with
  | enter name address members => exact nomatch h
  | leave name address members => exact nomatch h
  | scalar kind name address => rfl
  | array kind size name address => rfl

theorem after_scope (settings : Settings) (s : Definitions) (v : Visit) :
    (Emit.after (visit settings) s v).scope = scopeAfter s.scope v := by
  apply (follows settings).view_after scope scopeAfter
  · exact next_scope settings
  · exact fun _ _ => scopeAfter_of_fault

/-- The body of a getter is indented and the level goes back, so no call changes it. -/
theorem after_level (settings : Settings) (s : Definitions) (v : Visit) :
    (Emit.after (visit settings) s v).out.level = s.out.level := by
  apply (follows settings).view_after (fun s => s.out.level) fun level _ => level
  · intro s v
    rw [next_out]
  · exact fun _ _ _ _ => rfl

theorem length_scopeAfter (scope : List String) (v : Visit) :
    (scopeAfter scope v).length = Declarations.levelAfter scope.length v := by
  cases v with
  | enter name address members => exact List.length_append
  | leave name address members => exact List.length_dropLast
  | scalar kind name address => rfl
  | array kind size name address => rfl

end Definitions

/-- Declarations are as deep as the scope of the definitions is long, and definitions stand at the
left margin. -/
structure InStep (declared : Declarations) (defined : Definitions) : Prop where
  level : declared.out.level = defined.scope.length
  margin : defined.out.level = 0

/-- One call keeps both in step, even if only one of them refuses it. -/
theorem InStep.after {declared : Declarations} {defined : Definitions}
    (h : InStep declared defined) (settings settings' : Settings) (v : Visit) :
    InStep (Emit.after (Declarations.visit settings) declared v)
      (Emit.after (Definitions.visit settings') defined v) where
  level := by
    rw [Declarations.after_level, Definitions.after_scope, Definitions.length_scopeAfter, h.level]
  margin := by rw [Definitions.after_level, h.margin]

/-- The states of the two emitters, first and after every call. Their settings need not be the
same. -/
theorem emitters_in_step (settings settings' : Settings) (className : String)
    (calls : List Visit) :
    List.Forall₂ InStep
      (calls.scanl (Emit.after (Declarations.visit settings)) (.new settings))
      (calls.scanl (Emit.after (Definitions.visit settings')) (.new settings' className)) := by
  have hstart : InStep (.new settings) (.new settings' className) := ⟨rfl, rfl⟩
  exact forall₂_scanl (fun _ _ v h => h.after settings settings' v) hstart calls

end Cpp
end Accessors
