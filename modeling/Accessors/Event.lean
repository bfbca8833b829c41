import Accessors.Error

/-!
What a run reports while it works, and outcomes that carry such reports.
-/

set_option autoImplicit false

namespace Accessors

inductive Event where
  | closedClass (name : String) (members : Nat)
  | parsedSchema (nodes : Nat)
  | declaringClass (name : String) (depth : Nat)
  | definingClass (name : String)
  /-- An accessor of an array is declared and gets no body. -/
  | bodyless (accessor : String)
  /-- Sizes are counted in bytes of UTF-8. -/
  | emitted (declarations definitions : Nat)
deriving DecidableEq

namespace Event

inductive Level where
  | debug
  | warn
deriving DecidableEq

/-- A field of a report is a count or a text. -/
inductive Field where
  | count (n : Nat)
  | text (s : String)
deriving DecidableEq

def level : Event → Level
  | bodyless _ => .warn
  | _ => .debug

def message : Event → String
  | closedClass .. => "closed class"
  | parsedSchema .. => "parsed schema"
  | declaringClass .. => "declaring class"
  | definingClass .. => "defining class"
  | bodyless .. => "array accessor bodies are not generated"
  | emitted .. => "emitted accessor fragments"

def fields : Event → List (String × Field)
  | closedClass name members => [("class", .text name), ("members", .count members)]
  | parsedSchema nodes => [("nodes", .count nodes)]
  | declaringClass name depth => [("class", .text name), ("depth", .count depth)]
  | definingClass name => [("class", .text name)]
  | bodyless accessor => [("accessor", .text accessor)]
  | emitted declarations definitions =>
    [("declarations", .count declarations), ("definitions", .count definitions)]

end Event

/-- The outcome of a run with what it reported up to its end, in order. -/
structure Logged (α : Type) where
  events : List Event
  outcome : Except Error α

namespace Logged

variable {α β : Type}

/-- A run without reports. -/
def ofExcept (outcome : Except Error α) : Logged α := ⟨[], outcome⟩

def report (event : Event) : Logged Unit := ⟨[event], .ok ()⟩

/-- The second run starts where the first succeeded. -/
def andThen (first : Logged α) (next : α → Logged β) : Logged β :=
  match first.outcome with
  | .ok a => ⟨first.events ++ (next a).events, (next a).outcome⟩
  | .error e => ⟨first.events, .error e⟩

instance : Monad Logged where
  pure a := ⟨[], .ok a⟩
  bind := andThen

theorem pure_def (a : α) : (pure a : Logged α) = ⟨[], .ok a⟩ := rfl

theorem bind_def (first : Logged α) (next : α → Logged β) :
    first >>= next = first.andThen next := rfl

/-- Reports come in the order of the runs, however these are put together. -/
instance : LawfulMonad Logged := LawfulMonad.mk' Logged
  (by
    intro α x
    obtain ⟨events, outcome⟩ := x
    cases outcome <;> simp [Functor.map, andThen])
  (by intro α β a next; simp [bind_def, pure_def, andThen])
  (by
    intro α β γ x f g
    obtain ⟨events, outcome⟩ := x
    cases outcome with
    | error e => rfl
    | ok a =>
      simp only [bind_def, andThen]
      cases (f a).outcome <;> simp)

end Logged

end Accessors
