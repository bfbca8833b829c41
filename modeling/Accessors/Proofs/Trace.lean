import Accessors.Cpp.Emit
import Accessors.Proofs.Outcomes

/-!
A walk over a tree is a run over one flat list of visits. Whatever an emitter does is then said of
lists: how it goes on after a visit, and which visit stops it.
-/

set_option autoImplicit false

namespace Accessors

namespace Node

mutual

/-- The visits of a walk, from the first to the last. -/
def visits : Node → List Visit
  | classDef name address members =>
    .enter name address members :: (visitsAll members ++ [.leave name address members])
  | scalar kind name address => [.scalar kind name address]
  | array kind size name address => [.array kind size name address]

def visitsAll : List Node → List Visit
  | [] => []
  | node :: rest => node.visits ++ visitsAll rest

end

section Walk
variable {m : Type → Type} [Monad m] [LawfulMonad m] (visit : Visit → m Unit)

mutual

theorem walk_eq_forM (node : Node) : node.walk visit = forM node.visits visit := by
  cases node with
  | classDef name address members =>
    simp [walk, visits, walkAll_eq_forM members]
  | scalar kind name address => simp [walk, visits]
  | array kind size name address => simp [walk, visits]

theorem walkAll_eq_forM (nodes : List Node) :
    walkAll visit nodes = forM (visitsAll nodes) visit := by
  cases nodes with
  | nil => simp [walkAll, visitsAll]
  | cons node rest => simp [walkAll, visitsAll, walk_eq_forM node, walkAll_eq_forM rest]

end

end Walk

end Node

namespace Node

/-- Induction over a forest: a class has its members and what follows it. -/
theorem forest_induction {motive : List Node → Prop} (nil : motive [])
    (classDef : ∀ name address members rest, motive members → motive rest →
      motive (.classDef name address members :: rest))
    (scalar : ∀ kind name address rest, motive rest →
      motive (.scalar kind name address :: rest))
    (array : ∀ kind size name address rest, motive rest →
      motive (.array kind size name address :: rest)) :
    ∀ nodes, motive nodes
  | [] => nil
  | .classDef name address members :: rest =>
    classDef name address members rest
      (forest_induction nil classDef scalar array members)
      (forest_induction nil classDef scalar array rest)
  | .scalar kind name address :: rest =>
    scalar kind name address rest (forest_induction nil classDef scalar array rest)
  | .array kind size name address :: rest =>
    array kind size name address rest (forest_induction nil classDef scalar array rest)

section Visits
variable (name address size : String) (kind : Kind) (members rest : List Node)

@[simp] theorem visitsAll_nil : visitsAll [] = [] := rfl

@[simp] theorem visitsAll_classDef :
    visitsAll (.classDef name address members :: rest) =
      .enter name address members :: (visitsAll members ++
        .leave name address members :: visitsAll rest) := by
  simp [visitsAll, visits]

@[simp] theorem visitsAll_scalar :
    visitsAll (.scalar kind name address :: rest) = .scalar kind name address :: visitsAll rest :=
  rfl

@[simp] theorem visitsAll_array :
    visitsAll (.array kind size name address :: rest) =
      .array kind size name address :: visitsAll rest := rfl

end Visits
end Node

namespace Cpp.Emit

variable {σ : Type} {visit : Visit → Emit σ Unit} {fault : Visit → Option Error}
  {next : σ → Visit → σ}

/-- An emitter that looks at a visit alone to refuse it, and leaves its state as it was when it
does. -/
def Follows (visit : Visit → Emit σ Unit) (fault : Visit → Option Error)
    (next : σ → Visit → σ) : Prop :=
  ∀ v s, visit v s = match fault v with
    | some e => (.error e, s)
    | none => (.ok (), next s v)

theorem ofExcept_bind {α β : Type} (x : Except Error α) (f : α → Emit σ β) (s : σ) :
    (ofExcept x >>= f) s = match x with
      | .ok a => f a s
      | .error e => (.error e, s) := by
  cases x <;> rfl

theorem forM_cons_eq (v : Visit) (vs : List Visit) (s : σ) :
    (forM (v :: vs) visit : Emit σ Unit) s = match visit v s with
      | (.ok _, t) => (forM vs visit : Emit σ Unit) t
      | (.error e, t) => (.error e, t) := by
  rw [List.forM_cons]
  change (match visit v s with
    | (r, t) => ExceptT.bindCont (fun _ => (forM vs visit : Emit σ Unit)) r t) = _
  rcases visit v s with ⟨_ | _, t⟩ <;> rfl

theorem walk_eq_forM (s : σ) (nodes : List Node) :
    walk visit s nodes = (forM (Node.visitsAll nodes) visit : Emit σ Unit) s := by
  rw [walk, Node.walkAll_eq_forM]

theorem Follows.forM_of_none (h : Follows visit fault next) {vs : List Visit} (s : σ)
    (hvs : ∀ v ∈ vs, fault v = none) :
    (forM vs visit : Emit σ Unit) s = (.ok (), vs.foldl next s) := by
  induction vs generalizing s with
  | nil => rfl
  | cons v vs ih =>
    obtain ⟨hv, hvs⟩ := List.forall_mem_cons.mp hvs
    rw [forM_cons_eq, h v s, hv]
    exact ih (next s v) hvs

/-- The first refused visit decides how a run ends. -/
theorem Follows.forM_fst (h : Follows visit fault next) (vs : List Visit) (s : σ) :
    ((forM vs visit : Emit σ Unit) s).1 = match vs.findSome? fault with
      | some e => .error e
      | none => .ok () := by
  induction vs generalizing s with
  | nil => rfl
  | cons v vs ih =>
    rw [forM_cons_eq, h v s, List.findSome?_cons]
    cases fault v with
    | some e => rfl
    | none => exact ih (next s v)

theorem Follows.logged_outcome (h : Follows visit fault next) (log : σ → List Event)
    (text : σ → String) (s : σ) (nodes : List Node) :
    (logged log text (walk visit s nodes)).outcome =
      match (Node.visitsAll nodes).findSome? fault with
      | some e => .error e
      | none => .ok (text ((Node.visitsAll nodes).foldl next s)) := by
  rw [logged, walk_eq_forM]
  cases hf : (Node.visitsAll nodes).findSome? fault with
  | some e =>
    have hfirst := h.forM_fst (Node.visitsAll nodes) s
    rw [hf] at hfirst
    rw [hfirst]
    rfl
  | none =>
    rw [h.forM_of_none s (List.findSome?_eq_none_iff.mp hf)]
    rfl

end Cpp.Emit

end Accessors
