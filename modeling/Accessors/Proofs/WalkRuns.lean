import Accessors.Proofs.Correspondence

/-!
Walks with any visitor. A walk makes the visits of one flat list, from the first to the last, and ends
with the first one that fails, wherever in the tree it is made: what is open then is not left any more.
In the list itself every class is left that was entered, the innermost first.
-/

set_option autoImplicit false

namespace Accessors

namespace Cpp.Emit

variable {σ : Type}

/-- The visits are made one after the other, and none of them fails. -/
inductive Passes (visit : Visit → Emit σ Unit) : σ → List Visit → σ → Prop where
  | nil (s : σ) : Passes visit s [] s
  | cons {s t u : σ} {v : Visit} {vs : List Visit} :
      visit v s = (.ok (), t) → Passes visit t vs u → Passes visit s (v :: vs) u

/-- How a run over a list of visits may end, and which of them it has made by then. -/
inductive Runs (visit : Visit → Emit σ Unit) :
    σ → List Visit → List Visit → Except Error Unit × σ → Prop where
  | passed {s t : σ} {vs : List Visit} :
      Passes visit s vs t → Runs visit s vs vs (.ok (), t)
  | stopped {s t u : σ} {earlier later : List Visit} {v : Visit} {e : Error} :
      Passes visit s earlier t → visit v t = (.error e, u) →
      Runs visit s (earlier ++ v :: later) (earlier ++ [v]) (.error e, u)

/-- The same visitor, with a list of the visits that were made. -/
def noted (visit : Visit → Emit σ Unit) (v : Visit) : Emit (List Visit × σ) Unit :=
  fun s => ((visit v s.2).1, s.1 ++ [v], (visit v s.2).2)

variable {visit : Visit → Emit σ Unit}

theorem Runs.isPrefix {s : σ} {vs calls : List Visit} {result : Except Error Unit × σ}
    (h : Runs visit s vs calls result) : calls <+: vs := by
  cases h with
  | passed _ => exact List.prefix_rfl
  | stopped _ _ =>
    rw [List.prefix_append_right_inj]
    exact ⟨_, rfl⟩

theorem Runs.cons {s t : σ} {v : Visit} {vs calls : List Visit} {result : Except Error Unit × σ}
    (hv : visit v s = (.ok (), t)) (h : Runs visit t vs calls result) :
    Runs visit s (v :: vs) (v :: calls) result := by
  cases h with
  | passed hpasses => exact .passed (.cons hv hpasses)
  | stopped hpasses herror => exact .stopped (.cons hv hpasses) herror

theorem forM_cons_of_ok {s t : σ} {v : Visit} (h : visit v s = (.ok (), t)) (vs : List Visit) :
    (forM (v :: vs) visit : Emit σ Unit) s = (forM vs visit : Emit σ Unit) t := by
  rw [forM_cons_eq, h]

theorem forM_cons_of_error {s t : σ} {v : Visit} {e : Error} (h : visit v s = (.error e, t))
    (vs : List Visit) : (forM (v :: vs) visit : Emit σ Unit) s = (.error e, t) := by
  rw [forM_cons_eq, h]

theorem noted_eq {s t : σ} {v : Visit} {answer : Except Error Unit} (h : visit v s = (answer, t))
    (notes : List Visit) : noted visit v (notes, s) = (answer, notes ++ [v], t) := by
  rw [noted, h]

variable (visit)

theorem forM_runs (vs : List Visit) (s : σ) :
    ∃ calls result, Runs visit s vs calls result ∧ (forM vs visit : Emit σ Unit) s = result ∧
      ∀ notes, (forM vs (noted visit) : Emit (List Visit × σ) Unit) (notes, s) =
        (result.1, notes ++ calls, result.2) := by
  induction vs generalizing s with
  | nil =>
    refine ⟨[], (.ok (), s), .passed (.nil s), rfl, ?_⟩
    intro notes
    rw [List.append_nil]
    rfl
  | cons v vs ih =>
    rcases hv : visit v s with ⟨e | _, t⟩
    · refine ⟨[v], (.error e, t), .stopped (.nil s) hv, forM_cons_of_error hv vs, ?_⟩
      intro notes
      exact forM_cons_of_error (noted_eq hv notes) vs
    · obtain ⟨calls, result, hruns, hresult, hnoted⟩ := ih t
      refine ⟨v :: calls, result, hruns.cons hv, ?_, ?_⟩
      · rw [forM_cons_of_ok hv, hresult]
      · intro notes
        rw [forM_cons_of_ok (noted_eq hv notes), hnoted, List.append_assoc, List.singleton_append]

end Cpp.Emit

/-- Visits that leave the innermost open class or none. The classes that are open before and after them
come with the innermost first. -/
inductive WellNested : List Node → List Visit → List Node → Prop where
  | nil (opened : List Node) : WellNested opened [] opened
  | enter {name address : String} {members opened left : List Node} {vs : List Visit} :
      WellNested (.classDef name address members :: opened) vs left →
      WellNested opened (.enter name address members :: vs) left
  | leave {name address : String} {members opened left : List Node} {vs : List Visit} :
      WellNested opened vs left →
      WellNested (.classDef name address members :: opened) (.leave name address members :: vs) left
  | scalar {kind : Kind} {name address : String} {opened left : List Node} {vs : List Visit} :
      WellNested opened vs left → WellNested opened (.scalar kind name address :: vs) left
  | array {kind : Kind} {size name address : String} {opened left : List Node} {vs : List Visit} :
      WellNested opened vs left → WellNested opened (.array kind size name address :: vs) left

theorem WellNested.visitsAll_append (nodes : List Node) {opened left : List Node} {vs : List Visit}
    (h : WellNested opened vs left) : WellNested opened (Node.visitsAll nodes ++ vs) left := by
  induction nodes using Node.forest_induction generalizing opened vs with
  | nil => exact h
  | classDef name address members rest ihMembers ihRest =>
    rw [Node.visitsAll_classDef, List.cons_append, List.append_assoc, List.cons_append]
    apply WellNested.enter
    apply ihMembers
    apply WellNested.leave
    exact ihRest h
  | scalar kind name address rest ih => exact .scalar (ih h)
  | array kind size name address rest ih => exact .array (ih h)

theorem wellNested_visitsAll (nodes : List Node) : WellNested [] (Node.visitsAll nodes) [] := by
  have hnested := (WellNested.nil []).visitsAll_append nodes
  rwa [List.append_nil] at hnested

theorem WellNested.exists_of_append {opened left : List Node} {earlier later : List Visit}
    (h : WellNested opened (earlier ++ later) left) :
    ∃ between, WellNested opened earlier between ∧ WellNested between later left := by
  induction earlier generalizing opened with
  | nil => exact ⟨opened, .nil opened, h⟩
  | cons v earlier ih =>
    cases h with
    | enter h =>
      obtain ⟨between, hearlier, hlater⟩ := ih h
      exact ⟨between, .enter hearlier, hlater⟩
    | leave h =>
      obtain ⟨between, hearlier, hlater⟩ := ih h
      exact ⟨between, .leave hearlier, hlater⟩
    | scalar h =>
      obtain ⟨between, hearlier, hlater⟩ := ih h
      exact ⟨between, .scalar hearlier, hlater⟩
    | array h =>
      obtain ⟨between, hearlier, hlater⟩ := ih h
      exact ⟨between, .array hearlier, hlater⟩

/-- A walk runs over the visits of its trace in order, up to the first one that fails, and it makes no
others: the classes that are still open then are those that the rest of the trace would leave. The trace
is well nested, and the visits in it that leave nothing are as many as the nodes. -/
theorem walk_runs_over_visits {σ : Type} (visit : Visit → Cpp.Emit σ Unit) (s : σ)
    (nodes : List Node) :
    (∃ calls rest result opened, Cpp.Emit.Runs visit s (Node.visitsAll nodes) calls result ∧
      Cpp.Emit.walk visit s nodes = result ∧
      Cpp.Emit.walk (Cpp.Emit.noted visit) ([], s) nodes = (result.1, calls, result.2) ∧
      Node.visitsAll nodes = calls ++ rest ∧ WellNested [] calls opened ∧ WellNested opened rest []) ∧
    WellNested [] (Node.visitsAll nodes) [] ∧
    (Node.visitsAll nodes).countP (!·.isLeave) = Node.total nodes := by
  refine ⟨?_, wellNested_visitsAll nodes, (Node.total_eq_countP nodes).symm⟩
  obtain ⟨calls, result, hruns, hresult, hnoted⟩ :=
    Cpp.Emit.forM_runs visit (Node.visitsAll nodes) s
  obtain ⟨rest, hrest⟩ := hruns.isPrefix
  have hnested := wellNested_visitsAll nodes
  rw [← hrest] at hnested
  obtain ⟨opened, hcalls, hleft⟩ := hnested.exists_of_append
  refine ⟨calls, rest, result, opened, hruns, ?_, ?_, hrest.symm, hcalls, hleft⟩
  · rw [Cpp.Emit.walk_eq_forM, hresult]
  · rw [Cpp.Emit.walk_eq_forM, hnoted, List.nil_append]

end Accessors
