import Accessors.Files.Store
import Accessors.Proofs.Outcomes

/-!
Where paths lead. Every step of a path is taken from a directory, so a path leads to the same place
in all stores that have those directories. What stands at the end of the path does not matter.
-/

set_option autoImplicit false

namespace Accessors

namespace Store

/-- The directories of one store are directories of the other, and both are worked with from the
same place. -/
structure DirsKept (s t : Store) : Prop where
  workplace : t.workplace = s.workplace
  directory : ∀ place, s.lookup place = some .directory → t.lookup place = some .directory

theorem DirsKept.refl (s : Store) : DirsKept s s := ⟨rfl, fun _ h => h⟩

theorem DirsKept.trans {s t u : Store} (hst : DirsKept s t) (htu : DirsKept t u) :
    DirsKept s u where
  workplace := htu.workplace.trans hst.workplace
  directory := fun place h => htu.directory place (hst.directory place h)

theorem isDirectoryAt_iff {s : Store} {place : Location} :
    s.isDirectoryAt place = true ↔ s.lookup place = some .directory := by
  unfold isDirectoryAt
  split <;> simp_all

theorem enter_eq_ok_iff {s : Store} {place : Location} :
    s.enter place = .ok () ↔ s.lookup place = some .directory := by
  unfold enter
  split <;> simp_all

/-- The place that one step leads to, if it can be taken. -/
def stepped (place : Location) (step : String) : Location :=
  if step = "." then place else if step = ".." then place.dropLast else place ++ [step]

theorem goTo_eq (s : Store) (place : Location) (step : String) :
    s.goTo place step = s.enter place >>= fun _ =>
      if Path.stepLimit < step.utf8ByteSize then .error .nameTooLong
      else .ok (stepped place step) := by
  simp only [goTo, stepped, apply_ite Except.ok]

theorem goTo_eq_ok_iff {s : Store} {place q : Location} {step : String} :
    s.goTo place step = .ok q ↔
      s.lookup place = some .directory ∧ step.utf8ByteSize ≤ Path.stepLimit ∧
        q = stepped place step := by
  rw [goTo_eq, bind_eq_ok_iff]
  constructor
  · rintro ⟨⟨⟩, henter, hstep⟩
    split at hstep
    · exact nomatch hstep
    · rename_i hshort
      exact ⟨enter_eq_ok_iff.mp henter, Nat.le_of_not_lt hshort, (Except.ok.inj hstep).symm⟩
  · rintro ⟨hplace, hshort, rfl⟩
    exact ⟨(), enter_eq_ok_iff.mpr hplace, if_neg (Nat.not_lt.mpr hshort)⟩

/-- Where steps lead from a place. -/
abbrev follow (s : Store) (place : Location) (steps : List String) : Except FileError Location :=
  steps.foldlM s.goTo place

theorem follow_cons_eq_ok_iff {s : Store} {place q : Location} {step : String}
    {steps : List String} :
    s.follow place (step :: steps) = .ok q ↔
      ∃ middle, s.goTo place step = .ok middle ∧ s.follow middle steps = .ok q := by
  rw [follow, List.foldlM_cons, bind_eq_ok_iff]

theorem follow_append_eq_ok_iff {s : Store} {place q : Location} {front back : List String} :
    s.follow place (front ++ back) = .ok q ↔
      ∃ middle, s.follow place front = .ok middle ∧ s.follow middle back = .ok q := by
  rw [follow, List.foldlM_append, bind_eq_ok_iff]

theorem DirsKept.goTo {s t : Store} (h : DirsKept s t) {place q : Location} {step : String}
    (hq : s.goTo place step = .ok q) : t.goTo place step = .ok q := by
  obtain ⟨hplace, hrest⟩ := goTo_eq_ok_iff.mp hq
  exact goTo_eq_ok_iff.mpr ⟨h.directory place hplace, hrest⟩

theorem DirsKept.follow {s t : Store} (h : DirsKept s t) {place q : Location}
    {steps : List String} (hq : s.follow place steps = .ok q) : t.follow place steps = .ok q := by
  induction steps generalizing place with
  | nil => exact hq
  | cons step steps ih =>
    obtain ⟨middle, hstep, hsteps⟩ := follow_cons_eq_ok_iff.mp hq
    exact follow_cons_eq_ok_iff.mpr ⟨middle, h.goTo hstep, ih hsteps⟩

theorem DirsKept.resolve {s t : Store} (h : DirsKept s t) {p : Path} {q : Location}
    (hq : s.resolve p = .ok q) : t.resolve p = .ok q := by
  unfold Store.resolve at hq ⊢
  rw [h.workplace]
  exact h.follow hq

theorem isDirectory_iff {s : Store} {p : Path} :
    s.isDirectory p = true ↔ ∃ q, s.resolve p = .ok q ∧ s.lookup q = some .directory := by
  unfold isDirectory
  cases s.resolve p with
  | ok place => simp [isDirectoryAt_iff]
  | error e => simp

theorem DirsKept.isDirectory {s t : Store} (h : DirsKept s t) {p : Path}
    (hp : s.isDirectory p = true) : t.isDirectory p = true := by
  obtain ⟨q, hq, hdir⟩ := isDirectory_iff.mp hp
  exact isDirectory_iff.mpr ⟨q, h.resolve hq, h.directory q hdir⟩

/-- Some first steps of a path lead to the place. -/
def LiesOn (s : Store) (p : Path) (place : Location) : Prop :=
  ∃ n, s.resolve { p with steps := p.steps.take n } = .ok place

theorem DirsKept.liesOn {s t : Store} (h : DirsKept s t) {p : Path} {place : Location}
    (hp : s.LiesOn p place) : t.LiesOn p place := by
  obtain ⟨n, hn⟩ := hp
  exact ⟨n, h.resolve hn⟩

/-- A single dot may be left out. -/
theorem follow_filter {s : Store} {place q : Location} {steps : List String}
    (h : s.follow place steps = .ok q) : s.follow place (steps.filter (· != ".")) = .ok q := by
  induction steps generalizing place with
  | nil => exact h
  | cons step steps ih =>
    obtain ⟨middle, hstep, hsteps⟩ := follow_cons_eq_ok_iff.mp h
    by_cases hdot : step = "."
    · obtain rfl : middle = place := by simpa [stepped, hdot] using (goTo_eq_ok_iff.mp hstep).2.2
      rw [List.filter_cons_of_neg (by simp [hdot])]
      exact ih hsteps
    · rw [List.filter_cons_of_pos (by simp [hdot])]
      exact follow_cons_eq_ok_iff.mpr ⟨middle, hstep, ih hsteps⟩

/-- What first steps lead to without the single dots, first steps lead to with them: a dot stays in
a directory, and the step after it is taken from there. -/
theorem exists_take_of_prefix_filter {s : Store} {place q : Location} {steps front : List String}
    (hfront : front <+: steps.filter (· != ".")) (h : s.follow place front = .ok q) :
    ∃ n, s.follow place (steps.take n) = .ok q := by
  induction steps generalizing place front with
  | nil =>
    obtain rfl : front = [] := List.prefix_nil.mp hfront
    exact ⟨0, h⟩
  | cons step steps ih =>
    cases front with
    | nil => exact ⟨0, h⟩
    | cons first front =>
      obtain ⟨middle, hfirst, hrest⟩ := follow_cons_eq_ok_iff.mp h
      by_cases hdot : step = "."
      · rw [List.filter_cons_of_neg (by simp [hdot])] at hfront
        obtain ⟨n, hn⟩ := ih hfront h
        refine ⟨n + 1, ?_⟩
        rw [List.take_succ_cons, follow_cons_eq_ok_iff]
        refine ⟨place, goTo_eq_ok_iff.mpr ⟨(goTo_eq_ok_iff.mp hfirst).1, ?_, ?_⟩, hn⟩
        · rw [hdot]
          decide
        · simp [stepped, hdot]
      · rw [List.filter_cons_of_pos (by simp [hdot])] at hfront
        obtain ⟨rfl, htail⟩ := List.cons_prefix_cons.mp hfront
        obtain ⟨n, hn⟩ := ih htail hrest
        exact ⟨n + 1, follow_cons_eq_ok_iff.mpr ⟨middle, hfirst, hn⟩⟩

end Store

end Accessors
