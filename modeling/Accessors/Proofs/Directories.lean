import Accessors.Proofs.Accesses

/-!
Making a directory with those around it. Whether it succeeds or not, all that was there is kept,
and whatever is new is a directory on the way of the path. It succeeds if and only if the path leads
to a directory in the end.
-/

set_option autoImplicit false

namespace Accessors

namespace Store

/-- Directories were made where nothing was, at places with some property, and nothing else
changed. -/
structure Grown (on : Store → Location → Prop) (s t : Store) : Prop where
  workplace : t.workplace = s.workplace
  made : ∀ place, t.lookup place = s.lookup place ∨
    s.lookup place = none ∧ t.lookup place = some .directory ∧ on t place

namespace Grown

variable {on : Store → Location → Prop} {s t u : Store}

theorem refl (on : Store → Location → Prop) (s : Store) : Grown on s s := ⟨rfl, fun _ => .inl rfl⟩

/-- Nothing is lost. -/
theorem lookup (h : Grown on s t) {place : Location} {entry : Entry}
    (hentry : s.lookup place = some entry) : t.lookup place = some entry := by
  rcases h.made place with hsame | ⟨hnone, -⟩
  · exact hsame.trans hentry
  · exact nomatch hnone.symm.trans hentry

theorem dirsKept (h : Grown on s t) : DirsKept s t := ⟨h.workplace, fun _ => h.lookup⟩

theorem mono {more : Store → Location → Prop} (h : Grown on s t)
    (hmore : ∀ place, on t place → more t place) : Grown more s t := by
  refine ⟨h.workplace, fun place => ?_⟩
  rcases h.made place with hsame | ⟨hnone, hdir, hon⟩
  · exact .inl hsame
  · exact .inr ⟨hnone, hdir, hmore place hon⟩

theorem trans (hst : Grown on s t) (htu : Grown on t u)
    (hon : ∀ place, on t place → on u place) : Grown on s u := by
  refine ⟨htu.workplace.trans hst.workplace, fun place => ?_⟩
  rcases htu.made place with hsame | ⟨hnone, hdir, hplace⟩
  · rcases hst.made place with hsame' | ⟨hnone, hdir, hplace⟩
    · exact .inl (hsame.trans hsame')
    · exact .inr ⟨hnone, hsame.trans hdir, hon place hplace⟩
  · rcases hst.made place with hsame' | ⟨-, hdir', -⟩
    · exact .inr ⟨hsame'.symm.trans hnone, hdir, hplace⟩
    · exact nomatch hnone.symm.trans hdir'

end Grown

/-- One of the paths leads to the place. -/
def EndOf (paths : List Path) (s : Store) (place : Location) : Prop :=
  ∃ p ∈ paths, s.resolve p = .ok place

theorem EndOf.mono {paths more : List Path} {s : Store} {place : Location}
    (h : EndOf paths s place) (hmore : paths ⊆ more) : EndOf more s place := by
  obtain ⟨p, hp, hleads⟩ := h
  exact ⟨p, hmore hp, hleads⟩

theorem EndOf.kept {paths : List Path} {s t : Store} {place : Location}
    (h : EndOf paths s place) (hkept : DirsKept s t) : EndOf paths t place := by
  obtain ⟨p, hp, hleads⟩ := h
  exact ⟨p, hp, hkept.resolve hleads⟩

theorem ne_nil_of_lookup_eq_none {s : Store} {place : Location} (h : s.lookup place = none) :
    place ≠ [] := by
  rintro rfl
  exact nomatch (lookup_nil s).symm.trans h

theorem makeDir_cases (p : Path) (s : Store) :
    (∃ place, s.resolve p = .ok place ∧ s.lookup place = none ∧
        makeDir p s = (.ok (), s.set place .directory)) ∨
      ∃ e, makeDir p s = (.error e, s) := by
  unfold makeDir
  rw [bind_run, locate_run]
  cases hplace : s.resolve p with
  | error e => exact .inr ⟨e, rfl⟩
  | ok place =>
    dsimp only
    rw [bind_run, get_run]
    dsimp only
    cases hentry : s.lookup place with
    | none => exact .inl ⟨place, rfl, hentry, rfl⟩
    | some entry => exact .inr ⟨.alreadyExists, rfl⟩

theorem grown_set_directory {s : Store} {p : Path} {place : Location}
    (hplace : s.resolve p = .ok place) (hnone : s.lookup place = none) :
    Grown (EndOf [p]) s (s.set place .directory) := by
  have hlookup := fun other => lookup_set s place other .directory (ne_nil_of_lookup_eq_none hnone)
  have hkept : DirsKept s (s.set place .directory) := by
    refine ⟨rfl, fun other hother => ?_⟩
    rw [hlookup]
    split
    · rfl
    · exact hother
  refine ⟨rfl, fun other => ?_⟩
  by_cases hother : other = place
  · subst hother
    exact .inr ⟨hnone, by rw [hlookup, if_pos rfl], p, List.mem_singleton_self p,
      hkept.resolve hplace⟩
  · exact .inl (by rw [hlookup, if_neg hother])

/-- How making a directory ends is told by whether it is there afterwards. -/
theorem ensureDir_spec {p : Path} {s t : Store} {outcome : Except FileError Unit}
    (h : ensureDir p s = (outcome, t)) :
    Grown (EndOf [p]) s t ∧ (outcome = .ok () ↔ t.isDirectory p = true) := by
  unfold ensureDir at h
  obtain ⟨place, hplace, hnone, hmake⟩ | ⟨e, hmake⟩ := makeDir_cases p s
  · rw [hmake] at h
    obtain ⟨rfl, rfl⟩ := Prod.mk.inj h
    have hgrown := grown_set_directory hplace hnone
    refine ⟨hgrown, iff_of_true rfl (isDirectory_iff.mpr ⟨place, ?_, ?_⟩)⟩
    · exact hgrown.dirsKept.resolve hplace
    · rw [lookup_set s place place .directory (ne_nil_of_lookup_eq_none hnone), if_pos rfl]
  · rw [hmake] at h
    obtain ⟨rfl, rfl⟩ := Prod.mk.inj h
    refine ⟨.refl _ s, ?_⟩
    cases s.isDirectory p <;> simp

theorem makeDirsFrom_of_missing {p outer : Path} {rest : List Path} {s : Store}
    (h : s.resolve p = .error .notFound) :
    makeDirsFrom p (outer :: rest) s =
      (makeDirsFrom outer rest >>= fun _ => ensureDir p) s := by
  rw [makeDirsFrom, bind_run, get_run]
  dsimp only
  rw [h]

theorem makeDirsFrom_of_not_missing {p outer : Path} {rest : List Path} {s : Store}
    (h : s.resolve p ≠ .error .notFound) :
    makeDirsFrom p (outer :: rest) s = ensureDir p s := by
  rw [makeDirsFrom, bind_run, get_run]
  dsimp only
  cases hplace : s.resolve p with
  | ok place => rfl
  | error e =>
    cases e with
    | notFound => exact absurd hplace h
    | _ => rfl

/-- Where one path leads to a directory, so does the other. -/
def Within (p outer : Path) : Prop :=
  ∀ s : Store, s.isDirectory p = true → s.isDirectory outer = true

theorem makeDirsFrom_spec {p : Path} {rest : List Path} {s t : Store}
    {outcome : Except FileError Unit} (hrest : (p :: rest).Pairwise Within)
    (h : makeDirsFrom p rest s = (outcome, t)) :
    Grown (EndOf (p :: rest)) s t ∧ (outcome = .ok () ↔ t.isDirectory p = true) := by
  induction rest generalizing p s t outcome with
  | nil => exact ensureDir_spec h
  | cons outer rest ih =>
    obtain ⟨hwithin, houter⟩ := List.pairwise_cons.mp hrest
    have houtside : outer :: rest ⊆ p :: outer :: rest := List.subset_cons_self p _
    have hlast : [p] ⊆ p :: outer :: rest := by simp
    by_cases hmissing : s.resolve p = .error .notFound
    · rw [makeDirsFrom_of_missing hmissing, bind_run] at h
      rcases hmake : makeDirsFrom outer rest s with ⟨e | _, middle⟩
      · rw [hmake] at h
        obtain ⟨rfl, rfl⟩ := Prod.mk.inj h
        obtain ⟨hgrown, houtcome⟩ := ih houter hmake
        refine ⟨hgrown.mono fun _ hend => hend.mono houtside, iff_of_false nofun fun hp => ?_⟩
        exact nomatch houtcome.mpr (hwithin outer List.mem_cons_self middle hp)
      · rw [hmake] at h
        obtain ⟨hfirst, -⟩ := ih houter hmake
        obtain ⟨hsecond, houtcome⟩ := ensureDir_spec h
        refine ⟨?_, houtcome⟩
        apply (hfirst.mono fun _ hend => hend.mono houtside).trans
        · exact hsecond.mono fun _ hend => hend.mono hlast
        · exact fun _ hend => hend.kept hsecond.dirsKept
    · rw [makeDirsFrom_of_not_missing hmissing] at h
      obtain ⟨hgrown, houtcome⟩ := ensureDir_spec h
      exact ⟨hgrown.mono fun _ hend => hend.mono hlast, houtcome⟩

/-- The way to a directory goes through directories. -/
theorem isDirectory_take {s : Store} {p : Path} (h : s.isDirectory p = true) (n : Nat) :
    s.isDirectory { p with steps := p.steps.take n } = true := by
  obtain ⟨place, hplace, hdir⟩ := isDirectory_iff.mp h
  unfold resolve at hplace
  rw [← List.take_append_drop n p.steps] at hplace
  obtain ⟨middle, hmiddle, hrest⟩ := follow_append_eq_ok_iff.mp hplace
  refine isDirectory_iff.mpr ⟨middle, hmiddle, ?_⟩
  cases hdrop : p.steps.drop n with
  | nil =>
    rw [hdrop] at hrest
    obtain rfl : middle = place := Except.ok.inj hrest
    exact hdir
  | cons step steps =>
    rw [hdrop] at hrest
    obtain ⟨next, hstep, -⟩ := follow_cons_eq_ok_iff.mp hrest
    exact (goTo_eq_ok_iff.mp hstep).1

/-- The components are the steps without single dots, but a relative path may start with one. -/
theorem components_cases (p : Path) :
    (∃ rest, p.steps = "." :: rest ∧ p.components = "." :: rest.filter (· != ".")) ∨
      p.components = p.steps.filter (· != ".") := by
  unfold Path.components
  split
  · rename_i rest _ hsteps
    exact .inl ⟨rest, hsteps, rfl⟩
  · exact .inr rfl

theorem resolve_components {s : Store} {p : Path} {place : Location}
    (h : s.resolve p = .ok place) :
    s.resolve { p with steps := p.components } = .ok place := by
  unfold resolve at h ⊢
  obtain ⟨rest, hsteps, hcomponents⟩ | hcomponents := components_cases p
  · rw [hsteps] at h
    rw [hcomponents]
    obtain ⟨middle, hfirst, hrest⟩ := follow_cons_eq_ok_iff.mp h
    exact follow_cons_eq_ok_iff.mpr ⟨middle, hfirst, follow_filter hrest⟩
  · rw [hcomponents]
    exact follow_filter h

theorem liesOn_of_components {s : Store} {p : Path} {place : Location} {n : Nat}
    (h : s.resolve { p with steps := p.components.take n } = .ok place) : s.LiesOn p place := by
  unfold resolve at h
  unfold LiesOn resolve
  obtain ⟨rest, hsteps, hcomponents⟩ | hcomponents := components_cases p
  · rw [hcomponents] at h
    rw [hsteps]
    cases n with
    | zero => exact ⟨0, h⟩
    | succ n =>
      obtain ⟨middle, hfirst, hrest⟩ := follow_cons_eq_ok_iff.mp h
      obtain ⟨m, hm⟩ := exists_take_of_prefix_filter (List.take_prefix n _) hrest
      exact ⟨m + 1, follow_cons_eq_ok_iff.mpr ⟨middle, hfirst, hm⟩⟩
  · rw [hcomponents] at h
    exact exists_take_of_prefix_filter (List.take_prefix n _) h

theorem mem_above {p outer : Path} (h : outer ∈ p.above) :
    ∃ n, outer = ⟨p.absolute, p.components.take n, false⟩ := by
  obtain ⟨hmem, -⟩ := List.mem_filter.mp h
  obtain ⟨n, -, rfl⟩ := List.mem_map.mp hmem
  exact ⟨n, rfl⟩

theorem pairwise_above (p : Path) : (p :: p.above).Pairwise Within := by
  refine List.pairwise_cons.mpr ⟨?_, ?_⟩
  · intro outer houter s hp
    obtain ⟨n, rfl⟩ := mem_above houter
    obtain ⟨place, hplace, hdir⟩ := isDirectory_iff.mp hp
    have hcomponents : s.isDirectory ⟨p.absolute, p.components, false⟩ = true :=
      isDirectory_iff.mpr ⟨place, resolve_components hplace, hdir⟩
    exact isDirectory_take hcomponents n
  · refine List.Pairwise.filter _ (List.pairwise_map.mpr ?_)
    refine List.pairwise_reverse.mpr (List.pairwise_lt_range.imp fun {m n} hlt s hp => ?_)
    have htake := isDirectory_take hp m
    rwa [List.take_take, Nat.min_eq_left (Nat.le_of_lt hlt)] at htake

theorem liesOn_of_endOf {s : Store} {p : Path} {place : Location}
    (h : EndOf (p :: p.above) s place) : s.LiesOn p place := by
  obtain ⟨q, hq, hleads⟩ := h
  rcases List.mem_cons.mp hq with rfl | hq
  · refine ⟨q.steps.length, ?_⟩
    rwa [List.take_length]
  · obtain ⟨n, rfl⟩ := mem_above hq
    exact liesOn_of_components hleads

/-- A place is as it was, or a directory was made there on the way of a path. -/
def Spared (p : Path) (s t : Store) (place : Location) : Prop :=
  t.lookup place = s.lookup place ∨
    s.lookup place = none ∧ t.lookup place = some .directory ∧ t.LiesOn p place

theorem makeDirs_spec {path : String} {s t : Store} {outcome : Except FileError Unit}
    (h : (Files.makeDirs path : StateM Store (Except FileError Unit)) s = (outcome, t)) :
    Grown (LiesOn · (.ofText path)) s t ∧
      (outcome = .ok () ↔
        path.utf8ByteSize ≤ Path.limit ∧ t.isDirectory (.ofText path) = true) := by
  change atPath path makeDirs s = (outcome, t) at h
  by_cases hlong : Path.limit < path.utf8ByteSize
  · rw [atPath_of_long hlong] at h
    obtain ⟨rfl, rfl⟩ := Prod.mk.inj h
    exact ⟨.refl _ s, iff_of_false nofun fun hok => absurd hok.1 (Nat.not_le.mpr hlong)⟩
  · have hshort := Nat.le_of_not_lt hlong
    rw [atPath_of_short hshort] at h
    obtain ⟨hgrown, houtcome⟩ := makeDirsFrom_spec (pairwise_above _) h
    refine ⟨hgrown.mono fun _ => liesOn_of_endOf, houtcome.trans ?_⟩
    exact (and_iff_right hshort).symm

end Store

end Accessors
