import Accessors.Proofs.Places

/-!
What the accesses to a store do to it. Reading changes nothing, writing and removing change the
place that the path leads to, and making directories only adds directories on the way of the path.
An access that fails leaves the store as it was, but for directories that were made before.
-/

set_option autoImplicit false

namespace Accessors

/-- Steps that may fail, one after the other: what the first leaves is there for the second. -/
theorem bind_run {ε σ α β : Type} (x : ExceptT ε (StateM σ) α)
    (f : α → ExceptT ε (StateM σ) β) (s : σ) :
    (x >>= f) s = match x s with
      | (.ok a, t) => f a t
      | (.error e, t) => (.error e, t) := by
  change (match x s with | (r, t) => ExceptT.bindCont f r t) = _
  rcases x s with ⟨_ | _, t⟩ <;> rfl

theorem get_run {ε σ : Type} (s : σ) : (get : ExceptT ε (StateM σ) σ) s = (.ok s, s) := rfl

theorem mk_run {ε σ α : Type} (x : Except ε α) (s : σ) :
    (ExceptT.mk (pure x) : ExceptT ε (StateM σ) α) s = (x, s) := rfl

/-- The handler starts from what the failed steps left. -/
theorem catch_run {ε σ α : Type} (x : ExceptT ε (StateM σ) α)
    (handle : ε → ExceptT ε (StateM σ) α) (s : σ) :
    (tryCatch x handle : ExceptT ε (StateM σ) α) s = match x s with
      | (.ok a, t) => (.ok a, t)
      | (.error e, t) => handle e t := by
  simp only [tryCatch, tryCatchThe, MonadExceptOf.tryCatch, ExceptT.tryCatch, ExceptT.mk, bind,
    StateT.bind]
  rcases x s with ⟨_ | _, t⟩ <;> rfl

/-- A step that leaves the state as it is, and the values that it can give. -/
structure Looks {ε σ α : Type} (x : ExceptT ε (StateM σ) α) (s : σ) (gives : α → Prop) : Prop where
  state : (x s).2 = s
  value : ∀ a, (x s).1 = .ok a ↔ gives a

namespace Looks

variable {ε σ α β : Type} {x : ExceptT ε (StateM σ) α} {s : σ} {gives : α → Prop}

theorem of_ok {a : α} (h : x s = (.ok a, s)) (hgives : ∀ b, gives b ↔ b = a) :
    Looks x s gives := by
  refine ⟨by rw [h], fun b => ?_⟩
  rw [h, hgives b, Except.ok.injEq, eq_comm]

theorem of_error {e : ε} (h : x s = (.error e, s)) (hgives : ∀ a, ¬ gives a) :
    Looks x s gives := by
  refine ⟨by rw [h], fun a => ?_⟩
  rw [h]
  exact iff_of_false nofun (hgives a)

theorem cases (h : Looks x s gives) :
    (∃ a, gives a ∧ x s = (.ok a, s)) ∨ (∀ a, ¬ gives a) ∧ ∃ e, x s = (.error e, s) := by
  rcases hx : x s with ⟨e | a, t⟩
  · obtain rfl : t = s := by simpa [hx] using h.state
    exact .inr ⟨fun a ha => (nomatch congrArg Prod.fst hx ▸ (h.value a).mpr ha), e, rfl⟩
  · obtain rfl : t = s := by simpa [hx] using h.state
    exact .inl ⟨a, (h.value a).mp (by rw [hx]), rfl⟩

theorem bind {f : α → ExceptT ε (StateM σ) β} {gives' : α → β → Prop} (hx : Looks x s gives)
    (hf : ∀ a, gives a → Looks (f a) s (gives' a)) :
    Looks (x >>= f) s fun b => ∃ a, gives a ∧ gives' a b := by
  obtain ⟨a, ha, hrun⟩ | ⟨hnone, e, hrun⟩ := hx.cases
  · have hbind : (x >>= f) s = f a s := by rw [bind_run, hrun]
    refine ⟨by rw [hbind, (hf a ha).state], fun b => ?_⟩
    rw [hbind, (hf a ha).value b]
    constructor
    · exact fun hb => ⟨a, ha, hb⟩
    · rintro ⟨other, hother, hb⟩
      have hsame := (hx.value other).mpr hother
      rw [hrun] at hsame
      rwa [Except.ok.inj hsame]
  · refine of_error (by rw [bind_run, hrun]) ?_
    rintro b ⟨a, ha, -⟩
    exact hnone a ha

theorem congr {gives' : α → Prop} (h : Looks x s gives) (hgives : ∀ a, gives a ↔ gives' a) :
    Looks x s gives' :=
  ⟨h.state, fun a => (h.value a).trans (hgives a)⟩

end Looks

namespace Store

theorem lookup_nil (s : Store) : s.lookup [] = some .directory := rfl

theorem locate_run (p : Path) (s : Store) : locate p s = (s.resolve p, s) := rfl

theorem atPath_of_long {α : Type} {path : String} (h : Path.limit < path.utf8ByteSize)
    (access : Path → Access α) (s : Store) :
    atPath path access s = (.error .nameTooLong, s) := by
  rw [atPath, if_pos h]
  rfl

theorem atPath_of_short {α : Type} {path : String} (h : path.utf8ByteSize ≤ Path.limit)
    (access : Path → Access α) : atPath path access = access (.ofText path) := by
  rw [atPath, if_neg (Nat.not_lt.mpr h)]

/-! Reading -/

/-- There is a file at the end of a path, and the path does not ask for a directory. -/
structure Finds (s : Store) (p : Path) (content : ByteArray) : Prop where
  no_slash : p.slash = false
  there : ∃ place, s.resolve p = .ok place ∧ s.lookup place = some (.file content)

theorem finds_iff {s : Store} {p : Path} {place : Location} {content : ByteArray}
    (h : s.resolve p = .ok place) :
    s.Finds p content ↔ p.slash = false ∧ s.lookup place = some (.file content) := by
  constructor
  · rintro ⟨hslash, other, hother, hentry⟩
    obtain rfl : place = other := Except.ok.inj (h.symm.trans hother)
    exact ⟨hslash, hentry⟩
  · rintro ⟨hslash, hentry⟩
    exact ⟨hslash, place, h, hentry⟩

theorem looks_read (p : Path) (s : Store) : Looks (read p) s (s.Finds p) := by
  cases hplace : s.resolve p with
  | error e =>
    refine .of_error (by rw [read, bind_run, locate_run, hplace]) ?_
    rintro content ⟨-, place, hother, -⟩
    exact nomatch hplace.symm.trans hother
  | ok place =>
    cases hentry : s.lookup place with
    | none =>
      have hread : read p s = (throw .notFound : Access ByteArray) s := by
        rw [read, bind_run, locate_run, hplace]
        simp only [bind_run, get_run, hentry]
      exact .of_error hread (by simp [finds_iff hplace, hentry])
    | some entry =>
      cases entry with
      | directory =>
        have hread : read p s = (throw .isDirectory : Access ByteArray) s := by
          rw [read, bind_run, locate_run, hplace]
          simp only [bind_run, get_run, hentry]
        exact .of_error hread (by simp [finds_iff hplace, hentry])
      | file content =>
        have hread : read p s =
            (if p.slash then throw .notDirectory else pure content : Access ByteArray) s := by
          rw [read, bind_run, locate_run, hplace]
          simp only [bind_run, get_run, hentry]
        cases hslash : p.slash with
        | true =>
          rw [hslash, if_pos rfl] at hread
          exact .of_error hread (by simp [finds_iff hplace, hslash])
        | false =>
          rw [hslash, if_neg Bool.false_ne_true] at hread
          exact .of_ok hread (by simp [finds_iff hplace, hentry, hslash, eq_comm])

/-- What reading the text at a path gives. -/
def readText (s : Store) (path : String) : Except FileError String :=
  ((Files.read path : StateM Store (Except FileError String)) s).1

theorem read_run (path : String) (s : Store) :
    (Files.read path : StateM Store (Except FileError String)) s = (s.readText path, s) := by
  have hstate : (atPath path read s).2 = s := by
    by_cases hlong : Path.limit < path.utf8ByteSize
    · rw [atPath_of_long hlong]
    · rw [atPath_of_short (Nat.le_of_not_lt hlong)]
      exact (looks_read (.ofText path) s).state
  exact Prod.ext rfl hstate

theorem fromUTF8?_eq_some_iff {content : ByteArray} {text : String} :
    String.fromUTF8? content = some text ↔ content = text.toUTF8 := by
  unfold String.fromUTF8?
  constructor
  · intro h
    split at h
    · rw [← Option.some.inj h]
      rfl
    · exact nomatch h
  · rintro rfl
    exact dif_pos text.isValidUTF8

theorem readText_eq_ok_iff {s : Store} {path text : String} :
    s.readText path = .ok text ↔
      path.utf8ByteSize ≤ Path.limit ∧ s.Finds (.ofText path) text.toUTF8 := by
  simp only [readText, Files.read]
  by_cases hlong : Path.limit < path.utf8ByteSize
  · simp [atPath_of_long hlong, Nat.not_le.mpr hlong]
  · have hshort := Nat.le_of_not_lt hlong
    rw [atPath_of_short hshort]
    simp only [hshort, true_and, ← (looks_read (.ofText path) s).value]
    obtain ⟨result, after⟩ := read (.ofText path) s
    cases result with
    | error e => simp
    | ok content =>
      rw [Except.ok.injEq, ← fromUTF8?_eq_some_iff]
      cases htext : String.fromUTF8? content <;> simp [htext]

/-! Writing and removing -/

/-- A text can be written at a path, and this is where it goes. -/
structure Writable (s : Store) (path : String) (place : Location) : Prop where
  short : path.utf8ByteSize ≤ Path.limit
  no_directory : meansDirectory (.ofText path) = false
  leads : s.resolve (.ofText path) = .ok place
  free : s.lookup place ≠ some .directory

theorem Writable.ne_nil {s : Store} {path : String} {place : Location}
    (h : s.Writable path place) : place ≠ [] := by
  rintro rfl
  exact h.free (lookup_nil s)

theorem write_of_meansDirectory {p : Path} (h : meansDirectory p = true) (content : ByteArray)
    (s : Store) : ∃ e, write p content s = (.error e, s) := by
  unfold write
  rw [if_pos h, bind_run, locate_run]
  cases s.resolve { p with steps := p.steps.dropLast } with
  | error e => exact ⟨e, rfl⟩
  | ok outer =>
    dsimp only
    rw [bind_run, get_run]
    dsimp only
    rw [bind_run, mk_run]
    cases s.enter outer with
    | error e => exact ⟨e, rfl⟩
    | ok _ => exact ⟨.isDirectory, rfl⟩

theorem write_of_file {p : Path} (h : meansDirectory p = false) (content : ByteArray)
    (s : Store) :
    write p content s = match s.resolve p with
      | .error e => (.error e, s)
      | .ok place =>
        if s.isDirectoryAt place then (.error .isDirectory, s)
        else (.ok (), s.set place (.file content)) := by
  unfold write
  rw [if_neg (by simp [h])]
  dsimp only
  rw [bind_run, locate_run]
  cases s.resolve p with
  | error e => rfl
  | ok place =>
    dsimp only
    rw [bind_run, get_run]
    dsimp only
    split <;> rfl

theorem write_cases (path content : String) (s : Store) :
    (∃ place, s.Writable path place ∧
        (Files.write path content : StateM Store (Except FileError Unit)) s =
          (.ok (), s.set place (.file content.toUTF8))) ∨
      (∀ place, ¬ s.Writable path place) ∧
        ∃ e, (Files.write path content : StateM Store (Except FileError Unit)) s =
          (.error e, s) := by
  change (∃ place, s.Writable path place ∧ atPath path (write · content.toUTF8) s =
      (.ok (), s.set place (.file content.toUTF8))) ∨
    (∀ place, ¬ s.Writable path place) ∧
      ∃ e, atPath path (write · content.toUTF8) s = (.error e, s)
  by_cases hlong : Path.limit < path.utf8ByteSize
  · refine .inr ⟨fun place h => absurd h.short (Nat.not_le.mpr hlong), .nameTooLong, ?_⟩
    exact atPath_of_long hlong _ s
  have hshort := Nat.le_of_not_lt hlong
  rw [atPath_of_short hshort]
  cases hmeans : meansDirectory (.ofText path) with
  | true =>
    refine .inr ⟨fun place h => ?_, write_of_meansDirectory hmeans _ s⟩
    exact nomatch hmeans.symm.trans h.no_directory
  | false =>
    rw [write_of_file hmeans]
    cases hplace : s.resolve (.ofText path) with
    | error e =>
      exact .inr ⟨fun place h => (nomatch hplace.symm.trans h.leads), e, rfl⟩
    | ok place =>
      by_cases hdir : s.isDirectoryAt place = true
      · refine .inr ⟨fun other h => ?_, .isDirectory, if_pos hdir⟩
        obtain rfl : place = other := Except.ok.inj (hplace.symm.trans h.leads)
        exact h.free (isDirectoryAt_iff.mp hdir)
      · refine .inl ⟨place, ⟨hshort, hmeans, hplace, fun h => ?_⟩, if_neg hdir⟩
        exact hdir (isDirectoryAt_iff.mpr h)

theorem Writable.slash {s : Store} {path : String} {place : Location}
    (h : s.Writable path place) : (Path.ofText path).slash = false :=
  (Bool.or_eq_false_iff.mp h.no_directory).1

theorem Writable.lookup_set {s : Store} {path : String} {place : Location}
    (h : s.Writable path place) (entry : Entry) (other : Location) :
    (s.set place entry).lookup other = if other = place then some entry else s.lookup other :=
  Store.lookup_set s place other entry h.ne_nil

theorem Writable.dirsKept_set {s : Store} {path : String} {place : Location}
    (h : s.Writable path place) (entry : Entry) : DirsKept s (s.set place entry) := by
  refine ⟨rfl, fun other hother => ?_⟩
  rw [h.lookup_set, if_neg, hother]
  rintro rfl
  exact h.free hother

theorem lookup_erase (s : Store) {place : Location} (h : place ≠ []) (other : Location) :
    (s.erase place).lookup other = if other = place then none else s.lookup other := by
  split
  · rename_i heq
    subst heq
    have hkey : ∀ p ∈ s.entries.filter (·.1 != other), (other != p.1) = true := by
      intro p hp
      rw [bne_comm]
      exact (List.mem_filter.mp hp).2
    simpa [lookup, erase, h] using List.lookup_eq_none_iff.mpr hkey
  · rename_i hne
    exact lookup_erase_ne s hne

theorem erase_set (s : Store) (place : Location) (entry : Entry) :
    (s.set place entry).erase place = s.erase place := by
  simp [set, erase]

theorem remove_of_file {s : Store} {path : String} {place : Location} {content : ByteArray}
    (hshort : path.utf8ByteSize ≤ Path.limit) (hslash : (Path.ofText path).slash = false)
    (hplace : s.resolve (.ofText path) = .ok place)
    (hentry : s.lookup place = some (.file content)) :
    (Files.remove path : StateM Store (Except FileError Unit)) s = (.ok (), s.erase place) := by
  change atPath path remove s = _
  rw [atPath_of_short hshort, remove, bind_run, locate_run, hplace]
  dsimp only
  rw [bind_run, get_run]
  dsimp only
  rw [hentry]
  dsimp only
  rw [hslash]
  rfl

/-- What was written can be removed, and then nothing is there. -/
theorem Writable.remove_set {s : Store} {path : String} {place : Location}
    (h : s.Writable path place) (content : ByteArray) :
    (Files.remove path : StateM Store (Except FileError Unit)) (s.set place (.file content)) =
      (.ok (), s.erase place) := by
  rw [← erase_set s place (.file content)]
  apply remove_of_file h.short h.slash
  · exact (h.dirsKept_set _).resolve h.leads
  · rw [h.lookup_set, if_pos rfl]

end Store

end Accessors
