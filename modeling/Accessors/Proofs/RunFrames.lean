import Accessors.Proofs.Courses

/-!
What a request for files changes in a store. A run that succeeds leaves the two files and directories
on the way to them. A run that fails leaves at most such directories, but where it wrote the header
and could not write the source, nothing is left at the place of the header: the file that stood there
before the run is gone as well.
-/

set_option autoImplicit false

namespace Accessors

theorem Path.isName_append {base ending : String} {c : Char} (hbase : '/' ∉ base.toList)
    (hending : '/' ∉ ending.toList) (hlast : ending.toList.getLast? = some c) (hc : c ≠ '.') :
    Path.IsName (base ++ ending) := by
  have hget : (base ++ ending).toList.getLast? = some c := by
    rw [String.toList_append, List.getLast?_append, hlast, Option.some_or]
  refine ⟨?_, ?_, ?_⟩
  · simp [hbase, hending]
  · rintro hempty
    rw [hempty] at hget
    exact nomatch hget
  · have hdots : ∀ dots : String, dots.toList.getLast? = some '.' → base ++ ending ≠ dots := by
      rintro dots hdots rfl
      exact hc (Option.some.inj (hget.symm.trans hdots))
    simp [Path.isDots, hdots "." rfl, hdots ".." rfl]

namespace Store

/-- A path that ends in a name leads to an entry of that name. -/
theorem getLast?_of_resolve_join {s : Store} {directory name : String} {place : Location}
    (hname : Path.IsName name) (h : s.resolve (.ofText (Path.join directory name)) = .ok place) :
    place.getLast? = some name := by
  unfold resolve at h
  rw [hname.steps_join] at h
  obtain ⟨outer, -, hlast⟩ := follow_append_eq_ok_iff.mp h
  obtain ⟨last, hstep, hend⟩ := follow_cons_eq_ok_iff.mp hlast
  obtain rfl : last = place := Except.ok.inj hend
  obtain ⟨-, -, rfl⟩ := goTo_eq_ok_iff.mp hstep
  have hdots := hname.not_dots
  simp only [Path.isDots, Bool.or_eq_false_iff, decide_eq_false_iff_not] at hdots
  simp [stepped, hdots.1, hdots.2]

theorem Grown.spared {s t u : Store} {p : Path} {place : Location} (h : Grown (LiesOn · p) s t)
    (hkept : DirsKept t u) (hsame : u.lookup place = t.lookup place) : Spared p s u place := by
  rcases h.made place with hplace | ⟨hnone, hdir, hlies⟩
  · exact .inl (hsame.trans hplace)
  · exact .inr ⟨hnone, hsame.trans hdir, hkept.liesOn hlies⟩

theorem Spared.lookup {s t : Store} {p : Path} {place : Location} (h : Spared p s t place)
    {entry : Entry} (hentry : s.lookup place = some entry) : t.lookup place = some entry := by
  rcases h with hsame | ⟨hnone, -⟩
  · exact hsame.trans hentry
  · exact nomatch hnone.symm.trans hentry

/-- A file was put at the end of a path, where no directory was before. -/
def Replaced (s t : Store) (path content : String) : Prop :=
  ∃ place, t.resolve (.ofText path) = .ok place ∧ s.lookup place ≠ some .directory ∧
    t.lookup place = some (.file content.toUTF8)

theorem Finds.kept {s t : Store} {p : Path} {content : ByteArray} (h : s.Finds p content)
    (hkept : DirsKept s t) (hplace : ∀ place, s.resolve p = .ok place →
      ∀ {entry}, s.lookup place = some entry → t.lookup place = some entry) :
    t.Finds p content := by
  obtain ⟨hslash, place, hleads, hentry⟩ := h
  exact ⟨hslash, place, hkept.resolve hleads, hplace place hleads hentry⟩

theorem Writable.kept {s t : Store} {path : String} {place : Location}
    (h : s.Writable path place) (hkept : DirsKept s t)
    (hfree : t.lookup place ≠ some .directory) : t.Writable path place :=
  ⟨h.short, h.no_directory, hkept.resolve h.leads, hfree⟩

theorem Writable.dirsKept_erase {s : Store} {path : String} {place : Location}
    (h : s.Writable path place) : DirsKept s (s.erase place) := by
  refine ⟨rfl, fun other hother => ?_⟩
  rw [lookup_erase s h.ne_nil, if_neg, hother]
  rintro rfl
  exact h.free hother

end Store

namespace Command.Generate

variable {r : Generate} {s t : Store} {exit : Nat} {base : String} {place : Location}

theorem isName_header (h : (Path.ofText r.schema).fileStem? = some base) :
    Path.IsName (base ++ ".h") :=
  Path.isName_append (Path.slash_free_of_fileStem h) (by decide) rfl (by decide)

theorem isName_source (h : (Path.ofText r.schema).fileStem? = some base) :
    Path.IsName (base ++ ".cpp") :=
  Path.isName_append (Path.slash_free_of_fileStem h) (by decide) rfl (by decide)

/-- A request that yields files could read its inputs. -/
theorem Yields.readable {artifacts : Artifacts} (h : r.Yields s base artifacts) {path : String}
    (hpath : path ∈ r.schema :: r.config.toList) : ∃ text, s.readText path = .ok text := by
  obtain ⟨-, name, settings, schema, -, hsettings, hschema, -⟩ := h
  rcases List.mem_cons.mp hpath with rfl | hconfig
  · exact ⟨schema, hschema⟩
  · rw [Option.mem_toList] at hconfig
    rw [hconfig] at hsettings
    obtain ⟨text, htext, -⟩ := hsettings
    exact ⟨text, htext⟩

/-- The two files never share a place. -/
theorem header_ne_source {h c : Location} {u : Store}
    (hbase : (Path.ofText r.schema).fileStem? = some base)
    (hheader : t.resolve (.ofText (r.header base)) = .ok h)
    (hsource : u.resolve (.ofText (r.source base)) = .ok c) : h ≠ c := by
  rintro rfl
  have hh := Store.getLast?_of_resolve_join (isName_header hbase) hheader
  have hc := Store.getLast?_of_resolve_join (isName_source hbase) hsource
  have hnames := congrArg String.toList (Option.some.inj (hh.symm.trans hc))
  simp at hnames

namespace Course

theorem dirsKept (h : r.Course s exit t) : Store.DirsKept s t := by
  cases h with
  | shown h => exact .refl s
  | stopped h => exact .refl s
  | blocked writes directory => exact (Store.makeDirs_spec directory).1.dirsKept
  | headerRefused writes directory header => exact (Store.makeDirs_spec directory).1.dirsKept
  | sourceRefused writes directory header source =>
    exact (Store.makeDirs_spec directory).1.dirsKept.trans header.dirsKept_erase
  | written writes directory header source =>
    exact ((Store.makeDirs_spec directory).1.dirsKept.trans (header.dirsKept_set _)).trans
      (source.dirsKept_set _)

/-- After a failure the header's place may be empty, and all others are spared. -/
theorem of_failed (h : r.Course s 1 t) (hbase : (Path.ofText r.schema).fileStem? = some base)
    (place : Location) :
    Store.Spared (.ofText r.outDir) s t place ∨
      t.resolve (.ofText (r.header base)) = .ok place ∧ t.lookup place = none := by
  cases h with
  | stopped h => exact .inl (.inl rfl)
  | blocked writes directory =>
    exact .inl ((Store.makeDirs_spec directory).1.spared (.refl t) rfl)
  | headerRefused writes directory header =>
    exact .inl ((Store.makeDirs_spec directory).1.spared (.refl t) rfl)
  | @sourceRefused base' artifacts middle h writes directory header source =>
    obtain rfl : base = base' := Option.some.inj (hbase.symm.trans writes.yields.stem)
    have hlookup := Store.lookup_erase middle header.ne_nil place
    by_cases hplace : place = h
    · subst hplace
      exact .inr ⟨header.dirsKept_erase.resolve header.leads, by rw [hlookup, if_pos rfl]⟩
    · refine .inl ((Store.makeDirs_spec directory).1.spared header.dirsKept_erase ?_)
      rw [hlookup, if_neg hplace]

end Course

/-- What a run leaves when it succeeds: the two files are new or replaced, and besides them only
directories on the way to the output directory are new. -/
structure Wrote (r : Generate) (s t : Store) (base : String) (artifacts : Artifacts) : Prop where
  header : s.Replaced t (r.header base) artifacts.header
  source : s.Replaced t (r.source base) artifacts.source
  others : ∀ place, t.resolve (.ofText (r.header base)) ≠ .ok place →
    t.resolve (.ofText (r.source base)) ≠ .ok place →
      Store.Spared (.ofText r.outDir) s t place

/-- What a run leaves when it fails: at the place of the header there may be nothing, and all other
places are spared. -/
structure Withdrew (r : Generate) (s t : Store) (base : String) : Prop where
  header : ∀ place, t.resolve (.ofText (r.header base)) = .ok place →
    t.lookup place = none ∨ Store.Spared (.ofText r.outDir) s t place
  source : ∀ place, t.resolve (.ofText (r.source base)) = .ok place →
    Store.Spared (.ofText r.outDir) s t place
  others : ∀ place, t.resolve (.ofText (r.header base)) ≠ .ok place →
    Store.Spared (.ofText r.outDir) s t place

namespace Course

theorem withdrew (h : r.Course s 1 t) (hbase : (Path.ofText r.schema).fileStem? = some base) :
    r.Withdrew s t base where
  header := by
    intro place _
    rcases h.of_failed hbase place with hspared | ⟨-, hnone⟩
    · exact .inr hspared
    · exact .inl hnone
  source := by
    intro place hsource
    rcases h.of_failed hbase place with hspared | ⟨hheader, -⟩
    · exact hspared
    · exact absurd rfl (header_ne_source hbase hheader hsource)
  others := by
    intro place hother
    rcases h.of_failed hbase place with hspared | ⟨hheader, -⟩
    · exact hspared
    · exact absurd hheader hother

theorem wrote (h : r.Course s 0 t) (hnoOp : r.noOp = false) (hstdout : r.stdout = false) :
    ∃ base artifacts, r.Yields s base artifacts ∧ r.Wrote s t base artifacts := by
  cases h with
  | shown hshown => simp [hnoOp, hstdout] at hshown
  | @written base artifacts middle h c writes directory header source =>
    have hgrown := (Store.makeDirs_spec directory).1
    have hkept := (header.dirsKept_set (.file artifacts.header.toUTF8)).trans
      (source.dirsKept_set (.file artifacts.source.toUTF8))
    have hheader := hkept.resolve header.leads
    have hsource := (source.dirsKept_set (.file artifacts.source.toUTF8)).resolve source.leads
    have hne : h ≠ c := header_ne_source writes.yields.stem hheader hsource
    have hfree : s.lookup h ≠ some .directory := fun hdir => header.free (hgrown.lookup hdir)
    have hfree' : s.lookup c ≠ some .directory := by
      intro hdir
      apply source.free
      rw [header.lookup_set, if_neg hne.symm]
      exact hgrown.lookup hdir
    refine ⟨base, artifacts, writes.yields, ?_, ?_, ?_⟩
    · exact ⟨h, hheader, hfree, by
        rw [source.lookup_set, if_neg hne, header.lookup_set, if_pos rfl]⟩
    · exact ⟨c, hsource, hfree', by rw [source.lookup_set, if_pos rfl]⟩
    · intro place hplaceh hplacec
      have hh : place ≠ h := by
        rintro rfl
        exact hplaceh hheader
      have hc : place ≠ c := by
        rintro rfl
        exact hplacec hsource
      apply hgrown.spared hkept
      rw [source.lookup_set, if_neg hc, header.lookup_set, if_neg hh]

/-- A run with nothing to write leaves the store as it is. -/
theorem eq_of_not_writes (h : r.Course s exit t)
    (hnone : ¬ ∃ base artifacts, r.Writes s base artifacts) : t = s := by
  cases h with
  | shown h => rfl
  | stopped h => rfl
  | blocked writes directory => exact absurd ⟨_, _, writes⟩ hnone
  | headerRefused writes directory header => exact absurd ⟨_, _, writes⟩ hnone
  | sourceRefused writes directory header source => exact absurd ⟨_, _, writes⟩ hnone
  | written writes directory header source => exact absurd ⟨_, _, writes⟩ hnone

theorem eq_of_idle (h : r.Course s exit t) (hidle : r.noOp = true ∨ r.stdout = true ∨
    ∀ base artifacts, ¬ r.Yields s base artifacts) : t = s := by
  apply h.eq_of_not_writes
  intro hwrites
  obtain ⟨base, artifacts, hnoOp, hstdout, hyields⟩ := hwrites
  rcases hidle with h | h | h
  · exact nomatch hnoOp.symm.trans h
  · exact nomatch hstdout.symm.trans h
  · exact h base artifacts hyields

theorem exit_cases (h : r.Course s exit t) : exit = 0 ∨ exit = 1 := by
  cases h <;> simp

/-- However a run ends, a place that is not that of the header or the source is spared. -/
theorem spared {artifacts : Artifacts} (h : r.Course s exit t) (writes : r.Writes s base artifacts)
    (hheader : t.resolve (.ofText (r.header base)) ≠ .ok place)
    (hsource : t.resolve (.ofText (r.source base)) ≠ .ok place) :
    Store.Spared (.ofText r.outDir) s t place := by
  have hbase := writes.yields.stem
  rcases h.exit_cases with rfl | rfl
  · obtain ⟨base', artifacts', hyields, hwrote⟩ := h.wrote writes.noOp writes.stdout
    obtain rfl : base = base' := Option.some.inj (hbase.symm.trans hyields.stem)
    exact hwrote.others place hheader hsource
  · exact (h.withdrew hbase).others place hheader

/-- A text is read again after the run, unless one of the two files goes to its place. -/
theorem readText_kept {artifacts : Artifacts} {path text : String} (h : r.Course s exit t)
    (writes : r.Writes s base artifacts) (htext : s.readText path = .ok text)
    (hapart : ∀ place, s.resolve (.ofText path) = .ok place →
      t.resolve (.ofText (r.header base)) ≠ .ok place ∧
        t.resolve (.ofText (r.source base)) ≠ .ok place) :
    t.readText path = .ok text := by
  obtain ⟨hshort, hfinds⟩ := Store.readText_eq_ok_iff.mp htext
  apply Store.readText_eq_ok_iff.mpr
  refine ⟨hshort, hfinds.kept h.dirsKept fun place hplace => ?_⟩
  obtain ⟨hheader, hsource⟩ := hapart place hplace
  exact (h.spared writes hheader hsource).lookup

end Course

/-- The header goes to the place, and the source cannot be written. -/
def Loses (r : Generate) (s t : Store) (place : Location) : Prop :=
  ∃ base artifacts, r.Writes s base artifacts ∧ t.isDirectory (.ofText r.outDir) = true ∧
    t.Writable (r.header base) place ∧ ∀ other, ¬ t.Writable (r.source base) other

theorem Loses.header (h : r.Loses s t place)
    (hbase : (Path.ofText r.schema).fileStem? = some base) : t.Writable (r.header base) place := by
  obtain ⟨base', artifacts, hwrites, -, hheader, -⟩ := h
  obtain rfl : base = base' := Option.some.inj (hbase.symm.trans hwrites.yields.stem)
  exact hheader

theorem utf8ByteSize_le_header (r : Generate) (base : String) :
    r.outDir.utf8ByteSize ≤ (r.header base).utf8ByteSize := by
  unfold header Path.join
  split <;> simp only [String.utf8ByteSize_append] <;> omega

namespace Course

/-- Without its output directory a run loses nothing. -/
theorem not_loses_of_blocked {e : FileError}
    (directory : (Files.makeDirs r.outDir : StateM Store _) s = (.error e, t)) :
    ¬ r.Loses s t place := by
  rintro ⟨base, artifacts, -, hdir, hheader, -⟩
  have hshort := Nat.le_trans (utf8ByteSize_le_header r base) hheader.short
  exact nomatch (Store.makeDirs_spec directory).2.mpr ⟨hshort, hdir⟩

theorem loses_of_sourceRefused {artifacts : Artifacts} {h : Location}
    (writes : r.Writes s base artifacts)
    (directory : (Files.makeDirs r.outDir : StateM Store _) s = (.ok (), t))
    (header : t.Writable (r.header base) h)
    (source : ∀ place,
      ¬ (t.set h (.file artifacts.header.toUTF8)).Writable (r.source base) place) :
    r.Loses s (t.erase h) h := by
  have hlookup := Store.lookup_erase t header.ne_nil
  have hkept : Store.DirsKept (t.erase h) (t.set h (.file artifacts.header.toUTF8)) := by
    refine ⟨rfl, fun other hother => ?_⟩
    rw [hlookup] at hother
    split at hother
    · exact nomatch hother
    · rename_i hne
      rw [header.lookup_set, if_neg hne, hother]
  refine ⟨base, artifacts, writes, ?_, ?_, fun other hother => ?_⟩
  · obtain ⟨-, hdir⟩ := (Store.makeDirs_spec directory).2.mp rfl
    exact header.dirsKept_erase.isDirectory hdir
  · exact header.kept header.dirsKept_erase (by rw [hlookup, if_pos rfl]; exact nofun)
  · refine source other (hother.kept hkept ?_)
    have hfree := hother.free
    rw [hlookup] at hfree
    rw [header.lookup_set]
    split
    · exact nofun
    · rename_i hne
      rwa [if_neg hne] at hfree

end Course

end Command.Generate

open Command Command.Generate

/-- The states are stores of files and directories, without links. A directory that is made may stand
where one of the two files would go, if the output directory is reached through that very place. -/
theorem run_frame {args : List String} {r : Generate} {s t : Store} {report : Report}
    (hargs : Request.ofArguments args = .ok (.generate r))
    (hrun : (run args : StateM Store Report) s = (report, t)) :
    ((r.noOp = true ∨ r.stdout = true ∨ ∀ base artifacts, ¬ r.Yields s base artifacts) → t = s) ∧
      (report.exit = 0 → r.noOp = false → r.stdout = false →
        ∃ base artifacts, r.Yields s base artifacts ∧ r.Wrote s t base artifacts) ∧
      (report.exit = 1 → ∀ base, (Path.ofText r.schema).fileStem? = some base →
        r.Withdrew s t base) := by
  have hcourse := course_of_run hargs hrun
  refine ⟨hcourse.eq_of_idle, fun hexit => ?_, fun hexit base hbase => ?_⟩
  · rw [hexit] at hcourse
    exact hcourse.wrote
  · rw [hexit] at hcourse
    exact hcourse.withdrew hbase

theorem run_frame_nested :
    let s : Store := ⟨[(["doc.schema"], .file "int a".toUTF8), (["gen"], .directory)], []⟩
    let args := fun directory => ["generate", "Doc", "doc.schema", "--out-dir", directory]
    let r : String → Generate := fun directory => ⟨"Doc", "doc.schema", directory, none, false, false⟩
    let after := fun directory => (run (args directory) : StateM Store Report) s
    ((after "gen/new/cpp").1.exit = 0 ∧ ∃ base artifacts, (r "gen/new/cpp").Yields s base artifacts ∧
        (r "gen/new/cpp").Wrote s (after "gen/new/cpp").2 base artifacts) ∧
      ((after "gen/doc.cpp/..").1.exit = 1 ∧
        (r "gen/doc.cpp/..").Withdrew s (after "gen/doc.cpp/..").2 "doc") := by
  intro s args r after
  have hgood : (after "gen/new/cpp").1.exit = 0 := by decide +kernel
  have hbad : (after "gen/doc.cpp/..").1.exit = 1 := by decide +kernel
  obtain ⟨-, hwrote, -⟩ := @run_frame (args "gen/new/cpp") (r "gen/new/cpp") s
    (after "gen/new/cpp").2 (after "gen/new/cpp").1 (by decide +kernel) rfl
  obtain ⟨-, -, hwithdrew⟩ := @run_frame (args "gen/doc.cpp/..") (r "gen/doc.cpp/..") s
    (after "gen/doc.cpp/..").2 (after "gen/doc.cpp/..").1 (by decide +kernel) rfl
  exact ⟨⟨hgood, hwrote hgood rfl rfl⟩, hbad, hwithdrew hbad "doc" (by decide +kernel)⟩

/-- A failed run can leave a directory at the place of the source. -/
theorem directory_made_at_source :
    let s : Store := ⟨[(["doc.schema"], .file "int a".toUTF8)], []⟩
    let after := (run ["generate", "Doc", "doc.schema", "--out-dir", "doc.cpp/.."] :
      StateM Store Report) s
    after.1.exit = 1 ∧ after.2.resolve (.ofText "doc.cpp/../doc.cpp") = .ok ["doc.cpp"] ∧
      s.lookup ["doc.cpp"] = none ∧ after.2.lookup ["doc.cpp"] = some .directory := by
  refine ⟨by decide +kernel, by decide +kernel, rfl, ?_⟩
  exact Store.isDirectoryAt_iff.mp (by decide +kernel)

/-- In a store without links, a failed run keeps every file, except that it loses the one at the place
of the header if it can write there and cannot write the source. -/
theorem failed_run_files {args : List String} {r : Generate} {s t : Store} {report : Report}
    (hargs : Request.ofArguments args = .ok (.generate r))
    (hrun : (run args : StateM Store Report) s = (report, t)) (hexit : report.exit = 1)
    {place : Location} {content : ByteArray} (hfile : s.lookup place = some (.file content)) :
    (r.Loses s t place ∧ t.lookup place = none) ∨
      (¬ r.Loses s t place ∧ t.lookup place = some (.file content)) := by
  have hcourse := course_of_run hargs hrun
  rw [hexit] at hcourse
  cases hcourse with
  | stopped h =>
    refine .inr ⟨?_, hfile⟩
    rintro ⟨base, artifacts, hwrites, -⟩
    exact h base artifacts hwrites.yields
  | blocked writes directory =>
    exact .inr ⟨Course.not_loses_of_blocked directory,
      (Store.makeDirs_spec directory).1.lookup hfile⟩
  | headerRefused writes directory header =>
    refine .inr ⟨fun hloses => ?_, (Store.makeDirs_spec directory).1.lookup hfile⟩
    exact header place (hloses.header writes.yields.stem)
  | @sourceRefused base artifacts middle h writes directory header source =>
    rw [Store.lookup_erase middle header.ne_nil]
    by_cases hplace : place = h
    · subst hplace
      exact .inl ⟨Course.loses_of_sourceRefused writes directory header source, if_pos rfl⟩
    · rw [if_neg hplace]
      refine .inr ⟨fun hloses => ?_, (Store.makeDirs_spec directory).1.lookup hfile⟩
      have hleads := (hloses.header writes.yields.stem).leads
      have hsame := header.dirsKept_erase.resolve header.leads
      exact hplace (Except.ok.inj (hleads.symm.trans hsame))

theorem failed_run_files_header :
    let s : Store := ⟨[(["doc.schema"], .file "int a".toUTF8), (["doc.h"], .file "old".toUTF8),
      (["doc.cpp"], .directory)], []⟩
    let args := ["generate", "Doc", "doc.schema"]
    let r : Generate := ⟨"Doc", "doc.schema", ".", none, false, false⟩
    let t := ((run args : StateM Store Report) s).2
    Request.ofArguments args = .ok (.generate r) ∧
      ((run args : StateM Store Report) s).1.exit = 1 ∧
      (r.Loses s t ["doc.h"] ∧ t.lookup ["doc.h"] = none) ∧
      (¬ r.Loses s t ["doc.schema"] ∧
        t.lookup ["doc.schema"] = some (.file "int a".toUTF8)) := by
  intro s args r t
  have hargs : Request.ofArguments args = .ok (.generate r) := by decide +kernel
  have hexit : ((run args : StateM Store Report) s).1.exit = 1 := by decide +kernel
  have hfiles := @failed_run_files args r s t ((run args : StateM Store Report) s).1 hargs rfl hexit
  have hgone : (t.lookup ["doc.h"]).isNone = true := by decide +kernel
  have hkept : (t.lookup ["doc.schema"]).isSome = true := by decide +kernel
  refine ⟨hargs, hexit, ?_, ?_⟩
  · rcases @hfiles ["doc.h"] _ rfl with hlost | ⟨-, hfile⟩
    · exact hlost
    · simp [hfile] at hgone
  · rcases @hfiles ["doc.schema"] _ rfl with ⟨-, hnone⟩ | hfile
    · simp [hnone] at hkept
    · exact hfile

/-- The header of an earlier run is gone after a run that fails. -/
theorem earlier_header_removed :
    let s : Store := ⟨[(["doc.schema"], .file "int a".toUTF8), (["doc.h"], .file "old".toUTF8),
      (["doc.cpp"], .directory)], []⟩
    let after := (run ["generate", "Doc", "doc.schema"] : StateM Store Report) s
    after.1.exit = 1 ∧ s.lookup ["doc.h"] = some (.file "old".toUTF8) ∧
      after.2.lookup ["doc.h"] = none := by
  intro s after
  have hgone : (after.2.lookup ["doc.h"]).isNone = true := by decide +kernel
  exact ⟨by decide +kernel, rfl, Option.isNone_iff_eq_none.mp hgone⟩

/-- Whatever can be read at the path of an input is read there after the run, unless the run has
something to write and one of the two files goes to the place of the input. No link can lead there:
a store has none. -/
theorem inputs_kept {args : List String} {r : Generate} {s t : Store} {report : Report}
    (hargs : Request.ofArguments args = .ok (.generate r))
    (hrun : (run args : StateM Store Report) s = (report, t)) {path : String}
    (hpath : path ∈ r.schema :: r.config.toList)
    (hapart : ∀ base artifacts place, r.Writes s base artifacts →
      s.resolve (.ofText path) = .ok place →
        t.resolve (.ofText (r.header base)) ≠ .ok place ∧
          t.resolve (.ofText (r.source base)) ≠ .ok place) :
    t.readText path = s.readText path := by
  have hcourse := course_of_run hargs hrun
  by_cases hwrites : ∃ base artifacts, r.Writes s base artifacts
  · obtain ⟨base, artifacts, writes⟩ := hwrites
    obtain ⟨text, htext⟩ := writes.yields.readable hpath
    rw [htext]
    apply hcourse.readText_kept writes htext
    intro place hplace
    exact hapart base artifacts place writes hplace
  · rw [hcourse.eq_of_not_writes hwrites]

theorem inputs_kept_beside :
    let s : Store := ⟨[(["doc.schema"], .file "int a".toUTF8), (["doc.json"], .file "\x7b\x7d".toUTF8),
      (["doc.h"], .file "old".toUTF8)], []⟩
    let args := ["generate", "Doc", "doc.schema", "--config", "doc.json"]
    let r : Generate := ⟨"Doc", "doc.schema", ".", some "doc.json", false, false⟩
    let t := ((run args : StateM Store Report) s).2
    Request.ofArguments args = .ok (.generate r) ∧
      t.readText "doc.schema" = s.readText "doc.schema" ∧
      t.readText "doc.json" = s.readText "doc.json" := by
  intro s args r t
  have hargs : Request.ofArguments args = .ok (.generate r) := by decide +kernel
  have hbase : ∀ base artifacts, r.Writes s base artifacts → base = "doc" :=
    fun base artifacts writes => Option.some.inj (writes.yields.stem.symm.trans (by decide +kernel))
  have hheader : t.resolve (.ofText (r.header "doc")) = .ok ["doc.h"] := by decide +kernel
  have hsource : t.resolve (.ofText (r.source "doc")) = .ok ["doc.cpp"] := by decide +kernel
  have hkept := @inputs_kept args r s t ((run args : StateM Store Report) s).1 hargs rfl
  refine ⟨hargs, hkept (by decide) ?_, hkept (by decide) ?_⟩
  · intro base artifacts place writes hplace
    obtain rfl := hbase base artifacts writes
    obtain rfl : place = ["doc.schema"] := Except.ok.inj (hplace.symm.trans (by decide +kernel))
    simp [hheader, hsource]
  · intro base artifacts place writes hplace
    obtain rfl := hbase base artifacts writes
    obtain rfl : place = ["doc.json"] := Except.ok.inj (hplace.symm.trans (by decide +kernel))
    simp [hheader, hsource]

/-- A schema that is named like the header is overwritten by it. -/
theorem schema_overwritten :
    let s : Store := ⟨[(["doc.h"], .file "int a".toUTF8)], []⟩
    let after := (run ["generate", "Doc", "doc.h"] : StateM Store Report) s
    after.1.exit = 0 ∧ s.readText "doc.h" = .ok "int a" ∧
      after.2.readText "doc.h" ≠ .ok "int a" := by
  intro s after
  -- The sizes differ already, so the new text need not be decoded.
  have hsize : (Store.read (.ofText "doc.h") after.2).1.toOption.map ByteArray.size ≠ some 5 := by
    decide +kernel
  refine ⟨by decide +kernel, by decide +kernel, fun htext => hsize ?_⟩
  obtain ⟨-, hfinds⟩ := Store.readText_eq_ok_iff.mp htext
  rw [((Store.looks_read _ _).value _).mpr hfinds]
  rfl

end Accessors
