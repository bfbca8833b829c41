import Accessors.Proofs.RunFrames

/-!
Running a request again. The second run starts from what the first one left: the inputs are still
there, the output directory is made, and a file that is written twice with the same text is written
once. So the second run ends as the first did, and leaves everything as it is.

A run that could not make its output directory is left out. The directories that it did make can show
the next run another obstacle, which is then reported in place of the first.
-/

set_option autoImplicit false

namespace Accessors

namespace Store

theorem set_erase (s : Store) (place : Location) (entry : Entry) :
    (s.erase place).set place entry = s.set place entry := by
  simp [set, erase]

theorem erase_erase (s : Store) (place : Location) :
    (s.erase place).erase place = s.erase place := by
  simp [erase]

theorem set_set_again (s : Store) (first second : Location) (x y : Entry) :
    (((s.set first x).set second y).set first x).set second y = (s.set first x).set second y := by
  by_cases h : first = second
  · simp [set, h]
  · have h' : second ≠ first := fun heq => h heq.symm
    simp [set, List.filter_filter, h, h', Bool.and_comm, Bool.and_left_comm]

theorem ensureDir_of_isDirectory {p : Path} {s : Store} (h : s.isDirectory p = true) :
    ensureDir p s = (.ok (), s) := by
  unfold ensureDir
  obtain ⟨place, hplace, hnone, -⟩ | ⟨e, hmake⟩ := makeDir_cases p s
  · obtain ⟨other, hother, hdir⟩ := isDirectory_iff.mp h
    obtain rfl : place = other := Except.ok.inj (hplace.symm.trans hother)
    exact nomatch hnone.symm.trans hdir
  · rw [hmake]
    simp [h]

theorem makeDirsFrom_of_isDirectory {p : Path} {s : Store} (h : s.isDirectory p = true)
    (rest : List Path) : makeDirsFrom p rest s = (.ok (), s) := by
  cases rest with
  | nil => exact ensureDir_of_isDirectory h
  | cons outer rest =>
    rw [makeDirsFrom_of_not_missing, ensureDir_of_isDirectory h]
    obtain ⟨place, hplace, -⟩ := isDirectory_iff.mp h
    rw [hplace]
    exact nofun

theorem makeDirs_of_isDirectory {path : String} {s : Store}
    (hshort : path.utf8ByteSize ≤ Path.limit) (hdir : s.isDirectory (.ofText path) = true) :
    (Files.makeDirs path : StateM Store (Except FileError Unit)) s = (.ok (), s) := by
  change atPath path makeDirs s = (.ok (), s)
  rw [atPath_of_short hshort]
  exact makeDirsFrom_of_isDirectory hdir _

/-- Where the directory is there in the end, making it again does nothing more and ends alike. -/
theorem makeDirs_again {path : String} {s t : Store} {outcome : Except FileError Unit}
    (h : (Files.makeDirs path : StateM Store (Except FileError Unit)) s = (outcome, t))
    (hdir : t.isDirectory (.ofText path) = true) :
    (Files.makeDirs path : StateM Store (Except FileError Unit)) t = (outcome, t) := by
  by_cases hlong : Path.limit < path.utf8ByteSize
  · -- A path that is too long is refused before anything is looked up.
    change atPath path makeDirs s = (outcome, t) at h
    rw [atPath_of_long hlong] at h
    obtain ⟨rfl, rfl⟩ := Prod.mk.inj h
    exact atPath_of_long hlong _ s
  · have hshort := Nat.le_of_not_lt hlong
    obtain rfl : outcome = .ok () := (makeDirs_spec h).2.mpr ⟨hshort, hdir⟩
    exact makeDirs_of_isDirectory hshort hdir

/-- What can be written can still be written after another file. -/
theorem Writable.after {s : Store} {path other : String} {place otherPlace : Location}
    (h : s.Writable path place) (hother : s.Writable other otherPlace) (content : ByteArray) :
    (s.set otherPlace (.file content)).Writable path place := by
  apply h.kept (hother.dirsKept_set _)
  rw [hother.lookup_set]
  split
  · exact nofun
  · exact h.free

theorem Writable.after_erase {s : Store} {path : String} {place : Location}
    (h : s.Writable path place) : (s.erase place).Writable path place := by
  apply h.kept h.dirsKept_erase
  rw [lookup_erase s h.ne_nil, if_pos rfl]
  exact nofun

end Store

namespace Command

theorem writeText_of_writable {s : Store} {path : String} {place : Location}
    (h : s.Writable path place) (content : String) :
    (writeText path content : Attempt (StateM Store) Unit) s =
      (.ok (), s.set place (.file content.toUTF8)) := by
  obtain ⟨other, hother, hwrite⟩ | ⟨hnone, -⟩ := writeText_cases path content s
  · obtain rfl : place = other := Except.ok.inj (h.leads.symm.trans hother.leads)
    exact hwrite
  · exact absurd h (hnone place)

namespace Generate

variable {r : Generate} {s t : Store} {base : String} {artifacts : Artifacts}

section Writing
variable {message : String} {h c : Location}

theorem write_of_blocked {e : FileError}
    (directory : (Files.makeDirs r.outDir : StateM Store _) s = (.error e, t)) :
    (r.write base artifacts : Attempt (StateM Store) Unit) s =
      (.error ("failed to create output directory " ++ r.outDir ++ ": " ++ e.message), t) := by
  rw [Generate.write, bind_run, onFiles_run, directory]
  rfl

theorem write_of_header_refused
    (directory : (Files.makeDirs r.outDir : StateM Store _) s = (.ok (), t))
    (header : (writeText (r.header base) artifacts.header : Attempt (StateM Store) Unit) t =
      (.error message, t)) :
    (r.write base artifacts : Attempt (StateM Store) Unit) s = (.error message, t) := by
  rw [Generate.header] at header
  rw [Generate.write, bind_run, onFiles_run, directory]
  dsimp only [Except.mapError]
  rw [bind_run, header]

theorem write_of_source_refused
    (directory : (Files.makeDirs r.outDir : StateM Store _) s = (.ok (), t))
    (header : t.Writable (r.header base) h)
    (source : (writeText (r.source base) artifacts.source : Attempt (StateM Store) Unit)
      (t.set h (.file artifacts.header.toUTF8)) =
        (.error message, t.set h (.file artifacts.header.toUTF8))) :
    (r.write base artifacts : Attempt (StateM Store) Unit) s = (.error message, t.erase h) := by
  have hheader := writeText_of_writable header artifacts.header
  have hremove := header.remove_set artifacts.header.toUTF8
  rw [Generate.header] at hheader hremove
  rw [Generate.source] at source
  rw [Generate.write, bind_run, onFiles_run, directory]
  dsimp only [Except.mapError]
  rw [bind_run, hheader]
  dsimp only
  rw [catch_run, source]
  dsimp only
  rw [bind_run]
  change (Except.error message, ((Files.remove _ : StateM Store _) _).2) = _
  rw [hremove]

theorem write_of_written
    (directory : (Files.makeDirs r.outDir : StateM Store _) s = (.ok (), t))
    (header : t.Writable (r.header base) h)
    (source : (t.set h (.file artifacts.header.toUTF8)).Writable (r.source base) c) :
    (r.write base artifacts : Attempt (StateM Store) Unit) s =
      (.ok (), (t.set h (.file artifacts.header.toUTF8)).set c (.file artifacts.source.toUTF8)) := by
  have hheader := writeText_of_writable header artifacts.header
  have hsource := writeText_of_writable source artifacts.source
  rw [Generate.header] at hheader
  rw [Generate.source] at hsource
  rw [Generate.write, bind_run, onFiles_run, directory]
  dsimp only [Except.mapError]
  rw [bind_run, hheader]
  dsimp only
  rw [catch_run, hsource]

/-- Each way of writing leaves a store from which it goes the same way again. -/
theorem write_again {outcome : Except String Unit}
    (hwrite : (r.write base artifacts : Attempt (StateM Store) Unit) s = (outcome, t))
    (hdir : t.isDirectory (.ofText r.outDir) = true) :
    (r.write base artifacts : Attempt (StateM Store) Unit) t = (outcome, t) := by
  rcases hdirs : (Files.makeDirs r.outDir : StateM Store _) s with ⟨e | _, made⟩
  · rw [write_of_blocked hdirs] at hwrite
    obtain ⟨rfl, rfl⟩ := Prod.mk.inj hwrite
    exact write_of_blocked (Store.makeDirs_again hdirs hdir)
  obtain ⟨hshort, -⟩ := (Store.makeDirs_spec hdirs).2.mp rfl
  have hdirs' := Store.makeDirs_of_isDirectory hshort hdir
  obtain ⟨h, hheader, -⟩ | ⟨-, message, hheader⟩ :=
    writeText_cases (r.header base) artifacts.header made
  · obtain ⟨c, hsource, -⟩ | ⟨-, message, hsource⟩ :=
      writeText_cases (r.source base) artifacts.source
        (made.set h (.file artifacts.header.toUTF8))
    · rw [write_of_written hdirs hheader hsource] at hwrite
      obtain ⟨rfl, rfl⟩ := Prod.mk.inj hwrite
      have hheader' := (hheader.after hheader artifacts.header.toUTF8).after hsource
        artifacts.source.toUTF8
      have hsource' := (hsource.after hsource artifacts.source.toUTF8).after hheader'
        artifacts.header.toUTF8
      rw [write_of_written hdirs' hheader' hsource', Store.set_set_again]
    · rw [write_of_source_refused hdirs hheader hsource] at hwrite
      obtain ⟨rfl, rfl⟩ := Prod.mk.inj hwrite
      -- The header is written into the same store as before, whether it stood there or not.
      rw [← Store.set_erase] at hsource
      rw [write_of_source_refused hdirs' hheader.after_erase hsource, Store.erase_erase]
  · rw [write_of_header_refused hdirs hheader] at hwrite
    obtain ⟨rfl, rfl⟩ := Prod.mk.inj hwrite
    exact write_of_header_refused hdirs' hheader

end Writing

/-- Neither of the two files goes to the place of the schema or of the settings. -/
def KeepsApart (r : Generate) (s t : Store) : Prop :=
  ∀ path ∈ r.schema :: r.config.toList, ∀ base place,
    (Path.ofText r.schema).fileStem? = some base → s.resolve (.ofText path) = .ok place →
      t.resolve (.ofText (r.header base)) ≠ .ok place ∧
        t.resolve (.ofText (r.source base)) ≠ .ok place

/-- Inputs that can still be read as before yield the same files. -/
theorem Yields.kept (h : r.Yields s base artifacts)
    (hread : ∀ path ∈ r.schema :: r.config.toList, ∀ text, s.readText path = .ok text →
      t.readText path = .ok text) : r.Yields t base artifacts := by
  obtain ⟨hstem, name, settings, schema, hname, hsettings, hschema, hresult⟩ := h
  refine ⟨hstem, name, settings, schema, hname, ?_, ?_, hresult⟩
  · cases hconfig : r.config with
    | none =>
      rw [hconfig] at hsettings
      exact hsettings
    | some path =>
      rw [hconfig] at hsettings
      obtain ⟨text, htext, hload⟩ := hsettings
      exact ⟨text, hread path (by simp [hconfig]) text htext, hload⟩
  · exact hread r.schema List.mem_cons_self schema hschema

theorem Course.writes_again {exit : Nat} (h : r.Course s exit t)
    (writes : r.Writes s base artifacts) (hapart : r.KeepsApart s t) :
    r.Writes t base artifacts := by
  refine ⟨writes.noOp, writes.stdout, writes.yields.kept fun path hpath text htext => ?_⟩
  apply h.readText_kept writes htext
  intro place hplace
  exact hapart path hpath base place writes.yields.stem hplace

end Generate

theorem run_of_writes {args : List String} {r : Generate} {s t : Store} {base : String}
    {artifacts : Artifacts} {outcome : Except String Unit}
    (hargs : Request.ofArguments args = .ok (.generate r)) (writes : r.Writes s base artifacts)
    (hwrite : (r.write base artifacts : Attempt (StateM Store) Unit) s = (outcome, t)) :
    (run args : StateM Store Report) s = (.ofOutcome (outcome.map fun _ => ""), t) := by
  have hartifacts : (r.artifacts : Attempt (StateM Store) (String × Artifacts)) s =
      (.ok (base, artifacts), s) :=
    Prod.ext (((Generate.looks_artifacts r s).value _).mpr writes.yields)
      (Generate.looks_artifacts r s).state
  apply run_of_generate hargs writes.noOp
  rw [Generate.run, bind_run, hartifacts]
  dsimp only
  rw [writes.stdout, if_neg Bool.false_ne_true, bind_run, hwrite]
  cases outcome <;> rfl

end Command

open Command

/-- In a store without links, a request that is run again ends as before and leaves every file and
directory as it is. The output directory has to be there in the end if there is something to write. -/
theorem rerun_idempotent {args : List String} {r : Generate} {s t : Store} {report : Report}
    (hargs : Request.ofArguments args = .ok (.generate r))
    (hrun : (run args : StateM Store Report) s = (report, t))
    (hdir : (∃ base artifacts, r.Writes s base artifacts) →
      t.isDirectory (.ofText r.outDir) = true)
    (hapart : r.KeepsApart s t) : (run args : StateM Store Report) t = (report, t) := by
  have hcourse := course_of_run hargs hrun
  by_cases hwrites : ∃ base artifacts, r.Writes s base artifacts
  · obtain ⟨base, artifacts, writes⟩ := hwrites
    rcases hwrite : (r.write base artifacts : Attempt (StateM Store) Unit) s with ⟨outcome, u⟩
    rw [run_of_writes hargs writes hwrite] at hrun
    obtain ⟨rfl, rfl⟩ := Prod.mk.inj hrun
    apply run_of_writes hargs (hcourse.writes_again writes hapart)
    exact Generate.write_again hwrite (hdir ⟨base, artifacts, writes⟩)
  · obtain rfl := hcourse.eq_of_not_writes hwrites
    exact hrun

/-- The first run makes its output directory. The second is refused at its source, and removes the
header that stood there before. -/
theorem rerun_idempotent_refused :
    let s : Store := ⟨[(["doc.schema"], .file "int a".toUTF8), (["gen"], .directory),
      (["gen", "doc.h"], .file "old".toUTF8), (["gen", "doc.cpp"], .directory)], []⟩
    let args := fun directory => ["generate", "Doc", "doc.schema", "--out-dir", directory]
    let after := fun directory => (run (args directory) : StateM Store Report) s
    ((after "new/cpp").1.exit = 0 ∧ (after "new/cpp").2.isDirectory (.ofText "new/cpp") = true ∧
        (run (args "new/cpp") : StateM Store Report) (after "new/cpp").2 = after "new/cpp") ∧
      ((after "gen").1.exit = 1 ∧ (after "gen").2.isDirectory (.ofText "gen") = true ∧
        (run (args "gen") : StateM Store Report) (after "gen").2 = after "gen") := by
  intro s args after
  let r : String → Generate := fun directory => ⟨"Doc", "doc.schema", directory, none, false, false⟩
  have hstem : (Path.ofText "doc.schema").fileStem? = some "doc" := by decide +kernel
  have hplace : s.resolve (.ofText "doc.schema") = .ok ["doc.schema"] := by decide +kernel
  have hapart : ∀ directory, (r directory).KeepsApart s (after directory).2 := by
    intro directory path hpath base place hbase hleads
    obtain rfl : path = "doc.schema" := List.mem_singleton.mp hpath
    obtain rfl : base = "doc" := Option.some.inj (hbase.symm.trans hstem)
    obtain rfl : place = ["doc.schema"] := Except.ok.inj (hleads.symm.trans hplace)
    constructor
    · intro hheader
      have hname := Store.getLast?_of_resolve_join (Generate.isName_header hbase) hheader
      exact absurd hname (by decide)
    · intro hsource
      have hname := Store.getLast?_of_resolve_join (Generate.isName_source hbase) hsource
      exact absurd hname (by decide)
  have hnew : (after "new/cpp").2.isDirectory (.ofText "new/cpp") = true := by decide +kernel
  have hgen : (after "gen").2.isDirectory (.ofText "gen") = true := by decide +kernel
  refine ⟨⟨by decide +kernel, hnew, ?_⟩, by decide +kernel, hgen, ?_⟩
  · exact @rerun_idempotent (args "new/cpp") (r "new/cpp") s (after "new/cpp").2 (after "new/cpp").1
      (by decide +kernel) rfl (fun _ => hnew) (hapart "new/cpp")
  · exact @rerun_idempotent (args "gen") (r "gen") s (after "gen").2 (after "gen").1
      (by decide +kernel) rfl (fun _ => hgen) (hapart "gen")

end Accessors
