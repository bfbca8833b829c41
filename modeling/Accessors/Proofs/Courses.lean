import Accessors.Command.Run
import Accessors.Proofs.Directories
import Accessors.Proofs.Paths

/-!
How a request for files goes on a store. Everything is read and generated before anything is written,
so until then the store stays as it is. From there on the request can go four ways.
-/

set_option autoImplicit false

namespace Accessors.Command

section Steps
variable {α ε : Type}

theorem onFiles_run (activity : String) (step : StateM Store (Except FileError α)) (s : Store) :
    (onFiles activity step : Attempt (StateM Store) α) s =
      ((step s).1.mapError fun e => activity ++ ": " ++ e.message, (step s).2) := by
  rw [onFiles, bind_run]
  change (during activity FileError.message (step s).1 : Attempt (StateM Store) α) (step s).2 = _
  cases (step s).1 <;> rfl

theorem looks_during (activity : String) (message : ε → String) (outcome : Except ε α)
    (s : Store) :
    Looks (during activity message outcome : Attempt (StateM Store) α) s (outcome = .ok ·) := by
  cases outcome with
  | ok a => exact .of_ok rfl (by simp [eq_comm])
  | error e => exact .of_error rfl nofun

theorem looks_onFiles_read (activity path : String) (s : Store) :
    Looks (onFiles activity (Files.read path) : Attempt (StateM Store) String) s
      (s.readText path = .ok ·) := by
  have hrun := onFiles_run activity (Files.read path : StateM Store _) s
  rw [Store.read_run] at hrun
  cases htext : s.readText path with
  | ok text =>
    rw [htext] at hrun
    exact .of_ok hrun (by simp [eq_comm])
  | error e =>
    rw [htext] at hrun
    exact .of_error hrun nofun

theorem writeText_cases (path content : String) (s : Store) :
    (∃ place, s.Writable path place ∧ (writeText path content : Attempt (StateM Store) Unit) s =
        (.ok (), s.set place (.file content.toUTF8))) ∨
      (∀ place, ¬ s.Writable path place) ∧
        ∃ message, (writeText path content : Attempt (StateM Store) Unit) s =
          (.error message, s) := by
  rw [writeText, onFiles_run]
  obtain ⟨place, hplace, hwrite⟩ | ⟨hnone, e, hwrite⟩ := Store.write_cases path content s
  · rw [hwrite]
    exact .inl ⟨place, hplace, rfl⟩
  · rw [hwrite]
    exact .inr ⟨hnone, _, rfl⟩

end Steps

/-- The settings that a store gives for the file that is asked for, if any is. -/
def GivesSettings (s : Store) (settings : Settings) : Option String → Prop
  | none => settings = .standard
  | some path => ∃ text, s.readText path = .ok text ∧ Settings.load text = .ok settings

theorem looks_loadSettings (config : Option String) (s : Store) :
    Looks (loadSettings config : Attempt (StateM Store) Settings) s
      (GivesSettings s · config) := by
  cases config with
  | none => exact .of_ok rfl fun _ => Iff.rfl
  | some path =>
    exact (looks_onFiles_read _ path s).bind fun text _ => looks_during _ _ _ s

namespace Generate

/-- Where the two files go. -/
def header (r : Generate) (base : String) : String := Path.join r.outDir (base ++ ".h")

def source (r : Generate) (base : String) : String := Path.join r.outDir (base ++ ".cpp")

/-- All that is read is there and in order, and these are the files that come of it. -/
structure Yields (r : Generate) (s : Store) (base : String) (artifacts : Artifacts) : Prop where
  stem : (Path.ofText r.schema).fileStem? = some base
  generated : ∃ name settings schema,
    QualifiedName.parse r.qualifiedName = .ok name ∧ GivesSettings s settings r.config ∧
      s.readText r.schema = .ok schema ∧
        (generate schema name base settings).outcome = .ok artifacts

theorem looks_artifacts (r : Generate) (s : Store) :
    Looks (r.artifacts : Attempt (StateM Store) (String × Artifacts)) s
      fun result => r.Yields s result.1 result.2 := by
  unfold Generate.artifacts
  cases hname : QualifiedName.parse r.qualifiedName with
  | error e =>
    refine .of_error rfl ?_
    rintro result ⟨-, name, settings, schema, hother, -⟩
    exact nomatch hname.symm.trans hother
  | ok name =>
    have hyields : ∀ result : String × Artifacts,
        (∃ settings, GivesSettings s settings r.config ∧
          ∃ schema, s.readText r.schema = .ok schema ∧
            (Path.ofText r.schema).fileStem? = some result.1 ∧
              (generate schema name result.1 settings).outcome = .ok result.2) ↔
          r.Yields s result.1 result.2 := by
      intro result
      constructor
      · rintro ⟨settings, hsettings, schema, hschema, hstem, hresult⟩
        exact ⟨hstem, name, settings, schema, hname, hsettings, hschema, hresult⟩
      · rintro ⟨hstem, name', settings, schema, hname', hsettings, hschema, hresult⟩
        obtain rfl : name = name' := Except.ok.inj (hname.symm.trans hname')
        exact ⟨settings, hsettings, schema, hschema, hstem, hresult⟩
    dsimp only
    rw [pure_bind]
    refine Looks.congr ?_ hyields
    refine (looks_loadSettings r.config s).bind fun settings _ => ?_
    refine (looks_onFiles_read _ r.schema s).bind fun schema _ => ?_
    cases (Path.ofText r.schema).fileStem? with
    | none => exact .of_error rfl nofun
    | some base =>
      refine ((looks_during _ _ _ s).bind fun artifacts _ =>
        .of_ok rfl fun _ => Iff.rfl).congr fun result => ?_
      constructor
      · rintro ⟨artifacts, hresult, rfl⟩
        exact ⟨rfl, hresult⟩
      · rintro ⟨hbase, hresult⟩
        obtain rfl : base = result.1 := Option.some.inj hbase
        exact ⟨result.2, hresult, rfl⟩

/-- The request comes to writing these files. -/
structure Writes (r : Generate) (s : Store) (base : String) (artifacts : Artifacts) : Prop where
  noOp : r.noOp = false
  stdout : r.stdout = false
  yields : r.Yields s base artifacts

/-- How a run can go: its exit status, and the store that it leaves. -/
inductive Course (r : Generate) (s : Store) : Nat → Store → Prop
  | shown (h : r.noOp = true ∨ r.stdout = true) : Course r s 0 s
  | stopped (h : ∀ base artifacts, ¬ r.Yields s base artifacts) : Course r s 1 s
  | blocked {base : String} {artifacts : Artifacts} {e : FileError} {t : Store}
      (writes : r.Writes s base artifacts)
      (directory : (Files.makeDirs r.outDir : StateM Store _) s = (.error e, t)) : Course r s 1 t
  | headerRefused {base : String} {artifacts : Artifacts} {t : Store}
      (writes : r.Writes s base artifacts)
      (directory : (Files.makeDirs r.outDir : StateM Store _) s = (.ok (), t))
      (header : ∀ place, ¬ t.Writable (r.header base) place) : Course r s 1 t
  /-- The header that was written is removed again. -/
  | sourceRefused {base : String} {artifacts : Artifacts} {t : Store} {h : Location}
      (writes : r.Writes s base artifacts)
      (directory : (Files.makeDirs r.outDir : StateM Store _) s = (.ok (), t))
      (header : t.Writable (r.header base) h)
      (source : ∀ place,
        ¬ (t.set h (.file artifacts.header.toUTF8)).Writable (r.source base) place) :
      Course r s 1 (t.erase h)
  | written {base : String} {artifacts : Artifacts} {t : Store} {h c : Location}
      (writes : r.Writes s base artifacts)
      (directory : (Files.makeDirs r.outDir : StateM Store _) s = (.ok (), t))
      (header : t.Writable (r.header base) h)
      (source : (t.set h (.file artifacts.header.toUTF8)).Writable (r.source base) c) :
      Course r s 0
        ((t.set h (.file artifacts.header.toUTF8)).set c (.file artifacts.source.toUTF8))

theorem course_of_write {r : Generate} {s t : Store} {base : String} {artifacts : Artifacts}
    {outcome : Except String Unit} (writes : r.Writes s base artifacts)
    (h : (r.write base artifacts : Attempt (StateM Store) Unit) s = (outcome, t)) :
    r.Course s (if outcome.isOk then 0 else 1) t := by
  rw [Generate.write, bind_run, onFiles_run] at h
  rcases hdirs : (Files.makeDirs r.outDir : StateM Store _) s with ⟨e | _, middle⟩
  · rw [hdirs] at h
    obtain ⟨rfl, rfl⟩ := Prod.mk.inj h
    exact .blocked writes hdirs
  rw [hdirs] at h
  dsimp only [Except.mapError] at h
  rw [bind_run] at h
  obtain ⟨place, hplace, hheader⟩ | ⟨hnone, message, hheader⟩ :=
    writeText_cases (r.header base) artifacts.header middle
  · rw [Generate.header] at hheader
    rw [hheader] at h
    dsimp only at h
    rw [catch_run] at h
    obtain ⟨place', hplace', hsource⟩ | ⟨hnone, message, hsource⟩ :=
      writeText_cases (r.source base) artifacts.source
        (middle.set place (.file artifacts.header.toUTF8))
    · rw [Generate.source] at hsource
      rw [hsource] at h
      obtain ⟨rfl, rfl⟩ := Prod.mk.inj h
      exact .written writes hdirs hplace hplace'
    · rw [Generate.source] at hsource
      rw [hsource] at h
      dsimp only at h
      rw [bind_run] at h
      change (Except.error message, ((Files.remove (r.header base) : StateM Store _)
        (middle.set place (.file artifacts.header.toUTF8))).2) = (outcome, t) at h
      rw [hplace.remove_set] at h
      obtain ⟨rfl, rfl⟩ := Prod.mk.inj h
      exact .sourceRefused writes hdirs hplace hnone
  · rw [Generate.header] at hheader
    rw [hheader] at h
    obtain ⟨rfl, rfl⟩ := Prod.mk.inj h
    exact .headerRefused writes hdirs hnone

theorem course_of_generate {r : Generate} {s t : Store} {outcome : Except String String}
    (hnoOp : r.noOp = false)
    (h : (r.run : Attempt (StateM Store) String) s = (outcome, t)) :
    r.Course s (if outcome.isOk then 0 else 1) t := by
  rw [Generate.run, bind_run] at h
  obtain ⟨result, hyields, hartifacts⟩ | ⟨hnone, message, hartifacts⟩ :=
    (looks_artifacts r s).cases
  · rw [hartifacts] at h
    dsimp only at h
    cases hstdout : r.stdout with
    | true =>
      rw [hstdout, if_pos rfl] at h
      obtain ⟨rfl, rfl⟩ := Prod.mk.inj h
      exact .shown (.inr hstdout)
    | false =>
      rw [hstdout, if_neg Bool.false_ne_true, bind_run] at h
      rcases hwrite : (r.write result.1 result.2 : Attempt (StateM Store) Unit) s with
        ⟨message | _, t'⟩
      · rw [hwrite] at h
        obtain ⟨rfl, rfl⟩ := Prod.mk.inj h
        exact course_of_write ⟨hnoOp, hstdout, hyields⟩ hwrite
      · rw [hwrite] at h
        obtain ⟨rfl, rfl⟩ := Prod.mk.inj h
        exact course_of_write ⟨hnoOp, hstdout, hyields⟩ hwrite
  · rw [hartifacts] at h
    obtain ⟨rfl, rfl⟩ := Prod.mk.inj h
    exact .stopped fun base artifacts hyields => hnone (base, artifacts) hyields

end Generate

/-- How a request that is carried out is told. -/
def Report.ofOutcome : Except String String → Report
  | .ok shown => ⟨0, shown, ""⟩
  | .error message => ⟨1, "", "error: " ++ message ++ "\n"⟩

theorem run_of_generate {args : List String} {r : Generate} {s t : Store}
    {outcome : Except String String} (hargs : Request.ofArguments args = .ok (.generate r))
    (hnoOp : r.noOp = false)
    (h : (r.run : Attempt (StateM Store) String) s = (outcome, t)) :
    (run args : StateM Store Report) s = (.ofOutcome outcome, t) := by
  have hbind : ∀ (x : StateM Store (Except String String))
      (f : Except String String → StateM Store Report), (x >>= f) s = f (x s).1 (x s).2 :=
    fun _ _ => rfl
  rw [run, hargs]
  dsimp only
  rw [Request.run, Request.noOp, if_neg (by simp [hnoOp]), hbind, ExceptT.run, h]
  cases outcome <;> rfl

theorem course_of_run {args : List String} {r : Generate} {s t : Store} {report : Report}
    (hargs : Request.ofArguments args = .ok (.generate r))
    (hrun : (run args : StateM Store Report) s = (report, t)) : r.Course s report.exit t := by
  cases hnoOp : r.noOp with
  | true =>
    rw [run, hargs] at hrun
    dsimp only at hrun
    rw [Request.run, Request.noOp, if_pos hnoOp] at hrun
    obtain ⟨rfl, rfl⟩ := Prod.mk.inj hrun
    exact .shown (.inl hnoOp)
  | false =>
    rcases hgenerate : (r.run : Attempt (StateM Store) String) s with ⟨outcome, u⟩
    rw [run_of_generate hargs hnoOp hgenerate] at hrun
    obtain ⟨rfl, rfl⟩ := Prod.mk.inj hrun
    cases outcome with
    | ok shown => exact Generate.course_of_generate hnoOp hgenerate
    | error message => exact Generate.course_of_generate hnoOp hgenerate

end Accessors.Command
