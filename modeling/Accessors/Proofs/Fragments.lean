import Accessors.Proofs.Verdict

/-!
The two files around their generated text. What stands before it and after it is filled in from the
name of the output class, and in the source also from the base name of the header. Schema and settings
have no part in it, and whatever looks like a hole in an inserted text stays there as it is.
-/

set_option autoImplicit false

namespace Accessors

namespace Template

/-- What is included makes no difference to pieces that have no hole for it. -/
theorem filledAll_of_not_mem {template : Template} (h : Hole.includeBase ∉ template.holes)
    (name : QualifiedName) (includeBase other : String) :
    filledAll name includeBase template = filledAll name other template := by
  unfold filledAll
  congr 1
  apply List.map_congr_left
  intro piece hpiece
  cases piece with
  | text content => rfl
  | hole hole =>
    have hne : hole ≠ Hole.includeBase := by
      rintro rfl
      exact h (mem_holes.mpr hpiece)
    simp [filled, values, hne]

/-- What the header holds before its generated text. -/
def headerAbove (name : QualifiedName) : String := filledAll name "" header.front

def headerBelow (name : QualifiedName) : String := filledAll name "" header.back

def sourceAbove (name : QualifiedName) (includeBase : String) : String :=
  filledAll name includeBase source.front

def sourceBelow (name : QualifiedName) : String := filledAll name "" source.back

section Rendering
variable (name : QualifiedName) (includeBase generated : String)

theorem render_header :
    header.render (values name includeBase generated) =
      .ok (headerAbove name ++ generated ++ headerBelow name) := by
  have hfront : Hole.includeBase ∉ header.front.holes := by decide
  have hback : Hole.includeBase ∉ header.back.holes := by decide
  rw [render_wrapped _ _ _ header List.mem_cons_self, filledAll_of_not_mem hfront name _ "",
    filledAll_of_not_mem hback name _ "", headerAbove, headerBelow]

theorem render_source :
    source.render (values name includeBase generated) =
      .ok (sourceAbove name includeBase ++ generated ++ sourceBelow name) := by
  have hback : Hole.includeBase ∉ source.back.holes := by decide
  rw [render_wrapped _ _ _ source (by simp), filledAll_of_not_mem hback name _ "", sourceAbove,
    sourceBelow]

end Rendering

end Template

/-- The two templates are read from their texts. -/
theorem generate_eq_ofText (schema : String) (name : QualifiedName) (includeBase : String)
    (settings : Settings) :
    generate schema name includeBase settings = do
      let nodes ← Schema.parse schema
      Logged.ofExcept (Cpp.checkClassNames name.className nodes)
      let declarations ← Logged.ofExcept (Cpp.declarations settings nodes).outcome
      let definitions ← Logged.ofExcept (Cpp.definitions settings name.className nodes).outcome
      Logged.report (.emitted declarations.utf8ByteSize definitions.utf8ByteSize)
      let header ← Logged.ofExcept ((Template.ofText Template.headerText).render
        (Template.values name includeBase declarations))
      let source ← Logged.ofExcept ((Template.ofText Template.sourceText).render
        (Template.values name includeBase definitions))
      return ⟨header, source⟩ := by
  simp only [generate, Template.render_ofText_headerText, Template.render_ofText_sourceText]

/-- Files come out exactly when the schema can be read and both emitters succeed. Each holds the text
of its emitter, unchanged, between two texts that do not depend on it. -/
theorem generate_wraps_fragments {schema includeBase : String} {name : QualifiedName}
    {settings : Settings} {artifacts : Artifacts} :
    (generate schema name includeBase settings).outcome = .ok artifacts ↔
      ∃ nodes declarations definitions,
        (Schema.parse schema).outcome = .ok nodes ∧
        Cpp.checkClassNames name.className nodes = .ok () ∧
        (Cpp.declarations settings nodes).outcome = .ok declarations ∧
        (Cpp.definitions settings name.className nodes).outcome = .ok definitions ∧
        artifacts.header =
          Template.headerAbove name ++ declarations ++ Template.headerBelow name ∧
        artifacts.source =
          Template.sourceAbove name includeBase ++ definitions ++ Template.sourceBelow name := by
  simp only [generate, Logged.outcome_bind, Logged.outcome_ofExcept, Logged.outcome_report,
    Logged.outcome_pure, Template.render_header, Template.render_source, ok_bind, bind_eq_ok_iff,
    Except.ok.injEq]
  constructor
  · rintro ⟨nodes, hparse, ⟨⟩, hcheck, declarations, hdeclarations, definitions, hdefinitions, rfl⟩
    exact ⟨nodes, declarations, definitions, hparse, hcheck, hdeclarations, hdefinitions, rfl, rfl⟩
  · rintro ⟨nodes, declarations, definitions, hparse, hcheck, hdeclarations, hdefinitions, hheader,
      hsource⟩
    refine ⟨nodes, hparse, (), hcheck, declarations, hdeclarations, definitions, hdefinitions, ?_⟩
    rw [← hheader, ← hsource]

-- The base name of the header looks like a hole, and stays.
example : Template.filledAll ⟨[], "Doc"⟩ "$\x7bCLASS\x7d" (Template.source.front.take 2) =
    "\n#include \"$\x7bCLASS\x7d" := by decide +kernel

end Accessors
