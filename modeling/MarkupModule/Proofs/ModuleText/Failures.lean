import MarkupModule.Proofs.Minification.Styles
import MarkupModule.Proofs.Partition.Extraction
import MarkupModule.Proofs.Partition.Sorting

/-! Why a document has no module. Only the nodes that are registered are written, the template modules
before all others, and a node fails at the first of its styles that is refused. So the failure of a
transformation is found in the document: it is that of the first style in this order that the engine
refuses. -/

namespace MarkupModule

open Markup

namespace Partition

/-- The nodes whose markup is registered or added to the page, in the order in which it is written. -/
def written (p : Partition) : List Located :=
  p.templateModules ++ p.otherNodes

variable {document : Document} {root : Located}

theorem mem_topLevel_of_mem_written (h : root ∈ (ofDocument document).written) :
    root ∈ document.topLevel := by
  rw [written, List.mem_append] at h
  rcases h with h | h
  · exact (mem_topLevel_of_mem_templateModules h).1
  · exact (mem_topLevel_of_mem_otherNodes h).1

theorem mem_topLevel_of_mem_links (h : root ∈ (ofDocument document).links) : root ∈ document.topLevel := by
  rw [ofDocument_eq] at h
  exact (List.mem_filter.mp h).1

theorem not_mem_written_of_mem_links (h : root ∈ (ofDocument document).links) :
    root ∉ (ofDocument document).written := by
  have hlink : (Role.ofNode? root.node).map Role.bucket = some .links := bucket_of_mem h
  have hnone : ∀ bucket, bucket ≠ .links → root ∉ (ofDocument document).bucket bucket := by
    intro bucket hne hmem
    exact hne (Option.some.inj ((bucket_of_mem hmem).symm.trans hlink))
  rw [written, List.mem_append]
  rintro (hmodule | hother)
  · exact hnone .templateModules (by decide) hmodule
  · exact hnone .otherNodes (by decide) hother

/-- A script of the partition stands at or below one top-level node. -/
theorem exists_topLevel_of_mem_scripts {script : Located} (h : script ∈ (ofDocument document).scripts) :
    ∃ top ∈ document.topLevel, script ∈ subtree top.address top.node := by
  rw [ofDocument, ofTopLevel_eq] at h
  obtain ⟨top, htop, hmem⟩ := List.mem_flatMap.mp h
  exact ⟨top, htop, (scriptsOf_sublist_subtree top).subset hmem⟩

end Partition

namespace Generator

variable {g : Generator} {p : Partition}

theorem failure?_registrationStatements (registration : Registration) (nodes : List Located) :
    failure? (g.registrationStatements p registration nodes) =
      nodes.findSome? fun node => failure? ((g.writer p).write node) := by
  induction nodes with
  | nil => rfl
  | cons node rest ih =>
      have hrest : ∀ markup, failure? ((g.registrationStatements p registration rest).bind fun statements =>
          Except.ok (.registerMarkup registration markup :: statements)) =
          rest.findSome? fun node => failure? ((g.writer p).write node) := by
        intro markup
        rw [failure?_bind_ok, ih]
      rw [registrationStatements, List.findSome?_cons]
      refine (failure?_bind hrest _).trans ?_
      cases (g.writer p).write node <;> rfl

theorem failure?_statements :
    failure? (g.statements p) = p.written.findSome? fun node => failure? ((g.writer p).write node) := by
  rw [Partition.written, List.findSome?_append, ← failure?_registrationStatements .register,
    ← failure?_registrationStatements .toBody]
  refine failure?_bind (fun registered => ?_) _
  exact failure?_bind_ok _ _

/-- No style that is minified stands at or below a local link or a script that becomes part of the module. -/
theorem not_isPrefix_of_mem_styles {document : Document} {root left : Located} {style : PlacedStyling}
    (hroot : root ∈ (Partition.ofDocument document).written)
    (hstyle : style ∈ (g.writer (Partition.ofDocument document)).styles root)
    (hleft : left ∈ (Partition.ofDocument document).links ++ (Partition.ofDocument document).scripts) :
    ¬left.address <+: style.address := by
  intro hleads
  have htop := Partition.mem_topLevel_of_mem_written hroot
  obtain ⟨located, hlocated, hwrites, hown⟩ := Writer.mem_styles.mp hstyle
  rw [Writer.address_of_mem_ownStyles hown] at hleads
  rcases List.mem_append.mp hleft with hlink | hscript
  · obtain rfl : left = root :=
      Document.eq_of_isPrefix (Partition.mem_topLevel_of_mem_links hlink) htop hlocated hleads
    exact Partition.not_mem_written_of_mem_links hlink hroot
  · obtain ⟨other, hother, hbelow⟩ := Partition.exists_topLevel_of_mem_scripts hscript
    obtain rfl : other = root := Document.eq_of_isPrefix hother htop hlocated
      ((Writer.address_isPrefix_of_mem_subtree hbelow).trans hleads)
    have hskips : (g.writer (Partition.ofDocument document)).skips left.address = true :=
      Partition.contains_extracted_of_mem hscript
    rw [(hwrites left hbelow hleads).1] at hskips
    cases hskips

end Generator

/-- What it means that a transformation of a document, for a resource, fails at a style of the document or
not at all. -/
structure Loader.FailsAtStyles (loader : Loader) (document : Document)
    (run : String → Except Failure ModuleText) : Prop where
  /-- It fails when a node whose markup is registered cannot be written, and only then. -/
  fails_iff : ∀ resource, (∃ failure, run resource = .error failure) ↔
    ∃ node ∈ (Partition.ofDocument document).written, ∃ failure,
      (loader.generator.writer (Partition.ofDocument document)).write node = .error failure
  /-- Its failure is that of the first such node, the template modules before all others. -/
  failure_iff : ∀ resource failure, run resource = .error failure ↔
    ∃ node cause, FailsFirstAt (loader.generator.writer (Partition.ofDocument document)).write
      (Partition.ofDocument document).written node cause ∧ failure = cause.withResource resource
  /-- A node cannot be written when one of its styles is refused, and fails with the first of these. -/
  write_eq_error_iff : ∀ node failure,
    (loader.generator.writer (Partition.ofDocument document)).write node = .error failure ↔
      ∃ style, FailsFirstAt (fun style => loader.engine.minify style.styling)
        ((loader.generator.writer (Partition.ofDocument document)).styles node) style failure
  /-- Styles come in document order. -/
  pairwise_styles : ∀ node, ((loader.generator.writer (Partition.ofDocument document)).styles node).Pairwise
    fun first second => first.address = second.address ∨ first.address < second.address
  /-- A failure is one of minifying, and names the resource. It comes in place of a module. -/
  failure_eq : ∀ resource failure, run resource = .error failure →
    ∃ operation cause, failure = ⟨.minify, resource, operation, some cause⟩
  /-- No style is at or below a local link or a script that becomes part of the module. -/
  not_isPrefix : ∀ node ∈ (Partition.ofDocument document).written,
    ∀ style ∈ (loader.generator.writer (Partition.ofDocument document)).styles node,
      ∀ left ∈ (Partition.ofDocument document).links ++ (Partition.ofDocument document).scripts,
        ¬left.address <+: style.address
  /-- Declarations that wait for a binding are no style. -/
  hasBinding : ∀ node, ∀ style ∈ (loader.generator.writer (Partition.ofDocument document)).styles node,
    ∀ css, style.styling = .declarations css → Markup.hasBinding css = false
  /-- A blank style is not refused. -/
  isBlank : ∀ styling failure, loader.engine.minify styling = .error failure →
    Text.isBlank styling.css.toList = false

namespace Loader

variable {loader : Loader} {document : Document}

theorem transform_eq_error_iff {resource : String} {failure : Failure} :
    loader.transform document resource = .error failure ↔
      ∃ node cause, FailsFirstAt (loader.generator.writer (Partition.ofDocument document)).write
        (Partition.ofDocument document).written node cause ∧ failure = cause.withResource resource := by
  rw [← failure?_eq_some_iff, transform, failure?_mapError, Generator.generate, failure?_map,
    Generator.failure?_statements, Option.map_eq_some_iff]
  simp only [findSome?_failure?_eq_some_iff]
  constructor
  · rintro ⟨cause, ⟨node, hfails⟩, rfl⟩
    exact ⟨node, cause, hfails, rfl⟩
  · rintro ⟨node, cause, hfails, rfl⟩
    exact ⟨cause, ⟨node, hfails⟩, rfl⟩

end Loader

namespace Loader

theorem transform_failsAtStyles (loader : Loader) (document : Document) :
    loader.FailsAtStyles document (loader.transform document) where
  fails_iff := by
    intro resource
    simp only [transform_eq_error_iff]
    constructor
    · rintro ⟨failure, node, cause, hfails, -⟩
      exact ⟨node, hfails.mem, cause, hfails.run_eq⟩
    · rintro ⟨node, hnode, failure, hfailure⟩
      obtain ⟨first, cause, hfails⟩ := FailsFirstAt.exists_of_mem hnode hfailure
      exact ⟨_, first, cause, hfails, rfl⟩
  failure_iff := fun _ _ => transform_eq_error_iff
  write_eq_error_iff := fun _ _ => Writer.write_eq_error_iff
  pairwise_styles := fun node => Writer.pairwise_styles _ node
  failure_eq := by
    intro resource failure h
    obtain ⟨node, cause, hfails, rfl⟩ := transform_eq_error_iff.mp h
    obtain ⟨style, hstyle⟩ := Writer.write_eq_error_iff.mp hfails.run_eq
    obtain ⟨-, operation, words, rfl⟩ := StyleEngine.of_minify_eq_error hstyle.run_eq
    exact ⟨operation, words, rfl⟩
  not_isPrefix := fun _ hnode _ hstyle _ hleft =>
    Generator.not_isPrefix_of_mem_styles hnode hstyle hleft
  hasBinding := fun _ _ hstyle _ hcss => Writer.hasBinding_of_mem_styles hstyle hcss
  isBlank := fun _ _ h => (StyleEngine.of_minify_eq_error h).1

/-- A document has no module only if the engine refuses one of its styles, whatever the engine is. A writer
that leaves styles alone writes every node of every tree. -/
theorem failsAtStyles (loader : Loader) :
    (∀ document, loader.FailsAtStyles document (loader.transform document)) ∧
    (∀ content, loader.FailsAtStyles (Document.parse content) (loader.process content)) ∧
    ∀ w : Writer, w.minification.minifyStyle = false → ∀ root, ∃ markup, w.write root = .ok markup :=
  ⟨loader.transform_failsAtStyles, fun content => loader.transform_failsAtStyles (Document.parse content),
    fun _ hminify root => Writer.exists_write_eq_ok_of_not_minifyStyle hminify root⟩

/-- A loader whose engine refuses every style, and says which one. -/
def refusingStyles : Loader :=
  { options := {}, engine := ⟨fun css => .error (.parse, css), fun css => .error (.parse, css)⟩ }

/-- A paragraph with a style, a styled link, and a template module. In the module stand a styled script that
it gives up, a paragraph with a binding and a blank style, a style sheet, and a paragraph with a style. -/
def styledParagraphAndModule : Document :=
  { nodes := [
      .element ⟨.html, "p"⟩ [⟨.plain, "style", "first"⟩] [],
      .element ⟨.html, "link"⟩ [⟨.plain, "href", "a.html"⟩, ⟨.plain, "style", "second"⟩] [],
      .element ⟨.html, "dom-module"⟩ [] [
        .element ⟨.html, "script"⟩ [⟨.plain, "style", "third"⟩] [],
        .element ⟨.html, "p"⟩ [⟨.plain, "style", "[[bound]]"⟩] [
          .element ⟨.html, "b"⟩ [⟨.plain, "style", " "⟩] []],
        .element ⟨.html, "style"⟩ [] [.text "fourth"],
        .element ⟨.html, "p"⟩ [⟨.plain, "style", "fifth"⟩] []]]
    roots := {} }

theorem failsAtStyles_styledParagraphAndModule :
    refusingStyles.transform styledParagraphAndModule "x.html" =
      .error ⟨.minify, "x.html", "parse stylesheet", some "fourth"⟩ ∧
    (Partition.ofDocument styledParagraphAndModule).written.map
        (refusingStyles.generator.writer (Partition.ofDocument styledParagraphAndModule)).styles =
      [[⟨[2, 1, 0], .declarations " "⟩, ⟨[2, 2], .sheet "fourth"⟩, ⟨[2, 3], .declarations "fifth"⟩],
        [⟨[0], .declarations "first"⟩]] ∧
    refusingStyles.FailsAtStyles styledParagraphAndModule
      (refusingStyles.transform styledParagraphAndModule) ∧
    ∀ root, ∃ markup, (Writer.verbatim refusingStyles.engine).write root = .ok markup :=
  ⟨by decide +kernel, by decide +kernel, refusingStyles.failsAtStyles.1 styledParagraphAndModule,
    refusingStyles.failsAtStyles.2.2 (Writer.verbatim refusingStyles.engine) rfl⟩

end Loader

end MarkupModule
