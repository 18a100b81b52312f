import MarkupModule.Proofs.Json.Literal
import MarkupModule.Proofs.ModuleText.Literals

/-! The lines and imports that a module counts. A statement counts the lines that it is written on, with
two exceptions: the line that makes the functions known which register markup, and line feeds within a
specifier. So the line feeds of a module are its lines and these. Imports are counted by statements, and
whatever a script or a markup looks like, it is no import. -/

namespace MarkupModule

open Markup

def lineFeeds (s : String) : Nat :=
  s.toList.count '\n'

theorem lineFeeds_append (s t : String) : lineFeeds (s ++ t) = lineFeeds s + lineFeeds t := by
  rw [lineFeeds, String.toList_append, List.count_append]
  rfl

theorem lineFeeds_join (parts : List String) :
    lineFeeds (String.join parts) = (parts.map lineFeeds).sum := by
  induction parts with
  | nil => rfl
  | cons part rest ih => rw [String.join_cons, lineFeeds_append, ih, List.map_cons, List.sum_cons]

/-- A written literal stands on one line. -/
theorem lineFeeds_quote (s : List Char) : lineFeeds (String.ofList (Json.quote s)) = 0 := by
  rw [lineFeeds, String.toList_ofList]
  exact List.count_eq_zero.mpr Json.not_mem_quote

theorem sum_map_of_forall {α : Type} {count : α → Nat} {n : Nat} (h : ∀ a, count a = n) (l : List α) :
    (l.map count).sum = l.length * n := by
  induction l with
  | nil => simp
  | cons a rest ih => rw [List.map_cons, List.sum_cons, ih, h, List.length_cons, Nat.succ_mul, Nat.add_comm]

/-! ### What a statement counts -/

namespace Statement

/-- The line feeds of a statement that are not counted as lines. -/
def uncounted : Statement → Nat
  | importFrom specifier => lineFeeds specifier
  | requireHelper module => 2 + lineFeeds module
  | registerMarkup _ _ => 0
  | script _ => 0

theorem lineFeeds_source (s : Statement) : lineFeeds s.source = s.lineCount + s.uncounted := by
  cases s with
  | importFrom specifier =>
      have hbefore : lineFeeds "\nimport '" = 1 := by decide
      have hbehind : lineFeeds "';\n" = 1 := by decide
      rw [source, lineFeeds_append, lineFeeds_append, hbefore, hbehind, lineCount, uncounted]
      omega
  | requireHelper module =>
      have hbefore : lineFeeds ("\nconst " ++ helperName ++ " = require('") = 1 := by decide
      have hbehind : lineFeeds "');\n" = 1 := by decide
      rw [source, lineFeeds_append, lineFeeds_append, hbefore, hbehind, lineCount, uncounted]
      omega
  | registerMarkup registration markup =>
      have hbefore : lineFeeds ("\n" ++ helperName ++ "." ++ registration.method ++ "(") = 1 := by
        cases registration <;> decide
      have hbehind : lineFeeds ");\n" = 1 := by decide
      rw [source, lineFeeds_append, lineFeeds_append, hbefore, lineFeeds_quote, hbehind]
      rfl
  | script body =>
      have hbreak : lineFeeds "\n" = 1 := by decide
      rw [source, lineFeeds_append, lineFeeds_append, hbreak, lineCount, uncounted, ← lineFeeds]
      omega

end Statement

namespace ModuleText

/-- The line feeds of a module are the lines that it counts and those that its statements do not count. -/
theorem lineFeeds_ofStatements (statements : List Statement) :
    lineFeeds (ofStatements statements).source =
      (ofStatements statements).lineCount + (statements.map Statement.uncounted).sum := by
  rw [lineCount_ofStatements, ← List.sum_map_add]
  change lineFeeds (String.join _) = _
  rw [lineFeeds_join, List.map_map]
  exact congrArg List.sum (List.map_congr_left fun s _ => s.lineFeeds_source)

end ModuleText

/-! ### What the statements for a document count -/

namespace Generator

variable (g : Generator) (document : Document)

theorem linkStatements_ofDocument :
    g.linkStatements (Partition.ofDocument document).links =
      (document.importedHrefs g.options).map fun href => .importFrom (Link.specifier g.options href) := by
  rw [Partition.ofDocument_eq, Document.importedHrefs, ← linkHrefs_eq]
  rfl

theorem scriptStatement_eq (script : Located) :
    scriptStatement script =
      match Document.scriptPath? script with
      | some src => .importFrom (Link.relativeSpecifier src)
      | none => .script script.node.innerText := by
  rw [scriptStatement, Document.scriptPath?]
  simp only [String.isEmpty_iff, ne_eq]
  by_cases h : script.node.attributeValue "src" = ""
  · rw [if_pos h, if_neg (not_not_intro h)]
  · rw [if_neg h, if_pos h]

/-- What the statements for scripts count in all, for a count that is zero for the text of a script. -/
theorem sum_scriptStatements (count : Statement → Nat) (hcount : ∀ body, count (.script body) = 0) :
    (((Partition.ofDocument document).scripts.map scriptStatement).map count).sum =
      (document.importedSrcs.map fun src => count (.importFrom (Link.relativeSpecifier src))).sum := by
  rw [Partition.ofDocument_eq, Document.importedSrcs]
  change ((document.localScripts.map scriptStatement).map count).sum = _
  generalize document.localScripts = scripts
  induction scripts with
  | nil => rfl
  | cons script rest ih =>
      rw [List.map_cons, List.map_cons, List.sum_cons, ih, List.filterMap_cons, scriptStatement_eq]
      cases Document.scriptPath? script with
      | none => rw [hcount, Nat.zero_add]
      | some src => rfl

/-- What the statements for a document count in all, for a count that is zero for registrations and for
the text of scripts. -/
theorem sum_statements {statements : List Statement}
    (h : g.statements (Partition.ofDocument document) = .ok statements) {count : Statement → Nat}
    (hscript : ∀ body, count (.script body) = 0)
    (hregister : ∀ registration markup, count (.registerMarkup registration markup) = 0) :
    (statements.map count).sum =
      ((document.importedHrefs g.options).map fun href =>
        count (.importFrom (Link.specifier g.options href))).sum +
      (if document.needsHelper then count (.requireHelper g.options.registerHelper) else 0) +
      (document.importedSrcs.map fun src => count (.importFrom (Link.relativeSpecifier src))).sum := by
  have hcalls : ∀ (registration : Registration) (markups : List String),
      ((markups.map (Statement.registerMarkup registration)).map count).sum = 0 := by
    intro registration markups
    rw [List.map_map]
    exact (sum_map_of_forall (hregister registration) markups).trans (Nat.mul_zero _)
  have hhelper : ((g.helperStatements (Partition.ofDocument document)).map count).sum =
      if document.needsHelper then count (.requireHelper g.options.registerHelper) else 0 := by
    rw [helperStatements, needsRegisterHelper_ofDocument]
    cases document.needsHelper <;> rfl
  obtain ⟨registered, added, -, -, rfl⟩ := statements_eq_ok_iff.mp h
  simp only [List.map_append, List.sum_append]
  rw [hcalls, hcalls, hhelper, linkStatements_ofDocument, sum_scriptStatements document count hscript,
    List.map_map]
  rfl

end Generator

/-- The line feeds of a module are the lines that it counts, the two of the functions that register markup
if these are needed, and those within the specifiers of what is imported. The imports that it counts are
those of links and of script files. -/
theorem counts_of_transform {loader : Loader} {document : Document} {resource : String}
    {module : ModuleText} (h : loader.transform document resource = .ok module) :
    lineFeeds module.source =
      module.lineCount +
        ((document.importedHrefs loader.options).map fun href =>
          lineFeeds (Link.specifier loader.options href)).sum +
        (if document.needsHelper then 2 + lineFeeds loader.options.registerHelper else 0) +
        (document.importedSrcs.map fun src => lineFeeds (Link.relativeSpecifier src)).sum ∧
    module.importCount =
      (document.importedHrefs loader.options).length + document.importedSrcs.length := by
  obtain ⟨statements, hstatements, rfl⟩ := Loader.transform_eq_ok_iff.mp h
  constructor
  · rw [ModuleText.lineFeeds_ofStatements, loader.generator.sum_statements document hstatements
      (fun _ => rfl) (fun _ _ => rfl), ← Nat.add_assoc, ← Nat.add_assoc]
    rfl
  · rw [ModuleText.importCount_ofStatements, loader.generator.sum_statements document hstatements
      (fun _ => rfl) (fun _ _ => rfl)]
    simp [Statement.importCount, Loader.generator]

/-- A document of a link whose path has a line feed, a module with a script file, and a script whose text
looks like an import. -/
def brokenPath : Document :=
  { nodes := [
      .element ⟨.html, "link"⟩ [⟨.plain, "href", "a\nb.html"⟩] [],
      .element ⟨.html, "dom-module"⟩ [] [
        .element ⟨.html, "script"⟩ [⟨.plain, "src", "c.js"⟩] [],
        .element ⟨.html, "p"⟩ [] [.text "\nimport 'd';\n"]],
      .element ⟨.html, "script"⟩ [] [.text "\nimport 'e';\n"]]
    roots := {} }

def brokenPathModule : ModuleText :=
  { source :=
      "\nimport './a\nb.html';\n" ++ "\nconst RegisterHtmlTemplate = require('r');\n" ++
        "\nRegisterHtmlTemplate.register(\"<dom-module><p> import 'd'; </p></dom-module>\");\n" ++
        "\nimport './c.js';\n" ++ "\n\nimport 'e';\n\n"
    sourceMap := ""
    lineCount := 10
    importCount := 2 }

theorem counts_of_transform_brokenPath :
    Loader.keepingStyles.transform brokenPath "x.html" = .ok brokenPathModule ∧
    lineFeeds brokenPathModule.source =
      brokenPathModule.lineCount +
        ((brokenPath.importedHrefs Loader.keepingStyles.options).map fun href =>
          lineFeeds (Link.specifier Loader.keepingStyles.options href)).sum +
        (if brokenPath.needsHelper then 2 + lineFeeds Loader.keepingStyles.options.registerHelper else 0) +
        (brokenPath.importedSrcs.map fun src => lineFeeds (Link.relativeSpecifier src)).sum ∧
    brokenPathModule.importCount =
      (brokenPath.importedHrefs Loader.keepingStyles.options).length + brokenPath.importedSrcs.length := by
  have h : Loader.keepingStyles.transform brokenPath "x.html" = .ok brokenPathModule := by
    decide +kernel
  exact ⟨h, counts_of_transform h⟩

end MarkupModule
