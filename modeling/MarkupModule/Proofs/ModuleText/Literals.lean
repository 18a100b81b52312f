import MarkupModule.Proofs.ModuleText.Layout
import MarkupModule.Proofs.Script.StringLiteral

/-! The string literals of a module that are written between single quotes: what is imported, and where
the functions come from that register markup. They are written without escape sequences, unlike the
markup of a registration. So a literal reads back as it was meant exactly when there is nothing in it to
escape, and a quote in a path ends the literal too early. -/

namespace MarkupModule

open Markup

/-- A literal between single quotes: what it is meant to denote, and the text around it. -/
structure QuotedLiteral where
  before : String
  denoted : String
  after : String
  deriving DecidableEq, Repr

namespace QuotedLiteral

def text (q : QuotedLiteral) : String :=
  q.before ++ "'" ++ q.denoted ++ "'" ++ q.after

/-- A literal that, read from its opening quote, ends at the quote that was written to close it and
denotes what it is meant to. -/
def IsReadBack (q : QuotedLiteral) : Prop :=
  Script.literal? ("'" ++ q.denoted ++ "'" ++ q.after).toList =
    some (Script.units q.denoted.toList, q.after.toList)

def within (q : QuotedLiteral) (before after : String) : QuotedLiteral :=
  { q with before := before ++ q.before, after := q.after ++ after }

theorem isReadBack_iff (q : QuotedLiteral) : q.IsReadBack ↔ Script.IsPlain q.denoted.toList := by
  rw [IsReadBack, ← Script.literal?_quoted_iff q.denoted.toList q.after.toList]
  simp only [String.toList_append, List.append_assoc]
  rfl

theorem text_within (q : QuotedLiteral) (before after : String) :
    (q.within before after).text = before ++ q.text ++ after := by
  simp only [within, text, String.append_assoc]

end QuotedLiteral

namespace Statement

/-- The literal of a statement, if it has one between single quotes. -/
def literal? : Statement → Option QuotedLiteral
  | importFrom specifier => some ⟨"\nimport ", specifier, ";\n"⟩
  | requireHelper module => some ⟨"\nconst " ++ helperName ++ " = require(", module, ");\n"⟩
  | registerMarkup _ _ => none
  | script _ => none

/-- The literals of a list of statements, each in the text of all of them and what stands before. -/
def literalsBehind (before : String) : List Statement → List QuotedLiteral
  | [] => []
  | s :: rest =>
    (s.literal?.map fun q => q.within before (String.join (rest.map source))).toList ++
      literalsBehind (before ++ s.source) rest

def literals (statements : List Statement) : List QuotedLiteral :=
  literalsBehind "" statements

/-- What the literals of a list of statements are meant to denote. -/
def denoted (statements : List Statement) : List String :=
  statements.filterMap fun s => s.literal?.map QuotedLiteral.denoted

theorem source_of_literal? {s : Statement} {q : QuotedLiteral} (h : s.literal? = some q) :
    s.source = q.text := by
  cases s with
  | importFrom specifier =>
      obtain rfl := Option.some.inj h
      simp only [source, QuotedLiteral.text, String.append_assoc]
      rfl
  | requireHelper module =>
      obtain rfl := Option.some.inj h
      simp only [source, QuotedLiteral.text, String.append_assoc]
      rfl
  | registerMarkup registration markup => cases h
  | script body => cases h

theorem text_of_mem_literalsBehind {before : String} {statements : List Statement} {q : QuotedLiteral}
    (h : q ∈ literalsBehind before statements) :
    q.text = before ++ String.join (statements.map source) := by
  induction statements generalizing before with
  | nil => cases h
  | cons s rest ih =>
      rw [literalsBehind, List.mem_append, Option.mem_toList] at h
      rw [List.map_cons, String.join_cons]
      rcases h with h | h
      · obtain ⟨inner, hinner, rfl⟩ := Option.map_eq_some_iff.mp h
        rw [QuotedLiteral.text_within, source_of_literal? hinner, String.append_assoc]
      · rw [ih h, String.append_assoc]

theorem text_of_mem_literals {statements : List Statement} {q : QuotedLiteral}
    (h : q ∈ literals statements) : q.text = (ModuleText.ofStatements statements).source := by
  rw [text_of_mem_literalsBehind h, String.empty_append]
  rfl

theorem map_denoted_literalsBehind (before : String) (statements : List Statement) :
    (literalsBehind before statements).map QuotedLiteral.denoted = denoted statements := by
  induction statements generalizing before with
  | nil => rfl
  | cons s rest ih =>
      rw [literalsBehind, List.map_append, ih, denoted, denoted, List.filterMap_cons]
      cases s.literal? <;> rfl

theorem denoted_append (first second : List Statement) :
    denoted (first ++ second) = denoted first ++ denoted second :=
  List.filterMap_append

theorem denoted_map_registerMarkup (registration : Registration) (markups : List String) :
    denoted (markups.map (registerMarkup registration)) = [] := by
  rw [denoted, List.filterMap_map]
  exact List.filterMap_eq_nil_iff.mpr fun _ _ => rfl

end Statement

namespace Document

/-- The paths of the links that are imported. -/
def importedHrefs (document : Document) (options : Options) : List String :=
  document.topLevel.filterMap fun located => importedPath? options located.node

/-- The path of the file of a script, if it names one. -/
def scriptPath? (script : Located) : Option String :=
  let src := script.node.attributeValue "src"
  if src ≠ "" then some src else none

/-- The paths of the script files that are imported. -/
def importedSrcs (document : Document) : List String :=
  document.localScripts.filterMap scriptPath?

/-- What the literals of the module for a document are meant to denote, in order. -/
def specifiers (document : Document) (options : Options) : List String :=
  (document.importedHrefs options).map (Link.specifier options) ++
    (if document.needsHelper then [options.registerHelper] else []) ++
    document.importedSrcs.map Link.relativeSpecifier

end Document

/-! ### What the statements of a module are meant to denote -/

namespace Generator

variable (g : Generator) (document : Document)

theorem denoted_linkStatements :
    Statement.denoted (g.linkStatements (Partition.ofDocument document).links) =
      (document.importedHrefs g.options).map (Link.specifier g.options) := by
  rw [Partition.ofDocument_eq, Document.importedHrefs, ← linkHrefs_eq, Statement.denoted]
  simp only [linkStatements, List.filterMap_map]
  exact congrFun List.filterMap_eq_map' _

theorem denoted_helperStatements :
    Statement.denoted (g.helperStatements (Partition.ofDocument document)) =
      if document.needsHelper then [g.options.registerHelper] else [] := by
  rw [helperStatements, needsRegisterHelper_ofDocument]
  cases document.needsHelper <;> rfl

theorem denoted_scriptStatement (script : Located) :
    ((scriptStatement script).literal?.map QuotedLiteral.denoted) =
      (Document.scriptPath? script).map Link.relativeSpecifier := by
  rw [scriptStatement, Document.scriptPath?]
  simp only [String.isEmpty_iff, ne_eq]
  by_cases h : script.node.attributeValue "src" = ""
  · rw [if_pos h, if_neg (not_not_intro h)]
    rfl
  · rw [if_neg h, if_pos h]
    rfl

theorem denoted_scripts :
    Statement.denoted ((Partition.ofDocument document).scripts.map scriptStatement) =
      document.importedSrcs.map Link.relativeSpecifier := by
  rw [Partition.ofDocument_eq, Statement.denoted, List.filterMap_map, Document.importedSrcs,
    List.map_filterMap]
  exact List.filterMap_congr fun script _ => denoted_scriptStatement script

/-- What the literals of a module are meant to denote: the imported links, the functions that register
markup, and the script files. -/
theorem denoted_statements {statements : List Statement}
    (h : g.statements (Partition.ofDocument document) = .ok statements) :
    Statement.denoted statements = document.specifiers g.options := by
  obtain ⟨registered, added, _, _, rfl⟩ := statements_eq_ok_iff.mp h
  simp only [Statement.denoted_append]
  rw [denoted_linkStatements, denoted_helperStatements, Statement.denoted_map_registerMarkup,
    Statement.denoted_map_registerMarkup, denoted_scripts, List.append_nil, List.append_nil]
  rfl

end Generator

/-! ### Specifiers with nothing to escape -/

namespace Link

theorem isPlain_relativeSpecifier_iff (path : String) :
    Script.IsPlain (relativeSpecifier path).toList ↔ Script.IsPlain path.toList := by
  have hprefix : Script.IsPlain "./".toList := by
    simp [Script.IsPlain, Script.IsPlainChar]
  rw [relativeSpecifier]
  split
  · split
    · rw [String.toList_append, Script.isPlain_append_iff]
      exact and_iff_right hprefix
    · rfl
  · rfl

theorem isPlain_specifier_iff (options : Options) (href : String) :
    Script.IsPlain (specifier options href).toList ↔ Script.IsPlain href.toList := by
  rw [specifier]
  split
  · rfl
  · exact isPlain_relativeSpecifier_iff href

end Link

theorem Document.isPlain_specifiers_iff (document : Document) (options : Options) :
    (∀ specifier ∈ document.specifiers options, Script.IsPlain specifier.toList) ↔
      (∀ href ∈ document.importedHrefs options, Script.IsPlain href.toList) ∧
      (document.needsHelper = true → Script.IsPlain options.registerHelper.toList) ∧
      ∀ src ∈ document.importedSrcs, Script.IsPlain src.toList := by
  rw [specifiers, List.forall_mem_append, List.forall_mem_append, List.forall_mem_map,
    List.forall_mem_map, and_assoc]
  simp only [Link.isPlain_specifier_iff, Link.isPlain_relativeSpecifier_iff]
  cases document.needsHelper <;> simp

/-- The literals of a module are the imported links, the functions that register markup if there is any,
and the imported script files. Each reads back as it was meant exactly when it holds no single quote, no
backslash and no line break, and all of them do exactly when this is so for the paths in the document
and for the name in the options. -/
theorem literals_isReadBack_iff {loader : Loader} {document : Document} {resource : String}
    {module : ModuleText} (h : loader.transform document resource = .ok module) :
    ∃ statements, loader.generator.statements (Partition.ofDocument document) = .ok statements ∧
      (Statement.literals statements).map QuotedLiteral.denoted =
        document.specifiers loader.options ∧
      (∀ q ∈ Statement.literals statements, q.text = module.source ∧
        (q.IsReadBack ↔ Script.IsPlain q.denoted.toList)) ∧
      ((∀ q ∈ Statement.literals statements, q.IsReadBack) ↔
        (∀ href ∈ document.importedHrefs loader.options, Script.IsPlain href.toList) ∧
        (document.needsHelper = true → Script.IsPlain loader.options.registerHelper.toList) ∧
        ∀ src ∈ document.importedSrcs, Script.IsPlain src.toList) := by
  obtain ⟨statements, hstatements, rfl⟩ := Loader.transform_eq_ok_iff.mp h
  have hdenoted : (Statement.literals statements).map QuotedLiteral.denoted =
      document.specifiers loader.options := by
    rw [Statement.literals, Statement.map_denoted_literalsBehind]
    exact loader.generator.denoted_statements document hstatements
  refine ⟨statements, hstatements, hdenoted, ?_, ?_⟩
  · intro q hq
    exact ⟨Statement.text_of_mem_literals hq, q.isReadBack_iff⟩
  · rw [← Document.isPlain_specifiers_iff, ← hdenoted, List.forall_mem_map]
    exact forall₂_congr fun q _ => q.isReadBack_iff

/-- The source of a component with a single quote in the path of a link. -/
def quoteInLink : String :=
  "<link href=\"it's.html\">"

def quoteInLinkSource : String :=
  "\nimport './it's.html';\n"

theorem literals_isReadBack_quoteInLink :
    Loader.keepingStyles.transform (Document.parse quoteInLink) "x.html" =
      .ok ⟨quoteInLinkSource, "", 2, 1⟩ ∧
    ∃ statements, Loader.keepingStyles.generator.statements
        (Partition.ofDocument (Document.parse quoteInLink)) = .ok statements ∧
      (Statement.literals statements).map QuotedLiteral.denoted =
        (Document.parse quoteInLink).specifiers Loader.keepingStyles.options ∧
      (∀ q ∈ Statement.literals statements, q.text = quoteInLinkSource ∧
        (q.IsReadBack ↔ Script.IsPlain q.denoted.toList)) ∧
      ((∀ q ∈ Statement.literals statements, q.IsReadBack) ↔
        (∀ href ∈ (Document.parse quoteInLink).importedHrefs Loader.keepingStyles.options,
          Script.IsPlain href.toList) ∧
        ((Document.parse quoteInLink).needsHelper = true →
          Script.IsPlain Loader.keepingStyles.options.registerHelper.toList) ∧
        ∀ src ∈ (Document.parse quoteInLink).importedSrcs, Script.IsPlain src.toList) := by
  have h : Loader.keepingStyles.transform (Document.parse quoteInLink) "x.html" =
      .ok ⟨quoteInLinkSource, "", 2, 1⟩ := by
    decide +kernel
  exact ⟨h, literals_isReadBack_iff h⟩

/-- A single quote in the path of a link ends the literal of the import there. -/
theorem not_isReadBack_quoteInLink :
    Loader.keepingStyles.process quoteInLink "x.html" = .ok ⟨quoteInLinkSource, "", 2, 1⟩ ∧
    Loader.keepingStyles.generator.statements (Partition.ofDocument (Document.parse quoteInLink)) =
      .ok [.importFrom "./it's.html"] ∧
    Statement.literals [.importFrom "./it's.html"] = [⟨"\nimport ", "./it's.html", ";\n"⟩] ∧
    Script.literal? "'./it's.html';\n".toList =
      some (Script.units "./it".toList, "s.html';\n".toList) ∧
    ¬QuotedLiteral.IsReadBack ⟨"\nimport ", "./it's.html", ";\n"⟩ := by
  refine ⟨by decide +kernel, by decide +kernel, by decide +kernel, by decide +kernel, ?_⟩
  rw [QuotedLiteral.isReadBack_iff]
  intro hplain
  obtain ⟨hquote, _⟩ := hplain '\'' (by decide)
  exact hquote rfl

end MarkupModule
