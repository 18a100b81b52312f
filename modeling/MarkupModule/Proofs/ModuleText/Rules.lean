import MarkupModule.Proofs.ModuleText.Layout

/-! What the rules for links may change in a module. They decide which links are imported and under which
specifier, and nothing else: behind the imports of links, the modules for one document under two sets of
rules are the same. -/

namespace MarkupModule

open Markup

namespace Document

/-- The path of a local link, if it has one. -/
def localPath? (node : Node) : Option String :=
  let href := node.attributeValue "href"
  if node.tag? = some "link" ∧ Link.isExternal href = false ∧ href ≠ "" then some href else none

/-- The paths of the local links, in document order. -/
def localPaths (document : Document) : List String :=
  document.topLevel.filterMap fun located => localPath? located.node

/-- The paths of the links that are imported, in document order. -/
def importedPaths (document : Document) (options : Options) : List String :=
  document.topLevel.filterMap fun located => importedPath? options located.node

def linkSpecifiers (document : Document) (options : Options) : List String :=
  (document.importedPaths options).map (Link.specifier options)

end Document

namespace Options

/-- The links that these options leave out are left out by the others too. -/
structure IgnoresLess (first second : Options) : Prop where
  ignoredLinks : first.ignoredLinks ⊆ second.ignoredLinks
  ignoredFragments : first.ignoredFragments ⊆ second.ignoredFragments

/-- Two sets of options that leave out links by the same rules. -/
structure IgnoresSame (first second : Options) : Prop where
  ignoredLinks : first.ignoredLinks = second.ignoredLinks
  ignoredFragments : first.ignoredFragments = second.ignoredFragments

end Options

namespace Link

/-- Two specifiers are the same, or one of them is the other one, which begins with a letter, behind a
dot and a slash. -/
def SameUpToDotSlash (first second : String) : Prop :=
  first = second ∨ ∃ c rest, c.isAlpha = true ∧
    ((first.toList = c :: rest ∧ second = "./" ++ first) ∨
      (second.toList = c :: rest ∧ first = "./" ++ second))

variable {first second : Options} {href : String}

theorem isIgnored_of_ignoresLess (h : first.IgnoresLess second) (hignored : isIgnored first href = true) :
    isIgnored second href = true := by
  rw [isIgnored, Bool.or_eq_true, matchesAny, List.contains_iff_mem, List.any_eq_true] at hignored ⊢
  rcases hignored with hmem | ⟨fragment, hmem, hcontains⟩
  · exact Or.inl (h.ignoredLinks hmem)
  · exact Or.inr ⟨fragment, h.ignoredFragments hmem, hcontains⟩

theorem isIgnored_of_ignoresSame (h : first.IgnoresSame second) (href : String) :
    isIgnored first href = isIgnored second href := by
  rw [isIgnored, isIgnored, h.ignoredLinks, h.ignoredFragments]

theorem specifier_of_keptFragments_eq (h : first.keptFragments = second.keptFragments) (href : String) :
    specifier first href = specifier second href := by
  rw [specifier, specifier, h]

/-- The path itself and its specifier are the same up to a dot and a slash. -/
theorem relativeSpecifier_eq_or (path : String) :
    relativeSpecifier path = path ∨
      ∃ c rest, c.isAlpha = true ∧ path.toList = c :: rest ∧ relativeSpecifier path = "./" ++ path := by
  rw [relativeSpecifier]
  split
  · rename_i c rest hpath
    split
    · rename_i halpha
      exact Or.inr ⟨c, rest, halpha, hpath, rfl⟩
    · exact Or.inl rfl
  · exact Or.inl rfl

/-- Whatever paths are kept, specifiers of one link are the same up to a dot and a slash. -/
theorem sameUpToDotSlash_specifier (first second : Options) (href : String) :
    SameUpToDotSlash (specifier first href) (specifier second href) := by
  rw [specifier, specifier]
  split <;> split
  · exact Or.inl rfl
  · rcases relativeSpecifier_eq_or href with heq | ⟨c, rest, halpha, hpath, heq⟩
    · exact Or.inl heq.symm
    · exact Or.inr ⟨c, rest, halpha, Or.inl ⟨hpath, heq⟩⟩
  · rcases relativeSpecifier_eq_or href with heq | ⟨c, rest, halpha, hpath, heq⟩
    · exact Or.inl heq
    · exact Or.inr ⟨c, rest, halpha, Or.inr ⟨hpath, heq⟩⟩
  · exact Or.inl rfl

end Link

namespace Document

variable {first second : Options} (document : Document)

theorem importedPath?_eq (options : Options) (node : Node) :
    importedPath? options node = (localPath? node).filter fun href => !Link.isIgnored options href := by
  rw [importedPath?, localPath?]
  by_cases hlocal : node.tag? = some "link" ∧ Link.isExternal (node.attributeValue "href") = false ∧
      node.attributeValue "href" ≠ ""
  · rw [if_pos hlocal, Option.filter_some]
    simp [hlocal]
  · rw [if_neg hlocal, if_neg fun h => hlocal ⟨h.1, h.2.1, h.2.2.1⟩, Option.filter_none]

/-- The rules leave paths out, one by one. -/
theorem importedPaths_eq (options : Options) :
    document.importedPaths options =
      document.localPaths.filter fun href => !Link.isIgnored options href := by
  rw [importedPaths, localPaths, List.filter_filterMap]
  exact List.filterMap_congr fun located _ => importedPath?_eq options located.node

/-- Stricter rules leave out further links. -/
theorem importedPaths_of_ignoresLess (h : first.IgnoresLess second) :
    document.importedPaths second = (document.importedPaths first).filter fun href =>
      !(Link.isIgnored second href && !Link.isIgnored first href) := by
  rw [importedPaths_eq, importedPaths_eq, List.filter_filter]
  refine List.filter_congr fun href _ => ?_
  cases hfirst : Link.isIgnored first href with
  | true => rw [Link.isIgnored_of_ignoresLess h hfirst]; rfl
  | false => simp

theorem importedPaths_of_ignoresSame (h : first.IgnoresSame second) :
    document.importedPaths first = document.importedPaths second := by
  rw [importedPaths_eq, importedPaths_eq]
  exact List.filter_congr fun href _ => by rw [Link.isIgnored_of_ignoresSame h]

theorem linkSpecifiers_sublist (h : first.IgnoresLess second)
    (hkept : first.keptFragments = second.keptFragments) :
    (document.linkSpecifiers second).Sublist (document.linkSpecifiers first) := by
  rw [linkSpecifiers, linkSpecifiers, funext (Link.specifier_of_keptFragments_eq hkept),
    importedPaths_of_ignoresLess document h]
  exact List.filter_sublist.map _

end Document

namespace Generator

variable {g : Generator} {document : Document} {p : Partition}

theorem linkStatements_eq :
    g.linkStatements (Partition.ofDocument document).links =
      (document.linkSpecifiers g.options).map .importFrom := by
  rw [Partition.ofDocument_eq, Document.linkSpecifiers, Document.importedPaths, ← linkHrefs_eq,
    List.map_map]
  rfl

/-- The statements behind the imports of links. -/
def restStatements (g : Generator) (p : Partition) : Except Failure (List Statement) := do
  let registered ← g.registrationStatements p .register p.templateModules
  let added ← g.registrationStatements p .toBody p.otherNodes
  .ok (g.helperStatements p ++ registered ++ added ++ p.scripts.map scriptStatement)

theorem statements_eq : g.statements p = (g.restStatements p).map (g.linkStatements p.links ++ ·) := by
  rw [statements, restStatements]
  cases g.registrationStatements p .register p.templateModules with
  | error failure => rfl
  | ok registered =>
      cases g.registrationStatements p .toBody p.otherNodes with
      | error failure => rfl
      | ok added =>
          apply congrArg Except.ok
          simp only [List.append_assoc]

variable {g' : Generator}

theorem registrationStatements_congr (h : g.writer p = g'.writer p) (registration : Registration)
    (nodes : List Located) :
    g.registrationStatements p registration nodes = g'.registrationStatements p registration nodes := by
  induction nodes with
  | nil => rfl
  | cons node rest ih => rw [registrationStatements, registrationStatements, h, ih]

/-- Of its options only the helper shows in what stands behind the imports of links. -/
theorem restStatements_congr (h : g.writer p = g'.writer p)
    (hhelper : g.options.registerHelper = g'.options.registerHelper) :
    g.restStatements p = g'.restStatements p := by
  rw [restStatements, restStatements, registrationStatements_congr h, registrationStatements_congr h,
    helperStatements, helperStatements, hhelper]

end Generator

namespace Document

/-- The module that imports the links of a document and goes on with given statements. -/
def moduleText (document : Document) (options : Options) (rest : List Statement) : ModuleText :=
  ModuleText.ofStatements ((document.linkSpecifiers options).map .importFrom ++ rest)

/-- What stands behind the imports of links, and counts there, is independent of the imports. -/
theorem moduleText_eq (document : Document) (options : Options) (rest : List Statement) :
    document.moduleText options rest =
      { source := document.linkPart options ++ (ModuleText.ofStatements rest).source
        sourceMap := ""
        lineCount := 2 * (document.linkSpecifiers options).length + (ModuleText.ofStatements rest).lineCount
        importCount :=
          (document.linkSpecifiers options).length + (ModuleText.ofStatements rest).importCount } := by
  have hsource : (document.moduleText options rest).source =
      document.linkPart options ++ (ModuleText.ofStatements rest).source := by
    rw [moduleText, ModuleText.ofStatements, List.map_append, String.join_append, List.map_map,
      linkSpecifiers, List.map_map]
    rfl
  have hlines : (document.moduleText options rest).lineCount =
      2 * (document.linkSpecifiers options).length + (ModuleText.ofStatements rest).lineCount := by
    rw [moduleText, ModuleText.lineCount_ofStatements, ModuleText.lineCount_ofStatements, List.map_append,
      List.sum_append, List.map_map]
    simp [Function.comp_def, Statement.lineCount, Nat.mul_comm]
  have himports : (document.moduleText options rest).importCount =
      (document.linkSpecifiers options).length + (ModuleText.ofStatements rest).importCount := by
    rw [moduleText, ModuleText.importCount_ofStatements, ModuleText.importCount_ofStatements,
      List.map_append, List.sum_append, List.map_map]
    simp [Function.comp_def, Statement.importCount]
  rw [← hsource, ← hlines, ← himports]
  rfl

end Document

namespace Loader

/-- The loader with other options. -/
def withOptions (loader : Loader) (options : Options) : Loader :=
  { loader with options }

theorem transform_eq (loader : Loader) (document : Document) (resource : String) :
    loader.transform document resource =
      ((loader.generator.restStatements (Partition.ofDocument document)).map
        (document.moduleText loader.options)).mapError (·.withResource resource) := by
  rw [transform, Generator.generate, Generator.statements_eq, Generator.linkStatements_eq]
  cases loader.generator.restStatements (Partition.ofDocument document) <;> rfl

end Loader

/-- What it means that two sets of rules for links change nothing but the imports of links. -/
structure Loader.ActOnLinksOnly (loader : Loader) (document : Document) (first second : Options) : Prop where
  /-- Both transformations fail, and with the same failure, or both give a module, and the modules have the
  same statements behind the imports of links. -/
  same : ∀ resource,
    (∃ failure, (loader.withOptions first).transform document resource = .error failure ∧
      (loader.withOptions second).transform document resource = .error failure) ∨
    ∃ rest : List Statement,
      (loader.withOptions first).transform document resource = .ok (document.moduleText first rest) ∧
      (loader.withOptions second).transform document resource = .ok (document.moduleText second rest)
  /-- The text of a module is that of the imports and that of these statements, and it counts for both. -/
  moduleText_eq : ∀ options rest, document.moduleText options rest =
    { source := document.linkPart options ++ (ModuleText.ofStatements rest).source
      sourceMap := ""
      lineCount := 2 * (document.linkSpecifiers options).length + (ModuleText.ofStatements rest).lineCount
      importCount :=
        (document.linkSpecifiers options).length + (ModuleText.ofStatements rest).importCount }
  /-- Stricter rules leave out the links that they ignore in addition, and no others. -/
  ignoresLess : first.IgnoresLess second → first.keptFragments = second.keptFragments →
    (document.linkSpecifiers second).Sublist (document.linkSpecifiers first) ∧
    document.linkSpecifiers second = ((document.importedPaths first).filter fun href =>
      !(Link.isIgnored second href && !Link.isIgnored first href)).map (Link.specifier first)
  /-- The paths that are kept decide about a dot and a slash before a letter. -/
  ignoresSame : first.IgnoresSame second →
    List.Forall₂ Link.SameUpToDotSlash (document.linkSpecifiers first) (document.linkSpecifiers second)

/-- The rules for links act on the imports of links only. -/
theorem Loader.actOnLinksOnly (loader : Loader) (document : Document) {first second : Options}
    (h : first.registerHelper = second.registerHelper) : loader.ActOnLinksOnly document first second where
  same := by
    intro resource
    have hrest : (loader.withOptions first).generator.restStatements (Partition.ofDocument document) =
        (loader.withOptions second).generator.restStatements (Partition.ofDocument document) :=
      Generator.restStatements_congr rfl h
    rw [transform_eq, transform_eq, hrest]
    cases (loader.withOptions second).generator.restStatements (Partition.ofDocument document) with
    | error failure => exact Or.inl ⟨_, rfl, rfl⟩
    | ok rest => exact Or.inr ⟨rest, rfl, rfl⟩
  moduleText_eq := document.moduleText_eq
  ignoresLess := by
    intro hless hkept
    refine ⟨document.linkSpecifiers_sublist hless hkept, ?_⟩
    rw [Document.linkSpecifiers, document.importedPaths_of_ignoresLess hless,
      funext (Link.specifier_of_keptFragments_eq hkept)]
  ignoresSame := by
    intro hsame
    rw [Document.linkSpecifiers, Document.linkSpecifiers, document.importedPaths_of_ignoresSame hsame,
      List.forall₂_map_left_iff, List.forall₂_map_right_iff, List.forall₂_same]
    exact fun href _ => Link.sameUpToDotSlash_specifier first second href

/-- Two links and a paragraph. -/
def linksAndParagraph : Document :=
  { nodes := [
      .element ⟨.html, "link"⟩ [⟨.plain, "href", "lib/a.html"⟩] [],
      .element ⟨.html, "p"⟩ [] [.text "x"],
      .element ⟨.html, "link"⟩ [⟨.plain, "href", "b.html"⟩] []]
    roots := {} }

theorem Loader.actOnLinksOnly_linksAndParagraph :
    Loader.keepingStyles.ActOnLinksOnly linksAndParagraph {} { ignoredLinks := ["b.html"] } ∧
    linksAndParagraph.linkSpecifiers {} = ["./lib/a.html", "./b.html"] ∧
    linksAndParagraph.linkSpecifiers { ignoredLinks := ["b.html"] } = ["./lib/a.html"] ∧
    (linksAndParagraph.linkSpecifiers { ignoredLinks := ["b.html"] }).Sublist
      (linksAndParagraph.linkSpecifiers {}) ∧
    linksAndParagraph.linkSpecifiers { keptFragments := ["lib"] } = ["lib/a.html", "./b.html"] ∧
    List.Forall₂ Link.SameUpToDotSlash (linksAndParagraph.linkSpecifiers {})
      (linksAndParagraph.linkSpecifiers { keptFragments := ["lib"] }) := by
  have hstrict := Loader.keepingStyles.actOnLinksOnly linksAndParagraph
    (show ({} : Options).registerHelper = ({ ignoredLinks := ["b.html"] } : Options).registerHelper from rfl)
  have hkept := Loader.keepingStyles.actOnLinksOnly linksAndParagraph
    (show ({} : Options).registerHelper = ({ keptFragments := ["lib"] } : Options).registerHelper from rfl)
  exact ⟨hstrict, by decide +kernel, by decide +kernel,
    (hstrict.ignoresLess ⟨List.nil_subset _, List.nil_subset _⟩ rfl).1, by decide +kernel,
    hkept.ignoresSame ⟨rfl, rfl⟩⟩

end MarkupModule
