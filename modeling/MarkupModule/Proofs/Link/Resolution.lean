import MarkupModule.Proofs.ModuleText.Resources

/-! Paths as a browser takes them. Before it looks at an address it drops controls and spaces at both ends,
and line breaks and tabs everywhere. A scheme is looked for in what is left, but the two slashes in front of
a host are looked for in the path as it is written, so that a path may hide them. These paths are the only
ones that are taken for local although a browser would load them from elsewhere. -/

namespace MarkupModule.Link

/-- A path without what a browser ignores in it. -/
def cleaned (path : String) : String :=
  String.ofList (significant path.toList)

/-- Whether a path begins with a host, behind two slashes. -/
def namesHost (path : String) : Bool :=
  Text.startsWith "//".toList path.toList

/-- Whether a path begins with a host only once it is cleaned. -/
def hidesHost (path : String) : Bool :=
  namesHost (cleaned path) && !namesHost path

/-! ### Cleaning -/

theorem significant_eq (s : List Char) :
    significant s = (((s.dropWhile isControlOrSpace).rdropWhile isControlOrSpace).filter
      fun c => !isLineBreakOrTab c) :=
  rfl

theorem rdropWhile_cons_of_neg {p : Char → Bool} {c : Char} (h : ¬p c = true) (s : List Char) :
    (c :: s).rdropWhile p = c :: s.rdropWhile p := by
  simp only [List.rdropWhile, List.reverse_cons, List.dropWhile_append, List.dropWhile_cons_of_neg h]
  split <;> simp_all

/-- A character that is not ignored stays in front of what is left of the others. -/
theorem significant_cons {c : Char} (h : isControlOrSpace c = false) (s : List Char) :
    significant (c :: s) =
      c :: ((s.rdropWhile isControlOrSpace).filter fun c => !isLineBreakOrTab c) := by
  have hc : ¬isControlOrSpace c = true := by simp [h]
  rw [significant_eq, List.dropWhile_cons_of_neg hc, rdropWhile_cons_of_neg hc,
    List.filter_cons_of_pos (by simp [not_isLineBreakOrTab_of_not_isControlOrSpace h])]

theorem rdropWhile_filter_rdropWhile (s : List Char) :
    ((s.rdropWhile isControlOrSpace).filter fun c => !isLineBreakOrTab c).rdropWhile isControlOrSpace =
      (s.rdropWhile isControlOrSpace).filter fun c => !isLineBreakOrTab c := by
  induction s using List.reverseRecOn with
  | nil => rfl
  | append_singleton s c ih =>
      by_cases hc : isControlOrSpace c = true
      · rwa [List.rdropWhile_concat_pos _ _ _ hc]
      · have hkept := not_isLineBreakOrTab_of_not_isControlOrSpace (Bool.eq_false_iff.mpr hc)
        rw [List.rdropWhile_concat_neg _ _ _ hc, List.filter_append,
          List.filter_singleton, hkept]
        exact List.rdropWhile_concat_neg _ _ _ hc

/-- A path that is clean stays as it is. -/
theorem significant_significant (s : List Char) : significant (significant s) = significant s := by
  have hdrop : significant s = significant (s.dropWhile isControlOrSpace) := by
    rw [significant_eq, significant_eq, List.dropWhile_idempotent]
  cases hs : s.dropWhile isControlOrSpace with
  | nil =>
      rw [hdrop, hs]
      rfl
  | cons c rest =>
      have hc : isControlOrSpace c = false := by
        have := List.head?_dropWhile_not isControlOrSpace s
        simpa [hs] using this
      rw [hdrop, hs, significant_cons hc, significant_cons hc, rdropWhile_filter_rdropWhile,
        List.filter_filter]
      simp

/-! ### Hosts and schemes -/

theorem namesHost_iff {path : String} : namesHost path = true ↔ ∃ rest, path.toList = '/' :: '/' :: rest := by
  rw [namesHost]
  rcases path.toList with _ | ⟨c, _ | ⟨d, rest⟩⟩
  · simp [Text.startsWith, Text.dropPrefix?]
  · by_cases hc : '/' = c <;> simp [Text.startsWith, Text.dropPrefix?, hc]
  · by_cases hc : '/' = c <;> by_cases hd : '/' = d <;>
      simp_all [Text.startsWith, Text.dropPrefix?, eq_comm]

/-- A path is external when it begins with a host, or with a scheme once it is cleaned. -/
theorem isExternal_eq (path : String) :
    isExternal path = (namesHost path || hasScheme (significant path.toList)) := by
  rw [isExternal]
  split
  · rename_i rest hpath
    rw [namesHost_iff.mpr ⟨rest, hpath⟩, Bool.true_or]
  · rename_i hpath
    have hhost : namesHost path = false := by
      rw [← Bool.not_eq_true, namesHost_iff]
      rintro ⟨rest, h⟩
      exact hpath rest h
    rw [hhost, Bool.false_or]

theorem namesHost_cleaned {path : String} (h : namesHost path = true) : namesHost (cleaned path) = true := by
  obtain ⟨rest, hpath⟩ := namesHost_iff.mp h
  rw [namesHost_iff, cleaned, String.toList_ofList, hpath, significant_cons (by decide),
    rdropWhile_cons_of_neg (by decide), List.filter_cons_of_pos (by decide)]
  exact ⟨_, rfl⟩

/-- What begins with a slash has no scheme. -/
theorem hasScheme_of_namesHost {path : String} (h : namesHost path = true) :
    hasScheme path.toList = false := by
  obtain ⟨rest, hpath⟩ := namesHost_iff.mp h
  rw [hpath]
  rfl

theorem isExternal_cleaned (path : String) :
    isExternal (cleaned path) = (namesHost (cleaned path) || hasScheme (significant path.toList)) := by
  rw [isExternal_eq, cleaned, String.toList_ofList, significant_significant]

/-- A path that hides its host is taken for a local one. -/
theorem isExternal_of_hidesHost {path : String} (h : hidesHost path = true) : isExternal path = false := by
  rw [hidesHost, Bool.and_eq_true, Bool.not_eq_true'] at h
  have hscheme := hasScheme_of_namesHost h.1
  rw [cleaned, String.toList_ofList] at hscheme
  rw [isExternal_eq, h.2, hscheme, Bool.or_false]

/-- A cleaned path is external when the path is, and when it hides a host. -/
theorem isExternal_cleaned_eq (path : String) :
    isExternal (cleaned path) = (isExternal path || hidesHost path) := by
  rw [isExternal_cleaned, isExternal_eq, hidesHost]
  cases hhost : namesHost path with
  | true => simp [namesHost_cleaned hhost]
  | false => rw [Bool.false_or, Bool.not_false, Bool.and_true, Bool.or_comm]

end MarkupModule.Link

namespace MarkupModule

open Markup

theorem Role.ofNode?_eq_scriptFile_iff {node : Node} :
    ofNode? node = some .scriptFile ↔ node.tag? = some "script" ∧ node.attributeValue "src" ≠ "" ∧
      Link.isExternal (node.attributeValue "src") = false := by
  rw [ofNode?, Node.attributeValue]
  cases node.tag? with
  | none => simp
  | some name =>
      simp only [Option.map_some, Option.some.injEq, ofElement]
      split_ifs <;> simp_all

namespace Link

/-- A path and its cleaned form are both external or both local unless the path hides its host. So a link or
a script is imported although a browser would load it from elsewhere just when it hides its host, and the
same is true of what a module imports. -/
theorem isExternal_cleaned_iff (path : String) :
    (isExternal path = isExternal (cleaned path) ↔ hidesHost path = false) ∧
    (∀ node : Node, node.attributeValue "href" = path →
      (Role.ofNode? node = some .link ∧ isExternal (cleaned path) = true ↔
        node.tag? = some "link" ∧ hidesHost path = true)) ∧
    (∀ node : Node, node.attributeValue "src" = path →
      (Role.ofNode? node = some .scriptFile ∧ isExternal (cleaned path) = true ↔
        node.tag? = some "script" ∧ hidesHost path = true)) ∧
    ∀ (loader : Loader) (document : Document) (statements : List Statement),
      loader.generator.statements (Partition.ofDocument document) = .ok statements →
      .importFrom path ∈ statements → isExternal (cleaned path) = hidesHost path := by
  refine ⟨?_, ?_, ?_, ?_⟩
  · rw [isExternal_cleaned_eq]
    cases hhides : hidesHost path with
    | true => simp [isExternal_of_hidesHost hhides]
    | false => simp
  · rintro node rfl
    rw [Role.ofNode?_eq_link_iff, isExternal_cleaned_eq]
    constructor
    · rintro ⟨⟨htag, hlocal⟩, hcleaned⟩
      exact ⟨htag, by simpa [hlocal] using hcleaned⟩
    · rintro ⟨htag, hhides⟩
      exact ⟨⟨htag, isExternal_of_hidesHost hhides⟩, by rw [hhides, Bool.or_true]⟩
  · rintro node rfl
    rw [Role.ofNode?_eq_scriptFile_iff, isExternal_cleaned_eq]
    constructor
    · rintro ⟨⟨htag, -, hlocal⟩, hcleaned⟩
      exact ⟨htag, by simpa [hlocal] using hcleaned⟩
    · rintro ⟨htag, hhides⟩
      refine ⟨⟨htag, ?_, isExternal_of_hidesHost hhides⟩, by rw [hhides, Bool.or_true]⟩
      intro hempty
      rw [hempty] at hhides
      exact absurd hhides (by decide +kernel)
  · intro loader document statements hstatements hspecifier
    rw [isExternal_cleaned_eq, Generator.isExternal_of_mem_statements hstatements hspecifier,
      Bool.false_or]

/-- A link behind a space, and a script with a line feed between the slashes. -/
def hiddenHosts : Document :=
  { nodes := [
      .element ⟨.html, "link"⟩ [⟨.plain, "href", " //cdn.example.com/x.html"⟩] [],
      .element ⟨.html, "script"⟩ [⟨.plain, "src", "/\n/cdn.example.com/x.js"⟩] []]
    roots := {} }

theorem isExternal_cleaned_iff_hiddenHosts :
    Loader.keepingStyles.generator.statements (Partition.ofDocument hiddenHosts) =
      .ok [.importFrom " //cdn.example.com/x.html", .importFrom "/\n/cdn.example.com/x.js"] ∧
    isExternal (cleaned " //cdn.example.com/x.html") = hidesHost " //cdn.example.com/x.html" ∧
    isExternal (cleaned "/\n/cdn.example.com/x.js") = hidesHost "/\n/cdn.example.com/x.js" := by
  have hstatements : Loader.keepingStyles.generator.statements (Partition.ofDocument hiddenHosts) =
      .ok [.importFrom " //cdn.example.com/x.html", .importFrom "/\n/cdn.example.com/x.js"] := by
    decide +kernel
  have hlink := (isExternal_cleaned_iff " //cdn.example.com/x.html").2.2.2 _ _ _ hstatements (by simp)
  have hscript := (isExternal_cleaned_iff "/\n/cdn.example.com/x.js").2.2.2 _ _ _ hstatements (by simp)
  exact ⟨hstatements, hlink, hscript⟩

/-- A space in front of the slashes is enough. -/
theorem isExternal_ne_cleaned :
    isExternal " //cdn.example.com/x.html" ≠ isExternal (cleaned " //cdn.example.com/x.html") := by
  decide +kernel

end Link

end MarkupModule
