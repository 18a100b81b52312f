import MarkupModule.Link.Rules
import Mathlib.Data.List.Basic

/-! Import specifiers are local. What is prefixed to a path makes it begin with a dot, which begins neither
a host nor a scheme, so a specifier names its own host or scheme only if the path that it is made of does. -/

namespace MarkupModule.Link

theorem not_isLineBreakOrTab_of_not_isControlOrSpace {c : Char} (h : isControlOrSpace c = false) :
    isLineBreakOrTab c = false := by
  rw [isLineBreakOrTab, ← Bool.not_eq_true, Bool.or_eq_true, Bool.or_eq_true]
  rintro ((hc | hc) | hc) <;>
  · obtain rfl := beq_iff_eq.mp hc
    exact absurd h (by decide)

/-- An address that begins with a character of its own keeps it. -/
theorem exists_significant_cons {c : Char} (h : isControlOrSpace c = false) (path : List Char) :
    ∃ rest, significant (c :: path) = c :: rest := by
  have hc : ¬isControlOrSpace c = true := by simp [h]
  have hends : (path.reverse ++ [c]).dropWhile isControlOrSpace =
      path.reverse.dropWhile isControlOrSpace ++ [c] := by
    rw [List.dropWhile_append, List.dropWhile_cons_of_neg hc]
    cases path.reverse.dropWhile isControlOrSpace <;> rfl
  refine ⟨(path.reverse.dropWhile isControlOrSpace).reverse.filter fun c => !isLineBreakOrTab c, ?_⟩
  rw [significant, List.dropWhile_cons_of_neg hc, List.reverse_cons, hends, List.reverse_append,
    List.reverse_singleton, List.singleton_append,
    List.filter_cons_of_pos (by simp [not_isLineBreakOrTab_of_not_isControlOrSpace h])]

/-- A path that is prefixed is local, whatever it is. -/
theorem isExternal_dotSlash (path : String) : isExternal ("./" ++ path) = false := by
  have hpath : ("./" ++ path).toList = '.' :: '/' :: path.toList := by simp
  obtain ⟨rest, hrest⟩ := exists_significant_cons (c := '.') (by decide) ('/' :: path.toList)
  rw [isExternal, hpath]
  change hasScheme (significant ('.' :: '/' :: path.toList)) = false
  rw [hrest]
  rfl

theorem isExternal_relativeSpecifier {path : String} (h : isExternal path = false) :
    isExternal (relativeSpecifier path) = false := by
  rw [relativeSpecifier]
  split
  · split
    · exact isExternal_dotSlash path
    · exact h
  · exact h

/-- The specifier of a local link is local, also when its path is kept as it is written. -/
theorem isExternal_specifier (options : Options) {href : String} (h : isExternal href = false) :
    isExternal (specifier options href) = false := by
  rw [specifier]
  split
  · exact h
  · exact isExternal_relativeSpecifier h

end MarkupModule.Link
