import MarkupModule.Markup.Reference
import MarkupModule.Markup.Writer
import Mathlib.Data.List.Basic

/-! A text or a value that is escaped reads back as it was: each of the references that stand for an escaped
character is the longest one that the text begins with, whatever follows it, and every other character
stands for itself. -/

namespace MarkupModule

/-- A text without the characters that reading replaces. -/
def IsClean (s : String) : Prop :=
  '\r' ∉ s.toList ∧ '\x00' ∉ s.toList

instance (s : String) : Decidable (IsClean s) :=
  inferInstanceAs (Decidable (_ ∧ _))

namespace Markup

open MarkupModule.Text

/-- Whether two texts differ at a position that both have. -/
def diverges : List Char → List Char → Bool
  | c :: cs, d :: ds => c != d || diverges cs ds
  | _, _ => false

theorem dropPrefix?_append (pattern rest : List Char) :
    dropPrefix? pattern (pattern ++ rest) = some rest := by
  induction pattern with
  | nil => rw [List.nil_append, dropPrefix?]
  | cons c cs ih => rw [List.cons_append, dropPrefix?, if_pos rfl, ih]

theorem dropPrefix?_of_diverges {pattern text : List Char} (h : diverges pattern text = true)
    (rest : List Char) : dropPrefix? pattern (text ++ rest) = none := by
  induction pattern generalizing text with
  | nil => cases h
  | cons c cs ih =>
      cases text with
      | nil => cases h
      | cons d ds =>
          rw [List.cons_append, dropPrefix?]
          by_cases heq : c = d
          · rw [if_pos heq]
            apply ih
            simpa [diverges, heq] using h
          · rw [if_neg heq]

namespace Reference

theorem findSome?_of_all_none {α β : Type} {f : α → Option β} {p : α → Bool} {l : List α}
    {a : α} (hhead : (l.dropWhile p).head? = some a) (hnone : ∀ x, p x = true → f x = none) :
    l.findSome? f = (f a).or ((l.dropWhile p).tail.findSome? f) := by
  induction l with
  | nil => cases hhead
  | cons x xs ih =>
      by_cases hx : p x = true
      · rw [List.dropWhile_cons_of_pos hx] at hhead ⊢
        rw [List.findSome?_cons, hnone x hx]
        exact ih hhead
      · rw [List.dropWhile_cons_of_neg hx] at hhead ⊢
        obtain rfl := Option.some.inj hhead
        rw [List.findSome?_cons, List.tail_cons]
        cases f x <;> rfl

/-- Whether a name is the first in the list that a text that begins with it may begin with. -/
def isFirst (entry : String × List Nat) : Bool :=
  ((namesFor entry.1.toList).dropWhile fun e => diverges e.1.toList entry.1.toList).head? == some entry

/-- What follows a name has no part in which names may be meant. -/
theorem namesFor_append {name : List Char} (h : namesFor name ≠ []) (rest : List Char) :
    namesFor (name ++ rest) = namesFor name := by
  cases name with
  | nil => exact absurd rfl h
  | cons c cs => rfl

/-- A name is found in front of any text if no longer name, and none before it, agrees with it. -/
theorem longestName?_append {entry : String × List Nat} (h : isFirst entry = true) (rest : List Char) :
    longestName? (entry.1.toList ++ rest) = some (entry, rest) := by
  have hnames : namesFor entry.1.toList ≠ [] := by
    intro hnil
    rw [isFirst, hnil] at h
    cases h
  rw [longestName?, namesFor_append hnames, findSome?_of_all_none (beq_iff_eq.mp h), dropPrefix?_append]
  · rfl
  · intro e he
    rw [dropPrefix?_of_diverges he]
    rfl

variable {inAttribute : Bool}

/-- What a reference by name denotes, whatever follows its semicolon. -/
theorem reference?_append {entry : String × List Nat} {c : Char} {cs : List Char}
    (h : isFirst entry = true) (hends : entry.1.endsWith ";" = true)
    (hname : entry.1.toList = c :: cs) (hc : c ≠ '#') (rest : List Char) :
    reference? inAttribute (entry.1.toList ++ rest) = some (entry.2.map Char.ofNat, rest) := by
  have hfound := longestName?_append h rest
  rw [hname, List.cons_append] at hfound ⊢
  rw [reference?, named?, hfound]
  · simp [hends]
  · intro inner heq
    exact hc (List.cons.inj heq).1

/-- The references that stand for escaped characters. -/
def escapeNames : List (String × List Nat) := [
  ("amp;", [0x26]), ("nbsp;", [0xa0]), ("quot;", [0x22]), ("lt;", [0x3c]), ("gt;", [0x3e])]

theorem isFirst_of_mem_escapeNames :
    ∀ entry ∈ escapeNames, isFirst entry = true ∧ entry.1.endsWith ";" = true := by
  decide +kernel

theorem resolve_cons_of_reference? {cs denoted rest : List Char}
    (h : reference? inAttribute cs = some (denoted, rest)) :
    resolve inAttribute ('&' :: cs) = denoted ++ resolve inAttribute rest := by
  rw [resolve, if_pos rfl]
  split
  · rename_i found heq
    rw [h] at heq
    obtain ⟨rfl, rfl⟩ := Prod.mk.inj (Option.some.inj heq)
    rfl
  · rename_i heq
    rw [h] at heq
    cases heq

theorem resolve_cons_of_ne {c : Char} (h : c ≠ '&') (cs : List Char) :
    resolve inAttribute (c :: cs) = c :: resolve inAttribute cs := by
  rw [resolve, if_neg h]

theorem resolve_append (entry : String × List Nat) {c : Char} {cs : List Char}
    (h : entry ∈ escapeNames) (hname : entry.1.toList = c :: cs) (hc : c ≠ '#') (rest : List Char) :
    resolve inAttribute ('&' :: (entry.1.toList ++ rest)) =
      entry.2.map Char.ofNat ++ resolve inAttribute rest := by
  obtain ⟨hfirst, hends⟩ := isFirst_of_mem_escapeNames entry h
  exact resolve_cons_of_reference? (reference?_append hfirst hends hname hc rest)

theorem resolve_escapeAttributeChar (c : Char) (rest : List Char) :
    resolve inAttribute (escapeAttributeChar c ++ rest) = c :: resolve inAttribute rest := by
  rw [escapeAttributeChar]
  split_ifs with hand hspace hquote
  · subst hand
    exact resolve_append ("amp;", [0x26]) (by simp [escapeNames]) rfl (by decide) rest
  · subst hspace
    exact resolve_append ("nbsp;", [0xa0]) (by simp [escapeNames]) rfl (by decide) rest
  · subst hquote
    exact resolve_append ("quot;", [0x22]) (by simp [escapeNames]) rfl (by decide) rest
  · exact resolve_cons_of_ne hand rest

theorem resolve_escapeTextChar (c : Char) (rest : List Char) :
    resolve inAttribute (escapeTextChar c ++ rest) = c :: resolve inAttribute rest := by
  rw [escapeTextChar]
  split_ifs with hand hspace hless hgreater
  · subst hand
    exact resolve_append ("amp;", [0x26]) (by simp [escapeNames]) rfl (by decide) rest
  · subst hspace
    exact resolve_append ("nbsp;", [0xa0]) (by simp [escapeNames]) rfl (by decide) rest
  · subst hless
    exact resolve_append ("lt;", [0x3c]) (by simp [escapeNames]) rfl (by decide) rest
  · subst hgreater
    exact resolve_append ("gt;", [0x3e]) (by simp [escapeNames]) rfl (by decide) rest
  · exact resolve_cons_of_ne hand rest

theorem resolve_flatMap {escapeChar : Char → List Char}
    (h : ∀ c rest, resolve inAttribute (escapeChar c ++ rest) = c :: resolve inAttribute rest)
    (s : List Char) : resolve inAttribute (s.flatMap escapeChar) = s := by
  induction s with
  | nil => rw [List.flatMap_nil, resolve]
  | cons c cs ih => rw [List.flatMap_cons, h, ih]

/-- An escaped value reads back as it was. -/
theorem resolve_escapeAttribute (s : List Char) : resolve inAttribute (escapeAttribute s) = s :=
  resolve_flatMap resolve_escapeAttributeChar s

/-- An escaped text reads back as it was. -/
theorem resolve_escapeText (s : List Char) : resolve inAttribute (escapeText s) = s :=
  resolve_flatMap resolve_escapeTextChar s

end Reference

/-! ### What escaped text holds -/

/-- The characters of the references that stand for escaped characters. -/
def escapeChars : List Char :=
  "&amp;nbsp;quot;lt;gt;".toList

/-- Whether a text holds neither a double quote nor a `<` and only characters of those references. -/
def isEscaped (s : List Char) : Bool :=
  s.all fun c => c != '"' && c != '<' && escapeChars.contains c

theorem of_isEscaped {s : List Char} (h : isEscaped s = true) {d : Char} (hd : d ∈ s) :
    (d ≠ '"' ∧ d ≠ '<') ∧ d ∈ escapeChars := by
  have hall := List.all_eq_true.mp h d hd
  rwa [Bool.and_eq_true, Bool.and_eq_true, bne_iff_ne, bne_iff_ne, List.contains_iff_mem] at hall

theorem mem_escapeAttribute {d : Char} {s : List Char} (h : d ∈ escapeAttribute s) :
    d ≠ '"' ∧ (d ∈ s ∨ d ∈ escapeChars) := by
  obtain ⟨c, hc, hd⟩ := List.mem_flatMap.mp h
  have hreference : ∀ {t : List Char}, isEscaped t = true → d ∈ t → d ≠ '"' ∧ (d ∈ s ∨ d ∈ escapeChars) :=
    fun ht hdt => ⟨(of_isEscaped ht hdt).1.1, Or.inr (of_isEscaped ht hdt).2⟩
  rw [escapeAttributeChar] at hd
  split_ifs at hd with _ _ hplain
  · exact hreference (by decide) hd
  · exact hreference (by decide) hd
  · exact hreference (by decide) hd
  · obtain rfl := List.mem_singleton.mp hd
    exact ⟨hplain, Or.inl hc⟩

theorem mem_escapeText {d : Char} {s : List Char} (h : d ∈ escapeText s) :
    d ≠ '<' ∧ (d ∈ s ∨ d ∈ escapeChars) := by
  obtain ⟨c, hc, hd⟩ := List.mem_flatMap.mp h
  have hreference : ∀ {t : List Char}, isEscaped t = true → d ∈ t → d ≠ '<' ∧ (d ∈ s ∨ d ∈ escapeChars) :=
    fun ht hdt => ⟨(of_isEscaped ht hdt).1.2, Or.inr (of_isEscaped ht hdt).2⟩
  rw [escapeTextChar] at hd
  split_ifs at hd with _ _ hplain
  · exact hreference (by decide) hd
  · exact hreference (by decide) hd
  · exact hreference (by decide) hd
  · exact hreference (by decide) hd
  · obtain rfl := List.mem_singleton.mp hd
    exact ⟨hplain, Or.inl hc⟩

theorem escapeText_ne_nil {s : List Char} (h : s ≠ []) : escapeText s ≠ [] := by
  cases s with
  | nil => exact absurd rfl h
  | cons c cs =>
      rw [escapeText, List.flatMap_cons, escapeTextChar]
      split_ifs <;> exact List.cons_ne_nil _ _

end Markup

end MarkupModule
