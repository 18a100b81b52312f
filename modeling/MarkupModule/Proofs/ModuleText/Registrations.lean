import MarkupModule.Proofs.Markup.Escape
import MarkupModule.Proofs.ModuleText.Counts

/-! Reading registrations back. A reader that takes one call after the other, each with one string literal,
takes the text of all registrations and finds the markup that was written, whatever characters it holds:
a literal ends at its closing quote only, and no control character is written as it is. -/

namespace MarkupModule

open Markup
open Text (dropPrefix?)

namespace Registration

/-- The text of a call in front of its literal. -/
def callStart (registration : Registration) : List Char :=
  ("\nRegisterHtmlTemplate." ++ registration.method ++ "(").toList

def callEnd : List Char :=
  ");\n".toList

/-- A call at the beginning of a text: the markup in its literal, and what follows the call. -/
def readCall? (registration : Registration) (s : List Char) : Option (String × List Char) :=
  (dropPrefix? (registration.callStart ++ ['"']) s).bind fun inside =>
    match Json.literal ⟨inside, 1, 0⟩ with
    | .ok (markup, next) => (dropPrefix? callEnd next.rest).map fun rest => (markup, rest)
    | .error _ => none

theorem length_readCall?_lt {registration : Registration} {s rest : List Char} {markup : String}
    (h : registration.readCall? s = some (markup, rest)) : rest.length < s.length := by
  rw [readCall?, Option.bind_eq_some_iff] at h
  obtain ⟨inside, hinside, h⟩ := h
  have hstart := Text.length_dropPrefix?_le hinside
  rw [List.length_append, List.length_singleton] at hstart
  split at h
  · rename_i text next hread
    obtain ⟨behind, hbehind, heq⟩ := Option.map_eq_some_iff.mp h
    obtain ⟨-, rfl⟩ := Prod.mk.inj heq
    have hliteral : next.rest.length ≤ inside.length := Json.length_rest_literal_le hread
    have hend := Text.length_dropPrefix?_le hbehind
    omega
  · cases h

/-- The markup in each of the calls that a text consists of, if it consists of calls. -/
def readCalls? (registration : Registration) (s : List Char) : Option (List String) :=
  if s.isEmpty then some []
  else
    match _found : registration.readCall? s with
    | some (markup, rest) => (registration.readCalls? rest).map (markup :: ·)
    | none => none
termination_by s.length
decreasing_by exact length_readCall?_lt _found

theorem toList_callText (registration : Registration) (markup : String) :
    (Document.callText registration.method markup).toList =
      (registration.callStart ++ ['"']) ++ (markup.toList.flatMap Json.quoteChar ++ (['"'] ++ callEnd)) := by
  have hquote : Json.quote markup.toList = ['"'] ++ (markup.toList.flatMap Json.quoteChar ++ ['"']) := by
    rw [Json.quote, List.singleton_append, List.cons_append]
  unfold Document.callText
  rw [String.toList_append, String.toList_append, String.toList_ofList, hquote, callStart, callEnd]
  simp only [List.append_assoc]

/-- A written call is read back, whatever follows it. -/
theorem readCall?_callText (registration : Registration) (markup : String) (rest : List Char) :
    registration.readCall? ((Document.callText registration.method markup).toList ++ rest) =
      some (markup, rest) := by
  obtain ⟨next, hnext, hread⟩ := Json.literal_quote markup.toList (callEnd ++ rest) 1 0
  rw [readCall?, toList_callText, List.append_assoc, dropPrefix?_append, Option.bind_some,
    List.append_assoc, List.append_assoc, List.singleton_append, hread]
  simp only [hnext, dropPrefix?_append, Option.map_some, String.ofList_toList]

theorem callText_ne_nil (registration : Registration) (markup : String) (rest : List Char) :
    ((Document.callText registration.method markup).toList ++ rest).isEmpty = false := by
  rw [toList_callText, callStart]
  cases registration <;> rfl

theorem readCalls?_callPart (registration : Registration) (markups : List String) :
    registration.readCalls? (Document.callPart registration.method markups).toList = some markups := by
  induction markups with
  | nil =>
      rw [Document.callPart, List.map_nil, readCalls?]
      rfl
  | cons markup rest ih =>
      rw [Document.callPart, List.map_cons, String.join_cons, String.toList_append, readCalls?,
        callText_ne_nil, if_neg Bool.false_ne_true]
      split
      · rename_i found behind hfound
        rw [readCall?_callText, Option.some.injEq] at hfound
        obtain ⟨rfl, rfl⟩ := Prod.mk.inj hfound
        rw [← Document.callPart, ih, Option.map_some]
      · rename_i hfound
        rw [readCall?_callText] at hfound
        cases hfound

end Registration

namespace Generator

variable {g : Generator} {p : Partition}

/-- The text of the registrations of nodes. A reader of calls takes all of it and finds the markup of each
node in order. The literals hold no control characters, so that each call has two line feeds, and two
lines are counted for it. -/
theorem registrations_readBack {registration : Registration} {nodes : List Located}
    {statements : List Statement}
    (h : g.registrationStatements p registration nodes = .ok statements) :
    ∃ markups, Written (g.writer p) nodes markups ∧
      (ModuleText.ofStatements statements).source = Document.callPart registration.method markups ∧
      registration.readCalls? (ModuleText.ofStatements statements).source.toList = some markups ∧
      (∀ markup ∈ markups, ∀ c ∈ Json.quote markup.toList, 0x20 ≤ c.toNat) ∧
      lineFeeds (ModuleText.ofStatements statements).source = 2 * nodes.length ∧
      (ModuleText.ofStatements statements).lineCount = 2 * nodes.length := by
  obtain ⟨markups, hwritten, rfl⟩ := registrationStatements_eq_ok_iff.mp h
  have hsource : (ModuleText.ofStatements (markups.map (.registerMarkup registration))).source =
      Document.callPart registration.method markups := callPart_eq registration markups
  have hlines : (ModuleText.ofStatements (markups.map (.registerMarkup registration))).lineCount =
      2 * nodes.length := by
    rw [ModuleText.lineCount_ofStatements, hwritten.length_eq, List.map_map, Nat.mul_comm]
    exact sum_map_of_forall (fun _ => rfl) markups
  have huncounted : ((markups.map (Statement.registerMarkup registration)).map
      Statement.uncounted).sum = 0 := by
    rw [List.map_map]
    exact (sum_map_of_forall (fun _ => rfl) markups).trans (Nat.mul_zero _)
  refine ⟨markups, hwritten, hsource, ?_, ?_, ?_, hlines⟩
  · rw [hsource]
    exact registration.readCalls?_callPart markups
  · intro markup _ c hc
    exact Json.not_control_of_mem_quote hc
  · rw [ModuleText.lineFeeds_ofStatements, hlines, huncounted, Nat.add_zero]

/-- Two nodes whose markup has quotes, a line feed, and text that looks like the end of a call. -/
def trickyNodes : List Located := [
  ⟨[0], .element ⟨.html, "p"⟩ [⟨.plain, "title", "\\"⟩] [.text "\");\n"]⟩,
  ⟨[1], .element ⟨.html, "br"⟩ [] []⟩]

theorem registrations_readBack_trickyNodes :
    (Loader.keepingStyles.generator.registrationStatements {} .toBody trickyNodes =
      .ok [.registerMarkup .toBody "<p title=\"\\\">\"); </p>", .registerMarkup .toBody "<br>"]) ∧
    ∃ markups, Written (Loader.keepingStyles.generator.writer {}) trickyNodes markups ∧
      (ModuleText.ofStatements [.registerMarkup .toBody "<p title=\"\\\">\"); </p>",
        .registerMarkup .toBody "<br>"]).source =
          Document.callPart (Registration.method .toBody) markups ∧
      Registration.toBody.readCalls? (ModuleText.ofStatements
        [.registerMarkup .toBody "<p title=\"\\\">\"); </p>",
          .registerMarkup .toBody "<br>"]).source.toList = some markups ∧
      (∀ markup ∈ markups, ∀ c ∈ Json.quote markup.toList, 0x20 ≤ c.toNat) ∧
      lineFeeds (ModuleText.ofStatements [.registerMarkup .toBody "<p title=\"\\\">\"); </p>",
        .registerMarkup .toBody "<br>"]).source = 2 * trickyNodes.length ∧
      (ModuleText.ofStatements [.registerMarkup .toBody "<p title=\"\\\">\"); </p>",
        .registerMarkup .toBody "<br>"]).lineCount = 2 * trickyNodes.length := by
  have h : Loader.keepingStyles.generator.registrationStatements {} .toBody trickyNodes =
      .ok [.registerMarkup .toBody "<p title=\"\\\">\"); </p>", .registerMarkup .toBody "<br>"] := by
    decide +kernel
  exact ⟨h, registrations_readBack h⟩

end Generator

end MarkupModule
