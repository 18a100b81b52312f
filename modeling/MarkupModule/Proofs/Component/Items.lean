import MarkupModule.ModuleText
import MarkupModule.Proofs.Markup.ScriptText

/-! Component files made of links, scripts and template modules that hold scripts. Each item has the text
that it is written with and says what it becomes in the module; so the module for a list of items is
given here without any reading of text. -/

namespace MarkupModule

open Markup

/-- A script: a file that it names, or its own text. -/
inductive ScriptItem where
  | file (src : String)
  | inline (body : String)
  deriving DecidableEq, Repr

/-- A part of a component file. -/
inductive Item where
  | link (href : String)
  | script (script : ScriptItem)
  | templateModule (scripts : List ScriptItem)
  deriving DecidableEq, Repr

def escaped (s : String) : String :=
  String.ofList (escapeAttribute s.toList)

namespace ScriptItem

/-- The text of a script in the component. -/
def render : ScriptItem → String
  | file src => "<script src=\"" ++ escaped src ++ "\"></script>"
  | inline body => "<script>" ++ body ++ "</script>"

/-- A script that can be written: a file has a name, and a text neither opens a comment nor has the end
tag of a script in it, in any case. -/
def IsValid : ScriptItem → Prop
  | file src => src ≠ "" ∧ IsClean src
  | inline body => IsClean body ∧ Text.contains "<!--".toList body.toList = false ∧
      Text.contains "</script".toList (Text.lower body.toList) = false

instance (s : ScriptItem) : Decidable s.IsValid :=
  match s with
  | file src => inferInstanceAs (Decidable (src ≠ "" ∧ IsClean src))
  | inline body => inferInstanceAs (Decidable (IsClean body ∧
      Text.contains "<!--".toList body.toList = false ∧
      Text.contains "</script".toList (Text.lower body.toList) = false))

/-- Whether a script names a file of another host or scheme. -/
def isExternal : ScriptItem → Bool
  | file src => Link.isExternal src
  | inline _ => false

/-- The statement of a script in the module, if it is not external. -/
def statement? : ScriptItem → Option Statement
  | file src =>
    if Link.isExternal src then none else some (.importFrom (Link.relativeSpecifier src))
  | inline body => some (.script body)

end ScriptItem

namespace Item

def render : Item → String
  | link href => "<link href=\"" ++ escaped href ++ "\">"
  | script s => s.render
  | templateModule scripts =>
    "<dom-module>" ++ String.join (scripts.map ScriptItem.render) ++ "</dom-module>"

def renderAll (items : List Item) : String :=
  String.join (items.map render)

def IsValid : Item → Prop
  | link href => IsClean href
  | script s => s.IsValid
  | templateModule scripts => ∀ s ∈ scripts, s.IsValid

instance (item : Item) : Decidable item.IsValid :=
  match item with
  | link href => inferInstanceAs (Decidable (IsClean href))
  | script s => inferInstanceAs (Decidable s.IsValid)
  | templateModule scripts => inferInstanceAs (Decidable (∀ s ∈ scripts, s.IsValid))

/-- The import of a link, if it is local, has a path and is not left out. -/
def importStatement? (options : Options) : Item → Option Statement
  | link href =>
    if Link.isExternal href = false ∧ href ≠ "" ∧ Link.isIgnored options href = false then
      some (.importFrom (Link.specifier options href))
    else none
  | script _ => none
  | templateModule _ => none

/-- Whether an item is registered or added to the page. -/
def needsHelper : Item → Bool
  | link href => Link.isExternal href
  | script s => s.isExternal
  | templateModule _ => true

/-- The markup that is registered for a template module: the external scripts stay in it. -/
def registered? : Item → Option String
  | templateModule scripts =>
    some ("<dom-module>" ++ String.join ((scripts.filter ScriptItem.isExternal).map ScriptItem.render) ++
      "</dom-module>")
  | link _ => none
  | script _ => none

/-- The markup that is added to the page for an external link or script. -/
def added? : Item → Option String
  | link href => if Link.isExternal href then some (link href).render else none
  | script s => if s.isExternal then some s.render else none
  | templateModule _ => none

def scripts : Item → List ScriptItem
  | link _ => []
  | script s => [s]
  | templateModule scripts => scripts

/-- The statements of the module for a list of items. -/
def statements (options : Options) (items : List Item) : List Statement :=
  items.filterMap (importStatement? options) ++
    (if items.any needsHelper then [.requireHelper options.registerHelper] else []) ++
    (items.filterMap registered?).map (.registerMarkup .register) ++
    (items.filterMap added?).map (.registerMarkup .toBody) ++
    (items.flatMap scripts).filterMap ScriptItem.statement?

end Item

/-! ### Items as characters -/

namespace ScriptItem

def tag : ScriptItem → Tag
  | file src => ⟨"script", [("src", src)], false⟩
  | inline _ => ⟨"script", [], false⟩

def body : ScriptItem → List Char
  | file _ => []
  | inline body => body.toList

def text (s : ScriptItem) : List Char :=
  '<' :: (s.tag.text ++ (s.body ++ scriptEnd))

theorem toList_render (s : ScriptItem) : s.render.toList = s.text := by
  cases s with
  | file src => simp [render, text, tag, body, Tag.text, attributesText, scriptEnd, escaped]
  | inline body => simp [render, text, tag, ScriptItem.body, Tag.text, attributesText, scriptEnd]

theorem isPlain_tag {s : ScriptItem} (h : s.IsValid) : s.tag.IsPlain := by
  cases s with
  | file src => exact Lexer.isPlain_single (by decide) (by decide) h.2.2
  | inline body => exact Lexer.isPlain_bare (by decide)

theorem isScriptBody {s : ScriptItem} (h : s.IsValid) : IsScriptBody s.body := by
  cases s with
  | file src => exact ⟨rfl, rfl, by simp [body]⟩
  | inline body => exact ⟨h.2.1, h.2.2, h.1.2⟩

end ScriptItem

namespace Item

def linkTag (href : String) : Tag := ⟨"link", [("href", href)], false⟩

def moduleTag : Tag := ⟨"dom-module", [], false⟩

def moduleEnd : List Char :=
  '<' :: '/' :: ("dom-module".toList ++ ['>'])

def text : Item → List Char
  | link href => '<' :: (linkTag href).text
  | script s => s.text
  | templateModule scripts => '<' :: (moduleTag.text ++ (scripts.flatMap ScriptItem.text ++ moduleEnd))

theorem toList_join (l : List String) : (String.join l).toList = l.flatMap String.toList := by
  induction l with
  | nil => rfl
  | cons s rest ih => rw [String.join_cons, String.toList_append, ih, List.flatMap_cons]

theorem toList_render (item : Item) : item.render.toList = item.text := by
  cases item with
  | link href => simp [render, text, linkTag, Tag.text, attributesText, escaped]
  | script s => exact s.toList_render
  | templateModule scripts =>
      have hscripts : (String.join (scripts.map ScriptItem.render)).toList =
          scripts.flatMap ScriptItem.text := by
        rw [toList_join, List.flatMap_map]
        exact List.flatMap_congr fun s _ => s.toList_render
      simp [render, text, moduleTag, moduleEnd, Tag.text, attributesText, hscripts]

theorem toList_renderAll (items : List Item) : (renderAll items).toList = items.flatMap text := by
  rw [renderAll, toList_join, List.flatMap_map]
  exact List.flatMap_congr fun item _ => item.toList_render

theorem isPlain_linkTag {href : String} (h : IsClean href) : (linkTag href).IsPlain :=
  Lexer.isPlain_single (by decide) (by decide) h.2

theorem isPlain_moduleTag : moduleTag.IsPlain :=
  Lexer.isPlain_bare (by decide)

end Item

end MarkupModule
