import MarkupModule.Proofs.Component.Items
import MarkupModule.Proofs.Construction.Steps

/-! Reading the items of a component file. The state of tree construction stands in the head of the
document up to the first template module and in the body from there on; every item adds one node where it
stands. At the end the nodes are cut in two by the document elements, which are all supplied. -/

namespace MarkupModule

open Markup
open Markup.Construction (Branch Frame Growing Builder Mode OpenElement)
open Markup.Construction.Builder

def ScriptItem.node (s : ScriptItem) : Node :=
  .element ⟨.html, "script"⟩ (s.tag.attributes.map Attribute.ofPair)
    (if s.body = [] then [] else [.text (String.ofList s.body)])

def Item.node : Item → Node
  | .link href => .element ⟨.html, "link"⟩ [⟨.plain, "href", href⟩] []
  | .script s => s.node
  | .templateModule scripts => .element ⟨.html, "dom-module"⟩ [] (scripts.map ScriptItem.node)

/-! ### A link and a script -/

namespace Markup.Construction.Builder

theorem read_startTag {b : Builder} {tag : Tag} (h : tag.IsPlain) (hcontent : b.content = .markup)
    (rest : List Char) :
    b.read ('<' :: (tag.text ++ rest)) = (b.receive (.startTag tag)).read rest := by
  have hfirst := Lexer.first_startTag h.isReadable b.allowsSections rest
  rw [← hcontent] at hfirst
  exact read_cons hfirst

theorem read_endTag {b : Builder} {name : String} (h : isPlainName name.toList = true)
    (hcontent : b.content = .markup) (rest : List Char) :
    b.read ('<' :: '/' :: (name.toList ++ '>' :: rest)) = (b.receive (.endTag name)).read rest := by
  have hfirst := Lexer.first_endTag (isTagName_of_isPlainName h) b.allowsSections rest
  rw [← hcontent] at hfirst
  exact read_cons hfirst

section

variable {mode returnMode : Mode} {head : Option OpenElement} {k : Nat} {f : Frame}
  {around : List Frame} {children : List Branch}

def linkBranch (k : Nat) (href : String) : Branch :=
  .element k ⟨.html, "link"⟩ [⟨.plain, "href", href⟩] []

def scriptBranch (k : Nat) (s : ScriptItem) : Branch :=
  .element k ⟨.html, "script"⟩ (s.tag.attributes.map Attribute.ofPair) (textBranches s.body)

theorem read_link (hmode : TakesMetadata mode) (h : Growing k (f :: around))
    (hspace : f.name.space = .html) (hname : isHtml "template" f.name = false) {href : String}
    (hvalid : IsClean href) (rest : List Char) :
    ((plain mode returnMode head k).within (f :: around) children).read
        ((Item.link href).text ++ rest) =
      ((plain mode returnMode head (k + 1)).within (f :: around)
        (children ++ [linkBranch k href])).read rest := by
  have hread := read_startTag (b := (plain mode returnMode head k).within (f :: around) children)
    (Item.isPlain_linkTag hvalid) rfl rest
  have hreceive : ((plain mode returnMode head k).within (f :: around) children).receive
      (.startTag (Item.linkTag href)) = _ :=
    handle_of_settlesIn (settlesIn_link hmode h hspace hname [("href", href)]) (by decide)
  rw [hreceive] at hread
  exact hread

theorem read_scriptBody (h : Growing k (f :: around))
    (hspace : f.name.space = .html) (hname : isHtml "template" f.name = false) {body : List Char}
    (hbody : IsScriptBody body) (rest : List Char) :
    ((scripting returnMode head k).within (f :: around) []).read (body ++ (scriptEnd ++ rest)) =
      ((plain returnMode returnMode head k).within around (f.closed (textBranches body))).read rest := by
  have htext : ((scripting returnMode head k).within (f :: around) []).read
        (body ++ (scriptEnd ++ rest)) =
      ((scripting returnMode head k).within (f :: around) (textBranches body)).read
        (scriptEnd ++ rest) := by
    cases body with
    | nil => rfl
    | cons c cs =>
        refine (read_cons (Lexer.first_scriptText hbody _ rest)).trans ?_
        rw [List.foldl_cons, List.foldl_nil, receive_scriptText h hspace hname]
  rw [htext]
  refine (read_cons (Lexer.first_scriptEnd _ rest)).trans ?_
  rw [List.foldl_cons, List.foldl_nil, receive_scriptEnd hspace]

/-- A script is read from its start tag to its end tag, and the state returns to where it stood. -/
theorem read_script (hmode : TakesMetadata mode) (h : Growing k (f :: around))
    (hspace : f.name.space = .html) (hname : isHtml "template" f.name = false)
    (hbelow : Branch.Below k children) {s : ScriptItem} (hvalid : s.IsValid) (rest : List Char) :
    ((plain mode returnMode head k).within (f :: around) children).read (s.text ++ rest) =
      ((plain mode mode head (k + 1)).within (f :: around)
        (children ++ [scriptBranch k s])).read rest := by
  have htag : s.tag = ⟨"script", s.tag.attributes, false⟩ := by cases s <;> rfl
  have htext : s.text ++ rest = '<' :: (s.tag.text ++ (s.body ++ (scriptEnd ++ rest))) := by
    rw [ScriptItem.text]
    simp only [List.cons_append, List.append_assoc]
  have hstart := read_startTag (b := (plain mode returnMode head k).within (f :: around) children)
    (ScriptItem.isPlain_tag hvalid) rfl (s.body ++ (scriptEnd ++ rest))
  have hreceive : ((plain mode returnMode head k).within (f :: around) children).receive
      (.startTag ⟨"script", s.tag.attributes, false⟩) = _ :=
    handle_of_settlesIn (settlesIn_script hmode h hspace hname s.tag.attributes) (by decide)
  rw [htext, hstart, htag, hreceive]
  exact read_scriptBody (.cons (Nat.lt_succ_self k) hbelow h) rfl rfl
    (ScriptItem.isScriptBody hvalid) rest

theorem below_append_scriptBranch (hbelow : Branch.Below k children) (s : ScriptItem) :
    Branch.Below (k + 1) (children ++ [scriptBranch k s]) := by
  refine Branch.below_append_iff.mpr ⟨hbelow.mono (Nat.le_succ k), ?_⟩
  refine Branch.below_element_iff.mpr ⟨Nat.lt_succ_self k, ?_⟩
  rw [textBranches]
  split
  · exact Branch.below_nil _
  · exact Branch.below_text _ _

theorem toNodes_scriptBranch (k : Nat) (s : ScriptItem) :
    Branch.toNodes [scriptBranch k s] = [s.node] := by
  rw [scriptBranch, textBranches, ScriptItem.node, Branch.toNodes, Branch.toNode, Branch.toNodes]
  split
  · rfl
  · rfl

theorem read_scripts (returnMode : Mode) (head : Option OpenElement) (hmode : TakesMetadata mode)
    (h : Growing k (f :: around))
    (hspace : f.name.space = .html) (hname : isHtml "template" f.name = false)
    (hbelow : Branch.Below k children) {scripts : List ScriptItem}
    (hvalid : ∀ s ∈ scripts, s.IsValid) :
    ∃ returnMode' k' children', k ≤ k' ∧ Branch.Below k' children' ∧
      Branch.toNodes children' = Branch.toNodes children ++ scripts.map ScriptItem.node ∧
      ∀ rest, ((plain mode returnMode head k).within (f :: around) children).read
          (scripts.flatMap ScriptItem.text ++ rest) =
        ((plain mode returnMode' head k').within (f :: around) children').read rest := by
  induction scripts generalizing returnMode k children with
  | nil => exact ⟨returnMode, k, children, Nat.le_refl k, hbelow, by simp, fun _ => rfl⟩
  | cons s others ih =>
      rw [List.forall_mem_cons] at hvalid
      obtain ⟨returnMode', k', children', hle, hbelow', hnodes, hread⟩ :=
        ih mode (h.mono (Nat.le_succ k)) (below_append_scriptBranch hbelow s) hvalid.2
      refine ⟨returnMode', k', children', Nat.le_of_succ_le hle, hbelow', ?_, ?_⟩
      · rw [hnodes, Branch.toNodes_append, toNodes_scriptBranch, List.map_cons, List.append_assoc]
        rfl
      · intro rest
        rw [List.flatMap_cons, List.append_assoc,
          read_script hmode h hspace hname hbelow hvalid.1, hread]

/-- A template module, read from behind its start tag. -/
theorem read_moduleBody (returnMode : Mode) (head : Option OpenElement) (h : Growing k (f :: around))
    (hbelow : Branch.Below k children) {scripts : List ScriptItem} (hvalid : ∀ s ∈ scripts, s.IsValid) :
    ∃ returnMode' k' inModule, k < k' ∧ Branch.Below k' inModule ∧
      Branch.toNodes inModule = scripts.map ScriptItem.node ∧
      ∀ rest, ((plain .inBody returnMode head (k + 1)).within
          (⟨children, k, ⟨.html, "dom-module"⟩, []⟩ :: f :: around) []).read
          (scripts.flatMap ScriptItem.text ++ (Item.moduleEnd ++ rest)) =
        ((plain .inBody returnMode' head k').within (f :: around)
          (children ++ [.element k ⟨.html, "dom-module"⟩ [] inModule])).read rest := by
  obtain ⟨returnMode', k', inModule, hle, hbelow', hnodes, hread⟩ :=
    read_scripts (f := ⟨children, k, ⟨.html, "dom-module"⟩, []⟩) returnMode head (Or.inr rfl)
      (.cons (Nat.lt_succ_self k) hbelow h) rfl rfl (Branch.below_nil _) hvalid
  refine ⟨returnMode', k', inModule, hle, hbelow', hnodes, ?_⟩
  intro rest
  rw [hread]
  have hplain : isPlainName "dom-module".toList = true := by decide
  refine (read_endTag hplain rfl rest).trans ?_
  rw [receive_moduleEnd rfl]
  rfl

end

/-! ### Items one after the other -/

/-- The states between items, with the nodes that are read: in the head, or in the body. -/
inductive Standing : Builder → List Node → Prop where
  | head (returnMode : Mode) {k : Nat} {headNodes : List Branch} (hk : 2 ≤ k)
      (hbelow : Branch.Below k headNodes) :
      Standing (headState returnMode k headNodes) (Branch.toNodes headNodes)
  | body (returnMode : Mode) {k serial : Nat} {headNodes bodyNodes : List Branch} (hserial : 2 ≤ serial)
      (hk : serial < k) (hhead : Branch.Below serial headNodes) (hbody : Branch.Below k bodyNodes) :
      Standing (bodyState returnMode k serial headNodes bodyNodes)
        (Branch.toNodes headNodes ++ Branch.toNodes bodyNodes)

theorem below_append_linkBranch {k : Nat} {children : List Branch} (hbelow : Branch.Below k children)
    (href : String) : Branch.Below (k + 1) (children ++ [linkBranch k href]) :=
  Branch.below_append_iff.mpr ⟨hbelow.mono (Nat.le_succ k),
    Branch.below_element_iff.mpr ⟨Nat.lt_succ_self k, Branch.below_nil _⟩⟩

theorem Standing.link {b : Builder} {nodes : List Node} (h : Standing b nodes) {href : String}
    (hvalid : IsClean href) :
    ∃ b', Standing b' (nodes ++ [(Item.link href).node]) ∧
      ∀ rest, b.read ((Item.link href).text ++ rest) = b'.read rest := by
  cases h with
  | @head returnMode k headNodes hk hbelow =>
      refine ⟨headState returnMode (k + 1) (headNodes ++ [linkBranch k href]), ?_, ?_⟩
      · have := Standing.head returnMode (Nat.le_succ_of_le hk)
          (below_append_linkBranch hbelow href)
        rwa [Branch.toNodes_append] at this
      · exact read_link (Or.inl rfl) (growing_head hk) rfl rfl hvalid
  | @body returnMode k serial headNodes bodyNodes hserial hk hhead hbody =>
      refine ⟨bodyState returnMode (k + 1) serial headNodes (bodyNodes ++ [linkBranch k href]), ?_, ?_⟩
      · have := Standing.body returnMode hserial (Nat.lt_succ_of_lt hk) hhead
          (below_append_linkBranch hbody href)
        rwa [Branch.toNodes_append, ← List.append_assoc] at this
      · exact read_link (Or.inr rfl) (growing_body hk hserial hhead) rfl rfl hvalid

theorem Standing.script {b : Builder} {nodes : List Node} (h : Standing b nodes) {s : ScriptItem}
    (hvalid : s.IsValid) :
    ∃ b', Standing b' (nodes ++ [s.node]) ∧ ∀ rest, b.read (s.text ++ rest) = b'.read rest := by
  cases h with
  | @head returnMode k headNodes hk hbelow =>
      refine ⟨headState .inHead (k + 1) (headNodes ++ [scriptBranch k s]), ?_, ?_⟩
      · have := Standing.head .inHead (Nat.le_succ_of_le hk)
          (below_append_scriptBranch hbelow s)
        rwa [Branch.toNodes_append, toNodes_scriptBranch] at this
      · exact read_script (Or.inl rfl) (growing_head hk) rfl rfl hbelow hvalid
  | @body returnMode k serial headNodes bodyNodes hserial hk hhead hbody =>
      refine ⟨bodyState .inBody (k + 1) serial headNodes (bodyNodes ++ [scriptBranch k s]), ?_, ?_⟩
      · have := Standing.body .inBody hserial (Nat.lt_succ_of_lt hk) hhead
          (below_append_scriptBranch hbody s)
        rwa [Branch.toNodes_append, toNodes_scriptBranch, ← List.append_assoc] at this
      · exact read_script (Or.inr rfl) (growing_body hk hserial hhead) rfl rfl hbody hvalid

/-- A template module behind its start tag, in the body of the document. -/
theorem standing_moduleBody (returnMode : Mode) {k serial : Nat} {headNodes bodyNodes : List Branch}
    (hserial : 2 ≤ serial) (hk : serial < k) (hhead : Branch.Below serial headNodes)
    (hbody : Branch.Below k bodyNodes) {scripts : List ScriptItem} (hvalid : ∀ s ∈ scripts, s.IsValid) :
    ∃ b', Standing b' (Branch.toNodes headNodes ++ Branch.toNodes bodyNodes ++
        [(Item.templateModule scripts).node]) ∧
      ∀ rest, ((plain .inBody returnMode (some headFrame.opened) (k + 1)).within
          [⟨bodyNodes, k, ⟨.html, "dom-module"⟩, []⟩, bodyFrame serial headNodes, htmlFrame] []).read
          (scripts.flatMap ScriptItem.text ++ (Item.moduleEnd ++ rest)) = b'.read rest := by
  obtain ⟨returnMode', k', inModule, hle, hbelow, hnodes, hread⟩ :=
    read_moduleBody returnMode (some headFrame.opened) (growing_body hk hserial hhead) hbody hvalid
  refine ⟨bodyState returnMode' k' serial headNodes
    (bodyNodes ++ [Branch.element k ⟨.html, "dom-module"⟩ [] inModule]), ?_, hread⟩
  have hbelow' : Branch.Below k' [Branch.element k ⟨.html, "dom-module"⟩ [] inModule] :=
    Branch.below_element_iff.mpr ⟨hle, hbelow⟩
  have hstanding := Standing.body returnMode' hserial (Nat.lt_trans hk hle) hhead
    (Branch.below_append_iff.mpr ⟨hbody.mono (Nat.le_of_lt hle), hbelow'⟩)
  rw [Branch.toNodes_append, ← List.append_assoc] at hstanding
  rw [Item.node, ← hnodes]
  exact hstanding

theorem Standing.templateModule {b : Builder} {nodes : List Node} (h : Standing b nodes)
    {scripts : List ScriptItem} (hvalid : ∀ s ∈ scripts, s.IsValid) :
    ∃ b', Standing b' (nodes ++ [(Item.templateModule scripts).node]) ∧
      ∀ rest, b.read ((Item.templateModule scripts).text ++ rest) = b'.read rest := by
  have htext : ∀ rest, (Item.templateModule scripts).text ++ rest =
      '<' :: (Item.moduleTag.text ++ (scripts.flatMap ScriptItem.text ++ (Item.moduleEnd ++ rest))) := by
    intro rest
    rw [Item.text]
    simp only [List.cons_append, List.append_assoc]
  cases h with
  | @head returnMode k headNodes hk hbelow =>
      obtain ⟨b', hstanding, hread⟩ := standing_moduleBody returnMode hk
        (Nat.lt_succ_self k) hbelow (Branch.below_nil _) hvalid
      rw [Branch.toNodes, List.append_nil] at hstanding
      refine ⟨b', hstanding, ?_⟩
      intro rest
      rw [htext, ← hread rest]
      refine (read_startTag Item.isPlain_moduleTag rfl _).trans ?_
      have hsettles := settlesIn_leaveHead (Or.inr rfl) (settlesIn_moduleStart returnMode
        (some headFrame.opened) [] (growing_body (Nat.lt_succ_self k) hk hbelow) rfl rfl)
      have hreceive : (headState returnMode k headNodes).receive (.startTag Item.moduleTag) = _ :=
        handle_of_settlesIn hsettles (by decide)
      rw [hreceive]
  | @body returnMode k serial headNodes bodyNodes hserial hk hhead hbody =>
      obtain ⟨b', hstanding, hread⟩ := standing_moduleBody returnMode hserial hk hhead
        hbody hvalid
      refine ⟨b', hstanding, ?_⟩
      intro rest
      rw [htext, ← hread rest]
      refine (read_startTag Item.isPlain_moduleTag rfl _).trans ?_
      have hsettles := settlesIn_moduleStart returnMode (some headFrame.opened) bodyNodes
        (growing_body hk hserial hhead) rfl rfl
      have hreceive : (bodyState returnMode k serial headNodes bodyNodes).receive
          (.startTag Item.moduleTag) = _ :=
        handle_of_settlesIn hsettles (by decide)
      rw [hreceive]

theorem Standing.item {b : Builder} {nodes : List Node} (h : Standing b nodes) {item : Item}
    (hvalid : item.IsValid) :
    ∃ b', Standing b' (nodes ++ [item.node]) ∧ ∀ rest, b.read (item.text ++ rest) = b'.read rest := by
  cases item with
  | link href => exact h.link hvalid
  | script s => exact h.script hvalid
  | templateModule scripts => exact h.templateModule hvalid

theorem Standing.items {b : Builder} {nodes : List Node} (h : Standing b nodes) {items : List Item}
    (hvalid : ∀ item ∈ items, item.IsValid) :
    ∃ b', Standing b' (nodes ++ items.map Item.node) ∧
      b.read (items.flatMap Item.text) = b'.read [] := by
  induction items generalizing b nodes with
  | nil => exact ⟨b, by rwa [List.map_nil, List.append_nil], rfl⟩
  | cons item rest ih =>
      rw [List.forall_mem_cons] at hvalid
      obtain ⟨b₁, hstanding₁, hread₁⟩ := h.item hvalid.1
      obtain ⟨b₂, hstanding₂, hread₂⟩ := ih hstanding₁ hvalid.2
      refine ⟨b₂, ?_, ?_⟩
      · rwa [List.append_assoc] at hstanding₂
      · rw [List.flatMap_cons, hread₁, hread₂]

/-! ### The document -/

/-- A document whose elements are all supplied, with nodes in its head and in its body. -/
def wrapped (headNodes bodyNodes : List Node) : List Node :=
  [.element ⟨.html, "html"⟩ [] [.element ⟨.html, "head"⟩ [] headNodes,
    .element ⟨.html, "body"⟩ [] bodyNodes]]

theorem toNodes_bodyState (returnMode : Mode) (k serial : Nat) (headNodes bodyNodes : List Branch) :
    Branch.toNodes (bodyState returnMode k serial headNodes bodyNodes).branches =
      wrapped (Branch.toNodes headNodes) (Branch.toNodes bodyNodes) := by
  change Branch.toNodes [.element 0 ⟨.html, "html"⟩ [] [.element 1 ⟨.html, "head"⟩ [] headNodes,
    .element serial ⟨.html, "body"⟩ [] bodyNodes]] = _
  simp only [Branch.toNodes, Branch.toNode, wrapped]

/-- At the end of the input the document elements stand around the nodes. -/
theorem Standing.exists_end {b : Builder} {nodes : List Node} (h : Standing b nodes) :
    ∃ looks b' headNodes bodyNodes, looks ≤ 3 ∧ SettlesIn looks b .endOfInput b' ∧
      Branch.toNodes b'.branches = wrapped headNodes bodyNodes ∧ headNodes ++ bodyNodes = nodes := by
  cases h with
  | @head returnMode k headNodes hk hbelow =>
      refine ⟨3, _, _, _, Nat.le_refl 3, settlesIn_leaveHead (Or.inl rfl) (settlesIn_end _ _ _ _ _),
        toNodes_bodyState _ _ _ _ _, ?_⟩
      rw [Branch.toNodes, List.append_nil]
  | body returnMode hserial hk hhead hbody =>
      exact ⟨1, _, _, _, by decide, settlesIn_end _ _ _ _ _, toNodes_bodyState _ _ _ _ _, rfl⟩

/-- The start tag that an item begins with. -/
def firstTag : Item → Tag
  | .link href => Item.linkTag href
  | .script s => s.tag
  | .templateModule _ => Item.moduleTag

theorem exists_text_eq (item : Item) (rest : List Char) :
    ∃ tail, item.text ++ rest = '<' :: ((firstTag item).text ++ tail) := by
  cases item with
  | link href => exact ⟨rest, rfl⟩
  | script s => exact ⟨s.body ++ scriptEnd ++ rest, by simp [Item.text, ScriptItem.text, firstTag]⟩
  | templateModule scripts =>
      exact ⟨scripts.flatMap ScriptItem.text ++ Item.moduleEnd ++ rest, by simp [Item.text, firstTag]⟩

theorem isPlain_firstTag {item : Item} (hvalid : item.IsValid) : (firstTag item).IsPlain := by
  cases item with
  | link href => exact Item.isPlain_linkTag hvalid
  | script s => exact ScriptItem.isPlain_tag hvalid
  | templateModule scripts => exact Item.isPlain_moduleTag

theorem opensHead_firstTag (item : Item) : OpensHead (.startTag (firstTag item)) := by
  refine Or.inr ⟨firstTag item, rfl, ?_⟩
  cases item with
  | link href => exact ⟨rfl, rfl⟩
  | script s => cases s <;> exact ⟨rfl, rfl⟩
  | templateModule scripts => exact ⟨rfl, rfl⟩

theorem exists_settlesIn_firstTag (item : Item) :
    ∃ looks b', looks ≤ 3 ∧
      SettlesIn looks (headState .initial 2 []) (.startTag (firstTag item)) b' := by
  have hgrowing := growing_head (Nat.le_refl 2)
  cases item with
  | link href => exact ⟨1, _, by decide, settlesIn_link (Or.inl rfl) hgrowing rfl rfl [("href", href)]⟩
  | script s =>
      have htag : firstTag (.script s) = ⟨"script", s.tag.attributes, false⟩ := by cases s <;> rfl
      rw [htag]
      exact ⟨1, _, by decide, settlesIn_script (Or.inl rfl) hgrowing rfl rfl s.tag.attributes⟩
  | templateModule scripts =>
      exact ⟨3, _, Nat.le_refl 3, settlesIn_leaveHead (Or.inr rfl) (settlesIn_moduleStart _ _ _
        (growing_body (Nat.lt_succ_self 2) (Nat.le_refl 2) (Branch.below_nil _)) rfl rfl)⟩

/-- The state at the start deals with the first event as if the head were open. -/
theorem handle_start {event : Event} {looks : Nat} {b' : Builder} (hevent : OpensHead event)
    (hlooks : looks ≤ 3) (h : SettlesIn looks (headState .initial 2 []) event b') :
    (default : Builder).handle event = (headState .initial 2 []).handle event := by
  rw [handle_of_settlesIn (settlesIn_start hevent h) (by omega), handle_of_settlesIn h (by omega)]

theorem standing_start : Standing (headState .initial 2 []) [] :=
  Standing.head .initial (Nat.le_refl 2) (Branch.below_nil _)

/-- A file is read from the start as if the head were open. -/
theorem read_start {items : List Item} (hvalid : ∀ item ∈ items, item.IsValid) :
    (default : Builder).read (items.flatMap Item.text) =
      (headState .initial 2 []).read (items.flatMap Item.text) := by
  cases items with
  | nil =>
      obtain ⟨looks, b', _, _, hlooks, hsettles, _⟩ := standing_start.exists_end
      rw [List.flatMap_nil, read, read]
      exact handle_start (Or.inl rfl) hlooks hsettles
  | cons item rest =>
      rw [List.forall_mem_cons] at hvalid
      obtain ⟨tail, htext⟩ := exists_text_eq item (rest.flatMap Item.text)
      obtain ⟨looks, b', hlooks, hsettles⟩ := exists_settlesIn_firstTag item
      have hreceive : (default : Builder).receive (.startTag (firstTag item)) =
          (headState .initial 2 []).receive (.startTag (firstTag item)) :=
        handle_start (opensHead_firstTag item) hlooks hsettles
      rw [List.flatMap_cons, htext, read_startTag (isPlain_firstTag hvalid.1) rfl,
        read_startTag (isPlain_firstTag hvalid.1) rfl, hreceive]

/-- The tree of a component file, of which the text is prepared already. -/
theorem read_items {items : List Item} (hvalid : ∀ item ∈ items, item.IsValid) :
    ∃ headNodes bodyNodes, headNodes ++ bodyNodes = items.map Item.node ∧
      Branch.toNodes ((default : Builder).read (items.flatMap Item.text)).branches =
        wrapped headNodes bodyNodes := by
  obtain ⟨b, hstanding, hread⟩ := standing_start.items hvalid
  obtain ⟨looks, b', headNodes, bodyNodes, hlooks, hsettles, hbranches, hnodes⟩ :=
    hstanding.exists_end
  refine ⟨headNodes, bodyNodes, hnodes, ?_⟩
  rw [read_start hvalid, hread, read, handle_of_settlesIn hsettles (by omega), hbranches]

end Markup.Construction.Builder

end MarkupModule
