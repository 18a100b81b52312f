import MarkupModule.Proofs.Markup.WrittenTag
import MarkupModule.Proofs.Minification.Replacement
import MarkupModule.Proofs.Minification.Skips

/-! The markup of a node: what is written of it when nothing is minified and nothing left out. It is said
here of the tree alone, without a writer and what it has written before. -/

namespace MarkupModule.Markup

/-- The start tag of an element. -/
def Tag.ofElement (name : ElementName) (attributes : List Attribute) : Tag :=
  ⟨name.name, attributes.map fun a => (a.name, a.value), false⟩

def endTagText (name : String) : List Char :=
  "</".toList ++ name.toList ++ ['>']

/-- The texts among a list of nodes, joined. -/
def textOf (nodes : List Node) : List Char :=
  nodes.flatMap fun node => (node.text?.getD "").toList

theorem textOf_cons (node : Node) (rest : List Node) :
    textOf (node :: rest) = (node.text?.getD "").toList ++ textOf rest :=
  rfl

theorem textOf_append (first second : List Node) :
    textOf (first ++ second) = textOf first ++ textOf second :=
  List.flatMap_append

mutual

/-- A node as markup. A document type is not written. -/
def Node.markup : Node → List Char
  | .element name attributes children =>
    '<' :: ((Tag.ofElement name attributes).text ++
      if voidNames.contains name.name then []
      else (if rawTextNames.contains name.name then textOf children else markupOf children) ++
        endTagText name.name)
  | .text content => escapeText content.toList
  | .comment content => "<!--".toList ++ content.toList ++ "-->".toList
  | .doctype _ _ _ => []
  | .contents children => markupOf children

/-- A list of nodes as markup. -/
def markupOf : List Node → List Char
  | [] => []
  | node :: rest => node.markup ++ markupOf rest

end

namespace Writer

variable {w : Writer}

theorem put_append (s t out : List Char) : put (s ++ t) out = put t (put s out) := by
  simp [put]

theorem writeAttributes_eq (out : List Char) (attributes : List Attribute) :
    w.writeAttributes out attributes =
      (attributes.mapM w.minifiedAttribute).map fun written =>
        put (attributesText (written.map fun a => (a.name.toList, escapeAttribute a.value.toList))) out := by
  induction attributes generalizing out with
  | nil => rfl
  | cons a rest ih =>
      rw [writeAttributes, List.mapM_cons, minifiedAttribute_eq]
      cases w.attributeValue a with
      | error e => rfl
      | ok value =>
          simp only [ih]
          change Except.map _ _ = Except.map _ (Except.map (fun written => { a with value } :: written) _)
          cases rest.mapM w.minifiedAttribute with
          | error e => rfl
          | ok written =>
              apply congrArg Except.ok
              dsimp only
              rw [← put_append]
              simp [attributesText]

/-- The start tag of an element as it is put behind other text. -/
theorem put_startTag (name : ElementName) (written : List Attribute) (out : List Char) :
    put ['>'] (put (attributesText (written.map fun a => (a.name.toList, escapeAttribute a.value.toList)))
      (put ('<' :: name.name.toList) out)) = put ('<' :: (Tag.ofElement name written).text) out := by
  rw [← put_append, ← put_append, Tag.text, Tag.ofElement, List.map_map]
  simp [Function.comp_def]

theorem rawText_none (address : Address) (start : Nat) (nodes : List Node) :
    (w.leavingOut fun _ => false).rawText address start nodes = textOf nodes := by
  induction nodes generalizing start with
  | nil => rfl
  | cons node rest ih =>
      cases node with
      | text content => rw [rawText, ih, skips_leavingOut]; rfl
      | element | comment | doctype | contents => rw [rawText, ih] <;> simp [textOf, Node.text?]

/-! A writer that minifies nothing writes the markup. -/

/-- The writer that neither minifies nor leaves out anything. -/
def verbatim (engine : StyleEngine) : Writer :=
  ⟨Minification.none, engine, fun _ => false⟩

variable {engine : StyleEngine}

theorem minifiedAttribute_verbatim (a : Attribute) : (verbatim engine).minifiedAttribute a = .ok a := by
  simp [minifiedAttribute, verbatim, Minification.none]

theorem writeAttributes_verbatim (out : List Char) (attributes : List Attribute) :
    (verbatim engine).writeAttributes out attributes =
      .ok (put (attributesText (attributes.map fun a => (a.name.toList, escapeAttribute a.value.toList)))
        out) := by
  have hall : attributes.mapM (verbatim engine).minifiedAttribute = .ok attributes := by
    induction attributes with
    | nil => rfl
    | cons a rest ih => rw [List.mapM_cons, ih, minifiedAttribute_verbatim]; rfl
  rw [writeAttributes_eq, hall]
  rfl

theorem writeNodes_verbatim_of_writeNode {nodes : List Node}
    (h : ∀ node ∈ nodes, ∀ preserve address out,
      (verbatim engine).writeNode preserve address out node = .ok (put node.markup out))
    (preserve : Bool) (address : Address) (start : Nat) (out : List Char) :
    (verbatim engine).writeNodes preserve address start out nodes = .ok (put (markupOf nodes) out) := by
  induction nodes generalizing start out with
  | nil => rfl
  | cons node rest ih =>
      rw [List.forall_mem_cons] at h
      rw [writeNodes_cons, h.1, markupOf, put_append]
      exact ih h.2 (start + 1) _

theorem writeNode_verbatim (preserve : Bool) (address : Address) (out : List Char) (node : Node) :
    (verbatim engine).writeNode preserve address out node = .ok (put node.markup out) := by
  induction node using Node.childInduction generalizing preserve address out with
  | step node ih =>
      have hchildren := writeNodes_verbatim_of_writeNode ih
      cases node with
      | element name attributes children =>
          have hraw : (verbatim engine).rawText address 0 children = textOf children :=
            rawText_none (w := verbatim engine) address 0 children
          have hbody : ∀ s, (verbatim engine).rawBody name.name s = .ok s := by
            simp [rawBody, verbatim, Minification.none]
          have hinside : ∀ out, (verbatim engine).writeInside preserve address name.name out children =
              .ok (put (if rawTextNames.contains name.name then textOf children else markupOf children)
                out) := by
            intro out
            rw [writeInside, hraw, hbody]
            split
            · rfl
            · exact hchildren _ address 0 out
          rw [writeNode_element, writeAttributes_verbatim, Node.markup]
          simp only [Except.bind, put_startTag, hinside]
          have hskips : (verbatim engine).skips address = false := rfl
          rw [hskips, if_neg Bool.false_ne_true]
          split
          · rw [List.append_nil]
          · rw [Except.map, ← put_append, ← put_append, endTagText]
            simp only [List.cons_append, List.append_assoc]
      | text content =>
          rw [writeNode, writeText, Node.markup]
          simp [verbatim, Minification.none]
      | comment content =>
          rw [writeNode, writeComment, Node.markup]
          simp [verbatim, Minification.none]
      | doctype => rfl
      | contents children =>
          rw [writeNode, Node.markup]
          exact hchildren preserve address 0 out

/-- A writer that minifies nothing and leaves out nothing writes the markup of a node. -/
theorem write_verbatim (located : Located) :
    (verbatim engine).write located = .ok (String.ofList located.node.markup) := by
  rw [write, writeNode_verbatim]
  simp [put, Except.map]

end Writer

end MarkupModule.Markup
