import MarkupModule.Proofs.Component.Parsing
import MarkupModule.Proofs.Rereading.Outermost
import MarkupModule.Proofs.Rereading.Scan

/-! An element on its own. What is written of a top-level element of a document is read as a document in which
this element is the only top-level node: the element stands in the head or in the body that is supplied around
it, or it is a document element itself, and the scan sees none but that one. -/

namespace MarkupModule

namespace Markup

open MarkupModule.Text
open Construction

/-- The region that is supplied around an element. -/
def Construction.Region.around (tagName : String) : Region :=
  if metadataNames.contains tagName || tagName == "noscript" then .head else .body

/-- Whether a document element is read again, and the scan sees it alone. -/
def Construction.Region.standsAlone (region : Region) (attributes : List Attribute)
    (children : List Node) : Bool :=
  region.fits attributes children && isScannedTag region.element attributes && areScanned children

/-- Whether an element is read again as the only one of a document. -/
def Node.standsAlone : Node → Bool
  | .element name attributes children =>
    if name = ⟨.html, "html"⟩ then
      isWritable name attributes && isPlainElement name attributes && documentFits children &&
        isScannedTag name attributes
    else if name = Region.head.element then Region.head.standsAlone attributes children
    else if name = Region.body.element then Region.body.standsAlone attributes children
    else if name = Region.frameset.element then Region.frameset.standsAlone attributes children
    else (Node.element name attributes children).fits (Region.around (lowerName name.name)).site &&
      (Node.element name attributes children).isScanned
  | _ => false

namespace Construction.Builder

variable {region : Region} {name : ElementName} {attributes : List Attribute} {nodes : List Node}
  {f r : Frame} {children : List Branch} {b : Builder} {tag : Tag} {event : Event}

/-! ### Supplied elements -/

/-- The outermost element and the head are supplied in front of other start tags. -/
theorem exists_inHead (hhtml : tag.name ≠ "html") (hhead : tag.name ≠ "head") :
    ∃ f b, f.before = [] ∧ f.name = Region.head.element ∧ f.attributes = [] ∧
      Bare .inHead [f, rootFrame []] [] b ∧ Leads 3 (.startTag tag) default b := by
  obtain ⟨b, hbare, hleads⟩ := exists_root_of_other hhtml
  obtain ⟨b', hbare', hleads'⟩ := hbare.exists_head rfl (Bare.beforeHead_startTag hhtml hhead)
  exact ⟨_, b', rfl, rfl, rfl, hbare', hleads.trans hleads'⟩

/-- The head is closed again in front of what it does not hold. -/
theorem exists_afterHead (hhtml : tag.name ≠ "html") (hhead : tag.name ≠ "head")
    (hmetadata : (metadataNames.contains tag.name || tag.name == "noscript") = false) :
    ∃ before b, Branch.toNodes before = [.element ⟨.html, "head"⟩ [] []] ∧
      Bare .afterHead [rootFrame []] before b ∧ Leads 4 (.startTag tag) default b := by
  obtain ⟨f, b, hbefore, hf, hattributes, hbare, hleads⟩ := exists_inHead hhtml hhead
  obtain ⟨b', hbare', hleads'⟩ :=
    hbare.exists_afterHead hf (Bare.inHead_startTag hhtml hhead hmetadata)
  refine ⟨_, b', ?_, hbare', hleads.trans hleads'⟩
  rw [toNodes_filled hf (rfl : Branch.toNodes [] = []), hbefore, hattributes]
  rfl

theorem exists_inBody (hhtml : tag.name ≠ "html") (hhead : tag.name ≠ "head")
    (hmetadata : (metadataNames.contains tag.name || tag.name == "noscript") = false)
    (hbody : tag.name ≠ "body") (hframeset : tag.name ≠ "frameset") :
    ∃ f b, Branch.toNodes f.before = [.element ⟨.html, "head"⟩ [] []] ∧ f.name = Region.body.element ∧
      f.attributes = [] ∧ Bare .inBody [f, rootFrame []] [] b ∧ Leads 5 (.startTag tag) default b := by
  obtain ⟨before, b, hbefore, hbare, hleads⟩ := exists_afterHead hhtml hhead hmetadata
  obtain ⟨b', hbare', hleads'⟩ :=
    hbare.exists_body rfl (Bare.afterHead_startTag hhtml hhead hmetadata hbody hframeset)
  exact ⟨_, b', hbefore, rfl, rfl, hbare', hleads.trans hleads'⟩

/-! ### One element -/

/-- An element is read in the region that is supplied around it. -/
theorem exists_read (region : Region) {n : Nat}
    (hleads : Leads n (.startTag (Tag.reread name attributes)) default b) (hn : n ≤ 14)
    (h : Bare region.mode [f, r] [] b) (hf : f.name = region.element)
    (hr : r.name = ⟨.html, "html"⟩) (hfits : (Node.element name attributes nodes).fits region.site = true) :
    ∃ branch b', Bare region.mode [f, r] [branch] b' ∧ branch.toNode = .element name attributes nodes ∧
      (default : Builder).read (Node.element name attributes nodes).markup = b'.handle .endOfInput := by
  have hmode : region.site.mode ≠ .inTemplate := by cases region <;> decide
  have hchildren : ∀ child ∈ nodes, Rereads child ∧ ∀ node ∈ child.children, Rereads node :=
    fun child _ => ⟨rereads child, fun node _ => rereads node⟩
  obtain ⟨modes', k, b₁, hturned, hsettles, hk, hreads⟩ := exists_readsOn (h.stands hf hr) h.fosterParenting
    h.skipLineFeed (fun hp => absurd hp hmode) hchildren hfits
  obtain ⟨branch, b', hstands, hfoster, hline, htoNode, -, hread⟩ := hreads
  obtain ⟨rfl, hbehind⟩ := hturned.eq_of_ne hmode
  rw [hbehind, List.nil_append] at hstands
  have hstart : (default : Builder).handle (.startTag (Tag.reread name attributes)) = b₁ :=
    handle_of_settlesIn (hleads k b₁ hsettles) (Nat.le_trans (Nat.add_le_add hk hn) (by decide))
  refine ⟨branch, b', hstands.bare hf hr hfoster hline, htoNode, ?_⟩
  have hrest := hread []
  rw [List.append_nil] at hrest
  rw [Node.markup, read_startTagText rfl (isReadable_reread (isWritable_of_fits hfits))]
  refine (congrArg (read · _) hstart).trans (hrest.trans ?_)
  rw [read]

/-- An element is the only node of the head that is supplied around it. -/
theorem toNodes_read_inHead (hfits : (Node.element name attributes nodes).fits Region.head.site = true)
    (hhtml : lowerName name.name ≠ "html") (hhead : lowerName name.name ≠ "head") :
    Branch.toNodes ((default : Builder).read (Node.element name attributes nodes).markup).branches =
      wrapped [.element name attributes nodes] [] := by
  have htag : (Tag.reread name attributes).name ≠ "html" := hhtml
  obtain ⟨f, b, hbefore, hf, hattributes, hbare, hleads⟩ := exists_inHead htag hhead
  obtain ⟨branch, b', hbare', htoNode, hread⟩ := exists_read .head hleads (by decide) hbare hf rfl hfits
  have hleave : b'.inHead .endOfInput = .again (b'.pop.enter .afterHead) .endOfInput := rfl
  obtain ⟨b₂, hbehind, hleads'⟩ := Bare.exists_afterHead hbare' hf hleave
  obtain ⟨g, b₃, hgBefore, hg, hgAttributes, hbody, hsettles⟩ := hbehind.exists_end_afterHead rfl
  have hinside : Branch.toNodes [branch] = [.element name attributes nodes] := by
    rw [Branch.toNodes, htoNode]
    rfl
  have hhead : Branch.toNodes g.before =
      [.element Region.head.element [] [.element name attributes nodes]] := by
    rw [hgBefore, toNodes_filled hf hinside, hbefore, hattributes]
    rfl
  rw [hread, handle_of_settlesIn (hleads' 2 b₃ hsettles) (by decide), hbody.tree.branches,
    toNodes_nest_region hg [] (rfl : Branch.toNodes [] = []), hhead, hgAttributes]
  rfl

/-- An element is the only node of the body that is supplied around it. -/
theorem toNodes_read_inBody (hfits : (Node.element name attributes nodes).fits Region.body.site = true)
    (hhtml : lowerName name.name ≠ "html") (hhead : lowerName name.name ≠ "head")
    (hmetadata : (metadataNames.contains (lowerName name.name) || lowerName name.name == "noscript") = false)
    (hbody : lowerName name.name ≠ "body") (hframeset : lowerName name.name ≠ "frameset") :
    Branch.toNodes ((default : Builder).read (Node.element name attributes nodes).markup).branches =
      wrapped [] [.element name attributes nodes] := by
  have htag : (Tag.reread name attributes).name ≠ "html" := hhtml
  obtain ⟨f, b, hbefore, hf, hattributes, hbare, hleads⟩ := exists_inBody htag hhead hmetadata hbody hframeset
  obtain ⟨branch, b', hbare', htoNode, hread⟩ := exists_read .body hleads (by decide) hbare hf rfl hfits
  have hinside : Branch.toNodes [branch] = [.element name attributes nodes] := by
    rw [Branch.toNodes, htoNode]
    rfl
  rw [hread, handle_of_settlesIn (Bare.settlesIn_end hbare' hf) (by decide), hbare'.tree.branches,
    toNodes_nest_region hf [] hinside, hbefore, hattributes]
  rfl

/-! ### Document elements -/

/-- A head is read back with a body supplied behind it. -/
theorem toNodes_read_head (hfits : Region.head.fits attributes nodes = true) :
    Branch.toNodes ((default : Builder).read (Node.element Region.head.element attributes nodes).markup).branches =
      [.element ⟨.html, "html"⟩ [] [.element Region.head.element attributes nodes,
        .element ⟨.html, "body"⟩ [] []]] := by
  have htag : (Tag.reread Region.head.element attributes).name ≠ "html" := (by decide : lowerName "head" ≠ "html")
  obtain ⟨b, hbare, hleads⟩ := exists_root_of_other htag
  obtain ⟨f, inside, b', hbefore, hf, hattributes, hbehind, htoNodes, hread⟩ :=
    exists_region hleads (by decide) rfl rfl hbare rfl hfits
  obtain ⟨g, b₂, hgBefore, hg, hgAttributes, hbody, hsettles⟩ := Bare.exists_end_afterHead hbehind rfl
  have hhead : Branch.toNodes g.before = [.element Region.head.element attributes nodes] := by
    rw [hgBefore, toNodes_filled hf htoNodes, hbefore, hattributes]
    rfl
  have hall := hread []
  rw [List.append_nil] at hall
  rw [hall, read, handle_of_settlesIn hsettles (by decide), hbody.tree.branches,
    toNodes_nest_region hg [] (rfl : Branch.toNodes [] = []), hhead, hgAttributes]
  rfl

/-- A body or a frameset is read back with an empty head supplied in front of it. -/
theorem toNodes_read_region (hregion : region = .body ∨ region = .frameset)
    (hfits : region.fits attributes nodes = true) :
    Branch.toNodes ((default : Builder).read (Node.element region.element attributes nodes).markup).branches =
      [.element ⟨.html, "html"⟩ [] [.element ⟨.html, "head"⟩ [] [],
        .element region.element attributes nodes]] := by
  have hmode : region.modeBefore = .afterHead := by rcases hregion with rfl | rfl <;> rfl
  have hhtml : (Tag.reread region.element attributes).name ≠ "html" := by
    change lowerName region.name ≠ "html"
    rcases hregion with rfl | rfl <;> decide
  have hother : lowerName region.name ≠ "head" ∧
      (metadataNames.contains (lowerName region.name) || lowerName region.name == "noscript") = false := by
    rcases hregion with rfl | rfl <;> decide
  obtain ⟨before, b, hbefore, hbare, hleads⟩ := exists_afterHead hhtml hother.1 hother.2
  obtain ⟨f, inside, b', rfl, hf, hattributes, hbehind, htoNodes, hread⟩ :=
    exists_region hleads (by decide) rfl rfl (hmode ▸ hbare) rfl hfits
  have hend : (b'.handle .endOfInput).branches = nest [f, rootFrame []] inside := by
    rcases hregion with rfl | rfl
    · have hbody : Bare .afterBody [f, rootFrame []] inside b' := hbehind
      refine (hbody.branches_handle (by rw [hf]; rfl) ?_)
      rw [byMode, hbody.mode]
      rfl
    · have hframeset : Bare .afterFrameset [rootFrame []] (f.filled inside) b' := hbehind
      refine (hframeset.branches_handle rfl ?_)
      rw [byMode, hframeset.mode]
      rfl
  have hall := hread []
  rw [List.append_nil] at hall
  rw [hall, read, hend, toNodes_nest_region hf [] htoNodes, hbefore, hattributes]
  rfl

end Construction.Builder

end Markup

end MarkupModule
