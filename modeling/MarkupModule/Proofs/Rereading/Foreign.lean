import MarkupModule.Proofs.Rereading.Closing

/-! Foreign elements at a site: drawings and mathematics. Inside a foreign element a tag opens another one of
the same vocabulary; in the body only `svg` and `math` begin one. The end tag of the innermost element
closes it, whatever mode the elements around it are read in. -/

namespace MarkupModule.Markup.Construction

open MarkupModule.Text

namespace Builder

theorem settlesIn_of_foreign {b b' : Builder} {event : Event} (hforeign : b.readsForeign event = true)
    (h : b.inForeign event = .done b') : SettlesIn 1 b event b' := by
  intro n hn
  obtain ⟨m, rfl⟩ := Nat.exists_eq_add_of_le hn
  rw [Nat.add_comm, settle, hforeign, if_pos rfl, h]

namespace Stands

variable {b : Builder} {modes : List Mode} {p q : Site} {f : Frame} {frames around : List Frame}
  {children : List Branch} {tag : Tag}

/-- What a state becomes when a foreign element is opened. -/
theorem openForeign_eq (h : Stands modes p frames children b) (hstays : b.StaysIn p)
    (hclosing : tag.selfClosing = false) (space : Namespace) :
    b.openForeign space tag =
      b.push frames (b.frameOf children ⟨space, tag.name⟩ (tag.attributes.map (foreignAttribute space))) := by
  rw [openForeign, hclosing, if_neg Bool.false_ne_true, h.insertOpen_eq hstays]

/-- Inside a foreign element a tag opens another one. -/
theorem settlesIn_foreignStart (h : Stands modes p frames children b) (hstays : b.StaysIn p)
    (hforeign : p.readsForeign (.startTag tag) = true) (hbreaks : breaksForeign tag = false)
    (hclosing : tag.selfClosing = false) {space : Namespace}
    (hspace : (p.innermost fun e => e.space == space) = true) :
    SettlesIn 1 b (.startTag tag)
      (b.push frames (b.frameOf children ⟨space, foreignElementName space tag.name⟩
        (tag.attributes.map (foreignAttribute space)))) := by
  refine settlesIn_of_foreign ((h.readsForeign_eq _).trans hforeign) ?_
  have hrenamed : ({ tag with name := foreignElementName space tag.name } : Tag).selfClosing = false := hclosing
  have hopen := h.openForeign_eq hstays hrenamed space
  obtain ⟨f, around, rfl, haround⟩ := h.exists_cons
  rw [Site.innermost, haround] at hspace
  obtain rfl : f.name.space = space := beq_iff_eq.mp hspace
  rw [inForeign]
  change (if breaksForeign tag = true then _ else _) = _
  rw [hbreaks, if_neg Bool.false_ne_true, foreignStart, h.opened_eq]
  exact congrArg Outcome.done hopen

/-- The elements that begin foreign markup in the body. -/
theorem bodyStart_foreign {space : Namespace}
    (hname : tag.name = "svg" ∧ space = .svg ∨ tag.name = "math" ∧ space = .mathml) (b : Builder) :
    b.bodyStart tag = .done (b.openForeign space tag) := by
  rcases hname with ⟨hname, rfl⟩ | ⟨hname, rfl⟩
  · rw [bodyStart, hname]
    rfl
  · rw [bodyStart, hname]
    rfl

theorem tableStart_foreign (hname : tag.name ∈ ["svg", "math"]) (b : Builder) :
    b.tableStart tag = b.inBodyFostered (.startTag tag) := by
  simp only [List.mem_cons, List.not_mem_nil, or_false] at hname
  rcases hname with hname | hname
  · rw [tableStart, hname]
    rfl
  · rw [tableStart, hname]
    rfl

/-- A drawing or a formula is no part of a table. -/
theorem byMode_foreignStart (hname : tag.name ∈ ["svg", "math"]) {b : Builder} (hbody : p.readsBody = true)
    (hmode : b.mode = p.mode) :
    b.byMode (.startTag tag) = b.bodyStart tag ∨
      p.innermost isTablePart = false ∧ b.byMode (.startTag tag) = b.inBodyFostered (.startTag tag) := by
  have hfacts : ∀ n ∈ ["svg", "math"], (tableGroupNames.contains n || ["td", "th", "tr"].contains n) = false ∧
      (tableGroupNames.contains n || n == "tr") = false ∧ tableGroupNames.contains n = false ∧
      ["th", "td"].contains n = false ∧ (n == "tr") = false := by
    decide
  obtain ⟨hparts, hrowParts, hgroups, hcells, hrow⟩ := hfacts _ hname
  have htable := tableStart_foreign hname b
  rw [Site.readsBody] at hbody
  rw [byMode, hmode]
  cases hp : p.mode with
  | inBody => exact Or.inl rfl
  | inCaption =>
      left
      dsimp only [inCaption]
      rw [hparts]
      rfl
  | inCell =>
      left
      dsimp only [inCell]
      rw [hparts]
      rfl
  | inTable =>
      rw [hp, Bool.not_eq_true'] at hbody
      exact Or.inr ⟨hbody, htable⟩
  | inTableBody =>
      rw [hp, Bool.not_eq_true'] at hbody
      refine Or.inr ⟨hbody, ?_⟩
      dsimp only [inTableBody]
      rw [hrow, hcells, hgroups]
      exact htable
  | inRow =>
      rw [hp, Bool.not_eq_true'] at hbody
      refine Or.inr ⟨hbody, ?_⟩
      dsimp only [inRow]
      rw [hcells, hrowParts]
      exact htable
  | _ =>
      rw [hp] at hbody
      cases hbody

/-- In the body a drawing or a formula is opened where it stands. -/
theorem exists_foreignRoot (h : Stands modes p frames children b) (hfoster : b.fosterParenting = false)
    (hbody : p.readsBody = true) {space : Namespace}
    (hname : tag.name = "svg" ∧ space = .svg ∨ tag.name = "math" ∧ space = .mathml)
    (hclosing : tag.selfClosing = false) :
    ∃ b', b.byMode (.startTag tag) = .done b' ∧
      Stands modes (p.inside p.mode ⟨space, tag.name⟩)
        (b.frameOf children ⟨space, tag.name⟩ (tag.attributes.map (foreignAttribute space)) :: frames) [] b' ∧
      b'.fosterParenting = false ∧ b'.skipLineFeed = b.skipLineFeed := by
  have hmem : tag.name ∈ ["svg", "math"] := by
    rcases hname with ⟨hname, -⟩ | ⟨hname, -⟩ <;> rw [hname] <;> decide
  have hneutral : isNeutral ⟨space, tag.name⟩ = true := by
    rcases hname with ⟨-, rfl⟩ | ⟨-, rfl⟩ <;> rfl
  have hplain : b.bodyStart tag = .done (b.push frames (b.frameOf children ⟨space, tag.name⟩
      (tag.attributes.map (foreignAttribute space)))) := by
    rw [bodyStart_foreign hname, h.openForeign_eq (staysIn hfoster p) hclosing]
  have hstands := h.pushNeutral hneutral (tag.attributes.map (foreignAttribute space))
  have hfostered : p.innermost isTablePart = false → b.inBodyFostered (.startTag tag) =
      .done (b.push frames (b.frameOf children ⟨space, tag.name⟩
        (tag.attributes.map (foreignAttribute space)))) := by
    intro hpart
    have hrule : ({ b with fosterParenting := true } : Builder).inBody (.startTag tag) =
        .done ({ b with fosterParenting := true }.push frames (b.frameOf children ⟨space, tag.name⟩
          (tag.attributes.map (foreignAttribute space)))) := by
      change ({ b with fosterParenting := true } : Builder).bodyStart tag = _
      rw [bodyStart_foreign hname, (h.fostering true).openForeign_eq hpart hclosing]
      rfl
    rw [inBodyFostered, hrule]
    dsimp only [Builder.push]
    rw [hfoster]
  have hmode : b.mode = p.mode := by
    refine h.mode_eq fun hselect => ?_
    rw [Site.readsBody, hselect] at hbody
    cases hbody
  have hopened := fun hrule => (⟨_, hrule, hstands, hfoster, rfl⟩ : ∃ b', b.byMode (.startTag tag) = .done b' ∧
    Stands modes (p.inside p.mode ⟨space, tag.name⟩)
      (b.frameOf children ⟨space, tag.name⟩ (tag.attributes.map (foreignAttribute space)) :: frames) [] b' ∧
    b'.fosterParenting = false ∧ b'.skipLineFeed = b.skipLineFeed)
  rcases byMode_foreignStart hmem hbody hmode with hrule | ⟨hpart, hrule⟩
  · exact hopened (hrule.trans hplain)
  · exact hopened (hrule.trans (hfostered hpart))

/-- The end tag of a foreign element closes it when it is the innermost one. -/
theorem closesBy_inForeign (h : Stands modes q (f :: around) children b) (hsurrounds : Surrounds modes p around)
    (hmode : q.mode = p.mode) (hspace : f.name.space ≠ .html) {name : String}
    (hname : lowerName f.name.name = lowerName name) (hbreaks : name ∉ ["br", "p"]) :
    ClosesBy modes p around (f.filled children) b (b.inForeign (.endTag name)) := by
  have hneutral := of_isNeutral (isNeutral_of_foreign hspace)
  have hformats : isFormattingName f.name = false := by
    rw [isFormattingName, htmlIn, beq_eq_false_iff_ne.mpr hspace]
    rfl
  have hrule : b.inForeign (.endTag name) = .done b.pop := by
    obtain ⟨g, rest, rfl⟩ := List.exists_cons_of_ne_nil hsurrounds.open_
    rw [inForeign, if_neg fun hcontains => hbreaks (List.contains_iff_mem.mp hcontains), h.opened_eq,
      List.map_cons, List.map_cons, foreignEnd, Bool.not_true, Bool.false_and, if_neg Bool.false_ne_true]
    rw [if_pos (by rw [Frame.opened, hname]; exact beq_self_eq_true _), pop, h.opened_eq]
    rfl
  rw [hrule]
  exact h.closesBy_pop hsurrounds hmode (isHtml_eq_false hneutral.2.1 (by simp)) hneutral.2.2 hformats

theorem readsForeign_endTag (h : Stands modes q (f :: around) children b) (name : String) :
    b.readsForeign (.endTag name) = (f.name.space != .html) := by
  rw [readsForeign, h.opened_eq, List.map_cons]
  simp [isCharacters, isStartTag, Frame.opened]

end Stands

end Builder

end MarkupModule.Markup.Construction
