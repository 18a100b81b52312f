import MarkupModule.Markup.Writer
import MarkupModule.Proofs.Document.Order

/-! What a writer makes of a node depends on the nodes that it leaves out only as far as they stand at or
below that node. Two writers that agree there write the same, also when the node has another address for
the one than for the other. -/

namespace MarkupModule.Markup.Writer

/-- Writes what an element holds, behind its start tag. -/
def writeInside (w : Writer) (preserve : Bool) (address : Address) (tag : String) (out : List Char)
    (children : List Node) : Except Failure (List Char) :=
  if rawTextNames.contains tag then
    (w.rawBody tag (w.rawText address 0 children)).map fun body => put body out
  else w.writeNodes (preserve || keepsWhitespace tag) address 0 out children

theorem writeNode_element (w : Writer) (preserve : Bool) (address : Address) (out : List Char)
    (name : ElementName) (attributes : List Attribute) (children : List Node) :
    w.writeNode preserve address out (.element name attributes children) =
      if w.skips address then .ok out
      else (w.writeAttributes (put ('<' :: name.name.toList) out) attributes).bind fun opened =>
        if voidNames.contains name.name then .ok (put ['>'] opened)
        else (w.writeInside preserve address name.name (put ['>'] opened) children).map
          (put ("</".toList ++ name.name.toList ++ ['>'])) := by
  rw [writeNode]
  split
  · rfl
  · simp only [Bind.bind]
    congr 1
    funext opened
    split
    · rfl
    · rw [writeInside]
      split
      · cases w.rawBody name.name (w.rawText address 0 children) <;> rfl
      · cases w.writeNodes (preserve || keepsWhitespace name.name) address 0 (put ['>'] opened) children <;>
          rfl

theorem writeNodes_cons (w : Writer) (preserve : Bool) (address : Address) (start : Nat)
    (out : List Char) (node : Node) (rest : List Node) :
    w.writeNodes preserve address start out (node :: rest) =
      (w.writeNode preserve (address ++ [start]) out node).bind fun out' =>
        w.writeNodes preserve address (start + 1) out' rest := by
  rw [writeNodes]
  rfl

variable {w : Writer} {skips skips' : Address → Bool} {address address' : Address}

/-- The writer that leaves out other nodes. -/
def leavingOut (w : Writer) (skips : Address → Bool) : Writer :=
  { w with skips := skips }

@[simp]
theorem skips_leavingOut : (w.leavingOut skips).skips = skips :=
  rfl

@[simp]
theorem leavingOut_leavingOut : (w.leavingOut skips).leavingOut skips' = w.leavingOut skips' :=
  rfl

theorem rawBody_leavingOut (name : String) (raw : List Char) :
    (w.leavingOut skips).rawBody name raw = w.rawBody name raw :=
  rfl

theorem writeText_leavingOut (preserve : Bool) (out : List Char) (content : String) :
    (w.leavingOut skips).writeText preserve out content = w.writeText preserve out content :=
  rfl

theorem writeComment_leavingOut (out : List Char) (content : String) :
    (w.leavingOut skips).writeComment out content = w.writeComment out content :=
  rfl

theorem writeAttributes_leavingOut (out : List Char) (attributes : List Attribute) :
    (w.leavingOut skips).writeAttributes out attributes = w.writeAttributes out attributes := by
  induction attributes generalizing out with
  | nil => rfl
  | cons a rest ih =>
      rw [writeAttributes, writeAttributes]
      simp only [ih]
      rfl

/-- Whether the nodes at the positions from `start` on below an address, and the nodes below those, are
left out alike. -/
def AlikeFrom (skips skips' : Address → Bool) (address address' : Address) (start start' : Nat) : Prop :=
  ∀ i below, skips (address ++ (start + i) :: below) = skips' (address' ++ (start' + i) :: below)

theorem AlikeFrom.tail {start start' : Nat} (h : AlikeFrom skips skips' address address' start start') :
    AlikeFrom skips skips' address address' (start + 1) (start' + 1) := by
  intro i below
  have := h (i + 1) below
  rwa [← Nat.add_assoc, ← Nat.add_assoc, Nat.add_right_comm, Nat.add_right_comm start'] at this

theorem AlikeFrom.head {start start' : Nat} (h : AlikeFrom skips skips' address address' start start')
    (below : Address) : skips (address ++ [start] ++ below) = skips' (address' ++ [start'] ++ below) := by
  simpa using h 0 below

theorem rawText_congr {start start' : Nat} (h : AlikeFrom skips skips' address address' start start')
    (nodes : List Node) :
    (w.leavingOut skips).rawText address start nodes =
      (w.leavingOut skips').rawText address' start' nodes := by
  induction nodes generalizing start start' with
  | nil => rfl
  | cons node rest ih =>
      have hhead := h.head []
      simp only [List.append_nil] at hhead
      cases node with
      | text content => rw [rawText, rawText, ih h.tail, skips_leavingOut, skips_leavingOut, hhead]
      | element | comment | doctype | contents => rw [rawText, rawText, ih h.tail] <;> simp

theorem writeNodes_congr_of_writeNode {nodes : List Node}
    (hnode : ∀ node ∈ nodes, ∀ (preserve : Bool) {address address' : Address},
      (∀ below, skips (address ++ below) = skips' (address' ++ below)) → ∀ out,
        (w.leavingOut skips).writeNode preserve address out node =
          (w.leavingOut skips').writeNode preserve address' out node)
    {start start' : Nat} (h : AlikeFrom skips skips' address address' start start') (preserve : Bool)
    (out : List Char) :
    (w.leavingOut skips).writeNodes preserve address start out nodes =
      (w.leavingOut skips').writeNodes preserve address' start' out nodes := by
  induction nodes generalizing start start' out with
  | nil => rfl
  | cons node rest ih =>
      rw [List.forall_mem_cons] at hnode
      rw [writeNodes_cons, writeNodes_cons, hnode.1 preserve h.head]
      congr 1
      funext out'
      exact ih hnode.2 h.tail out'

/-- What a node is written as depends on the nodes that are left out at or below it. -/
theorem writeNode_congr (preserve : Bool) (node : Node)
    (h : ∀ below, skips (address ++ below) = skips' (address' ++ below)) (out : List Char) :
    (w.leavingOut skips).writeNode preserve address out node =
      (w.leavingOut skips').writeNode preserve address' out node := by
  induction node using Node.childInduction generalizing preserve address address' out with
  | step node ih =>
      have hself : skips address = skips' address' := by simpa using h []
      have hbelow : AlikeFrom skips skips' address address' 0 0 := fun i below => h _
      have hchildren : ∀ preserve out, (w.leavingOut skips).writeNodes preserve address 0 out node.children =
          (w.leavingOut skips').writeNodes preserve address' 0 out node.children := fun preserve out =>
        writeNodes_congr_of_writeNode
          (fun child hchild preserve _ _ h out => ih child hchild preserve h out) hbelow preserve out
      cases node with
      | element name attributes children =>
          rw [Node.children] at hchildren
          have hinside : ∀ out, (w.leavingOut skips).writeInside preserve address name.name out children =
              (w.leavingOut skips').writeInside preserve address' name.name out children := by
            intro out
            rw [writeInside, writeInside, rawText_congr hbelow children, hchildren, rawBody_leavingOut,
              rawBody_leavingOut]
          simp only [writeNode_element, skips_leavingOut, hself, writeAttributes_leavingOut, hinside]
      | text content =>
          rw [writeNode, writeNode, writeText_leavingOut, writeText_leavingOut, skips_leavingOut,
            skips_leavingOut, hself]
      | comment content =>
          rw [writeNode, writeNode, writeComment_leavingOut, writeComment_leavingOut, skips_leavingOut,
            skips_leavingOut, hself]
      | doctype => rfl
      | contents children =>
          rw [Node.children] at hchildren
          rw [writeNode, writeNode, hchildren, skips_leavingOut, skips_leavingOut, hself]

/-- A node that is left out is not written. -/
theorem writeNode_of_skips (h : w.skips address = true) (preserve : Bool) (out : List Char) (node : Node) :
    w.writeNode preserve address out node = .ok out := by
  cases node with
  | element name attributes children => rw [writeNode_element, if_pos h]
  | text content => rw [writeNode, if_pos h]
  | comment content => rw [writeNode, if_pos h]
  | doctype => rfl
  | contents children => rw [writeNode, if_pos h]

end MarkupModule.Markup.Writer
