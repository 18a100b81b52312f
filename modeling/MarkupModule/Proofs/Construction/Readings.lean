import MarkupModule.Proofs.Construction.Content

/-! The tokens that a document is read from. Lexer and tree construction take turns, and each turn is a
reading: the state of the tree decides what the first tokens of the rest are, and the tokens lead to the
state of the next turn. -/

namespace MarkupModule.Markup

def Token.startName? : Token → Option String
  | .startTag tag => some tag.name
  | _ => none

namespace Construction

/-- One turn of the lexer, in a state of the tree, on a text that begins with `first`. -/
structure Reading where
  before : Builder
  first : Char
  behind : List Char

namespace Reading

/-- The tokens of the turn, and the text that follows them. -/
def lexed (r : Reading) : Lexer.Lexed :=
  Lexer.first r.before.content r.before.allowsSections r.first r.behind

/-- The state of the tree behind the tokens. -/
def after (r : Reading) : Builder :=
  r.lexed.tokens.foldl Builder.receive r.before

end Reading

/-- The turns in which a text is read from a state on. -/
def readings (b : Builder) (s : List Char) : List Reading :=
  match s with
  | [] => []
  | c :: cs =>
    let r : Reading := ⟨b, c, cs⟩
    r :: readings r.after r.lexed.rest
termination_by s.length
decreasing_by exact Lexer.length_first_lt b.content b.allowsSections c cs

/-- The turns in which a document is read. -/
def readingsOf (source : String) : List Reading :=
  readings default (prepare source)

/-- The tokens that tree construction gets from a document. -/
def emitted (source : String) : List Token :=
  (readingsOf source).flatMap fun r => r.lexed.tokens

/-- Whether a document has a start tag of this name. -/
def opensTag (source name : String) : Bool :=
  (emitted source).any fun token => token.startName? == some name

theorem readings_cons (b : Builder) (c : Char) (cs : List Char) :
    readings b (c :: cs) =
      ⟨b, c, cs⟩ :: readings (Reading.mk b c cs).after (Reading.mk b c cs).lexed.rest := by
  rw [readings]

theorem read_eq_handle (b : Builder) (s : List Char) :
    b.read s = (((readings b s).flatMap fun r => r.lexed.tokens).foldl Builder.receive b).handle
      .endOfInput := by
  fun_induction Builder.read b s with
  | case1 b =>
      rw [readings]
      rfl
  | case2 b c cs lexed ih =>
      rw [ih, readings_cons, List.flatMap_cons, List.foldl_append]
      rfl

/-- A document is what tree construction makes of its tokens. -/
theorem parse_eq_toNodes (source : String) :
    parse source =
      Branch.toNodes (((emitted source).foldl Builder.receive default).handle .endOfInput).branches := by
  rw [parse, read_eq_handle]
  rfl

namespace Builder

/-- In markup, only a start tag makes text of what follows. -/
theorem content_foldl_receive {tokens : List Token} (h : ∀ token ∈ tokens, token.startName? = none)
    {b : Builder} (hb : b.content = .markup) : (tokens.foldl receive b).content = .markup := by
  induction tokens generalizing b with
  | nil => exact hb
  | cons token rest ih =>
      rw [List.forall_mem_cons] at h
      rw [List.foldl_cons]
      apply ih h.2
      cases token with
      | startTag tag => cases h.1
      | endTag name => exact content_receive_endTag b name
      | _ => rw [content_receive b rfl, hb]

end Builder

end Construction

end MarkupModule.Markup
