import MessageLint.Source.Outline.Tree

/-!
# MessageLint — the pieces of a program

What of a program becomes a node: every expression without its parentheses, every attribute, pair of
braces and inline text, and the program itself. The pieces are listed in source order, each before
what is inside it, without a tree and without a stack of open nodes. A node of a tree is compared
with a piece by `Piece.ShownBy`: its children stand for the pieces inside, and each link of its
payload for the expression it is named after.
-/

namespace MessageLint

/-- The links of a payload, in source order. -/
def Payload.links : Payload → List NodeId
  | template _ expressions => expressions
  | taggedTemplate tag quoted => tag.toList ++ quoted.toList
  | call callee arguments => callee.toList ++ arguments
  | jsxElement _ attributes => attributes
  | jsxAttribute _ value => value.toList
  | jsxContainer expression => expression.toList
  | program | identifier _ | member | stringLiteral _ | jsxText _ | other _ => []

namespace Source

/-- What becomes a node, with what it is made of. -/
inductive Piece where
  | program (start : Nat) (parts : List Part)
  | identifier (start : Nat) (name : String)
  | string (start : Nat) (value : String)
  | template (start : Nat) (quasis : List (Option String)) (holes : List Expr)
  | tagged (start : Nat) (tag : Expr) (quotedAt : Nat) (quasis : List (Option String))
      (holes : List Expr)
  | call (start : Nat) (callee : Option Expr) (arguments : List Expr)
  | member (start : Nat) (parts : List Part)
  | element (start : Nat) (name : Option String) (attributes : List Attribute)
      (children : List Part)
  | namedAttribute (start : Nat) (name : String) (value : AttributeValue)
  | braces (start : Nat) (inner : Option Expr)
  | inlineText (start : Nat) (value : String)
  | other (start : Nat) (label : Label) (parts : List Part)

/-! ## The piece of an expression, a part and an attribute -/

/-- The piece of an expression: the expression itself, without parentheses around it. -/
def Expr.piece : Expr → Piece
  | identifier start name => .identifier start name
  | paren _ inner => inner.piece
  | string start value => .string start value
  | template start quasis holes => .template start quasis holes
  | tagged start tag quotedAt quasis holes => .tagged start tag quotedAt quasis holes
  | call start callee es => .call start callee es
  | member start parts => .member start parts
  | element start name attributes children => .element start name attributes children
  | other start label parts => .other start label parts

def Part.piece : Part → Piece
  | expr e => e.piece
  | inlineText start value => .inlineText start value
  | braces start inner => .braces start inner

/-- The piece of an attribute; a spread attribute is known by its expression. -/
def Attribute.piece : Attribute → Piece
  | named start name value => .namedAttribute start name value
  | spread e => e.piece

def Attribute.isNamed : Attribute → Bool
  | named .. => true
  | spread _ => false

/-- The piece of an attribute's value. A fragment is no piece. -/
def AttributeValue.piece? : AttributeValue → Option Piece
  | absent => none
  | expr e => some e.piece
  | braces start inner => some (.braces start inner)
  | fragment _ => none

/-- The pieces directly below an attribute with this value. -/
def AttributeValue.inner : AttributeValue → List Piece
  | fragment children => children.map Part.piece
  | value => value.piece?.toList

namespace Piece

/-- Where a piece is said to stand. -/
def place : Piece → Nat
  | program start _ | identifier start _ | string start _ | template start _ _
  | tagged start _ _ _ _ | call start _ _ | member start _ | element start _ _ _
  | namedAttribute start _ _ | braces start _ | other start _ _ => start
  | inlineText start value => textStart start value

/-- The pieces directly inside a piece, in source order. -/
def inner : Piece → List Piece
  | program _ parts | member _ parts | other _ _ parts => parts.map Part.piece
  | template _ _ holes => holes.map Expr.piece
  | tagged _ tag quotedAt quasis holes => [tag.piece, .template quotedAt quasis holes]
  | call _ callee es => callee.toList.map Expr.piece ++ es.map Expr.piece
  | element _ _ attributes children => attributes.map Attribute.piece ++ children.map Part.piece
  | namedAttribute _ _ value => value.inner
  | braces _ inner => inner.toList.map Expr.piece
  | identifier .. | string .. | inlineText .. => []

end Piece

/-! ## All pieces, in source order -/

mutual

def Expr.pieces : Expr → List Piece
  | .identifier start name => [.identifier start name]
  | .paren _ inner => inner.pieces
  | .string start value => [.string start value]
  | .template start quasis holes => .template start quasis holes :: exprsPieces holes
  | .tagged start tag quotedAt quasis holes =>
    .tagged start tag quotedAt quasis holes ::
      (tag.pieces ++ .template quotedAt quasis holes :: exprsPieces holes)
  | .call start callee es => .call start callee es :: (expr?Pieces callee ++ exprsPieces es)
  | .member start parts => .member start parts :: partsPieces parts
  | .element start name attributes children =>
    .element start name attributes children ::
      (attributesPieces attributes ++ partsPieces children)
  | .other start label parts => .other start label parts :: partsPieces parts

def expr?Pieces : Option Expr → List Piece
  | none => []
  | some e => e.pieces

def exprsPieces : List Expr → List Piece
  | [] => []
  | e :: es => e.pieces ++ exprsPieces es

def Part.pieces : Part → List Piece
  | .expr e => e.pieces
  | .inlineText start value => [.inlineText start value]
  | .braces start inner => .braces start inner :: expr?Pieces inner

def partsPieces : List Part → List Piece
  | [] => []
  | p :: ps => p.pieces ++ partsPieces ps

def attributesPieces : List Attribute → List Piece
  | [] => []
  | .spread e :: rest => e.pieces ++ attributesPieces rest
  | .named start name value :: rest =>
    .namedAttribute start name value :: (value.pieces ++ attributesPieces rest)

def AttributeValue.pieces : AttributeValue → List Piece
  | .absent => []
  | .expr e => e.pieces
  | .braces start inner => .braces start inner :: expr?Pieces inner
  | .fragment children => partsPieces children

end

/-- All pieces of a program, each before what is inside it. -/
def Outline.pieces (o : Outline) : List Piece := .program o.start o.parts :: partsPieces o.parts

/-! ## Nodes that show a piece -/

/-- Each of the numbers is that of the corresponding piece in a list of pieces. -/
def Numbers (all : List Piece) (ids : List NodeId) (ps : List Piece) : Prop :=
  ids.map (all[·]?) = ps.map some

namespace Numbers

variable {all ps qs : List Piece} {ids js : List NodeId}

theorem nil (all : List Piece) : Numbers all [] [] := rfl

theorem append (h : Numbers all ids ps) (h' : Numbers all js qs) :
    Numbers all (ids ++ js) (ps ++ qs) := by
  rw [Numbers, List.map_append, List.map_append, h, h']

theorem length_eq (h : Numbers all ids ps) : ids.length = ps.length := by
  simpa using congrArg List.length h

/-- Pieces that follow do not change a number. -/
theorem extend (h : Numbers all ids ps) (more : List Piece) : Numbers (all ++ more) ids ps := by
  unfold Numbers at h ⊢
  rw [← h]
  refine List.map_congr_left fun id hId => ?_
  -- every number in use is that of a piece, so it lies before the end of the list
  have hMem : all[id]? ∈ ps.map some := by
    rw [← h]
    exact List.mem_map_of_mem hId
  obtain ⟨piece, -, hPiece⟩ := List.mem_map.mp hMem
  obtain ⟨hLt, -⟩ := List.getElem?_eq_some_iff.mp hPiece.symm
  exact List.getElem?_append_left hLt

/-- The piece after some others has their number. -/
theorem singleton (prior : List Piece) (piece : Piece) (rest : List Piece) :
    Numbers (prior ++ piece :: rest) [prior.length] [piece] := by
  simp [Numbers]

end Numbers

namespace Piece

/-- The payload belongs to the piece, and its links lead to the expressions they are named after.
`Linked ids ps` is to say that each id leads to the corresponding piece. -/
def Fits (Linked : List NodeId → List Piece → Prop) : Piece → Payload → Prop
  | program _ _, payload => payload = .program
  | identifier _ name, payload => payload = .identifier name
  | string _ value, payload => payload = .stringLiteral value
  | template _ quasis holes, payload =>
    ∃ ids, payload = .template quasis ids ∧ Linked ids (holes.map Expr.piece)
  | tagged _ tag quotedAt quasis holes, payload =>
    ∃ tagId quotedId, payload = .taggedTemplate (some tagId) (some quotedId) ∧
      Linked [tagId, quotedId] [tag.piece, .template quotedAt quasis holes]
  | call _ callee es, payload =>
    ∃ calleeId ids, payload = .call calleeId ids ∧ calleeId.isSome = callee.isSome ∧
      Linked (calleeId.toList ++ ids) (callee.toList.map Expr.piece ++ es.map Expr.piece)
  | member _ _, payload => payload = .member
  | element _ name attributes _, payload =>
    ∃ ids, payload = .jsxElement name ids ∧
      Linked ids ((attributes.filter (·.isNamed)).map Attribute.piece)
  | namedAttribute _ name value, payload =>
    ∃ id, payload = .jsxAttribute name id ∧ Linked id.toList value.piece?.toList
  | braces _ inner, payload =>
    ∃ id, payload = .jsxContainer id ∧ Linked id.toList (inner.toList.map Expr.piece)
  | inlineText _ value, payload => payload = .jsxText value
  | other _ label _, payload => payload = .other label.name

theorem Fits.mono {L M : List NodeId → List Piece → Prop} {piece : Piece} {payload : Payload}
    (h : piece.Fits L payload) (hLM : ∀ ids ps, L ids ps → M ids ps) : piece.Fits M payload := by
  cases piece with
  | program | identifier | string | member | inlineText | other => exact h
  | template =>
    obtain ⟨ids, hPayload, hIds⟩ := h
    exact ⟨ids, hPayload, hLM _ _ hIds⟩
  | tagged =>
    obtain ⟨tagId, quotedId, hPayload, hIds⟩ := h
    exact ⟨tagId, quotedId, hPayload, hLM _ _ hIds⟩
  | call =>
    obtain ⟨calleeId, ids, hPayload, hCallee, hIds⟩ := h
    exact ⟨calleeId, ids, hPayload, hCallee, hLM _ _ hIds⟩
  | element =>
    obtain ⟨ids, hPayload, hIds⟩ := h
    exact ⟨ids, hPayload, hLM _ _ hIds⟩
  | namedAttribute =>
    obtain ⟨id, hPayload, hId⟩ := h
    exact ⟨id, hPayload, hLM _ _ hId⟩
  | braces =>
    obtain ⟨id, hPayload, hId⟩ := h
    exact ⟨id, hPayload, hLM _ _ hId⟩

/-- All links of a payload that fits are linked to something. -/
theorem Fits.links {L : List NodeId → List Piece → Prop} {piece : Piece} {payload : Payload}
    (h : piece.Fits L payload) (hNil : L [] []) : ∃ ps, L payload.links ps := by
  cases piece with
  | program | identifier | string | member | inlineText | other =>
    obtain rfl := h
    exact ⟨[], hNil⟩
  | template | element | namedAttribute | braces =>
    obtain ⟨_, rfl, hIds⟩ := h
    exact ⟨_, hIds⟩
  | tagged =>
    obtain ⟨_, _, rfl, hIds⟩ := h
    exact ⟨_, hIds⟩
  | call =>
    obtain ⟨_, _, rfl, _, hIds⟩ := h
    exact ⟨_, hIds⟩

/-- Only an inline text has the payload of one. -/
theorem Fits.of_jsxText {L : List NodeId → List Piece → Prop} {piece : Piece} {value : String}
    (h : piece.Fits L (.jsxText value)) : ∃ start, piece = .inlineText start value := by
  cases piece with
  | inlineText start value' =>
    obtain rfl := Payload.jsxText.inj h
    exact ⟨start, rfl⟩
  | _ => simp [Fits] at h

/-- Only a template has the payload of a template. -/
theorem Fits.of_template {L : List NodeId → List Piece → Prop} {piece : Piece}
    {quasis : List (Option String)} {ids : List NodeId} (h : piece.Fits L (.template quasis ids)) :
    ∃ start holes, piece = .template start quasis holes ∧ L ids (holes.map Expr.piece) := by
  cases piece with
  | template start quasis' holes =>
    obtain ⟨ids', hPayload, hIds⟩ := h
    obtain ⟨rfl, rfl⟩ := Payload.template.inj hPayload
    exact ⟨start, holes, rfl, hIds⟩
  | _ => simp [Fits] at h

/-- Only a template with a tag has the payload of one, and then with both links. -/
theorem Fits.of_taggedTemplate {L : List NodeId → List Piece → Prop} {piece : Piece}
    {tagId quotedId : Option NodeId} (h : piece.Fits L (.taggedTemplate tagId quotedId)) :
    ∃ a b tag quotedAt quasis holes, tagId = some a ∧ quotedId = some b ∧
      L [a, b] [Expr.piece tag, .template quotedAt quasis holes] := by
  cases piece with
  | tagged start tag quotedAt quasis holes =>
    obtain ⟨a, b, hPayload, hIds⟩ := h
    obtain ⟨rfl, rfl⟩ := Payload.taggedTemplate.inj hPayload
    exact ⟨a, b, tag, quotedAt, quasis, holes, rfl, rfl, hIds⟩
  | _ => simp [Fits] at h

/-- A node shows a piece: it stands where the piece does, its children are the nodes of the pieces
inside, in source order, and the links of its payload are those among them that it is to name.
Nodes are known by the numbers of their pieces. -/
structure ShownBy (locate : Nat → Position) (all : List Piece) (piece : Piece) (node : Node) :
    Prop where
  position : node.position = locate piece.place
  children : Numbers all node.children piece.inner
  payload : piece.Fits (fun ids ps => ids.Sublist node.children ∧ Numbers all ids ps) node.payload

theorem ShownBy.extend {locate : Nat → Position} {all : List Piece} {piece : Piece} {node : Node}
    (h : piece.ShownBy locate all node) (more : List Piece) :
    piece.ShownBy locate (all ++ more) node where
  position := h.position
  children := h.children.extend more
  payload := h.payload.mono fun _ _ hLinked => ⟨hLinked.1, hLinked.2.extend more⟩

end Piece

end Source

end MessageLint
