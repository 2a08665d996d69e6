import StaticSite.Text.Entity

/-!
Contract: markup as a tree and its text.

Owns:
- pieces of text, literal or to be escaped;
- elements with attributes, written inline or over several lines;
- the one place where a tree becomes text.

Does not own: which markup a page or a component has.
-/

namespace StaticSite.Markup

/-- A piece of text or of an attribute value.  A literal piece is markup of the
library itself and stands as it is; the others hold values, escaped for content or
for attributes in any quotes. -/
inductive Piece where
  | literal (text : String)
  | content (value : String)
  | anywhere (value : String)

def Piece.render : Piece → String
  | .literal text => text
  | .content value => Text.escapeContent value
  | .anywhere value => Text.escape value

def renderPieces (pieces : List Piece) : String :=
  String.join (pieces.map Piece.render)

/-- An attribute, with a value in double quotes or by its name alone. -/
inductive Attribute where
  | valued (name : String) (pieces : List Piece)
  | bare (name : String)

def Attribute.fixed (name literal : String) : Attribute :=
  .valued name [.literal literal]

def Attribute.holding (name value : String) : Attribute :=
  .valued name [.anywhere value]

/-- The text of an attribute, with the blank before it. -/
def Attribute.render : Attribute → String
  | .valued name pieces => " " ++ name ++ "=\"" ++ renderPieces pieces ++ "\""
  | .bare name => " " ++ name

/-- A tree of markup.  The children of an `element` follow its start tag directly; a
`block` has each child on a line of its own, `step` blanks deeper than its tags; a
`row` puts several nodes on one line; `verbatim` text is not escaped. -/
inductive Html where
  | text (pieces : List Piece)
  | verbatim (content : String)
  | element (tag : String) (attributes : List Attribute) (children : List Html)
  | void (tag : String) (attributes : List Attribute)
  | block (step : Nat) (tag : String) (attributes : List Attribute) (children : List Html)
  | row (children : List Html)

def startTag (tag : String) (attributes : List Attribute) : String :=
  "<" ++ tag ++ String.join (attributes.map Attribute.render) ++ ">"

def endTag (tag : String) : String :=
  "</" ++ tag ++ ">"

/-- The blanks at the head of a line. -/
def indentation (level : Nat) : String :=
  String.ofList (List.replicate level ' ')

namespace Html

mutual

/-- The text of a tree whose first line is indented by `level` blanks, without that
indentation. -/
def renderAt (level : Nat) : Html → String
  | .text pieces => renderPieces pieces
  | .verbatim content => content
  | .element tag attributes children =>
      startTag tag attributes ++ renderInline level children ++ endTag tag
  | .void tag attributes => startTag tag attributes
  | .block step tag attributes children =>
      startTag tag attributes ++ "\n" ++ renderLines (level + step) children ++
        indentation level ++ endTag tag
  | .row children => renderInline level children

/-- The texts of some trees, one directly after the other. -/
def renderInline (level : Nat) : List Html → String
  | [] => ""
  | child :: others => renderAt level child ++ renderInline level others

/-- The texts of some trees, each on lines of its own. -/
def renderLines (level : Nat) : List Html → String
  | [] => ""
  | child :: others =>
      indentation level ++ renderAt level child ++ "\n" ++ renderLines level others

end

def render (tree : Html) : String :=
  renderAt 0 tree

/-- An element whose children stand on lines of their own, not indented. -/
def sheet (tag : String) (attributes : List Attribute) (children : List Html) : Html :=
  .block 0 tag attributes children

end Html

end StaticSite.Markup
