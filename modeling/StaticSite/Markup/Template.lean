import StaticSite.Json.Display
import StaticSite.Markup.Html

/-!
Contract: markup with places for values.

Owns:
- templates of attribute values, attributes and nodes;
- look-up of names in the scopes around a place;
- filling a template, which gives a tree of markup.

Does not own: the scopes' values (see `StaticSite.Schema.Coercion`).

A named value that is a list repeats what depends on it once for each item, in the
scope of that item; any other present value admits it once; an absent value leaves
it out.
-/

namespace StaticSite.Markup

/-- A part of an attribute value or of a text. -/
inductive Part where
  | literal (text : String)
  | value (name : String)
  | current
  | present (name : String) (parts : List Part)
  | absent (name : String) (parts : List Part)

/-- An attribute with places for values. -/
inductive AttributeTemplate where
  | valued (name : String) (parts : List Part)
  | bare (name : String)
  | present (name : String) (attributes : List AttributeTemplate)
  | absent (name : String) (attributes : List AttributeTemplate)

/-- A node with places for values.  In a block, `perItem` gives the lines of each
item, while `inline` stays on one line however many items there are. -/
inductive Template where
  | text (part : Part)
  | element (tag : String) (attributes : List AttributeTemplate) (children : List Template)
  | void (tag : String) (attributes : List AttributeTemplate)
  | block (tag : String) (attributes : List AttributeTemplate) (children : List Template)
  | row (children : List Template)
  | inline (name : String) (children : List Template)
  | perItem (name : String) (children : List Template)

instance : Coe String Part := ⟨.literal⟩
instance : Coe String Template := ⟨fun text => .text (.literal text)⟩

def attr (name literal : String) : AttributeTemplate :=
  .valued name [.literal literal]

def slot (name valueName : String) : AttributeTemplate :=
  .valued name [.value valueName]

def field (valueName : String) : Template :=
  .text (.value valueName)

/-- The scopes around a place, the innermost first. -/
abbrev Scopes := List Json

/-- The value that a name has in the innermost scope that knows it. -/
def Scopes.lookup (scopes : Scopes) (name : String) : Json :=
  (scopes.findSome? (Json.member? name)).getD .null

/-- The scopes in which what depends on a value is filled, once for each of them. -/
def Scopes.enter (scopes : Scopes) : Json → List Scopes
  | .array items => items.map (· :: scopes)
  | value => if value.isTruthy then [value :: scopes] else []

/-- The text that a value fills in: nothing if it is absent, but numbers and truth
values always count. -/
def filledText : Json → String
  | .null => ""
  | .array [] => ""
  | .object [] => ""
  | value => value.display

mutual

def Part.fill (scopes : Scopes) : Part → List Piece
  | .literal text => [.literal text]
  | .value name => [.content (filledText (scopes.lookup name))]
  | .current => [.content (filledText (scopes.headD .null))]
  | .present name parts =>
      (scopes.enter (scopes.lookup name)).flatMap fun entered => fillParts entered parts
  | .absent name parts =>
      if (scopes.lookup name).isTruthy then [] else fillParts scopes parts

def fillParts (scopes : Scopes) : List Part → List Piece
  | [] => []
  | part :: others => part.fill scopes ++ fillParts scopes others

end

mutual

def AttributeTemplate.fill (scopes : Scopes) : AttributeTemplate → List Attribute
  | .valued name parts => [.valued name (fillParts scopes parts)]
  | .bare name => [.bare name]
  | .present name attributes =>
      (scopes.enter (scopes.lookup name)).flatMap fun entered =>
        fillAttributes entered attributes
  | .absent name attributes =>
      if (scopes.lookup name).isTruthy then [] else fillAttributes scopes attributes

def fillAttributes (scopes : Scopes) : List AttributeTemplate → List Attribute
  | [] => []
  | first :: others => first.fill scopes ++ fillAttributes scopes others

end

mutual

/-- The nodes that a template gives on one line. -/
def Template.fill (scopes : Scopes) : Template → List Html
  | .text part => [.text (part.fill scopes)]
  | .element tag attributes children =>
      [.element tag (fillAttributes scopes attributes) (fillInline scopes children)]
  | .void tag attributes => [.void tag (fillAttributes scopes attributes)]
  | .block tag attributes children =>
      [.block 2 tag (fillAttributes scopes attributes) (fillLines scopes children)]
  | .row children => fillInline scopes children
  | .inline name children =>
      (scopes.enter (scopes.lookup name)).flatMap fun entered =>
        fillInline entered children
  | .perItem name children =>
      (scopes.enter (scopes.lookup name)).flatMap fun entered =>
        fillInline entered children

/-- The nodes that some templates give on one line. -/
def fillInline (scopes : Scopes) : List Template → List Html
  | [] => []
  | child :: others => child.fill scopes ++ fillInline scopes others

/-- The nodes that some templates give on lines of their own, one node a line. -/
def fillLines (scopes : Scopes) : List Template → List Html
  | [] => []
  | .perItem name children :: others =>
      ((scopes.enter (scopes.lookup name)).flatMap fun entered =>
        fillLines entered children) ++ fillLines scopes others
  | child :: others => .row (child.fill scopes) :: fillLines scopes others

end

end StaticSite.Markup
