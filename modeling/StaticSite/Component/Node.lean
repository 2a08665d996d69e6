import StaticSite.Json.Display
import StaticSite.Text.Blank

/-!
Contract: the components of a page as they are stored.

Owns:
- a component with its id, type and props;
- ids that are safe in markup, in selectors and as keys;
- reading a component from the object that stores it.

Does not own: uniqueness of ids on a page (see `StaticSite.Page.Content`).
-/

namespace StaticSite.Component

/-- One component of a page. -/
structure Node where
  id : String
  type : String
  props : Json.Members
  deriving Inhabited

/-- Whether a character may stand in an id: a Latin letter, a digit, a low line or a
hyphen. -/
def isIdCharacter (character : Char) : Bool :=
  character.isAlphanum || character == '_' || character == '-'

/-- A character of an id, or a hyphen in the place of one that may not stand there. -/
def idCharacter (character : Char) : Char :=
  if isIdCharacter character then character else '-'

/-- A text with hyphens in the places of characters that may not stand in an id. -/
def hyphenate (text : String) : String :=
  String.ofList (text.toList.map idCharacter)

/-- The id that is stored, made safe; without one, the position in the page. -/
def normalizeId (stored : Json) (index : Nat) : String :=
  let text :=
    match stored with
    | .null => ""
    | other => Text.strip other.display
  if text == "" then "c" ++ toString index else hyphenate text

/-- The type that is stored, as a text. -/
def typeOf (stored : Json) : String :=
  if stored.isTruthy then stored.display else ""

/-- The component that an object stores at a position of a page. -/
def Node.ofMembers (members : Json.Members) (index : Nat) : Node :=
  { id := normalizeId ((members.lookup "id").getD .null) index
    type := typeOf ((members.lookup "type").getD .null)
    props :=
      match members.lookup "props" with
      | some (.object props) => props
      | _ => [] }

/-- The value of a prop; null if it is not stored. -/
def Node.prop (node : Node) (name : String) : Json :=
  (node.props.lookup name).getD .null

end StaticSite.Component
