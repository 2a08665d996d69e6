import StaticSite.Component.Definition
import StaticSite.Text.Comment

/-!
Contract: the container around the markup of each component.

Owns:
- the element of the container, which carries the id and the type of the component;
- the style rule of the container: sizes that the props ask for, the custom declarations of a
  component, and the characters that may not stand in either.

Does not own: what stands inside it, and the style of the type of the component (see
`StaticSite.Component.Definition`).
-/

namespace StaticSite.Emission

open StaticSite.Component StaticSite.Markup

/-! ## The element -/

/-- Markup without line breaks at its two ends.  Only verbatim markup can have any. -/
def trimmed : Html → Html
  | .verbatim content => .verbatim (Text.stripCharacter '\n' content)
  | other => other

/-- The container of a component around the given markup. -/
def container (node : Node) (body : Html) : Html :=
  .sheet "div"
    [ .valued "id" [.literal "component-", .anywhere node.id],
      .valued "class" [.literal "component ", .anywhere node.type],
      .holding "data-component-id" node.id ]
    [trimmed body]

/-! ## The style rule -/

/-- The characters that would end a rule or a style element. -/
def endsRule (character : Char) : Bool :=
  character == '\x7b' || character == '\x7d' || character == '<' || character == '>'

/-- The characters that would end the value of a declaration. -/
def endsValue (character : Char) : Bool :=
  character == ';' || endsRule character

def without (unwanted : Char → Bool) (text : String) : String :=
  String.ofList (text.toList.filter fun character => !unwanted character)

/-- A size: a number is a number of pixels, a text stands for itself. -/
def sizeText (stored : Json) (fallback : String) : String :=
  match stored with
  | .int value => toString value ++ "px"
  | .real value => value.text ++ "px"
  | .text value =>
      let size := Text.strip (without endsValue value)
      if size == "" then fallback else size
  | _ => fallback

/-- The lines for a component that adapts its width. -/
def sizeLines (node : Node) : List String :=
  match node.prop "responsive" with
  | .bool true =>
      [ "  display: block;",
        "  width: 100%;",
        "  max-width: " ++ sizeText (node.prop "maxWidth") "100%" ++ ";",
        "  margin: " ++ sizeText (node.prop "margin") "0 auto" ++ ";",
        "  padding: " ++ sizeText (node.prop "padding") "0" ++ ";" ]
  | _ => []

/-- The line with the custom declarations of a component, if it has any. -/
def customLines (node : Node) : List String :=
  match node.prop "customCSS" with
  | .text custom =>
      let declarations := Text.strip custom
      if declarations == "" then [] else ["  " ++ without endsRule declarations]
  | _ => []

def typeComment (type : String) : String :=
  "/* Component: " ++ Text.withoutCommentEnds (without endsRule type) ++ " */"

/-- The rule of the container of a component, under a comment with its type. -/
def baseRule (node : Node) : String :=
  Text.endLines
    ([typeComment node.type, containerSelector node ++ " \x7b"] ++
      sizeLines node ++ customLines node ++ ["\x7d"])

end StaticSite.Emission
