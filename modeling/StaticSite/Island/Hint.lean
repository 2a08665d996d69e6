import StaticSite.Component.Node

/-!
Contract: files that a browser may load early or late.

Owns:
- files to load ahead: the background of a hero and custom fonts;
- files that can wait: the pictures of a gallery after the first few.

Does not own: which of them a page lists (see `StaticSite.Page.Compile`).
-/

namespace StaticSite.Island

open StaticSite.Component

/-- A stored text without blanks at its ends; anything else counts as empty. -/
def trimmedText (stored : Json) : String :=
  match stored with
  | .text value => Text.strip value
  | _ => ""

def nonempty (texts : List String) : List String :=
  texts.filter (· != "")

/-- The number of pictures of a gallery that are not to wait. -/
def eagerPictures : Nat := 3

def backgroundOf (node : Node) : List String :=
  if node.type == "hero" then nonempty [trimmedText (node.prop "backgroundImage")] else []

def fontOf (node : Node) : List String :=
  (nonempty [trimmedText (node.prop "fontFamily")]).map fun font =>
    "/fonts/" ++ font ++ ".woff2"

/-- The files to load ahead for a component. -/
def preloads (node : Node) : List String :=
  backgroundOf node ++ fontOf node

/-- The sources of the pictures that a list of stored values holds. -/
def pictureSources (items : List Json) : List String :=
  items.filterMap fun item =>
    match item with
    | .object members => some (trimmedText ((members.lookup "src").getD .null))
    | _ => none

/-- The files of a component that can wait. -/
def deferrals (node : Node) : List String :=
  if node.type == "gallery" then
    match node.prop "images" with
    | .array items => nonempty ((pictureSources items).drop eagerPictures)
    | _ => []
  else
    []

end StaticSite.Island
