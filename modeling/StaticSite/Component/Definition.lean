import StaticSite.Association
import StaticSite.Component.Node
import StaticSite.Markup.Template
import StaticSite.Schema.Coercion
import StaticSite.Script.Code
import StaticSite.Style.Rule

/-!
Contract: what makes up a type of component.

Owns:
- fragments: markup, style, script, and at most one warning about a problem that was worked around;
- visible notes in the place of a component;
- definitions: fields, markup, style, script, required fields, and values derived
  from the declared ones;
- positions of list items;
- the fragment that a definition gives for a component.

Does not own: the container around a fragment (see `StaticSite.Emission.Container`).
-/

namespace StaticSite.Component

open StaticSite.Markup

/-! ## Fragments -/

/-- A problem that was worked around, with the component it concerns. -/
structure Warning where
  code : String
  message : String
  componentId : Option String
  deriving DecidableEq

/-- The contribution of one component. -/
structure Fragment where
  body : Html
  css : String
  js : Option String
  warning : Option Warning

/-- The note in the place of a component that cannot be shown. -/
def placeholder (message : String) : Html :=
  .element "div"
    [.fixed "class" "component-placeholder", .fixed "role" "note"]
    [.text [.anywhere message]]

/-- The note in the place of a component whose type is not known. -/
def unknownNote (type : String) : Html :=
  .element "div" [.fixed "class" "unknown-component"]
    [.text [.literal "Unknown component: ", .anywhere type]]

/-! ## Definitions -/

/-- A type of component. -/
structure Definition where
  type : String
  fields : List Schema.Field
  markup : Template
  style : List Style.Rule := []
  script : List Script.Code := []
  required : List String := []
  derive : Json.Members → Json.Members := id

/-! ## Positions of list items -/

/-- An item with its position, whether it is the first, and the side on which it
stands when items alternate. -/
def withPosition (index : Nat) (item : Json) : Json :=
  match item with
  | .object members =>
      .object
        (Association.bind "side" (.text (if index % 2 = 0 then "left" else "right"))
          (Association.bind "first" (.bool (index == 0))
            (Association.bind "index" (.int index) members)))
  | other => other

def withPositions (items : List Json) : List Json :=
  items.zipIdx.map fun entry => withPosition entry.2 entry.1

/-- The values of a component with positions added to the items of one list. -/
def positionsIn (name : String) (values : Json.Members) : Json.Members :=
  match values.lookup name with
  | some (.array items) => Association.bind name (.array (withPositions items)) values
  | _ => values

/-- The values of a component with `change` applied to each record of one list. -/
def mapRecordsIn (name : String) (change : Json.Members → Json.Members)
    (values : Json.Members) : Json.Members :=
  match values.lookup name with
  | some (.array items) =>
      Association.bind name
        (.array (items.map fun item =>
          match item with
          | .object members => .object (change members)
          | other => other))
        values
  | _ => values

/-! ## The fragment of a component -/

def containerSelector (node : Node) : String :=
  "#component-" ++ node.id

def Definition.missing (definition : Definition) (values : Json.Members) : List String :=
  definition.required.filter fun name =>
    !((values.lookup name).getD .null).isTruthy

/-- The fragment for a component that lacks required fields. -/
def Definition.incomplete (definition : Definition) (node : Node) (missing : List String) :
    Fragment :=
  let label := ", ".intercalate missing
  { body := placeholder (definition.type ++ ": missing " ++ label)
    css := ""
    js := none
    warning := some
      { code := "missing_required_prop"
        message := definition.type ++ " component is missing required prop(s): " ++ label
        componentId := some node.id } }

def Definition.styleFor (definition : Definition) (node : Node) : String :=
  if definition.style.isEmpty then
    ""
  else
    "\n" ++ Style.scopedText (Text.escapeContent (containerSelector node)) definition.style

def Definition.scriptText? (definition : Definition) : Option String :=
  if definition.script.isEmpty then none else some ("\n" ++ Script.text definition.script)

/-- The values in whose scope the markup of a component is filled. -/
def Definition.scope (definition : Definition) (node : Node) (values : Json.Members) : Json :=
  .object (definition.derive values ++ [("component_id", .text node.id)])

def Definition.complete (definition : Definition) (node : Node) (values : Json.Members) :
    Fragment :=
  { body := .row (definition.markup.fill [definition.scope node values])
    css := definition.styleFor node
    js := definition.scriptText?
    warning := none }

def Definition.fragment (definition : Definition) (node : Node) :
    Except Schema.CoercionError Fragment :=
  (Schema.coerceFields node.props definition.fields).map fun values =>
    match definition.missing values with
    | [] => definition.complete node values
    | missing => definition.incomplete node missing

end StaticSite.Component
