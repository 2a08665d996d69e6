import StaticSite.Component.Node
import StaticSite.Script.Code
import StaticSite.Text.Blank
import StaticSite.Text.Comment

/-!
Contract: the script file of a page.

Owns:
- the frame in which the script of each component runs, once its container exists
  and apart from the others;
- the script of the whole page.

Does not own: the scripts of the types of components.
-/

namespace StaticSite.Page

open StaticSite.Component

/-- A line of a component's script inside its frame.  Blank lines become empty. -/
def framedLine (line : String) : String :=
  if Text.strip line == "" then "" else "    " ++ line

/-- The lines of a component's script inside its frame; a script without lines takes
one empty line. -/
def framedLines (script : String) : List String :=
  match Text.lines (Text.stripCharacter '\n' script) with
  | [] => [""]
  | lines => lines.map framedLine

def componentScript (node : Node) (script : String) : List String :=
  [ "  /* " ++ Text.withoutCommentEnds node.type ++ " (" ++ node.id ++ ") */",
    "  onReady(function () \x7b",
    "    var el = document.getElementById('component-" ++ node.id ++ "');",
    "    if (!el) return;",
    "    try \x7b" ] ++
  framedLines script ++
  [ "    \x7d catch (error) \x7b",
    "      console.error('Component " ++ node.id ++ " script failed:', error);",
    "    \x7d",
    "  \x7d);" ]

/-- The first lines of the script of a page: a function that runs another one once
the document is there. -/
def scriptHead : List String :=
  [ "(function () \x7b",
    "  function onReady(fn) \x7b",
    "    if (document.readyState === 'loading') \x7b",
    "      document.addEventListener('DOMContentLoaded', fn);",
    "    \x7d else \x7b",
    "      fn();",
    "    \x7d",
    "  \x7d" ]

def scriptFoot : List String :=
  ["\x7d)();"]

/-- The script of a page with the framed scripts of its components. -/
def pageScript (componentScripts : List (List String)) : String :=
  Text.endLines (scriptHead ++ componentScripts.flatten ++ scriptFoot)

end StaticSite.Page
