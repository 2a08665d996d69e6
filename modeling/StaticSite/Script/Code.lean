import StaticSite.Text.Split

/-!
Contract: scripts as nested blocks of lines and their text.

Owns:
- lines, blocks in braces, and pairs of blocks;
- indentation, and empty lines between groups;
- the headings of the parts of a script;
- the text of a script.

Does not own: any particular script.
-/

namespace StaticSite.Script

/-- A piece of code.  The body of a `block` stands in braces between `opening` and
`closing`; `either` has two bodies with `middle` between their braces. -/
inductive Code where
  | line (text : String)
  | block (opening : String) (body : List Code) (closing : String)
  | either (opening : String) (first : List Code) (middle : String)
      (second : List Code) (closing : String)

instance : Coe String Code := ⟨.line⟩

/-- A line moved to the right; empty lines stay empty. -/
def indent (width : Nat) (line : String) : String :=
  if line == "" then "" else String.ofList (List.replicate width ' ') ++ line

mutual

def Code.lines : Code → List String
  | .line text => [text]
  | .block opening body closing =>
      (opening ++ "\x7b") :: (codeLines body).map (indent 2) ++ ["\x7d" ++ closing]
  | .either opening first middle second closing =>
      (opening ++ "\x7b") :: (codeLines first).map (indent 2) ++
        ("\x7d" ++ middle ++ "\x7b") :: (codeLines second).map (indent 2) ++
          ["\x7d" ++ closing]

def codeLines : List Code → List String
  | [] => []
  | first :: others => first.lines ++ codeLines others

end

/-- Groups of code with an empty line between. -/
def apart (groups : List (List Code)) : List Code :=
  (groups.intersperse [.line ""]).flatten

/-- The rule above and below the title of a part of a script. -/
def headingRule : String :=
  "// " ++ String.ofList (List.replicate 73 '-')

/-- The title of a part of a script, with an empty line after it. -/
def heading (title : String) : List Code :=
  [headingRule, "// " ++ title, headingRule, ""]

def text (code : List Code) : String :=
  Text.endLines (codeLines code)

end StaticSite.Script
