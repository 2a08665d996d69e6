import StaticSite.Text.Split

/-!
Contract: style sheets as data and their text.

Owns:
- declarations, rules on one line or over several lines, and groups of rules;
- qualification of every selector by a scope;
- the text of a style sheet.

Does not own: any particular style.
-/

namespace StaticSite.Style

/-- A property and its value. -/
structure Declaration where
  property : String
  value : String

/-- A rule or a layout element of a style sheet.  The body of a `compact` rule stands
on one line and that of a `spread` rule has a line for each declaration; `group`
holds rules under a condition or a name; `gap` is an empty line. -/
inductive Rule where
  | compact (selectors : List String) (declarations : List Declaration)
  | spread (selectors : List String) (declarations : List Declaration)
  | group (heading : String) (rules : List Rule)
  | gap

def Declaration.text (declaration : Declaration) : String :=
  declaration.property ++ ": " ++ declaration.value ++ ";"

def compactBody (declarations : List Declaration) : String :=
  "\x7b " ++ " ".intercalate (declarations.map Declaration.text) ++ " \x7d"

/-- The lines of the selectors of a rule, the last of which `ending` follows. -/
def selectorLines (ending : String) : List String → List String
  | [] => []
  | [last] => [last ++ ending]
  | selector :: others => (selector ++ ",") :: selectorLines ending others

mutual

/-- The lines of a rule whose selectors are to be read through `qualify`. -/
def Rule.lines (qualify : String → String) : Rule → List String
  | .compact selectors declarations =>
      selectorLines (" " ++ compactBody declarations) (selectors.map qualify)
  | .spread selectors declarations =>
      selectorLines " \x7b" (selectors.map qualify) ++
        declarations.map (fun declaration => "  " ++ declaration.text) ++ ["\x7d"]
  | .group heading rules =>
      (heading ++ " \x7b") :: (ruleLines qualify rules).map ("  " ++ ·) ++ ["\x7d"]
  | .gap => [""]

def ruleLines (qualify : String → String) : List Rule → List String
  | [] => []
  | rule :: others => rule.lines qualify ++ ruleLines qualify others

end

def text (rules : List Rule) : String :=
  Text.endLines (ruleLines id rules)

/-- The text of rules that hold inside the element that `scope` selects. -/
def scopedText (scope : String) (rules : List Rule) : String :=
  Text.endLines (ruleLines (fun selector => scope ++ " " ++ selector) rules)

/-- Rules on one line each, all on one line. -/
def oneLineText (rules : List Rule) : String :=
  " ".intercalate (ruleLines id rules)

end StaticSite.Style
