import StaticSite.Json.Writer
import StaticSite.Page.Source
import StaticSite.Request.Violation

/-!
Contract: websites as clients submit them.

Owns:
- the members that a website and its pages have, with their names and defaults;
- the rules for each member, in the order in which violations are listed;
- content that is submitted as a tree of values rather than as JSON text.

Does not own: what websites are compiled to.
-/

namespace StaticSite.Request

/-! ## Members -/

/-- The member of an object that is given under the first possible of some names,
with that name. -/
def givenMember (names : List String) (members : Json.Members) : Option (String × Json) :=
  names.findSome? fun name => (members.lookup name).map fun value => (name, value)

/-- The rule for a text. -/
structure TextRule where
  least : Nat := 0
  most : Option Nat := none
  pattern : Option (String × (Char → Bool)) := none

/-- What is wrong with a text under a rule.  Its length is judged before its pattern. -/
def TextRule.cause? (rule : TextRule) (text : String) : Option Cause :=
  let tooLong :=
    rule.most.bind fun most => if most < text.length then some (.tooLong most) else none
  let mismatch :=
    rule.pattern.bind fun pattern =>
      if text.toList.all pattern.2 then none else some (.unmatched pattern.1)
  if text.length < rule.least then some (.tooShort rule.least) else tooLong.or mismatch

/-- Checks that a value is a text under a rule. -/
def checkText (rule : TextRule) (value : Json) : Checked String :=
  match value with
  | .text text =>
      match rule.cause? text with
      | some cause => .reject cause value
      | none => .accepted text
  | _ => .reject .notText value

def requiredText (rule : TextRule) (name : String) (members : Json.Members) :
    Checked String :=
  match members.lookup name with
  | some value => (checkText rule value).within (.member name)
  | none => (Checked.reject .missing (.object members)).within (.member name)

/-- Checks a text that may be left out, which gives the default, or be null. -/
def optionalText (names : List String) (default : Option String) (members : Json.Members) :
    Checked (Option String) :=
  match givenMember names members with
  | none => .accepted default
  | some (_, .null) => .accepted none
  | some (name, value) => some <$> (checkText {} value).within (.member name)

/-- Checks a text that may be left out, which gives the default. -/
def textOr (name default : String) (members : Json.Members) : Checked String :=
  match members.lookup name with
  | none => .accepted default
  | some value => (checkText {} value).within (.member name)

/-! ## Pages -/

/-- The largest number of characters of an id. -/
def idLimit : Nat := 200

def pageIdRule : TextRule :=
  { least := 1, most := some idLimit }

/-- Checks content, which may be null, text, or a tree to be written as JSON text. -/
def checkContent [Text.Halves] (value : Json) : Checked String :=
  match value with
  | .null => .accepted ""
  | .array _ => .accepted (value.write Json.asciiLayout)
  | .object _ => .accepted (value.write Json.asciiLayout)
  | _ => checkText {} value

/-- Checks the content of a page, which may be left out. -/
def pageContent [Text.Halves] (members : Json.Members) : Checked String :=
  match members.lookup "content" with
  | none => .accepted ""
  | some value => (checkContent value).within (.member "content")

def pageOfMembers [Text.Halves] (members : Json.Members) : Checked Page :=
  pure (fun id name slug content title description keywords =>
      { id := id
        name := name
        slug := slug
        content := some content
        metaTitle := title
        metaDescription := description
        metaKeywords := keywords })
    <*> requiredText pageIdRule "id" members
    <*> optionalText ["name"] none members
    <*> optionalText ["slug"] none members
    <*> pageContent members
    <*> optionalText ["metaTitle", "meta_title"] none members
    <*> optionalText ["metaDescription", "meta_description"] none members
    <*> optionalText ["metaKeywords", "meta_keywords"] none members

def checkPage [Text.Halves] (value : Json) : Checked Page :=
  match value with
  | .object members => pageOfMembers members
  | _ => .reject (.notObject "PageIn") value

/-! ## Websites -/

def pageLimit : Nat := 500

/-- Checks pages, which may be left out. -/
def websitePages [Text.Halves] (members : Json.Members) : Checked (List Page) :=
  match members.lookup "pages" with
  | none => .accepted []
  | some value =>
      Checked.within (.member "pages")
        (match value with
        | .array items =>
            if pageLimit < items.length then
              .reject (.tooManyItems pageLimit items.length) value
            else
              .items checkPage 0 items
        | _ => .reject .notList value)

/-- Whether a character may stand in the id of a website. -/
def isWebsiteIdCharacter (character : Char) : Bool :=
  character.isAlphanum || character == '_' || character == '-'

/-- The pattern of ids of websites, as violations show it. -/
def websiteIdPattern : String := "^[A-Za-z0-9_-]+$"

def websiteIdRule : TextRule :=
  { least := 1
    most := some idLimit
    pattern := some (websiteIdPattern, isWebsiteIdCharacter) }

def websiteOfMembers [Text.Halves] (members : Json.Members) : Checked Website :=
  pure (fun id name description language theme pages =>
      { id := id
        name := name
        description := description
        language := some (Text.firstOf [language] "en")
        theme := some theme
        pages := pages })
    <*> requiredText websiteIdRule "id" members
    <*> optionalText ["name"] none members
    <*> optionalText ["description"] none members
    <*> optionalText ["language"] (some "en") members
    <*> textOr "theme" "light" members
    <*> websitePages members

def checkWebsite [Text.Halves] (value : Json) : Checked Website :=
  match value with
  | .object members => websiteOfMembers members
  | _ => .reject (.notObject "WebsiteIn") value

end StaticSite.Request
