import StaticSite.Text.Blank

/-!
Contract: links that are safe to put into a page.

Owns:
- the scheme that a link seems to have once blanks and control characters are
  ignored;
- the schemes that may stand in a page;
- the filter for links, which also encodes quotes and backslashes.

Does not own: escaping for markup (see `StaticSite.Text.Entity`).
-/

namespace StaticSite.Url

def allowedSchemes : List String :=
  ["http", "https", "mailto", "tel"]

/-- What stands in for a link that may not be used. -/
def harmless : String := "#"

/-- Characters that do not count when the scheme of a link is looked for. -/
def isIgnorable (character : Char) : Bool :=
  Text.isBlank character || character.toNat < 32

/-- A letter in lower case, if its lower case is a Latin letter. -/
def lowerLetter (character : Char) : Char :=
  if 'A' ≤ character ∧ character ≤ 'Z' then Char.ofNat (character.toNat + 32)
  else if character == '\u212a' then 'k'
  else character

def isSmallLetter (character : Char) : Bool :=
  'a' ≤ character && character ≤ 'z'

/-- Whether a character may stand in a scheme after its first letter. -/
def isSchemeCharacter (character : Char) : Bool :=
  isSmallLetter character || character.isDigit || character == '+' || character == '.'
    || character == '-'

/-- A link as it counts for its scheme. -/
def compact (link : List Char) : List Char :=
  (link.filter fun character => !isIgnorable character).map lowerLetter

/-- The scheme of a compact link: a letter and scheme characters before a colon. -/
def schemeOf? (link : List Char) : Option (List Char) :=
  match link with
  | [] => none
  | first :: _ =>
      if isSmallLetter first && (link.dropWhile isSchemeCharacter).head? == some ':' then
        some (link.takeWhile isSchemeCharacter)
      else
        none

/-- Whether a link has a scheme that may not stand in a page. -/
def hasForbiddenScheme (link : List Char) : Bool :=
  match schemeOf? (compact link) with
  | none => false
  | some scheme => !allowedSchemes.contains (String.ofList scheme)

/-- A character of a link; quotes and backslashes are percent-encoded, so that none
of them ends a quoted text early. -/
def encodeCharacter (character : Char) : List Char :=
  match character with
  | '\'' => ['%', '2', '7']
  | '"' => ['%', '2', '2']
  | '\\' => ['%', '5', 'C']
  | other => [other]

/-- The form in which a link may stand in a page. -/
def safe (link : String) : String :=
  let trimmed := Text.dropEndsWhile Text.isBlank link.toList
  if hasForbiddenScheme trimmed then
    harmless
  else
    String.ofList (trimmed.flatMap encodeCharacter)

end StaticSite.Url
