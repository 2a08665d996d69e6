/-!
Contract: character entities of HTML.

Owns:
- escaping for text content and for quoted attribute values.

Does not own: which of the two a piece of markup needs.
-/

namespace StaticSite.Text

/-- A character inside element content or a double-quoted attribute: the
ampersand, the two angle brackets and the double quote become entities. -/
def contentEntity (character : Char) : List Char :=
  match character with
  | '&' => ['&', 'a', 'm', 'p', ';']
  | '<' => ['&', 'l', 't', ';']
  | '>' => ['&', 'g', 't', ';']
  | '"' => ['&', 'q', 'u', 'o', 't', ';']
  | other => [other]

/-- A character inside an attribute with either kind of quote: as for content,
and the single quote becomes a numeric entity. -/
def attributeEntity (character : Char) : List Char :=
  match character with
  | '\'' => ['&', '#', 'x', '2', '7', ';']
  | other => contentEntity other

/-- A text made safe for element content and double-quoted attributes. -/
def escapeContent (text : String) : String :=
  String.ofList (text.toList.flatMap contentEntity)

/-- A text made safe for element content and for attributes in any quotes. -/
def escape (text : String) : String :=
  String.ofList (text.toList.flatMap attributeEntity)

theorem toList_escapeContent (text : String) :
    (escapeContent text).toList = text.toList.flatMap contentEntity :=
  String.toList_ofList

theorem toList_escape (text : String) :
    (escape text).toList = text.toList.flatMap attributeEntity :=
  String.toList_ofList

end StaticSite.Text
