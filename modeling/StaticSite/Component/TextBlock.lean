import StaticSite.Component.Definition

/-!
Contract: the text component, a paragraph with an optional heading.

Owns:
- a title and a paragraph of text.

Does not own: the container around the markup (see `StaticSite.Emission.Container`).
-/

namespace StaticSite.Component.TextBlock

open StaticSite.Markup StaticSite.Schema

def fields : List Field :=
  [textField "title" "title" "", textField "content" "content" ""]

def markup : Template :=
  .block "div" [attr "class" "text-content"]
    [.inline "title" [.element "h2" [] [.text .current]], .element "p" [] [field "content"]]

def definition : Definition :=
  { type := "text"
    fields := fields
    markup := markup }

end StaticSite.Component.TextBlock
