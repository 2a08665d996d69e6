import StaticSite.Component.Definition

/-!
Contract: the social-links component, links to profiles elsewhere.

Owns:
- the links, each labelled by its text or else by its platform.

Does not own: the container around the markup (see `StaticSite.Emission.Container`).
-/

namespace StaticSite.Component.SocialLinks

open StaticSite.Markup StaticSite.Schema

def linkFields : List Field :=
  [ linkField "url" "url" "#",
    textField "platform" "platform" "link",
    textField "icon" "icon" "",
    textField "text" "text" "" ]

def fields : List Field :=
  [recordsField "links" "links" linkFields]

/-- A link with its label: its text or else its platform. -/
def withLabel (link : Json.Members) : Json.Members :=
  let text := (link.lookup "text").getD .null
  Association.bind "label"
    (if text.isTruthy then text else (link.lookup "platform").getD .null) link

def markup : Template :=
  .block "div" [attr "class" "social-links-container"]
    [ .perItem "links"
        [ .block "a"
            [ slot "href" "url",
              attr "target" "_blank",
              attr "rel" "noopener noreferrer",
              .valued "class" ["social-link ", .value "platform"] ]
            [ .inline "icon" [.element "span" [attr "class" "social-icon"] [field "icon"]],
              .element "span" [attr "class" "social-text"] [field "label"] ] ] ]

def definition : Definition :=
  { type := "social-links"
    fields := fields
    markup := markup
    derive := mapRecordsIn "links" withLabel }

end StaticSite.Component.SocialLinks
