import StaticSite.Component.Definition

/-!
Contract: the team component, people with portraits and profiles.

Owns:
- the members with their links by platform.

Does not own: the container around the markup (see `StaticSite.Emission.Container`).
-/

namespace StaticSite.Component.Team

open StaticSite.Markup StaticSite.Schema

def memberFields : List Field :=
  [ textField "name" "name" "",
    textField "role" "role" "",
    textField "bio" "bio" "",
    linkField "photo" "photo" "",
    linksByPlatformField "social" "social" ]

def fields : List Field :=
  [textField "title" "title" "Our Team", recordsField "members" "members" memberFields]

def markup : Template :=
  .block "div" [attr "class" "team-container"]
    [ .element "h2" [attr "class" "team-title"] [field "title"],
      .block "div" [attr "class" "team-grid"]
        [ .perItem "members"
            [ .block "div" [attr "class" "team-member"]
                [ .inline "photo"
                    [ .void "img"
                        [ slot "src" "photo",
                          slot "alt" "name",
                          attr "class" "member-photo",
                          attr "loading" "lazy" ] ],
                  .element "h3" [attr "class" "member-name"] [field "name"],
                  .element "p" [attr "class" "member-role"] [field "role"],
                  .element "p" [attr "class" "member-bio"] [field "bio"],
                  .block "div" [attr "class" "member-social"]
                    [ .inline "social"
                        [ .element "a"
                            [ slot "href" "url",
                              attr "target" "_blank",
                              attr "rel" "noopener noreferrer",
                              .valued "class" ["social-link ", .value "platform"] ]
                            [field "platform"] ] ] ] ] ] ]

def definition : Definition :=
  { type := "team"
    fields := fields
    markup := markup }

end StaticSite.Component.Team
