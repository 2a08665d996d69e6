import StaticSite.Component.Definition

/-!
Contract: the timeline component, events on alternating sides.

Owns:
- the events, each on the side that its position gives it.

Does not own: the container around the markup (see `StaticSite.Emission.Container`).
-/

namespace StaticSite.Component.Timeline

open StaticSite.Markup StaticSite.Schema

def eventFields : List Field :=
  [ textField "date" "date" "",
    textField "title" "title" "",
    textField "description" "description" "" ]

def fields : List Field :=
  [textField "title" "title" "Timeline", recordsField "events" "events" eventFields]

def markup : Template :=
  .block "div" [attr "class" "timeline-container"]
    [ .element "h2" [attr "class" "timeline-title"] [field "title"],
      .block "div" [attr "class" "timeline"]
        [ .perItem "events"
            [ .block "div" [.valued "class" ["timeline-item ", .value "side"]]
                [ .block "div" [attr "class" "timeline-content"]
                    [ .element "h3" [attr "class" "timeline-date"] [field "date"],
                      .element "h4" [attr "class" "timeline-event-title"] [field "title"],
                      .element "p" [attr "class" "timeline-description"] [field "description"] ] ] ] ] ]

def definition : Definition :=
  { type := "timeline"
    fields := fields
    markup := markup
    derive := positionsIn "events" }

end StaticSite.Component.Timeline
