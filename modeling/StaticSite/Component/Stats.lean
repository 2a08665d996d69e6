import StaticSite.Component.Definition

/-!
Contract: the stats component, figures with labels.

Owns:
- the figures;
- the region that fresh figures replace.

Does not own: the container around the markup (see `StaticSite.Emission.Container`).
-/

namespace StaticSite.Component.Stats

open StaticSite.Markup StaticSite.Schema

def statFields : List Field :=
  [textField "value" "value" "0", textField "label" "label" ""]

def fields : List Field :=
  [textField "title" "title" "Our Statistics", recordsField "stats" "stats" statFields]

def markup : Template :=
  .block "div" [attr "class" "stats-container"]
    [ .element "h2" [attr "class" "stats-title"] [field "title"],
      .block "div" [attr "class" "stats-grid", attr "data-island-slot" "stats"]
        [ .perItem "stats"
            [ .block "div" [attr "class" "stat-item"]
                [ .element "div" [attr "class" "stat-number", slot "data-target" "value"]
                    [field "value"],
                  .element "div" [attr "class" "stat-label"] [field "label"] ] ] ] ]

def definition : Definition :=
  { type := "stats"
    fields := fields
    markup := markup }

end StaticSite.Component.Stats
