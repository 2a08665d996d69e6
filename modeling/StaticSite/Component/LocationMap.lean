import StaticSite.Component.Definition

/-!
Contract: the map component, a place on earth with a link to a map.

Owns:
- the coordinates and the zoom.

Does not own: the container around the markup (see `StaticSite.Emission.Container`).
-/

namespace StaticSite.Component.LocationMap

open StaticSite.Markup StaticSite.Schema

def fields : List Field :=
  [ textField "map_id" "id" "default",
    numberField "latitude" "latitude" 0,
    numberField "longitude" "longitude" 0,
    numberField "zoom" "zoom" 13 ]

def markup : Template :=
  .block "div" [attr "class" "map-container"]
    [ .block "div"
        [ .valued "id" ["map-", .value "map_id"],
          attr "class" "map",
          slot "data-lat" "latitude",
          slot "data-lng" "longitude",
          slot "data-zoom" "zoom" ]
        [ .element "a"
            [ attr "class" "map-fallback",
              .valued "href"
                [ "https://www.openstreetmap.org/?mlat=",
                  .value "latitude",
                  "&amp;mlon=",
                  .value "longitude",
                  "#map=",
                  .value "zoom",
                  "/",
                  .value "latitude",
                  "/",
                  .value "longitude" ],
              attr "target" "_blank",
              attr "rel" "noopener noreferrer" ]
            ["View map"] ] ]

def style : List Style.Rule :=
  [ .compact [".map"]
      [ ⟨"min-height", "300px"⟩,
        ⟨"background", "#eef2f5"⟩,
        ⟨"display", "flex"⟩,
        ⟨"align-items", "center"⟩,
        ⟨"justify-content", "center"⟩ ] ]

def definition : Definition :=
  { type := "map"
    fields := fields
    markup := markup
    style := style }

end StaticSite.Component.LocationMap
