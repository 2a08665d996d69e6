import StaticSite.Component.Definition

/-!
Contract: the video component, a player with an optional caption.

Owns:
- the recording, its poster and its caption; the recording is required.

Does not own: the container around the markup (see `StaticSite.Emission.Container`).
-/

namespace StaticSite.Component.Video

open StaticSite.Markup StaticSite.Schema

def fields : List Field :=
  [linkField "src" "src" "", linkField "poster" "poster" "", textField "caption" "caption" ""]

def markup : Template :=
  .block "div" [attr "class" "video-container"]
    [ .block "video"
        [ .bare "controls",
          attr "preload" "metadata",
          attr "class" "responsive-video",
          .present "poster" [slot "poster" "poster"] ]
        [ .void "source" [slot "src" "src", attr "type" "video/mp4"],
          "Your browser does not support the video tag." ],
      .inline "caption" [.element "p" [attr "class" "video-caption"] [field "caption"]] ]

def style : List Style.Rule :=
  [.compact [".responsive-video"] [⟨"width", "100%"⟩, ⟨"height", "auto"⟩, ⟨"display", "block"⟩]]

def definition : Definition :=
  { type := "video"
    fields := fields
    markup := markup
    style := style
    required := ["src"] }

end StaticSite.Component.Video
