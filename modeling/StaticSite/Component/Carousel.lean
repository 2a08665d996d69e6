import StaticSite.Component.Definition

/-!
Contract: the carousel component, slides that change by themselves.

Owns:
- a slide and an indicator for each item, the first of which is active;
- the script that changes slides.

Does not own: the container around the markup (see `StaticSite.Emission.Container`).
-/

namespace StaticSite.Component.Carousel

open StaticSite.Markup StaticSite.Schema

def slideFields : List Field :=
  [textField "content" "content" "", linkField "image" "image" ""]

def fields : List Field :=
  [ recordsField "items" "items" slideFields,
    numberField "interval" "interval" 5000,
    flagField "autoplay" "autoplay" true ]

def markup : Template :=
  .block "div"
    [ attr "class" "carousel-container",
      slot "data-interval" "interval",
      .valued "data-autoplay" [.present "autoplay" ["true"], .absent "autoplay" ["false"]] ]
    [ .block "div" [attr "class" "carousel-wrapper"]
        [ .block "div" [attr "class" "carousel-track"]
            [ .perItem "items"
                [ .block "div"
                    [ .valued "class" ["carousel-slide", .present "first" [" active"]],
                      slot "data-slide-index" "index" ]
                    [ .inline "image"
                        [ .void "img"
                            [ slot "src" "image",
                              attr "alt" "",
                              .valued "loading"
                                [.present "first" ["eager"], .absent "first" ["lazy"]] ] ],
                      .inline "content"
                        [.element "div" [attr "class" "carousel-caption"] [field "content"]] ] ] ],
          .element "button" [attr "class" "carousel-prev", attr "aria-label" "Previous slide"]
            ["&lt;"],
          .element "button" [attr "class" "carousel-next", attr "aria-label" "Next slide"]
            ["&gt;"] ],
      .block "div" [attr "class" "carousel-indicators"]
        [ .inline "items"
            [ .element "button"
                [ .valued "class" ["carousel-indicator", .present "first" [" active"]],
                  slot "data-slide-index" "index",
                  .valued "aria-label" ["Go to slide ", .value "index"] ]
                [] ] ] ]

def style : List Style.Rule :=
  [ .compact [".carousel-wrapper"] [⟨"position", "relative"⟩, ⟨"overflow", "hidden"⟩],
    .compact [".carousel-slide"] [⟨"display", "none"⟩],
    .compact [".carousel-slide.active"] [⟨"display", "block"⟩],
    .compact [".carousel-prev", ".carousel-next"]
      [⟨"position", "absolute"⟩, ⟨"top", "50%"⟩, ⟨"transform", "translateY(-50%)"⟩],
    .compact [".carousel-prev"] [⟨"left", "8px"⟩],
    .compact [".carousel-next"] [⟨"right", "8px"⟩],
    .compact [".carousel-indicator.active"] [⟨"background", "#3498db"⟩] ]

/-- The script of the component, which runs with its container as `el`. -/
def script : List Script.Code :=
  [
    "var root = el.querySelector('.carousel-container');",
    "var slides = el.querySelectorAll('.carousel-slide');",
    "var indicators = el.querySelectorAll('.carousel-indicator');",
    "var current = 0;",
    .block "var show = function (index) " [
      "slides.forEach(function (s, i) \x7b s.classList.toggle('active', i === index); \x7d);",
      "indicators.forEach(function (d, i) \x7b d.classList.toggle('active', i === index); \x7d);"
    ] ";",
    .block "var step = function (delta) " [
      "if (!slides.length) return;",
      "current = (current + delta + slides.length) % slides.length;",
      "show(current);"
    ] ";",
    "var prev = el.querySelector('.carousel-prev');",
    "var next = el.querySelector('.carousel-next');",
    "if (prev) prev.addEventListener('click', function () \x7b step(-1); \x7d);",
    "if (next) next.addEventListener('click', function () \x7b step(1); \x7d);",
    .block "indicators.forEach(function (d, i) " [
      "d.addEventListener('click', function () \x7b current = i; show(current); \x7d);"
    ] ");",
    .block "if (root && root.dataset.autoplay === 'true' && slides.length > 1) " [
      "setInterval(function () \x7b step(1); \x7d, parseInt(root.dataset.interval, 10) || 5000);"
    ] "" ]

def definition : Definition :=
  { type := "carousel"
    fields := fields
    markup := markup
    style := style
    script := script
    derive := positionsIn "items" }

end StaticSite.Component.Carousel
