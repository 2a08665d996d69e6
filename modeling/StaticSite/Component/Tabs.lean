import StaticSite.Component.Definition

/-!
Contract: the tabs component, panels of which one is shown.

Owns:
- a button and a panel for each tab, the first of which is shown;
- the script that switches between tabs.

Does not own: the container around the markup (see `StaticSite.Emission.Container`).
-/

namespace StaticSite.Component.Tabs

open StaticSite.Markup StaticSite.Schema

def tabFields : List Field :=
  [textField "title" "title" "Tab", textField "content" "content" ""]

def fields : List Field :=
  [recordsField "tabs" "tabs" tabFields]

def markup : Template :=
  .block "div" [attr "class" "tabs-container"]
    [ .block "div" [attr "class" "tabs-header", attr "role" "tablist"]
        [ .perItem "tabs"
            [ .element "button"
                [ .valued "class" ["tab-button", .present "first" [" active"]],
                  attr "role" "tab",
                  slot "data-tab-index" "index",
                  .valued "aria-selected" [.present "first" ["true"], .absent "first" ["false"]] ]
                [field "title"] ] ],
      .block "div" [attr "class" "tabs-content"]
        [ .perItem "tabs"
            [ .element "div"
                [ .valued "class" ["tab-panel", .present "first" [" active"]],
                  attr "role" "tabpanel",
                  slot "data-tab-index" "index",
                  .absent "first" [.bare "hidden"] ]
                [field "content"] ] ] ]

/-- The script of the component, which runs with its container as `el`. -/
def script : List Script.Code :=
  [
    "var buttons = el.querySelectorAll('.tab-button');",
    "var panels = el.querySelectorAll('.tab-panel');",
    .block "buttons.forEach(function (button, index) " [
      .block "button.addEventListener('click', function () " [
        .block "buttons.forEach(function (b) " [
          "b.classList.remove('active');",
          "b.setAttribute('aria-selected', 'false');"
        ] ");",
        .block "panels.forEach(function (p) " [
          "p.classList.remove('active');",
          "p.hidden = true;"
        ] ");",
        "button.classList.add('active');",
        "button.setAttribute('aria-selected', 'true');",
        .block "if (panels[index]) " [
          "panels[index].classList.add('active');",
          "panels[index].hidden = false;"
        ] ""
      ] ");"
    ] ");" ]

def definition : Definition :=
  { type := "tabs"
    fields := fields
    markup := markup
    script := script
    derive := positionsIn "tabs" }

end StaticSite.Component.Tabs
