import StaticSite.Component.Definition

/-!
Contract: the accordion component, sections that unfold one at a time.

Owns:
- the sections;
- the script that unfolds a section and folds the others.

Does not own: the container around the markup (see `StaticSite.Emission.Container`).
-/

namespace StaticSite.Component.Accordion

open StaticSite.Markup StaticSite.Schema

def sectionFields : List Field :=
  [textField "title" "title" "", textField "content" "content" ""]

def fields : List Field :=
  [textField "title" "title" "Accordion", recordsField "items" "items" sectionFields]

def markup : Template :=
  .block "div" [attr "class" "accordion-container"]
    [ .element "h2" [attr "class" "accordion-title"] [field "title"],
      .block "div" [attr "class" "accordion-list"]
        [ .perItem "items"
            [ .block "div" [attr "class" "accordion-item"]
                [ .block "button"
                    [ attr "class" "accordion-header",
                      slot "data-accordion-index" "index",
                      attr "aria-expanded" "false" ]
                    [ .element "span" [] [field "title"],
                      .element "span" [attr "class" "accordion-toggle"] ["+"] ],
                  .element "div" [attr "class" "accordion-content", .bare "hidden"]
                    [.element "p" [] [field "content"]] ] ] ] ]

/-- The script of the component, which runs with its container as `el`. -/
def script : List Script.Code :=
  [
    "var headers = el.querySelectorAll('.accordion-header');",
    .block "headers.forEach(function (header) " [
      .block "header.addEventListener('click', function () " [
        "var content = header.nextElementSibling;",
        "var wasOpen = content && !content.hidden;",
        .block "headers.forEach(function (h) " [
          "if (h.nextElementSibling) h.nextElementSibling.hidden = true;",
          "h.setAttribute('aria-expanded', 'false');",
          "var t = h.querySelector('.accordion-toggle');",
          "if (t) t.textContent = '+';"
        ] ");",
        .block "if (content && !wasOpen) " [
          "content.hidden = false;",
          "header.setAttribute('aria-expanded', 'true');",
          "var toggle = header.querySelector('.accordion-toggle');",
          "if (toggle) toggle.textContent = '-';"
        ] ""
      ] ");"
    ] ");" ]

def definition : Definition :=
  { type := "accordion"
    fields := fields
    markup := markup
    script := script
    derive := positionsIn "items" }

end StaticSite.Component.Accordion
