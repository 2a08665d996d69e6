import StaticSite.Markup.Template
import StaticSite.Script.Code
import StaticSite.Style.Rule

/-!
Contract: the form that sends a message to the owner of a site.

Owns:
- the markup, the style and the script of the form.

Does not own: where the form stands (see `StaticSite.Component.Form` and
`StaticSite.Component.Contact`).
-/

namespace StaticSite.Component.ContactForm

open StaticSite.Markup

/-- The markup of the form.  It refers to the id of the component around it, and to the
name of the form and the text of its button. -/
def markup : Template :=
  .block "form" [attr "class" "contact-form", slot "data-form-id" "form_id"]
    [ .block "div" [attr "class" "form-group"]
        [ .element "label" [.valued "for" [.value "component_id", "-name"]] ["Name"],
          .void "input"
            [ attr "type" "text",
              .valued "id" [.value "component_id", "-name"],
              attr "name" "name",
              .bare "required" ] ],
      .block "div" [attr "class" "form-group"]
        [ .element "label" [.valued "for" [.value "component_id", "-email"]] ["Email"],
          .void "input"
            [ attr "type" "email",
              .valued "id" [.value "component_id", "-email"],
              attr "name" "email",
              .bare "required" ] ],
      .block "div" [attr "class" "form-group"]
        [ .element "label" [.valued "for" [.value "component_id", "-message"]] ["Message"],
          .element "textarea"
            [ .valued "id" [.value "component_id", "-message"],
              attr "name" "message",
              attr "rows" "5",
              .bare "required" ]
            [] ],
      .element "button" [attr "type" "submit", attr "class" "submit-button"]
        [field "submit_text"],
      .element "p" [attr "class" "form-status", attr "role" "status", attr "aria-live" "polite"]
        [] ]

def style : List Style.Rule :=
  [ .compact [".contact-form"] [⟨"max-width", "600px"⟩, ⟨"margin", "0 auto"⟩],
    .compact [".form-group"] [⟨"margin-bottom", "20px"⟩],
    .compact [".form-group label"]
      [⟨"display", "block"⟩, ⟨"margin-bottom", "5px"⟩, ⟨"font-weight", "bold"⟩],
    .spread [".form-group input", ".form-group textarea"]
      [ ⟨"width", "100%"⟩,
        ⟨"padding", "10px"⟩,
        ⟨"border", "1px solid #ddd"⟩,
        ⟨"border-radius", "4px"⟩,
        ⟨"font-size", "16px"⟩ ],
    .spread [".form-group input:focus", ".form-group textarea:focus"]
      [ ⟨"outline", "none"⟩,
        ⟨"border-color", "#3498db"⟩,
        ⟨"box-shadow", "0 0 5px rgba(52, 152, 219, 0.3)"⟩ ],
    .spread [".submit-button"]
      [ ⟨"background-color", "#3498db"⟩,
        ⟨"color", "white"⟩,
        ⟨"padding", "12px 30px"⟩,
        ⟨"border", "none"⟩,
        ⟨"border-radius", "4px"⟩,
        ⟨"cursor", "pointer"⟩,
        ⟨"font-size", "16px"⟩ ],
    .compact [".submit-button:hover"] [⟨"background-color", "#2980b9"⟩] ]

def script : List Script.Code :=
  [
    "var form = el.querySelector('.contact-form');",
    .block "if (form) " [
      "var status = form.querySelector('.form-status');",
      .block "form.addEventListener('submit', function (e) " [
        "e.preventDefault();",
        "var data = Object.fromEntries(new FormData(form));",
        "window.API.post('/api/contact', data)",
        "  .then(function () \x7b",
        "    if (status) status.textContent = 'Message sent successfully!';",
        "    form.reset();",
        "  \x7d)",
        "  .catch(function () \x7b",
        "    if (status) status.textContent = 'Failed to send message. Please try again.';",
        "  \x7d);"
      ] ");"
    ] "" ]

end StaticSite.Component.ContactForm
