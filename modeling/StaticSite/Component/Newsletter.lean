import StaticSite.Component.Definition

/-!
Contract: the newsletter component, a form that subscribes an address.

Owns:
- the texts of the form;
- the region that shows the number of subscribers;
- the script that sends the form.

Does not own: the container around the markup (see `StaticSite.Emission.Container`).
-/

namespace StaticSite.Component.Newsletter

open StaticSite.Markup StaticSite.Schema

def fields : List Field :=
  [ textField "title" "title" "Subscribe to Our Newsletter",
    textField "description" "description" "Get the latest updates and news delivered to your inbox.",
    textField "newsletter_id" "id" "newsletter",
    textField "placeholder" "placeholder" "Enter your email",
    textField "button_text" "buttonText" "Subscribe" ]

def markup : Template :=
  .block "div" [attr "class" "newsletter-container"]
    [ .element "h2" [attr "class" "newsletter-title"] [field "title"],
      .element "p" [attr "class" "newsletter-description"] [field "description"],
      .element "p" [attr "class" "subscriber-count", attr "data-island-slot" "subscribers"] [],
      .block "form" [attr "class" "newsletter-form", slot "data-newsletter-id" "newsletter_id"]
        [ .block "div" [attr "class" "newsletter-input-group"]
            [ .void "input"
                [ attr "type" "email",
                  attr "name" "email",
                  slot "placeholder" "placeholder",
                  attr "aria-label" "Email address",
                  .bare "required" ],
              .element "button" [attr "type" "submit"] [field "button_text"] ],
          .element "p"
            [attr "class" "form-status", attr "role" "status", attr "aria-live" "polite"]
            [] ] ]

/-- The script of the component, which runs with its container as `el`. -/
def script : List Script.Code :=
  [
    "var form = el.querySelector('.newsletter-form');",
    .block "if (form) " [
      "var status = form.querySelector('.form-status');",
      .block "form.addEventListener('submit', function (e) " [
        "e.preventDefault();",
        "var email = new FormData(form).get('email');",
        "window.API.post('/api/newsletter/subscribe', \x7b email: email \x7d)",
        "  .then(function () \x7b",
        "    if (status) status.textContent = 'Successfully subscribed to newsletter!';",
        "    form.reset();",
        "  \x7d)",
        "  .catch(function () \x7b",
        "    if (status) status.textContent = 'Failed to subscribe. Please try again.';",
        "  \x7d);"
      ] ");"
    ] "" ]

def definition : Definition :=
  { type := "newsletter"
    fields := fields
    markup := markup
    script := script }

end StaticSite.Component.Newsletter
