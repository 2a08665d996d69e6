import StaticSite.Component.ContactForm
import StaticSite.Component.Definition

/-!
Contract: the contact component, contact details beside a form.

Owns:
- the details, of which only the given ones are shown.

Does not own: the form itself (see `StaticSite.Component.ContactForm`).
-/

namespace StaticSite.Component.Contact

open StaticSite.Markup StaticSite.Schema

def fields : List Field :=
  [ textField "title" "title" "Get In Touch",
    textField "description" "description" "",
    textField "phone" "phone" "",
    textField "email" "email" "",
    textField "address" "address" "",
    textField "form_id" "id" "contact",
    textField "submit_text" "submitText" "Send Message" ]

def markup : Template :=
  .block "div" [attr "class" "contact-container"]
    [ .block "div" [attr "class" "contact-info"]
        [ .element "h2" [] [field "title"],
          .element "p" [] [field "description"],
          .block "div" [attr "class" "contact-details"]
            [ .inline "phone"
                [ .element "p" []
                    [ .element "strong" [] ["Phone:"],
                      " ",
                      .element "a" [.valued "href" ["tel:", .value "phone"]] [field "phone"] ] ],
              .inline "email"
                [ .element "p" []
                    [ .element "strong" [] ["Email:"],
                      " ",
                      .element "a" [.valued "href" ["mailto:", .value "email"]] [field "email"] ] ],
              .inline "address"
                [.element "p" [] [.element "strong" [] ["Address:"], " ", field "address"]] ] ],
      .block "div" [attr "class" "contact-form-container"] [.row [], ContactForm.markup] ]

def definition : Definition :=
  { type := "contact"
    fields := fields
    markup := markup
    style := ContactForm.style
    script := ContactForm.script }

end StaticSite.Component.Contact
