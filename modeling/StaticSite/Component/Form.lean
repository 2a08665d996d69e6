import StaticSite.Component.ContactForm
import StaticSite.Component.Definition

/-!
Contract: the form component, a contact form on its own.

Owns:
- the name of the form and the text of its button.

Does not own: the form itself (see `StaticSite.Component.ContactForm`).
-/

namespace StaticSite.Component.Form

open StaticSite.Markup StaticSite.Schema

def fields : List Field :=
  [textField "form_id" "id" "contact", textField "submit_text" "submitText" "Send Message"]

def markup : Template :=
  .block "div" [attr "class" "form-container"] [.row [], ContactForm.markup]

def definition : Definition :=
  { type := "form"
    fields := fields
    markup := markup
    style := ContactForm.style
    script := ContactForm.script }

end StaticSite.Component.Form
