import StaticSite.Component.Definition

/-!
Contract: the testimonials component, quotations of customers.

Owns:
- the quotations with their authors;
- the region that fresh quotations replace.

Does not own: the container around the markup (see `StaticSite.Emission.Container`).
-/

namespace StaticSite.Component.Testimonials

open StaticSite.Markup StaticSite.Schema

def testimonialFields : List Field :=
  [ textField "content" "content" "",
    textField "name" "name" "Anonymous",
    textField "role" "role" "",
    linkField "avatar" "avatar" "" ]

def fields : List Field :=
  [ textField "title" "title" "What Our Customers Say",
    recordsField "testimonials" "testimonials" testimonialFields ]

def markup : Template :=
  .block "div" [attr "class" "testimonials-container"]
    [ .element "h2" [attr "class" "testimonials-title"] [field "title"],
      .block "div" [attr "class" "testimonials-grid", attr "data-island-slot" "testimonials"]
        [ .perItem "testimonials"
            [ .block "div" [attr "class" "testimonial-item"]
                [ .element "div" [attr "class" "testimonial-content"]
                    [.element "p" [] ["&ldquo;", field "content", "&rdquo;"]],
                  .block "div" [attr "class" "testimonial-author"]
                    [ .inline "avatar"
                        [ .void "img"
                            [ slot "src" "avatar",
                              slot "alt" "name",
                              attr "class" "testimonial-avatar",
                              attr "loading" "lazy" ] ],
                      .block "div" [attr "class" "testimonial-info"]
                        [.element "h4" [] [field "name"], .element "p" [] [field "role"]] ] ] ] ] ]

def definition : Definition :=
  { type := "testimonials"
    fields := fields
    markup := markup }

end StaticSite.Component.Testimonials
