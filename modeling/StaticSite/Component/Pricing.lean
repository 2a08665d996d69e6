import StaticSite.Component.Definition

/-!
Contract: the pricing component, plans side by side.

Owns:
- the plans with their features and links.

Does not own: the container around the markup (see `StaticSite.Emission.Container`).
-/

namespace StaticSite.Component.Pricing

open StaticSite.Markup StaticSite.Schema

def planFields : List Field :=
  [ textField "name" "name" "Plan",
    textField "price" "price" "0",
    textField "currency" "currency" "$",
    textField "period" "period" "month",
    textsField "features" "features",
    textField "button_text" "buttonText" "Get Started",
    linkField "button_link" "buttonLink" "#",
    flagField "featured" "featured" false ]

def fields : List Field :=
  [textField "title" "title" "Choose Your Plan", recordsField "plans" "plans" planFields]

def markup : Template :=
  .block "div" [attr "class" "pricing-container"]
    [ .element "h2" [attr "class" "pricing-title"] [field "title"],
      .block "div" [attr "class" "pricing-grid"]
        [ .perItem "plans"
            [ .block "div" [.valued "class" ["pricing-card", .present "featured" [" featured"]]]
                [ .element "h3" [attr "class" "plan-name"] [field "name"],
                  .block "div" [attr "class" "plan-price"]
                    [ .element "span" [attr "class" "currency"] [field "currency"],
                      .element "span" [attr "class" "amount"] [field "price"],
                      .element "span" [attr "class" "period"] ["/", field "period"] ],
                  .block "ul" [attr "class" "plan-features"]
                    [.inline "features" [.element "li" [] [.text .current]]],
                  .element "a" [slot "href" "button_link", attr "class" "plan-button"]
                    [field "button_text"] ] ] ] ]

def style : List Style.Rule :=
  [ .compact [".pricing-grid"]
      [ ⟨"display", "grid"⟩,
        ⟨"grid-template-columns", "repeat(auto-fit, minmax(250px, 1fr))"⟩,
        ⟨"gap", "24px"⟩ ],
    .compact [".pricing-card"]
      [ ⟨"border", "1px solid #e5e7eb"⟩,
        ⟨"border-radius", "8px"⟩,
        ⟨"padding", "24px"⟩,
        ⟨"text-align", "center"⟩ ],
    .compact [".pricing-card.featured"]
      [⟨"border-color", "#3498db"⟩, ⟨"box-shadow", "0 8px 24px rgba(52, 152, 219, 0.2)"⟩],
    .compact [".plan-features"] [⟨"list-style", "none"⟩, ⟨"margin", "16px 0"⟩] ]

def definition : Definition :=
  { type := "pricing"
    fields := fields
    markup := markup
    style := style }

end StaticSite.Component.Pricing
