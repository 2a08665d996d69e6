import StaticSite.Component.Definition

/-!
Contract: the ecommerce-product component, an article on sale.

Owns:
- the description and the price of the article;
- the region that shows whether it is in stock;
- the script that puts it into the cart.

Does not own: the container around the markup (see `StaticSite.Emission.Container`).
-/

namespace StaticSite.Component.Product

open StaticSite.Markup StaticSite.Schema

def fields : List Field :=
  [ textField "product_id" "id" "",
    textField "name" "name" "",
    linkField "image" "image" "",
    textField "price" "price" "0",
    textField "original_price" "originalPrice" "",
    textField "description" "description" "" ]

def markup : Template :=
  .block "div" [attr "class" "product-container"]
    [ .block "div" [attr "class" "product-image"]
        [ .inline "image"
            [ .void "img"
                [slot "src" "image", slot "alt" "name", attr "class" "product-main-image"] ] ],
      .block "div" [attr "class" "product-details"]
        [ .element "h2" [attr "class" "product-name"] [field "name"],
          .block "div" [attr "class" "product-price"]
            [ .element "span" [attr "class" "current-price"] ["$", field "price"],
              .inline "original_price"
                [.element "span" [attr "class" "original-price"] ["$", field "original_price"]] ],
          .element "p" [attr "class" "stock-status", attr "data-island-slot" "stock"] [],
          .element "div" [attr "class" "product-description"]
            [.element "p" [] [field "description"]],
          .block "div" [attr "class" "product-options"]
            [ .block "div" [attr "class" "quantity-selector"]
                [ .element "label" [.valued "for" [.value "component_id", "-quantity"]]
                    ["Quantity:"],
                  .void "input"
                    [ attr "type" "number",
                      .valued "id" [.value "component_id", "-quantity"],
                      attr "name" "quantity",
                      attr "min" "1",
                      attr "value" "1" ] ],
              .element "button"
                [ attr "class" "add-to-cart-button",
                  slot "data-product-id" "product_id",
                  slot "data-name" "name",
                  slot "data-price" "price",
                  slot "data-image" "image" ]
                ["Add to Cart"] ] ] ]

def style : List Style.Rule :=
  [ .compact [".product-container"]
      [ ⟨"display", "grid"⟩,
        ⟨"grid-template-columns", "repeat(auto-fit, minmax(280px, 1fr))"⟩,
        ⟨"gap", "32px"⟩ ],
    .compact [".product-main-image"] [⟨"width", "100%"⟩, ⟨"border-radius", "8px"⟩],
    .compact [".original-price"]
      [⟨"text-decoration", "line-through"⟩, ⟨"color", "#999"⟩, ⟨"margin-left", "8px"⟩],
    .compact [".stock-status.out-of-stock"] [⟨"color", "#e74c3c"⟩],
    .compact [".stock-status.in-stock"] [⟨"color", "#27ae60"⟩] ]

/-- The script of the component, which runs with its container as `el`. -/
def script : List Script.Code :=
  [
    "var button = el.querySelector('.add-to-cart-button');",
    "var qty = el.querySelector('input[name=\"quantity\"]');",
    .block "if (button) " [
      .block "button.addEventListener('click', function () " [
        "var cart = JSON.parse(localStorage.getItem('cart') || '[]');",
        "var id = button.dataset.productId;",
        "var quantity = Math.max(1, parseInt(qty && qty.value, 10) || 1);",
        "var existing = cart.find(function (item) \x7b return item.id === id; \x7d);",
        .either "if (existing) " [
          "existing.quantity += quantity;"
        ] " else " [
          .block "cart.push(" [
            "id: id,",
            "name: button.dataset.name,",
            "price: parseFloat(button.dataset.price) || 0,",
            "image: button.dataset.image,",
            "quantity: quantity"
          ] ");"
        ] "",
        "localStorage.setItem('cart', JSON.stringify(cart));",
        "window.dispatchEvent(new CustomEvent('cart:updated'));"
      ] ");"
    ] "" ]

def definition : Definition :=
  { type := "ecommerce-product"
    fields := fields
    markup := markup
    style := style
    script := script }

end StaticSite.Component.Product
