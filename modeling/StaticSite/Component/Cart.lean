import StaticSite.Component.Definition

/-!
Contract: the ecommerce-cart component, the articles chosen so far.

Owns:
- the link to the checkout;
- the script that shows the cart kept by the browser.

Does not own: the container around the markup (see `StaticSite.Emission.Container`).
-/

namespace StaticSite.Component.Cart

open StaticSite.Markup StaticSite.Schema

def fields : List Field :=
  [ textField "title" "title" "Shopping Cart",
    textField "checkout_text" "checkoutText" "Proceed to Checkout",
    linkField "checkout_link" "checkoutLink" "/checkout" ]

def markup : Template :=
  .block "div" [attr "class" "cart-container"]
    [ .element "h2" [] [field "title"],
      .element "div" [attr "class" "cart-items", attr "data-island-slot" "items"] [],
      .block "div" [attr "class" "cart-summary"]
        [ .element "div" [attr "class" "cart-total"]
            [ "Total: $",
              .element "span" [attr "class" "cart-total-value", attr "data-island-slot" "total"]
                ["0.00"] ],
          .element "a" [attr "class" "checkout-button", slot "href" "checkout_link"]
            [field "checkout_text"] ] ]

/-- The script of the component, which runs with its container as `el`. -/
def script : List Script.Code :=
  [
    "var items = el.querySelector('.cart-items');",
    "var total = el.querySelector('.cart-total-value');",
    .block "var render = function () " [
      "var cart = JSON.parse(localStorage.getItem('cart') || '[]');",
      "var sum = 0;",
      "items.textContent = '';",
      .block "cart.forEach(function (item) " [
        "var row = document.createElement('div');",
        "row.className = 'cart-item';",
        "var name = document.createElement('h4');",
        "name.textContent = item.name;",
        "var qty = document.createElement('span');",
        "qty.textContent = 'Qty: ' + item.quantity;",
        "var remove = document.createElement('button');",
        "remove.textContent = 'Remove';",
        .block "remove.addEventListener('click', function () " [
          "var next = JSON.parse(localStorage.getItem('cart') || '[]').filter(function (i) \x7b return i.id !== item.id; \x7d);",
          "localStorage.setItem('cart', JSON.stringify(next));",
          "render();"
        ] ");",
        "row.appendChild(name);",
        "row.appendChild(qty);",
        "row.appendChild(remove);",
        "items.appendChild(row);",
        "sum += (item.price || 0) * (item.quantity || 0);"
      ] ");",
      "total.textContent = sum.toFixed(2);"
    ] ";",
    .block "if (items && total) " [
      "window.addEventListener('cart:updated', render);",
      "render();"
    ] "" ]

def definition : Definition :=
  { type := "ecommerce-cart"
    fields := fields
    markup := markup
    script := script }

end StaticSite.Component.Cart
