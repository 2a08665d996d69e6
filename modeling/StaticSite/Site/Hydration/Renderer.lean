import StaticSite.Script.Code

/-!
Contract: the code that fills data into islands.

Owns:
- a function for each type that is an island, which changes the markup in place.

Does not own: the markup itself (see `StaticSite.Component.Catalogue`).
-/

namespace StaticSite.Site

/-- The code that fills data into the markup of islands. -/
def rendererCode : List Script.Code :=
  Script.heading "Island renderers: patch the server markup, never replace the container" ++
    Script.apart
      [ [ .block "const RENDERERS = " [
            .block "'blog-list': function (el, data) " [
              "setText(el, '.blog-title', data.title);",
              "const target = slot(el, 'posts');",
              "if (!target || !Array.isArray(data.posts)) return;",
              "target.innerHTML = data.posts.map((post) => (",
              "  '<article class=\"blog-post\">' +",
              "    (post.featuredImage ? '<img src=\"' + esc(safeUrl(post.featuredImage)) + '\" alt=\"' + esc(post.title) + '\" loading=\"lazy\">' : '') +",
              "    '<div class=\"blog-post-content\">' +",
              "      '<h3><a href=\"' + esc(safeUrl(post.slug || '#')) + '\">' + esc(post.title) + '</a></h3>' +",
              "      '<p class=\"blog-excerpt\">' + esc(post.excerpt) + '</p>' +",
              "      '<div class=\"blog-meta\">' +",
              "        '<span class=\"blog-date\">' + esc(post.publishedAt) + '</span>' +",
              "        (post.author ? '<span class=\"blog-author\">By ' + esc(post.author) + '</span>' : '') +",
              "      '</div>' +",
              "    '</div>' +",
              "  '</article>'",
              ")).join('');"
            ] ",",
            "",
            .block "'testimonials': function (el, data) " [
              "setText(el, '.testimonials-title', data.title);",
              "const target = slot(el, 'testimonials');",
              "if (!target || !Array.isArray(data.testimonials)) return;",
              "target.innerHTML = data.testimonials.map((t) => (",
              "  '<div class=\"testimonial-item\">' +",
              "    '<div class=\"testimonial-content\"><p>&ldquo;' + esc(t.content) + '&rdquo;</p></div>' +",
              "    '<div class=\"testimonial-author\">' +",
              "      (t.avatar ? '<img src=\"' + esc(safeUrl(t.avatar)) + '\" alt=\"' + esc(t.name) + '\" class=\"testimonial-avatar\" loading=\"lazy\">' : '') +",
              "      '<div class=\"testimonial-info\"><h4>' + esc(t.name || 'Anonymous') + '</h4><p>' + esc(t.role) + '</p></div>' +",
              "    '</div>' +",
              "  '</div>'",
              ")).join('');"
            ] ",",
            "",
            .block "'stats': function (el, data) " [
              "setText(el, '.stats-title', data.title);",
              "const target = slot(el, 'stats');",
              "if (!target || !Array.isArray(data.stats)) return;",
              "const existing = target.querySelectorAll('.stat-number');",
              .block "if (existing.length === data.stats.length) " [
                .block "data.stats.forEach((stat, i) => " [
                  "existing[i].textContent = String(stat.value == null ? '0' : stat.value);",
                  "existing[i].setAttribute('data-target', String(stat.value == null ? '0' : stat.value));"
                ] ");",
                "return;"
              ] "",
              "target.innerHTML = data.stats.map((stat) => (",
              "  '<div class=\"stat-item\">' +",
              "    '<div class=\"stat-number\" data-target=\"' + esc(stat.value) + '\">' + esc(stat.value == null ? '0' : stat.value) + '</div>' +",
              "    '<div class=\"stat-label\">' + esc(stat.label) + '</div>' +",
              "  '</div>'",
              ")).join('');"
            ] ",",
            "",
            .block "'newsletter': function (el, data) " [
              "const count = data.subscriberCount != null ? data.subscriberCount : data.subscribers;",
              "const target = slot(el, 'subscribers');",
              .block "if (target && count != null) " [
                "target.textContent = 'Join ' + count + ' subscribers';"
              ] ""
            ] ",",
            "",
            .block "'contact': function (el, data) " [
              "setText(el, '.contact-info h2', data.title);",
              "setText(el, '.contact-info > p', data.description);"
            ] ",",
            "",
            .block "'countdown': function (el, data) " [
              "setText(el, '.countdown-title', data.title);",
              "const timer = el.querySelector('.countdown-timer');",
              .block "if (timer && data.targetDate) " [
                "timer.setAttribute('data-target-date', String(data.targetDate));"
              ] ""
            ] ",",
            "",
            .block "'ecommerce-product': function (el, data) " [
              "setText(el, '.product-name', data.name);",
              "setText(el, '.current-price', data.price != null ? '$' + data.price : null);",
              "setText(el, '.product-description p', data.description);",
              "const stock = slot(el, 'stock');",
              "if (!stock) return;",
              "const inStock = data.inStock != null ? !!data.inStock : (data.stock == null || Number(data.stock) > 0);",
              "stock.textContent = inStock ? 'In stock' : 'Out of stock';",
              "stock.classList.remove('in-stock', 'out-of-stock');",
              "stock.classList.add(inStock ? 'in-stock' : 'out-of-stock');",
              "const button = el.querySelector('.add-to-cart-button');",
              "if (button) button.disabled = !inStock;"
            ] ",",
            "",
            "// The cart component's own script owns the rows (and their Remove",
            "// listeners); it re-renders from localStorage on cart:updated.",
            .block "'ecommerce-cart': function (el, data) " [
              "setText(el, '.cart-container h2', data.title);",
              "if (!Array.isArray(data.items)) return;",
              .block "const cart = data.items.filter(isPlainObject).map((item) => (" [
                "id: item.id,",
                "name: String(item.name == null ? '' : item.name),",
                "price: Number(item.price) || 0,",
                "quantity: Number(item.quantity) || 0"
              ] "));",
              "window.localStorage.setItem('cart', JSON.stringify(cart));",
              "window.dispatchEvent(new CustomEvent('cart:updated'));"
            ] ""
          ] ";" ] ]

end StaticSite.Site
