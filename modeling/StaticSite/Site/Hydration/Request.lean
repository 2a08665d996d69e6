import StaticSite.Script.Code

/-!
Contract: the code with which scripts fetch data, and the helpers that other code uses.

Owns:
- the class of failures;
- requests for data, relative to the address of the data;
- escaping and harmless links in the browser, access to the places that renderers fill, and
  delayed and limited calls.

Does not own: which data an island needs (see `StaticSite.Site.Hydration.Schedule`), and the
renderers (see `StaticSite.Site.Hydration.Renderer`).
-/

namespace StaticSite.Site

def requestCode : List Script.Code :=
  Script.heading "API helper" ++
    Script.apart
      [ [ .block "class HydrationFetchError extends Error " [
            .block "constructor(endpoint, status, cause) " [
              "super('Failed to load ' + endpoint + (status ? ' (HTTP ' + status + ')' : ''));",
              "this.name = 'HydrationFetchError';",
              "this.endpoint = endpoint;",
              "this.status = status || 0;",
              "this.cause = cause;"
            ] ""
          ] "" ],
        [ "const isAbort = (error) => !!error && error.name === 'AbortError';" ],
        [ .block "const API = " [
            .block "get baseURL() " [
              "return window.__API_BASE_URL__ || DEFAULT_API_BASE;"
            ] ",",
            "",
            .block "async request(endpoint, options = \x7b\x7d) " [
              "const url = /^https?:\\/\\//.test(endpoint) ? endpoint : this.baseURL + endpoint;",
              "// Bodiless requests carry no Content-Type.",
              "const headers = options.body != null ? \x7b 'Content-Type': 'application/json' \x7d : \x7b\x7d;",
              .block "const init = Object.assign(\x7b\x7d, options, " [
                "headers: Object.assign(headers, options.headers || \x7b\x7d)"
              ] ");",
              "let response;",
              .either "try " [
                "response = await window.fetch(url, init);"
              ] " catch (error) " [
                "if (isAbort(error)) throw error;",
                "throw new HydrationFetchError(endpoint, 0, error);"
              ] "",
              .block "if (!response.ok) " [
                "throw new HydrationFetchError(endpoint, response.status);"
              ] "",
              .either "try " [
                "return await response.json();"
              ] " catch (error) " [
                "throw new HydrationFetchError(endpoint, response.status, error);"
              ] ""
            ] ",",
            "",
            .block "get(endpoint, options) " [
              "return this.request(endpoint, Object.assign(\x7b method: 'GET' \x7d, options));"
            ] ",",
            "",
            .block "post(endpoint, data, options) " [
              "return this.request(endpoint, Object.assign(\x7b method: 'POST', body: JSON.stringify(data) \x7d, options));"
            ] ",",
            "",
            .block "put(endpoint, data, options) " [
              "return this.request(endpoint, Object.assign(\x7b method: 'PUT', body: JSON.stringify(data) \x7d, options));"
            ] ",",
            "",
            .block "delete(endpoint, options) " [
              "return this.request(endpoint, Object.assign(\x7b method: 'DELETE' \x7d, options));"
            ] ""
          ] ";" ] ]

def supportCode : List Script.Code :=
  Script.heading "Helpers" ++
    Script.apart
      [ [ "const ESCAPES = \x7b '&': '&amp;', '<': '&lt;', '>': '&gt;', '\"': '&quot;', \"'\": '&#x27;' \x7d;" ],
        [ .block "function esc(value) " [
            "return String(value == null ? '' : value).replace(/[&<>\"']/g, (c) => ESCAPES[c]);"
          ] "" ],
        [ .block "function safeUrl(value) " [
            "const url = String(value == null ? '' : value).trim();",
            "const scheme = /^([a-z][a-z0-9+.\\-]*):/i.exec(url.replace(/[\\s\\x00-\\x1f]+/g, ''));",
            "if (scheme && ['http', 'https', 'mailto', 'tel'].indexOf(scheme[1].toLowerCase()) === -1) return '#';",
            "return url;"
          ] "" ],
        [ .block "function slot(el, name) " [
            "return el.querySelector('[data-island-slot=\"' + name + '\"]');"
          ] "" ],
        [ .block "function setText(el, selector, value) " [
            "if (value == null || value === '') return;",
            "const target = el.querySelector(selector);",
            "if (target) target.textContent = String(value);"
          ] "" ],
        [ .block "function isPlainObject(value) " [
            "return !!value && typeof value === 'object' && !Array.isArray(value);"
          ] "" ],
        [ .block "function debounce(func, wait) " [
            "let timeout;",
            .block "return function (...args) " [
              "clearTimeout(timeout);",
              "timeout = setTimeout(() => func.apply(this, args), wait);"
            ] ";"
          ] "" ],
        [ .block "function throttle(func, limit) " [
            "let waiting = false;",
            .block "return function (...args) " [
              "if (waiting) return;",
              "func.apply(this, args);",
              "waiting = true;",
              "setTimeout(() => \x7b waiting = false; \x7d, limit);"
            ] ";"
          ] "" ] ]

end StaticSite.Site
