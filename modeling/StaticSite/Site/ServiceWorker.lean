import StaticSite.Json.Writer
import StaticSite.Script.Code

/-!
Contract: the service worker of a site.

Owns:
- the script that answers requests for the shared files from a cache named after the
  site, and requests for documents from the network first.

Does not own: the registration of the worker (see `StaticSite.Page.Document`).
-/

namespace StaticSite.Site

/-- The script of the worker after the name of its cache. -/
def workerCode : List Script.Code :=
  [
    "const SHELL = ['/css/global.css', '/js/global.js', '/manifest.json'];",
    "",
    .block "self.addEventListener('install', (event) => " [
      "event.waitUntil(caches.open(CACHE_NAME).then((cache) => cache.addAll(SHELL)));",
      "self.skipWaiting();"
    ] ");",
    "",
    .block "self.addEventListener('activate', (event) => " [
      "event.waitUntil(",
      "  caches.keys().then((keys) => Promise.all(",
      "    keys.filter((key) => key !== CACHE_NAME).map((key) => caches.delete(key))",
      "  ))",
      ");",
      "self.clients.claim();"
    ] ");",
    "",
    .block "self.addEventListener('fetch', (event) => " [
      "const request = event.request;",
      "if (request.method !== 'GET') return;",
      "const url = new URL(request.url);",
      "if (url.origin !== self.location.origin || url.pathname.startsWith('/api/')) return;",
      "",
      .block "if (request.mode === 'navigate') " [
        "event.respondWith(",
        "  fetch(request)",
        "    .then((response) => \x7b",
        "      const copy = response.clone();",
        "      caches.open(CACHE_NAME).then((cache) => cache.put(request, copy));",
        "      return response;",
        "    \x7d)",
        "    .catch(() => caches.match(request))",
        ");",
        "return;"
      ] "",
      "",
      .block "if (SHELL.includes(url.pathname)) " [
        "event.respondWith(caches.match(request).then((cached) => cached || fetch(request)));"
      ] ""
    ] ");" ]

/-- The name of the cache of a website, as a text of the script. -/
def cacheName (websiteId : String) : String :=
  Json.quote false ("site-" ++ websiteId)

def serviceWorker (websiteId : String) : String :=
  Script.text (.line ("const CACHE_NAME = " ++ cacheName websiteId ++ ";") :: workerCode)

end StaticSite.Site
