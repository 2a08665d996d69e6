import StaticSite.Script.Code

/-!
Contract: when islands are filled.

Owns:
- the state of each island and the note about a failure;
- the start of each island at once, after loading, or when it is visible.

Does not own: what filling an island means (see `StaticSite.Site.Hydration.Renderer`).
-/

namespace StaticSite.Site

/-- The code that finds the islands of a document and fills each in its time. -/
def scheduleCode : List Script.Code :=
  Script.heading "Hydration" ++
    Script.apart
      [ [ "const islands = window.__ISLANDS__ = window.__ISLANDS__ || \x7b\x7d;",
          "const controllers = new Map();" ],
        [ .block "function setState(el, state) " [
            "el.classList.remove('loading', 'loaded', 'error');",
            "el.classList.add(state);",
            "el.setAttribute('data-island-state', state);"
          ] "" ],
        [ .block "function showError(el, error) " [
            "let note = el.querySelector('.island-error');",
            .block "if (!note) " [
              "note = document.createElement('div');",
              "note.className = 'island-error';",
              "note.setAttribute('role', 'alert');",
              "el.appendChild(note);"
            ] "",
            "note.textContent = 'This section could not be updated: ' + (error && error.message ? error.message : 'unknown error');"
          ] "" ],
        [ .block "async function loadIsland(record, signal) " [
            "const props = isPlainObject(record.props) ? record.props : \x7b\x7d;",
            "if (!record.apiEndpoint) return Object.assign(\x7b\x7d, props);",
            "const data = await API.get(record.apiEndpoint, signal ? \x7b signal \x7d : undefined);",
            "return Object.assign(\x7b\x7d, props, isPlainObject(data) ? data : \x7b\x7d);"
          ] "" ],
        [ .block "function hydrateIsland(record) " [
            "const el = document.getElementById('component-' + record.id);",
            .block "if (!el) " [
              "islands[record.id] = 'missing';",
              "return Promise.resolve('missing');"
            ] "",
            "",
            "el.classList.add('dynamic-component');",
            "setState(el, 'loading');",
            "islands[record.id] = 'loading';",
            "",
            "const controller = typeof AbortController === 'function' ? new AbortController() : null;",
            "if (controller) controllers.set(record.id, controller);",
            "",
            "return loadIsland(record, controller && controller.signal)",
            "  .then((data) => \x7b",
            "    const render = RENDERERS[record.type];",
            "    if (render) render(el, data);",
            "    setState(el, 'loaded');",
            "    islands[record.id] = 'loaded';",
            "    return 'loaded';",
            "  \x7d)",
            "  .catch((error) => \x7b",
            "    if (isAbort(error)) \x7b",
            "      islands[record.id] = 'aborted';",
            "      return 'aborted';",
            "    \x7d",
            "    console.error('Failed to hydrate component ' + record.id + ':', error);",
            "    setState(el, 'error');",
            "    showError(el, error);",
            "    islands[record.id] = 'error';",
            "    return 'error';",
            "  \x7d)",
            "  .finally(() => \x7b",
            "    controllers.delete(record.id);",
            "  \x7d);"
          ] "" ],
        [ .block "function afterLoad() " [
            .block "return new Promise((resolve) => " [
              .either "if (document.readyState === 'complete') " [
                "resolve();"
              ] " else " [
                "window.addEventListener('load', () => resolve(), \x7b once: true \x7d);"
              ] ""
            ] ");"
          ] "" ],
        [ .block "function whenVisible(record) " [
            "const el = document.getElementById('component-' + record.id);",
            .block "if (!el || typeof window.IntersectionObserver !== 'function') " [
              "return afterLoad();"
            ] "",
            .block "return new Promise((resolve) => " [
              .block "const observer = new window.IntersectionObserver((entries) => " [
                .block "if (entries.some((entry) => entry.isIntersecting)) " [
                  "observer.disconnect();",
                  "resolve();"
                ] ""
              ] ", \x7b rootMargin: '200px' \x7d);",
              "observer.observe(el);"
            ] ");"
          ] "" ],
        [ .block "function schedule(record) " [
            .block "switch (record.hydrationStrategy) " [
              "case 'immediate':",
              "  return hydrateIsland(record);",
              "case 'viewport':",
              "  return whenVisible(record).then(() => hydrateIsland(record));",
              "default:",
              "  return afterLoad().then(() => hydrateIsland(record));"
            ] ""
          ] "" ],
        [ .block "function hydrateAll(records) " [
            "const list = Array.isArray(records) ? records : [];",
            .block "return Promise.allSettled(list.map((record) => " [
              .either "try " [
                "return schedule(record);"
              ] " catch (error) " [
                "return Promise.reject(error);"
              ] ""
            ] "));"
          ] "" ],
        [ .block "function abortAll() " [
            "controllers.forEach((controller) => controller.abort());",
            "controllers.clear();"
          ] "" ],
        [ .block "function start() " [
            "return hydrateAll(window.__DYNAMIC_COMPONENTS__);"
          ] "" ],
        [ "window.addEventListener('pagehide', abortAll);" ],
        [ "window.API = API;",
          "window.debounce = debounce;",
          "window.throttle = throttle;",
          "window.SiteRuntime = \x7b start, hydrateAll, hydrateIsland, abortAll, HydrationFetchError \x7d;" ],
        [ .either "if (document.readyState === 'loading') " [
            "document.addEventListener('DOMContentLoaded', start, \x7b once: true \x7d);"
          ] " else " [
            "start();"
          ] "" ] ]

end StaticSite.Site
