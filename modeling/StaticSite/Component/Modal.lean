import StaticSite.Component.Definition

/-!
Contract: the modal component, a dialog that a button opens.

Owns:
- the button and the dialog;
- the script that opens and closes the dialog.

Does not own: the container around the markup (see `StaticSite.Emission.Container`).
-/

namespace StaticSite.Component.Modal

open StaticSite.Markup StaticSite.Schema

def fields : List Field :=
  [ textField "modal_id" "id" "default",
    textField "trigger_text" "triggerText" "Open Modal",
    textField "title" "title" "Modal Title",
    textField "content" "content" "" ]

def markup : Template :=
  .block "div" [attr "class" "modal-container"]
    [ .element "button" [attr "class" "modal-trigger", slot "data-modal-id" "modal_id"]
        [field "trigger_text"],
      .block "div"
        [ attr "class" "modal-overlay",
          .valued "id" ["modal-", .value "component_id"],
          attr "role" "dialog",
          attr "aria-modal" "true",
          .valued "aria-labelledby" ["modal-", .value "component_id", "-title"],
          .bare "hidden" ]
        [ .block "div" [attr "class" "modal-content"]
            [ .block "div" [attr "class" "modal-header"]
                [ .element "h2" [.valued "id" ["modal-", .value "component_id", "-title"]]
                    [field "title"],
                  .element "button" [attr "class" "modal-close", attr "aria-label" "Close"]
                    ["&times;"] ],
              .element "div" [attr "class" "modal-body"] [field "content"] ] ] ]

def style : List Style.Rule :=
  [ .spread [".modal-overlay"]
      [ ⟨"position", "fixed"⟩,
        ⟨"inset", "0"⟩,
        ⟨"background", "rgba(0, 0, 0, 0.5)"⟩,
        ⟨"display", "flex"⟩,
        ⟨"align-items", "center"⟩,
        ⟨"justify-content", "center"⟩,
        ⟨"z-index", "1000"⟩ ],
    .compact [".modal-overlay[hidden]"] [⟨"display", "none"⟩],
    .compact [".modal-content"]
      [ ⟨"background", "#fff"⟩,
        ⟨"border-radius", "8px"⟩,
        ⟨"max-width", "560px"⟩,
        ⟨"width", "90%"⟩,
        ⟨"padding", "24px"⟩ ],
    .compact [".modal-header"]
      [⟨"display", "flex"⟩, ⟨"justify-content", "space-between"⟩, ⟨"align-items", "center"⟩] ]

/-- The script of the component, which runs with its container as `el`. -/
def script : List Script.Code :=
  [
    "var trigger = el.querySelector('.modal-trigger');",
    "var modal = el.querySelector('.modal-overlay');",
    "var closeBtn = el.querySelector('.modal-close');",
    .block "if (trigger && modal) " [
      .block "var close = function () " [
        "modal.hidden = true;",
        "document.body.style.overflow = '';"
      ] ";",
      .block "trigger.addEventListener('click', function () " [
        "modal.hidden = false;",
        "document.body.style.overflow = 'hidden';"
      ] ");",
      "if (closeBtn) closeBtn.addEventListener('click', close);",
      .block "modal.addEventListener('click', function (e) " [
        "if (e.target === modal) close();"
      ] ");",
      .block "document.addEventListener('keydown', function (e) " [
        "if (e.key === 'Escape' && !modal.hidden) close();"
      ] ");"
    ] "" ]

def definition : Definition :=
  { type := "modal"
    fields := fields
    markup := markup
    style := style
    script := script }

end StaticSite.Component.Modal
