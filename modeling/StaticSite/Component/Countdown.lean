import StaticSite.Component.Definition

/-!
Contract: the countdown component, the time left until a date.

Owns:
- the date and the texts before and after it;
- the script that counts down.

Does not own: the container around the markup (see `StaticSite.Emission.Container`).
-/

namespace StaticSite.Component.Countdown

open StaticSite.Markup StaticSite.Schema

def fields : List Field :=
  [ textField "title" "title" "Countdown Timer",
    textField "target_date" "targetDate" "",
    textField "expired_text" "expiredText" "Countdown Expired!" ]

def markup : Template :=
  .block "div" [attr "class" "countdown-container"]
    [ .element "h2" [attr "class" "countdown-title"] [field "title"],
      .block "div"
        [ attr "class" "countdown-timer",
          slot "data-target-date" "target_date",
          slot "data-expired-text" "expired_text" ]
        [ .element "div" [attr "class" "countdown-item"]
            [ .element "span" [attr "class" "countdown-number", attr "data-unit" "days"] ["0"],
              .element "span" [attr "class" "countdown-label"] ["Days"] ],
          .element "div" [attr "class" "countdown-item"]
            [ .element "span" [attr "class" "countdown-number", attr "data-unit" "hours"] ["0"],
              .element "span" [attr "class" "countdown-label"] ["Hours"] ],
          .element "div" [attr "class" "countdown-item"]
            [ .element "span" [attr "class" "countdown-number", attr "data-unit" "minutes"]
                ["0"],
              .element "span" [attr "class" "countdown-label"] ["Minutes"] ],
          .element "div" [attr "class" "countdown-item"]
            [ .element "span" [attr "class" "countdown-number", attr "data-unit" "seconds"]
                ["0"],
              .element "span" [attr "class" "countdown-label"] ["Seconds"] ] ] ]

def style : List Style.Rule :=
  [ .compact [".countdown-timer"]
      [⟨"display", "flex"⟩, ⟨"gap", "16px"⟩, ⟨"justify-content", "center"⟩],
    .compact [".countdown-number"]
      [⟨"display", "block"⟩, ⟨"font-size", "2rem"⟩, ⟨"font-weight", "bold"⟩] ]

/-- The script of the component, which runs with its container as `el`. -/
def script : List Script.Code :=
  [
    "var timer = el.querySelector('.countdown-timer');",
    .block "if (timer) " [
      "var units = \x7b\x7d;",
      "timer.querySelectorAll('.countdown-number').forEach(function (n) \x7b units[n.dataset.unit] = n; \x7d);",
      .block "var tick = function () " [
        "var target = new Date(timer.dataset.targetDate).getTime();",
        "if (isNaN(target)) return;",
        "var distance = target - Date.now();",
        .block "if (distance < 0) " [
          "timer.classList.add('countdown-expired');",
          "timer.setAttribute('data-state', 'expired');",
          "timer.textContent = timer.dataset.expiredText;",
          "clearInterval(handle);",
          "return;"
        ] "",
        .block "var values = " [
          "days: Math.floor(distance / 86400000),",
          "hours: Math.floor((distance % 86400000) / 3600000),",
          "minutes: Math.floor((distance % 3600000) / 60000),",
          "seconds: Math.floor((distance % 60000) / 1000)"
        ] ";",
        .block "Object.keys(values).forEach(function (unit) " [
          "if (units[unit]) units[unit].textContent = values[unit];"
        ] ");"
      ] ";",
      "var handle = setInterval(tick, 1000);",
      "tick();"
    ] "" ]

def definition : Definition :=
  { type := "countdown"
    fields := fields
    markup := markup
    style := style
    script := script }

end StaticSite.Component.Countdown
