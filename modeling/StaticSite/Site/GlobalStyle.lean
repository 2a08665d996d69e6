import StaticSite.Page.Source
import StaticSite.Text.Comment

/-!
Contract: the style that all pages of a site share.

Owns:
- the rules, and the comment with the name of the site before them.

Does not own: the styles of components.
-/

namespace StaticSite.Site

def globalRules : List Style.Rule :=
  [ .spread ["*"] [⟨"box-sizing", "border-box"⟩, ⟨"margin", "0"⟩, ⟨"padding", "0"⟩],
    .gap,
    .spread ["body"]
      [ ⟨"font-family", "-apple-system, BlinkMacSystemFont, 'Segoe UI', Roboto, Oxygen, Ubuntu, Cantarell, sans-serif"⟩,
        ⟨"line-height", "1.6"⟩,
        ⟨"color", "#333"⟩,
        ⟨"background-color", "#fff"⟩ ],
    .gap,
    .compact ["img"] [⟨"max-width", "100%"⟩],
    .gap,
    .compact [".container"]
      [⟨"max-width", "1200px"⟩, ⟨"margin", "0 auto"⟩, ⟨"padding", "0 20px"⟩],
    .compact [".row"] [⟨"display", "flex"⟩, ⟨"flex-wrap", "wrap"⟩, ⟨"margin", "0 -15px"⟩],
    .compact [".col"] [⟨"flex", "1"⟩, ⟨"padding", "0 15px"⟩],
    .gap,
    .group "@media (max-width: 768px)"
      [ .compact [".container"] [⟨"padding", "0 15px"⟩],
        .compact [".row"] [⟨"margin", "0 -10px"⟩],
        .compact [".col"] [⟨"padding", "0 10px"⟩] ],
    .gap,
    .compact [".fade-in"] [⟨"animation", "fadeIn 0.5s ease-in"⟩],
    .gap,
    .group "@keyframes fadeIn"
      [ .compact ["from"] [⟨"opacity", "0"⟩, ⟨"transform", "translateY(20px)"⟩],
        .compact ["to"] [⟨"opacity", "1"⟩, ⟨"transform", "translateY(0)"⟩] ],
    .gap,
    .group "@keyframes spin"
      [ .compact ["0%"] [⟨"transform", "rotate(0deg)"⟩],
        .compact ["100%"] [⟨"transform", "rotate(360deg)"⟩] ],
    .gap,
    .spread [".component-placeholder", ".unknown-component"]
      [ ⟨"padding", "16px"⟩,
        ⟨"border", "1px dashed #d1d5db"⟩,
        ⟨"color", "#6b7280"⟩,
        ⟨"background-color", "#f9fafb"⟩,
        ⟨"text-align", "center"⟩ ],
    .gap,
    .compact [".form-status:empty"] [⟨"display", "none"⟩],
    .gap,
    .compact [".dynamic-component"] [⟨"position", "relative"⟩, ⟨"min-height", "50px"⟩],
    .gap,
    .compact [".dynamic-component.loading"] [⟨"opacity", "0.6"⟩],
    .gap,
    .spread [".dynamic-component.loading::before"]
      [ ⟨"content", "''"⟩,
        ⟨"position", "absolute"⟩,
        ⟨"top", "50%"⟩,
        ⟨"left", "50%"⟩,
        ⟨"transform", "translate(-50%, -50%)"⟩,
        ⟨"width", "20px"⟩,
        ⟨"height", "20px"⟩,
        ⟨"border", "2px solid #f3f3f3"⟩,
        ⟨"border-top", "2px solid #3498db"⟩,
        ⟨"border-radius", "50%"⟩,
        ⟨"animation", "spin 1s linear infinite"⟩ ],
    .gap,
    .spread [".island-error"]
      [ ⟨"color", "#e74c3c"⟩,
        ⟨"background-color", "#fdf2f2"⟩,
        ⟨"border", "1px solid #fecaca"⟩,
        ⟨"padding", "10px"⟩,
        ⟨"border-radius", "4px"⟩,
        ⟨"margin", "10px 0"⟩,
        ⟨"text-align", "center"⟩ ],
    .gap,
    .spread [".lightbox"]
      [ ⟨"position", "fixed"⟩,
        ⟨"inset", "0"⟩,
        ⟨"background", "rgba(0, 0, 0, 0.85)"⟩,
        ⟨"display", "flex"⟩,
        ⟨"align-items", "center"⟩,
        ⟨"justify-content", "center"⟩,
        ⟨"z-index", "2000"⟩ ],
    .compact [".lightbox img"] [⟨"max-width", "90vw"⟩, ⟨"max-height", "90vh"⟩],
    .spread [".lightbox-close"]
      [ ⟨"position", "absolute"⟩,
        ⟨"top", "16px"⟩,
        ⟨"right", "16px"⟩,
        ⟨"font-size", "2rem"⟩,
        ⟨"color", "#fff"⟩,
        ⟨"background", "none"⟩,
        ⟨"border", "none"⟩,
        ⟨"cursor", "pointer"⟩ ] ]

/-- The comment at the head of a file of a site. -/
def headComment (subject : String) (website : Option String) : String :=
  "/* " ++ subject ++ " for " ++
    Text.withoutCommentEnds (Text.firstOf [website] "Untitled Site") ++ " */"

/-- The style file that all pages of a website share. -/
def globalStyle (website : Website) : String :=
  headComment "Global Styles" website.name ++ "\n\n" ++ Style.text globalRules

end StaticSite.Site
