import StaticSite.Page.Source

/-!
Contract: the web app manifest of a site.

Owns:
- the content and the text of the manifest.

Does not own: the icons that it names.
-/

namespace StaticSite.Site

def shortNameLength : Nat := 12

def icon (size : Nat) : Json :=
  .object
    [ ("src", .text ("/icon-" ++ toString size ++ ".png")),
      ("sizes", .text (toString size ++ "x" ++ toString size)),
      ("type", .text "image/png") ]

def manifestOf (website : Website) (options : Options) : Json :=
  .object
    [ ("name", .text website.title),
      ("short_name", .text (String.ofList (website.title.toList.take shortNameLength))),
      ("description", .text (Text.firstOf [website.description] "")),
      ("start_url", .text "/"),
      ("display", .text "standalone"),
      ("background_color", .text options.backgroundColor),
      ("theme_color", .text options.themeColor),
      ("icons", .array [icon 192, icon 512]),
      ("categories", .array [.text "business", .text "productivity"]),
      ("lang", .text website.languageOrDefault) ]

def manifestText (manifest : Json) : String :=
  manifest.write Json.indentedLayout

end StaticSite.Site
