import StaticSite.Page.Document
import StaticSite.Site.GlobalStyle
import StaticSite.Site.Hydration.Renderer
import StaticSite.Site.Hydration.Request
import StaticSite.Site.Hydration.Schedule

/-!
Contract: the script that all pages of a site share.

Owns:
- the script that fetches the data of islands and fills them in, with the helpers
  that component scripts use;
- its head, which names the site and the default address of the data.

Does not own: the data that pages hand to it (see `StaticSite.Page.Document`).
-/

namespace StaticSite.Site

def hydrationCode : List Script.Code :=
  [ .block "(function (window, document) "
      (Script.apart
        [["'use strict';"], requestCode, supportCode, rendererCode, scheduleCode])
      ")(window, document);" ]

/-- The script file that all pages of a site share. -/
def hydrationScript (siteName : Option String) (apiBaseUrl : String) : String :=
  Text.endLines
    [ headComment "Global JavaScript" siteName,
      "var DEFAULT_API_BASE = " ++
        Page.inlineData (.text (Text.stripTrailing '/' apiBaseUrl)) ++ ";" ] ++
  Script.text hydrationCode

end StaticSite.Site
