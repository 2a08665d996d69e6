import StaticSite.Site.Compile

/-!
Contract: the files that a compiled site consists of.

Owns:
- the path of every file;
- the order of the files. A path that occurs again keeps its place and takes the
  later content.

Does not own: the content of the files.
-/

namespace StaticSite.Site

open StaticSite.Page

def documentFile (page : CompiledPage) : File :=
  ⟨filePath page.path, page.html, "text/html"⟩

def styleFile (page : CompiledPage) : File :=
  ⟨"css/page-" ++ page.asset ++ ".css", page.css, "text/css"⟩

def scriptFile (page : CompiledPage) : File :=
  ⟨"js/page-" ++ page.asset ++ ".js", page.js, "application/javascript"⟩

/-- The style sheet and the script that all pages share. -/
def sharedFiles (site : CompiledSite) : List File :=
  [ ⟨"css/global.css", site.globalStyle, "text/css"⟩,
    ⟨"js/global.js", site.globalScript, "application/javascript"⟩ ]

/-- All files in the order in which they are written. -/
def writtenFiles (site : CompiledSite) : List File :=
  site.pages.map documentFile ++ sharedFiles site ++
    site.pages.flatMap (fun page => [styleFile page, scriptFile page]) ++ site.assets

/-- The files that remain when some are written in order. -/
def filesAfter (written : List File) : List (String × File) :=
  Association.ofBindings (written.map fun file => (file.path, file))

def filesOf (site : CompiledSite) : List (String × File) :=
  filesAfter (writtenFiles site)

end StaticSite.Site
