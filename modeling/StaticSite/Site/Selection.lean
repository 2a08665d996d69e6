import StaticSite.Page.Source

/-!
Contract: which pages of a website are compiled.

Owns:
- the ids, paths and file names that kept pages reserve;
- the choice of pages. The first page with an id, a path or a file name wins, and a
  page that is left out reserves nothing.

Does not own: compilation of the chosen pages (see `StaticSite.Page.Compile`).
-/

namespace StaticSite.Site

/-- What the pages kept so far reserve. -/
structure Reserved where
  ids : List String
  paths : List String
  assets : List String

def Reserved.none : Reserved :=
  ⟨[], [], []⟩

/-- Whether a page clashes with no page kept so far. -/
def Reserved.admits (reserved : Reserved) (page : Page) : Bool :=
  !(reserved.ids.contains page.id || reserved.paths.contains page.path ||
    reserved.assets.contains page.asset)

def Reserved.add (reserved : Reserved) (page : Page) : Reserved :=
  { ids := page.id :: reserved.ids
    paths := page.path :: reserved.paths
    assets := page.asset :: reserved.assets }

/-- The pages of a list that are kept besides those kept so far. -/
def keptPages (reserved : Reserved) : List Page → List Page
  | [] => []
  | page :: others =>
      if reserved.admits page then
        page :: keptPages (reserved.add page) others
      else
        keptPages reserved others

/-- The pages of a website that are compiled, in order. -/
def pagesOf (website : Website) : List Page :=
  keptPages .none website.pages

end StaticSite.Site
