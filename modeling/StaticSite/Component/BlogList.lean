import StaticSite.Component.Definition

/-!
Contract: the blog-list component, teasers of posts.

Owns:
- the posts, whose pictures are described by their titles;
- the region that fresh posts replace.

Does not own: the container around the markup (see `StaticSite.Emission.Container`).
-/

namespace StaticSite.Component.BlogList

open StaticSite.Markup StaticSite.Schema

def postFields : List Field :=
  [ textField "title" "title" "",
    textField "excerpt" "excerpt" "",
    linkField "slug" "slug" "#",
    linkField "featured_image" "featuredImage" "",
    textField "author" "author" "",
    textField "published_at" "publishedAt" "" ]

def fields : List Field :=
  [textField "title" "title" "Latest Posts", recordsField "posts" "posts" postFields]

/-- A post whose title also describes its picture. -/
def withImageDescription (post : Json.Members) : Json.Members :=
  Association.bind "image_alt" ((post.lookup "title").getD .null) post

def markup : Template :=
  .block "div" [attr "class" "blog-container"]
    [ .element "h2" [attr "class" "blog-title"] [field "title"],
      .block "div" [attr "class" "blog-grid", attr "data-island-slot" "posts"]
        [ .perItem "posts"
            [ .block "article" [attr "class" "blog-post"]
                [ .inline "featured_image"
                    [ .void "img"
                        [ slot "src" "featured_image",
                          slot "alt" "image_alt",
                          attr "loading" "lazy" ] ],
                  .block "div" [attr "class" "blog-post-content"]
                    [ .element "h3" [] [.element "a" [slot "href" "slug"] [field "title"]],
                      .element "p" [attr "class" "blog-excerpt"] [field "excerpt"],
                      .block "div" [attr "class" "blog-meta"]
                        [ .element "span" [attr "class" "blog-date"] [field "published_at"],
                          .inline "author"
                            [ .element "span" [attr "class" "blog-author"]
                                ["By ", field "author"] ] ] ] ] ] ] ]

def style : List Style.Rule :=
  [ .compact [".blog-grid"]
      [ ⟨"display", "grid"⟩,
        ⟨"grid-template-columns", "repeat(auto-fill, minmax(280px, 1fr))"⟩,
        ⟨"gap", "24px"⟩ ],
    .compact [".blog-post img"]
      [ ⟨"width", "100%"⟩,
        ⟨"height", "180px"⟩,
        ⟨"object-fit", "cover"⟩,
        ⟨"border-radius", "6px"⟩ ],
    .compact [".blog-meta"]
      [⟨"font-size", "0.85rem"⟩, ⟨"color", "#666"⟩, ⟨"display", "flex"⟩, ⟨"gap", "12px"⟩] ]

def definition : Definition :=
  { type := "blog-list"
    fields := fields
    markup := markup
    style := style
    derive := mapRecordsIn "posts" withImageDescription }

end StaticSite.Component.BlogList
