import StaticSite.Component.Definition

/-!
Contract: the faq component, questions that unfold their answers.

Owns:
- the questions and answers.

Does not own: the container around the markup (see `StaticSite.Emission.Container`).
-/

namespace StaticSite.Component.Faq

open StaticSite.Markup StaticSite.Schema

def questionFields : List Field :=
  [textField "question" "question" "", textField "answer" "answer" ""]

def fields : List Field :=
  [ textField "title" "title" "Frequently Asked Questions",
    recordsField "faqs" "faqs" questionFields ]

def markup : Template :=
  .block "div" [attr "class" "faq-container"]
    [ .element "h2" [attr "class" "faq-title"] [field "title"],
      .block "div" [attr "class" "faq-list"]
        [ .perItem "faqs"
            [ .block "details" [attr "class" "faq-item"]
                [ .element "summary"
                    [attr "class" "faq-question", slot "data-faq-index" "index"]
                    [field "question"],
                  .element "div" [attr "class" "faq-answer"] [.element "p" [] [field "answer"]] ] ] ] ]

def definition : Definition :=
  { type := "faq"
    fields := fields
    markup := markup
    derive := positionsIn "faqs" }

end StaticSite.Component.Faq
