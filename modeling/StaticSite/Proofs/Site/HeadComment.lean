import StaticSite.Proofs.Text.Comment
import StaticSite.Site.Hydration

/-!
Contract: the comment with the name of a site, at the head of the files that all its pages
share.

Owns:
- the part of each file behind that comment, in which the name does not occur;
- the names with which the comment ends where it should.

Does not own: the removal of comment ends (see `StaticSite.Proofs.Text.Comment`).
-/

namespace StaticSite.Site

open StaticSite.Text

def hydrationBody (apiBaseUrl : String) : String :=
  "\n" ++
    Text.endLines
      [ "var DEFAULT_API_BASE = " ++
          Page.inlineData (.text (Text.stripTrailing '/' apiBaseUrl)) ++ ";" ] ++
    Script.text hydrationCode

def globalStyleBody : String :=
  "\n\n" ++ Style.text globalRules

theorem hydrationScript_eq (name : Option String) (apiBaseUrl : String) :
    hydrationScript name apiBaseUrl =
      headComment "Global JavaScript" name ++ hydrationBody apiBaseUrl := by
  apply String.toList_inj.mp
  simp [hydrationScript, hydrationBody, Text.toList_endLines, String.toList_append]

theorem globalStyle_eq (website : Website) :
    globalStyle website = headComment "Global Styles" website.name ++ globalStyleBody := by
  rw [globalStyle, globalStyleBody, String.append_assoc]

/-- A head comment is its body between the two marks of a comment. -/
theorem toList_headComment (subject : String) (name : Option String) :
    (headComment subject name).toList =
      '/' :: '*' :: ((" " ++ subject ++ " for ").toList ++
        dropCommentEnds (firstOf [name] "Untitled Site").toList ++ [' ']) ++ commentEnd := by
  have opening : "/* ".toList = '/' :: '*' :: " ".toList := by decide
  have closing : " */".toList = ' ' :: commentEnd := by decide
  simp only [headComment, String.toList_append, toList_withoutCommentEnds, opening, closing,
    List.cons_append, List.append_assoc, List.nil_append]

/-- A file with the name of a site in its head comment, whatever follows, has the comment
that it should have unless the name forms a comment end. -/
theorem cutComment_headComment_iff {subject : String} (plain : '*' ∉ subject.toList)
    (name : Option String) (rest : List Char) :
    cutComment ((headComment subject name).toList ++ rest) =
        some ((headComment subject name).toList, rest) ↔
      ¬ FormsCommentEnd (firstOf [name] "Untitled Site").toList := by
  have plainHead : '*' ∉ (" " ++ subject ++ " for ").toList := by
    intro member
    simp only [String.toList_append, List.mem_append] at member
    rcases member with (blank | inSubject) | inLiteral
    · exact absurd blank (by decide)
    · exact plain inSubject
    · exact absurd inLiteral (by decide)
  rw [toList_headComment, cutComment_append_iff,
    commentEnd_infix_between_iff plainHead (by decide), commentEnd_infix_dropCommentEnds_iff]

/-- The head comments of the script file and of the style file of a site end at their own
marks, with the same text behind them for every name, exactly if the name has no asterisk
and slash with nothing but comment ends, and at least one, between them. -/
theorem head_comments_end_iff (website : Website) (apiBaseUrl : String) :
    (cutComment (hydrationScript website.name apiBaseUrl).toList =
        some ((headComment "Global JavaScript" website.name).toList,
          (hydrationBody apiBaseUrl).toList) ↔
      ¬ FormsCommentEnd website.title.toList) ∧
    (cutComment (globalStyle website).toList =
        some ((headComment "Global Styles" website.name).toList, globalStyleBody.toList) ↔
      ¬ FormsCommentEnd website.title.toList) := by
  constructor
  · rw [hydrationScript_eq, String.toList_append]
    exact cutComment_headComment_iff (by decide) website.name _
  · rw [globalStyle_eq, String.toList_append]
    exact cutComment_headComment_iff (by decide) website.name _

/-- The name of a site that ends its head comment and begins another after some code. -/
def escapingName : String :=
  "**//;alert(1);/*"

theorem formsCommentEnd_escapingName : FormsCommentEnd escapingName.toList :=
  ⟨[], 0, ";alert(1);/*".toList, by decide⟩

/-- Not every name of a site stays inside the head comment of its script file. -/
theorem not_head_comments_end :
    ¬ ∀ (name : Option String) (apiBaseUrl : String),
      cutComment (hydrationScript name apiBaseUrl).toList =
        some ((headComment "Global JavaScript" name).toList,
          (hydrationBody apiBaseUrl).toList) := by
  intro ends
  have cut := ends (some escapingName) ""
  rw [hydrationScript_eq, String.toList_append] at cut
  exact (cutComment_headComment_iff (by decide) (some escapingName) _).mp cut
    formsCommentEnd_escapingName

end StaticSite.Site
