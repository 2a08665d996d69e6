/-!
Contract: text that is put into a block comment.

Owns:
- removal of the marks that would end the comment.

Does not own: the comments themselves.
-/

namespace StaticSite.Text

/-- A text without the marks that end a block comment, found from left to right.
Marks that only form by the removal of others stay. -/
def dropCommentEnds : List Char → List Char
  | '*' :: '/' :: rest => dropCommentEnds rest
  | character :: rest => character :: dropCommentEnds rest
  | [] => []

/-- A text without the marks that end a block comment. -/
def withoutCommentEnds (text : String) : String :=
  String.ofList (dropCommentEnds text.toList)

theorem toList_withoutCommentEnds (text : String) :
    (withoutCommentEnds text).toList = dropCommentEnds text.toList :=
  String.toList_ofList

/-- Nothing is added, and nothing changes its place. -/
theorem dropCommentEnds_sublist (text : List Char) :
    (dropCommentEnds text).Sublist text := by
  fun_induction dropCommentEnds text with
  | case1 rest inductionHypothesis =>
      exact (inductionHypothesis.cons _).cons _
  | case2 character rest _ inductionHypothesis =>
      exact inductionHypothesis.cons_cons _
  | case3 => exact List.Sublist.refl []

end StaticSite.Text
