import Mathlib.Data.List.Basic
import StaticSite.Text.Blank

/-!
Contract: style texts and their comments.

Owns:
- what a style text holds outside of its comments, and whether it leaves a comment open;
- reading a style text in parts.

Does not own: which comments a style text has (see `StaticSite.Proofs.Emission.BaseRule`).
-/

namespace StaticSite.Style

/-- The characters of a text outside of comments, and whether the text ends inside of one.
`inside` tells whether it begins inside of one. -/
def scanComments : Bool → List Char → List Char × Bool
  | false, '/' :: '*' :: rest => scanComments true rest
  | true, '*' :: '/' :: rest => scanComments false rest
  | false, character :: rest =>
      (character :: (scanComments false rest).1, (scanComments false rest).2)
  | true, _ :: rest => scanComments true rest
  | inside, [] => ([], inside)

/-- A text without its comments; a comment that nothing ends reaches to the end. -/
def withoutComments (text : List Char) : List Char :=
  (scanComments false text).1

/-- Whether a text leaves a comment open at its end. -/
def leavesCommentOpen (text : List Char) : Bool :=
  (scanComments false text).2

theorem scanComments_opening (rest : List Char) :
    scanComments false ('/' :: '*' :: rest) = scanComments true rest :=
  rfl

theorem scanComments_outside {character : Char} {rest : List Char}
    (noMark : ∀ further, character = '/' → rest = '*' :: further → False) :
    scanComments false (character :: rest) =
      (character :: (scanComments false rest).1, (scanComments false rest).2) := by
  rw [scanComments]
  exact noMark

theorem scanComments_inside {character : Char} {rest : List Char}
    (noMark : ∀ further, character = '*' → rest = '/' :: further → False) :
    scanComments true (character :: rest) = scanComments true rest := by
  rw [scanComments]
  exact noMark

/-- Whether a text may follow any other without forming a comment mark with it. -/
def BeginsApart (text : List Char) : Prop :=
  text.head? ≠ some '*' ∧ text.head? ≠ some '/'

theorem beginsApart_cons {first : Char} (noStar : first ≠ '*') (noSlash : first ≠ '/')
    (rest : List Char) : BeginsApart (first :: rest) :=
  ⟨fun same => noStar (Option.some.inj same), fun same => noSlash (Option.some.inj same)⟩

theorem noMark_append {first second : Char} {before rest : List Char} {character : Char}
    (apart : rest.head? ≠ some second)
    (noMark : ∀ further, character = first → before = second :: further → False) :
    ∀ further, character = first → before ++ rest = second :: further → False := by
  intro further isFirst isText
  cases before with
  | nil =>
      apply apart
      rw [← List.nil_append rest, isText]
      rfl
  | cons next others =>
      have isSecond := (List.cons.inj isText).1
      exact noMark others isFirst (by rw [isSecond])

/-- A text is read part by part, the second part from where the first one ends. -/
theorem scanComments_append (inside : Bool) (text : List Char) {rest : List Char}
    (apart : BeginsApart rest) :
    scanComments inside (text ++ rest) =
      ((scanComments inside text).1 ++ (scanComments (scanComments inside text).2 rest).1,
        (scanComments (scanComments inside text).2 rest).2) := by
  -- Only at the last character could a mark form across the boundary, and `apart` excludes it.
  fun_induction scanComments inside text with
  | case1 further inductionHypothesis => exact inductionHypothesis
  | case2 further inductionHypothesis => exact inductionHypothesis
  | case3 character further noMark inductionHypothesis =>
      rw [List.cons_append, scanComments_outside (noMark_append apart.1 noMark),
        inductionHypothesis]
      rfl
  | case4 character further noMark inductionHypothesis =>
      rw [List.cons_append, scanComments_inside (noMark_append apart.2 noMark),
        inductionHypothesis]
  | case5 inside => rfl

/-- After a line break, a text is read from where the line ends. -/
theorem scanComments_line_append (inside : Bool) (text rest : List Char) :
    scanComments inside (text ++ '\n' :: rest) =
      ((scanComments inside (text ++ ['\n'])).1 ++
          (scanComments (scanComments inside (text ++ ['\n'])).2 rest).1,
        (scanComments (scanComments inside (text ++ ['\n'])).2 rest).2) := by
  have apart (others : List Char) : BeginsApart ('\n' :: others) :=
    beginsApart_cons (by decide) (by decide) others
  rw [scanComments_append inside text (apart rest), scanComments_append inside text (apart [])]
  cases (scanComments inside text).2 with
  | false => simp [scanComments]
  | true => simp [scanComments]

/-- Whatever follows a line is read as it is by itself exactly if the line leaves no comment
open. -/
theorem withoutComments_append_iff (text : List Char) :
    (∀ following, withoutComments (text ++ ['\n'] ++ following) =
        withoutComments (text ++ ['\n']) ++ withoutComments following) ↔
      leavesCommentOpen (text ++ ['\n']) = false := by
  have readOn (following : List Char) : withoutComments (text ++ ['\n'] ++ following) =
      withoutComments (text ++ ['\n']) ++
        (scanComments (leavesCommentOpen (text ++ ['\n'])) following).1 := by
    rw [List.append_assoc]
    exact congrArg Prod.fst (scanComments_line_append false text following)
  constructor
  · intro readsAlone
    cases isOpen : leavesCommentOpen (text ++ ['\n']) with
    | false => rfl
    | true =>
        have hidden := readOn ['a']
        rw [readsAlone ['a'], isOpen] at hidden
        exact absurd (List.append_cancel_left hidden) (by decide)
  · intro closed following
    rw [readOn, closed]
    rfl

/-- Outside of comments, a text without slashes stands as it is, whatever follows. -/
theorem scanComments_append_of_no_slash {text : List Char} (plain : '/' ∉ text)
    (rest : List Char) :
    scanComments false (text ++ rest) =
      (text ++ (scanComments false rest).1, (scanComments false rest).2) := by
  induction text with
  | nil => rfl
  | cons first others inductionHypothesis =>
      rw [List.mem_cons, not_or] at plain
      rw [List.cons_append, scanComments_outside fun _ isSlash _ => plain.1 isSlash.symm,
        inductionHypothesis plain.2]
      rfl

/-- Inside of a comment, a text without asterisks vanishes, whatever follows. -/
theorem scanComments_append_of_no_star {text : List Char} (plain : '*' ∉ text)
    (rest : List Char) : scanComments true (text ++ rest) = scanComments true rest := by
  induction text with
  | nil => rfl
  | cons first others inductionHypothesis =>
      rw [List.mem_cons, not_or] at plain
      rw [List.cons_append, scanComments_inside fun _ isStar _ => plain.1 isStar.symm,
        inductionHypothesis plain.2]

/-- Nothing is added by leaving comments out. -/
theorem scanComments_sublist (inside : Bool) (text : List Char) :
    (scanComments inside text).1.Sublist text := by
  fun_induction scanComments inside text with
  | case1 rest inductionHypothesis => exact (inductionHypothesis.cons _).cons _
  | case2 rest inductionHypothesis => exact (inductionHypothesis.cons _).cons _
  | case3 character rest _ inductionHypothesis => exact inductionHypothesis.cons_cons _
  | case4 character rest _ inductionHypothesis => exact inductionHypothesis.cons _
  | case5 inside => exact List.Sublist.refl []

theorem withoutComments_sublist (text : List Char) : (withoutComments text).Sublist text :=
  scanComments_sublist false text

end StaticSite.Style
