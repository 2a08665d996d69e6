import Mathlib.Data.List.Infix
import StaticSite.Text.Comment

/-!
Contract: where a block comment ends.

Owns:
- the block comment at the head of a text, through its first end mark;
- texts in which the removal of end marks forms a new one, and the law that no other
  texts hold an end mark after the removal.

Does not own: which texts are put into comments.
-/

namespace StaticSite.Text

/-- The mark that ends a block comment. -/
def commentEnd : List Char :=
  ['*', '/']

/-! ## The comment at the head of a text -/

/-- A text cut behind its first comment end. -/
def cutBehindEnd : List Char → Option (List Char × List Char)
  | '*' :: '/' :: rest => some (['*', '/'], rest)
  | character :: rest => (cutBehindEnd rest).map fun cut => (character :: cut.1, cut.2)
  | [] => none

/-- The block comment at the head of a text and what follows it. -/
def cutComment : List Char → Option (List Char × List Char)
  | '/' :: '*' :: rest => (cutBehindEnd rest).map fun cut => ('/' :: '*' :: cut.1, cut.2)
  | _ => none

theorem commentEnd_infix_of_mark {text rest : List Char} (isMark : text = '*' :: '/' :: rest) :
    commentEnd <:+: text :=
  ⟨[], rest, by rw [isMark]; rfl⟩

theorem cutBehindEnd_cons_of_no_mark {character : Char} {rest : List Char}
    (noMark : ¬ commentEnd <+: character :: rest) :
    cutBehindEnd (character :: rest) =
      (cutBehindEnd rest).map fun cut => (character :: cut.1, cut.2) := by
  rw [cutBehindEnd]
  intro further isStar isRest
  apply noMark
  rw [isStar, isRest]
  exact ⟨further, rfl⟩

/-- Ahead of an end mark, a text of at least one character begins with a mark only if it does so by
itself: the character before an end mark cannot be its star. -/
theorem commentEnd_prefix_cons_of_append {first : Char} {others rest : List Char}
    (mark : commentEnd <+: first :: (others ++ commentEnd ++ rest)) :
    commentEnd <+: first :: others := by
  obtain ⟨further, isText⟩ := mark
  obtain ⟨isStar, isRest⟩ := List.cons.inj isText
  cases others with
  | nil =>
      have isSlash := (List.cons.inj isRest).1
      exact absurd isSlash (by decide)
  | cons second more =>
      have isSlash := (List.cons.inj isRest).1
      exact ⟨more, by rw [← isStar, ← isSlash]; rfl⟩

/-- A comment reaches exactly to the mark behind its body if the body holds no mark. -/
theorem cutBehindEnd_append_iff (body rest : List Char) :
    cutBehindEnd (body ++ commentEnd ++ rest) = some (body ++ commentEnd, rest) ↔
      ¬ commentEnd <:+: body := by
  induction body with
  | nil =>
      have holdsNothing : ¬ commentEnd <:+: [] := by
        intro held
        cases List.infix_nil.mp held
      exact iff_of_true rfl holdsNothing
  | cons first others inductionHypothesis =>
      by_cases mark : commentEnd <+: first :: others
      · have held : commentEnd <:+: first :: others := mark.isInfix
        obtain ⟨later, isBody⟩ := mark
        have cutEarly : cutBehindEnd (first :: others ++ commentEnd ++ rest) =
            some (commentEnd, later ++ commentEnd ++ rest) := by
          rw [← isBody]
          rfl
        refine iff_of_false ?_ (not_not_intro held)
        rw [cutEarly]
        intro same
        have sameLength := congrArg List.length (Prod.mk.inj (Option.some.inj same)).2
        simp only [List.length_append, commentEnd, List.length_cons, List.length_nil] at sameLength
        omega
      · have noMark : ¬ commentEnd <+: first :: (others ++ commentEnd ++ rest) := fun later =>
          mark (commentEnd_prefix_cons_of_append later)
        have cutLater := cutBehindEnd_cons_of_no_mark noMark
        rw [List.infix_cons_iff, not_or, ← inductionHypothesis]
        simp only [List.cons_append, cutLater, Option.map_eq_some_iff]
        constructor
        · rintro ⟨cut, isCut, same⟩
          obtain ⟨sameBody, sameRest⟩ := Prod.mk.inj same
          refine ⟨mark, ?_⟩
          rw [isCut, ← (List.cons.inj sameBody).2, ← sameRest]
        · rintro ⟨-, isCut⟩
          exact ⟨_, isCut, rfl⟩

/-- The comment at the head of a text reaches exactly to the mark behind its body if the
body holds no mark. -/
theorem cutComment_append_iff (body rest : List Char) :
    cutComment ('/' :: '*' :: body ++ commentEnd ++ rest) =
        some ('/' :: '*' :: body ++ commentEnd, rest) ↔
      ¬ commentEnd <:+: body := by
  rw [← cutBehindEnd_append_iff body rest]
  simp only [List.cons_append, cutComment, Option.map_eq_some_iff]
  constructor
  · rintro ⟨cut, isCut, same⟩
    obtain ⟨sameBody, sameRest⟩ := Prod.mk.inj same
    rw [isCut, ← (List.cons.inj (List.cons.inj sameBody).2).2, ← sameRest]
  · intro isCut
    exact ⟨_, isCut, rfl⟩

/-! ## Marks that form by the removal of others -/

/-- Comment ends, one directly after the other. -/
def commentEnds (count : Nat) : List Char :=
  (List.replicate count commentEnd).flatten

/-- Whether a text holds an asterisk and a slash with nothing but comment ends, and at
least one, between them. -/
def FormsCommentEnd (text : List Char) : Prop :=
  ∃ before count after, text = before ++ '*' :: (commentEnds (count + 1) ++ '/' :: after)

theorem commentEnds_succ (count : Nat) : commentEnds (count + 1) = '*' :: '/' :: commentEnds count :=
  rfl

theorem dropCommentEnds_cons_of_no_mark {character : Char} {rest : List Char}
    (noMark : ∀ further, character = '*' → rest = '/' :: further → False) :
    dropCommentEnds (character :: rest) = character :: dropCommentEnds rest := by
  rw [dropCommentEnds]
  exact noMark

/-- A slash comes first after the removal where nothing but comment ends stands before it. -/
theorem head?_dropCommentEnds_iff (text : List Char) :
    (dropCommentEnds text).head? = some '/' ↔
      ∃ count after, text = commentEnds count ++ '/' :: after := by
  constructor
  · intro slashFirst
    induction text using dropCommentEnds.induct with
    | case1 rest inductionHypothesis =>
        obtain ⟨count, after, isRest⟩ := inductionHypothesis slashFirst
        exact ⟨count + 1, after, by rw [isRest, commentEnds_succ]; rfl⟩
    | case2 character rest noMark _ =>
        rw [dropCommentEnds_cons_of_no_mark noMark] at slashFirst
        have isSlash := Option.some.inj slashFirst
        exact ⟨0, rest, by rw [isSlash]; rfl⟩
    | case3 => cases slashFirst
  · rintro ⟨count, after, rfl⟩
    induction count with
    | zero => rfl
    | succ count inductionHypothesis =>
        rw [commentEnds_succ]
        exact inductionHypothesis

theorem held_of_formsCommentEnd {text : List Char} (forms : FormsCommentEnd text) :
    commentEnd <:+: dropCommentEnds text := by
  obtain ⟨before, count, after, isText⟩ := forms
  -- The removal never takes the asterisk in question: the character after it is no slash.
  induction text using dropCommentEnds.induct generalizing before with
  | case1 rest inductionHypothesis =>
      rcases before with _ | ⟨first, _ | ⟨second, others⟩⟩
      · rw [commentEnds_succ] at isText
        have isSlash := (List.cons.inj (List.cons.inj isText).2).1
        exact absurd isSlash (by decide)
      · have isSlash := (List.cons.inj (List.cons.inj isText).2).1
        exact absurd isSlash (by decide)
      · exact inductionHypothesis others (List.cons.inj (List.cons.inj isText).2).2
  | case2 character rest noMark inductionHypothesis =>
      rw [dropCommentEnds_cons_of_no_mark noMark]
      rcases before with _ | ⟨first, others⟩
      · obtain ⟨isStar, isRest⟩ := List.cons.inj isText
        have slashFirst := (head?_dropCommentEnds_iff rest).mpr ⟨count + 1, after, isRest⟩
        obtain ⟨further, isDropped⟩ := List.head?_eq_some_iff.mp slashFirst
        exact commentEnd_infix_of_mark (by rw [isStar, isDropped])
      · have later := inductionHypothesis others (List.cons.inj isText).2
        exact List.infix_cons_iff.mpr (Or.inr later)
  | case3 =>
      have noText := congrArg List.length isText
      simp at noText

theorem formsCommentEnd_of_held {text : List Char}
    (held : commentEnd <:+: dropCommentEnds text) : FormsCommentEnd text := by
  induction text using dropCommentEnds.induct with
  | case1 rest inductionHypothesis =>
      obtain ⟨before, count, after, isRest⟩ := inductionHypothesis held
      exact ⟨'*' :: '/' :: before, count, after, by rw [isRest]; rfl⟩
  | case2 character rest noMark inductionHypothesis =>
      rw [dropCommentEnds_cons_of_no_mark noMark, List.infix_cons_iff] at held
      rcases held with ⟨further, isDropped⟩ | later
      · obtain ⟨isStar, isRest⟩ := List.cons.inj isDropped
        have slashFirst : (dropCommentEnds rest).head? = some '/' := by
          rw [← isRest]
          rfl
        obtain ⟨count, after, isEnds⟩ := (head?_dropCommentEnds_iff rest).mp slashFirst
        cases count with
        | zero => exact (noMark after isStar.symm isEnds).elim
        | succ count => exact ⟨[], count, after, by rw [← isStar, isEnds]; rfl⟩
      · obtain ⟨before, count, after, isRest⟩ := inductionHypothesis later
        exact ⟨character :: before, count, after, by rw [isRest]; rfl⟩
  | case3 => cases List.infix_nil.mp held

theorem commentEnd_infix_dropCommentEnds_iff (text : List Char) :
    commentEnd <:+: dropCommentEnds text ↔ FormsCommentEnd text :=
  ⟨formsCommentEnd_of_held, held_of_formsCommentEnd⟩

/-- Comment ends of a text between words that hold no asterisk are those of the text. -/
theorem commentEnd_infix_between_iff {before text : List Char} {after : Char}
    (plainBefore : '*' ∉ before) (plainAfter : after ≠ '/') :
    commentEnd <:+: before ++ text ++ [after] ↔ commentEnd <:+: text := by
  constructor
  · intro held
    rw [List.infix_concat_iff] at held
    rcases held with ⟨front, isEnd⟩ | inFront
    · have isSlash : after = '/' := by
        have sameLast := congrArg List.getLast? isEnd
        simpa [commentEnd, eq_comm] using sameLast
      exact absurd isSlash plainAfter
    · rw [List.infix_append_iff] at inFront
      rcases inFront with inBefore | inText | ⟨tail, head, isMark, isTail, isHead⟩
      · have starBefore : '*' ∈ before := inBefore.subset (by simp [commentEnd])
        exact absurd starBefore plainBefore
      · exact inText
      · cases tail with
        | nil =>
            rw [List.nil_append] at isMark
            rw [isMark]
            exact isHead.isInfix
        | cons star others =>
            have isStar : star = '*' := (List.cons.inj isMark).1.symm
            have starBefore : star ∈ before := isTail.subset List.mem_cons_self
            rw [isStar] at starBefore
            exact absurd starBefore plainBefore
  · rintro ⟨front, behind, rfl⟩
    exact ⟨before ++ front, behind ++ [after], by simp only [List.append_assoc]⟩

end StaticSite.Text
