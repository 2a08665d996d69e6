import StaticSite.Emission.Container
import StaticSite.Proofs.Number.Notation
import StaticSite.Proofs.Style.Comment
import StaticSite.Proofs.Text.Blank

/-!
Contract: whether the rule of a container stays what it is among other rules.

Owns:
- style texts that are one rule when their comments are left out;
- the components whose rule is such a text, and those after which other rules are read as
  they stand.

Does not own: comments of style texts in general (see `StaticSite.Proofs.Style.Comment`).
-/

namespace StaticSite.Emission

open StaticSite.Component StaticSite.Number StaticSite.Style StaticSite.Text

/-! ## Texts without braces -/

/-- Whether a text holds neither brace, so that it neither begins nor ends a rule. -/
def HoldsNoBrace (text : List Char) : Prop :=
  '\x7b' ∉ text ∧ '\x7d' ∉ text

instance (text : List Char) : Decidable (HoldsNoBrace text) :=
  inferInstanceAs (Decidable (_ ∧ _))

theorem holdsNoBrace_of_all {text : List Char} (test : Char → Bool)
    (opening : test '\x7b' = false) (closing : test '\x7d' = false)
    (all : ∀ character ∈ text, test character = true) : HoldsNoBrace text := by
  constructor
  · intro member
    have passes := all _ member
    rw [opening] at passes
    cases passes
  · intro member
    have passes := all _ member
    rw [closing] at passes
    cases passes

theorem HoldsNoBrace.sublist {text part : List Char} (noBrace : HoldsNoBrace text)
    (isPart : part.Sublist text) : HoldsNoBrace part :=
  ⟨fun member => noBrace.1 (isPart.subset member), fun member => noBrace.2 (isPart.subset member)⟩

theorem HoldsNoBrace.append {text other : List Char} (noBrace : HoldsNoBrace text)
    (otherNoBrace : HoldsNoBrace other) : HoldsNoBrace (text ++ other) :=
  ⟨List.not_mem_append noBrace.1 otherNoBrace.1, List.not_mem_append noBrace.2 otherNoBrace.2⟩

theorem toList_without (unwanted : Char → Bool) (text : String) :
    (without unwanted text).toList = text.toList.filter fun inside => !unwanted inside :=
  String.toList_ofList

theorem mem_without {unwanted : Char → Bool} {text : String} {character : Char}
    (member : character ∈ (without unwanted text).toList) :
    character ∈ text.toList ∧ unwanted character = false := by
  rw [toList_without, List.mem_filter] at member
  exact ⟨member.1, by simpa using member.2⟩

theorem holdsNoBrace_without {unwanted : Char → Bool} (opening : unwanted '\x7b' = true)
    (closing : unwanted '\x7d' = true) (text : String) :
    HoldsNoBrace (without unwanted text).toList := by
  refine holdsNoBrace_of_all (fun character => !unwanted character) ?_ ?_ ?_
  · rw [opening]
    rfl
  · rw [closing]
    rfl
  · intro character member
    rw [(mem_without member).2]
    rfl

theorem strip_sublist (text : String) : (strip text).toList.Sublist text.toList := by
  rw [toList_strip]
  obtain ⟨before, after, isText, -, -⟩ := exists_append_dropEndsWhile isBlank text.toList
  have inside := List.infix_append before (dropEndsWhile isBlank text.toList) after
  rw [← isText] at inside
  exact inside.sublist

/-! ## The parts of a rule -/

theorem holdsNoBrace_sizeText {fallback : String} (plain : HoldsNoBrace fallback.toList)
    (stored : Json) : HoldsNoBrace (sizeText stored fallback).toList := by
  have unit : HoldsNoBrace "px".toList := by decide
  cases stored with
  | int value =>
      have digits : HoldsNoBrace (toString value).toList :=
        holdsNoBrace_of_all isNumeralCharacter (by decide) (by decide)
          fun _ member => isNumeralCharacter_of_mem_int member
      rw [sizeText, String.toList_append]
      exact digits.append unit
  | real value =>
      have absent {brace : Char} (noNumeral : isNumeralCharacter brace = false)
          (noInfinity : brace ∉ Binary64.plainStyle.infinityName.toList)
          (noName : brace ∉ Binary64.plainStyle.notANumberName.toList) :
          brace ∉ value.text.toList := by
        intro member
        rcases Binary64.mem_textIn member with numeral | infinity | notANumber
        · rw [noNumeral] at numeral
          cases numeral
        · exact noInfinity infinity
        · exact noName notANumber
      have number : HoldsNoBrace value.text.toList :=
        ⟨absent (by decide) (by decide) (by decide), absent (by decide) (by decide) (by decide)⟩
      rw [sizeText, String.toList_append]
      exact number.append unit
  | text value =>
      have size : HoldsNoBrace (strip (without endsValue value)).toList :=
        (holdsNoBrace_without (by decide) (by decide) value).sublist (strip_sublist _)
      unfold sizeText
      dsimp only
      split
      · exact plain
      · exact size
  | null => exact plain
  | bool value => exact plain
  | array items => exact plain
  | object members => exact plain

/-- The lines of a rule between its braces. -/
def declarations (node : Node) : String :=
  Text.endLines (sizeLines node ++ customLines node)

theorem holdsNoBrace_endLines {lines : List String}
    (noBrace : ∀ line ∈ lines, HoldsNoBrace line.toList) :
    HoldsNoBrace (Text.endLines lines).toList := by
  rw [Text.toList_endLines]
  induction lines with
  | nil => decide
  | cons line others inductionHypothesis =>
      have first := noBrace line List.mem_cons_self
      have later := inductionHypothesis fun other member =>
        noBrace other (List.mem_cons_of_mem line member)
      rw [List.flatMap_cons]
      exact (first.append (by decide)).append later

theorem holdsNoBrace_sizeLine {opening fallback : String} (plain : HoldsNoBrace opening.toList)
    (plainFallback : HoldsNoBrace fallback.toList) (stored : Json) :
    HoldsNoBrace (opening ++ sizeText stored fallback ++ ";").toList := by
  rw [String.toList_append, String.toList_append]
  exact (plain.append (holdsNoBrace_sizeText plainFallback stored)).append (by decide)

theorem holdsNoBrace_of_mem_sizeLines {node : Node} {line : String}
    (member : line ∈ sizeLines node) : HoldsNoBrace line.toList := by
  unfold sizeLines at member
  split at member
  · simp only [List.mem_cons, List.not_mem_nil, or_false] at member
    rcases member with rfl | rfl | rfl | rfl | rfl
    · decide
    · decide
    · exact holdsNoBrace_sizeLine (by decide) (by decide) _
    · exact holdsNoBrace_sizeLine (by decide) (by decide) _
    · exact holdsNoBrace_sizeLine (by decide) (by decide) _
  · cases member

theorem holdsNoBrace_of_mem_customLines {node : Node} {line : String}
    (member : line ∈ customLines node) : HoldsNoBrace line.toList := by
  unfold customLines at member
  split at member
  · dsimp only at member
    split at member
    · cases member
    · rw [List.mem_singleton.mp member, String.toList_append]
      have indented : HoldsNoBrace "  ".toList := by decide
      exact indented.append (holdsNoBrace_without (by decide) (by decide) _)
  · cases member

theorem holdsNoBrace_declarations (node : Node) : HoldsNoBrace (declarations node).toList := by
  refine holdsNoBrace_endLines fun line member => ?_
  rcases List.mem_append.mp member with inSizes | inCustom
  · exact holdsNoBrace_of_mem_sizeLines inSizes
  · exact holdsNoBrace_of_mem_customLines inCustom

/-- The comment with a type holds what the removal of braces and then of comment ends leaves
of the type. -/
theorem toList_typeComment (type : String) :
    (typeComment type).toList =
      '/' :: '*' :: (" Component: ".toList ++
        (dropCommentEnds (type.toList.filter fun inside => !endsRule inside) ++
          [' ', '*', '/'])) := by
  have opening : "/* Component: ".toList = '/' :: '*' :: " Component: ".toList := by decide
  have closing : " */".toList = [' ', '*', '/'] := by decide
  unfold typeComment
  rw [String.toList_append, String.toList_append, toList_withoutCommentEnds, toList_without,
    opening, closing, List.append_assoc]
  rfl

theorem holdsNoBrace_typeComment (type : String) : HoldsNoBrace (typeComment type).toList := by
  have opening : HoldsNoBrace ('/' :: '*' :: " Component: ".toList) := by decide
  have closing : HoldsNoBrace [' ', '*', '/'] := by decide
  have filtered := holdsNoBrace_without (by decide : endsRule _ = true) (by decide) type
  rw [toList_without] at filtered
  have name := filtered.sublist (dropCommentEnds_sublist _)
  rw [toList_typeComment]
  exact opening.append (name.append closing)

/-- A rule is its comment, its selector and its declarations between braces. -/
theorem toList_baseRule (node : Node) :
    (baseRule node).toList =
      (typeComment node.type).toList ++ '\n' :: ((containerSelector node).toList ++
        ' ' :: '\x7b' :: '\n' :: ((declarations node).toList ++ ['\x7d', '\n'])) := by
  have braces : " \x7b".toList = [' ', '\x7b'] := by decide
  have brace : "\x7d".toList = ['\x7d'] := by decide
  simp only [baseRule, declarations, Text.toList_endLines, List.flatMap_append,
    List.flatMap_cons, List.flatMap_nil, String.toList_append, braces, brace,
    List.append_assoc, List.cons_append, List.nil_append, List.append_nil]

theorem isIdCharacter_or_of_mem_containerSelector {node : Node} {character : Char}
    (safe : ∀ character ∈ node.id.toList, isIdCharacter character = true)
    (member : character ∈ (containerSelector node).toList) :
    (isIdCharacter character || character == '#') = true := by
  rw [containerSelector, String.toList_append, List.mem_append] at member
  rcases member with inPrefix | inId
  · have plain : "#component-".toList.all
        (fun letter => isIdCharacter letter || letter == '#') = true := by
      decide
    exact List.all_eq_true.mp plain character inPrefix
  · rw [safe character inId]
    rfl

/-! ## Rules and comments -/

theorem leavesCommentOpen_typeComment (type : String) :
    leavesCommentOpen (typeComment type).toList = false := by
  unfold leavesCommentOpen
  rw [toList_typeComment, scanComments_opening, scanComments_append_of_no_star (by decide),
    scanComments_append true _ (beginsApart_cons (by decide) (by decide) _)]
  cases (scanComments true (dropCommentEnds (type.toList.filter _))).2 with
  | false => rfl
  | true => rfl

/-- What a rule holds outside of comments: its selector, and its declarations as they are
read by themselves. The closing brace is among it unless they leave a comment open. -/
theorem scanComments_baseRule {node : Node}
    (safe : ∀ character ∈ node.id.toList, isIdCharacter character = true) :
    scanComments false (baseRule node).toList =
      (withoutComments (typeComment node.type).toList ++
          '\n' :: ((containerSelector node).toList ++ ' ' :: '\x7b' :: '\n' ::
            (withoutComments (declarations node).toList ++
              if leavesCommentOpen (declarations node).toList then [] else ['\x7d', '\n'])),
        leavesCommentOpen (declarations node).toList) := by
  have noSlash : '/' ∉ '\n' :: ((containerSelector node).toList ++ [' ', '\x7b', '\n']) := by
    intro member
    rcases List.mem_cons.mp member with isBreak | inRest
    · exact absurd isBreak (by decide)
    · rcases List.mem_append.mp inRest with inSelector | inBrace
      · exact absurd (isIdCharacter_or_of_mem_containerSelector safe inSelector) (by decide)
      · exact absurd inBrace (by decide)
  have isRule : '\n' :: ((containerSelector node).toList ++ ' ' :: '\x7b' :: '\n' ::
        ((declarations node).toList ++ ['\x7d', '\n'])) =
      '\n' :: ((containerSelector node).toList ++ [' ', '\x7b', '\n']) ++
        ((declarations node).toList ++ ['\x7d', '\n']) := by
    simp
  have commentClosed := leavesCommentOpen_typeComment node.type
  unfold leavesCommentOpen at commentClosed
  rw [toList_baseRule, scanComments_append false _ (beginsApart_cons (by decide) (by decide) _),
    commentClosed, isRule, scanComments_append_of_no_slash noSlash,
    scanComments_append false _ (beginsApart_cons (by decide) (by decide) _)]
  unfold withoutComments leavesCommentOpen
  cases (scanComments false (declarations node).toList).2 with
  | false => simp [scanComments]
  | true => simp [scanComments]

/-- Whether a style text without its comments is, but for blanks around it, a single rule
for a selector: the selector, an opening brace, declarations without braces and, at its end,
the closing brace. -/
def IsLoneRule (selector text : String) : Prop :=
  ∃ inside : List Char, HoldsNoBrace inside ∧
    dropEndsWhile isBlank (withoutComments text.toList) =
      selector.toList ++ ' ' :: '\x7b' :: (inside ++ ['\x7d'])

theorem isLoneRule_of_closed {node : Node}
    (safe : ∀ character ∈ node.id.toList, isIdCharacter character = true)
    (blank : (withoutComments (typeComment node.type).toList).all isBlank = true)
    (closed : leavesCommentOpen (declarations node).toList = false) :
    IsLoneRule (containerSelector node) (baseRule node) := by
  have selector : (containerSelector node).toList = '#' :: ("component-" ++ node.id).toList := by
    simp only [containerSelector, String.toList_append]
    rfl
  have noBrace := (holdsNoBrace_declarations node).sublist (withoutComments_sublist _)
  refine ⟨'\n' :: withoutComments (declarations node).toList, ?_, ?_⟩
  · have lineBreak : HoldsNoBrace ['\n'] := by decide
    exact lineBreak.append noBrace
  · have before : (withoutComments (typeComment node.type).toList ++ ['\n']).all isBlank = true := by
      rw [List.all_append, blank]
      decide
    have trimmed := dropEndsWhile_append (("component-" ++ node.id).toList ++
        ' ' :: '\x7b' :: '\n' :: withoutComments (declarations node).toList)
      before (by decide : isBlank '#' = false) (by decide : isBlank '\x7d' = false)
      (by decide : ['\n'].all isBlank = true)
    rw [withoutComments, scanComments_baseRule safe, closed, selector]
    simpa using trimmed

section Lone

variable {node : Node} (safe : ∀ character ∈ node.id.toList, isIdCharacter character = true)

include safe

theorem holdsNoBrace_containerSelector : HoldsNoBrace (containerSelector node).toList :=
  holdsNoBrace_of_all (fun character => isIdCharacter character || character == '#')
    (by decide) (by decide)
    fun _ member => isIdCharacter_or_of_mem_containerSelector safe member

theorem closed_of_isLoneRule (lone : IsLoneRule (containerSelector node) (baseRule node)) :
    leavesCommentOpen (declarations node).toList = false := by
  obtain ⟨inside, -, isTrimmed⟩ := lone
  obtain ⟨before, after, isText, -, -⟩ :=
    exists_append_dropEndsWhile isBlank (withoutComments (baseRule node).toList)
  have commentNoBrace := (holdsNoBrace_typeComment node.type).sublist (withoutComments_sublist _)
  have bodyNoBrace := (holdsNoBrace_declarations node).sublist (withoutComments_sublist _)
  cases isOpen : leavesCommentOpen (declarations node).toList with
  | false => rfl
  | true =>
      -- A comment left open hides the closing brace, which a lone rule has.
      have held : '\x7d' ∈ withoutComments (baseRule node).toList := by
        rw [isText, isTrimmed]
        simp
      change '\x7d' ∈ (scanComments false (baseRule node).toList).1 at held
      rw [scanComments_baseRule safe, isOpen] at held
      simp only [List.mem_append, List.mem_cons, if_true, List.not_mem_nil, or_false] at held
      rcases held with inComment | isBreak | inSelector | isBlank | isBrace | isBreak | inBody
      · exact absurd inComment commentNoBrace.2
      · exact absurd isBreak (by decide)
      · exact absurd inSelector (holdsNoBrace_containerSelector safe).2
      · exact absurd isBlank (by decide)
      · exact absurd isBrace (by decide)
      · exact absurd isBreak (by decide)
      · exact absurd inBody bodyNoBrace.2

theorem blank_of_isLoneRule (lone : IsLoneRule (containerSelector node) (baseRule node)) :
    (withoutComments (typeComment node.type).toList).all isBlank = true := by
  have closed := closed_of_isLoneRule safe lone
  obtain ⟨inside, -, isTrimmed⟩ := lone
  obtain ⟨before, after, isText, allBefore, -⟩ :=
    exists_append_dropEndsWhile isBlank (withoutComments (baseRule node).toList)
  have commentNoBrace := (holdsNoBrace_typeComment node.type).sublist (withoutComments_sublist _)
  have bodyNoBrace := (holdsNoBrace_declarations node).sublist (withoutComments_sublist _)
  -- Both readings of the text have their only opening brace at the same place.
  change (scanComments false (baseRule node).toList).1 = _ at isText
  rw [scanComments_baseRule safe, closed, isTrimmed] at isText
  have opening : (withoutComments (typeComment node.type).toList ++ '\n' ::
        ((containerSelector node).toList ++ [' '])) ++ '\x7b' ::
        ('\n' :: (withoutComments (declarations node).toList ++ ['\x7d', '\n'])) =
      (before ++ ((containerSelector node).toList ++ [' '])) ++ '\x7b' ::
        (inside ++ '\x7d' :: after) := by
    simpa using isText
  have noOpening : '\x7b' ∉ withoutComments (typeComment node.type).toList ++
      '\n' :: ((containerSelector node).toList ++ [' ']) :=
    (commentNoBrace.append ((by decide : HoldsNoBrace ['\n']).append
      ((holdsNoBrace_containerSelector safe).append (by decide)))).1
  have noLater : '\x7b' ∉ '\n' :: (withoutComments (declarations node).toList ++
      ['\x7d', '\n']) := by
    intro member
    rcases List.mem_cons.mp member with isBreak | inRule
    · exact absurd isBreak (by decide)
    · rcases List.mem_append.mp inRule with inBody | isEnd
      · exact bodyNoBrace.1 inBody
      · exact absurd isEnd (by decide)
  have sameStart := ((List.append_cons_inj_of_notMem noOpening noLater).mp opening).1
  have isBefore : withoutComments (typeComment node.type).toList ++ ['\n'] = before := by
    have regrouped : (withoutComments (typeComment node.type).toList ++ ['\n']) ++
        ((containerSelector node).toList ++ [' ']) =
        before ++ ((containerSelector node).toList ++ [' ']) := by
      rw [← sameStart, List.append_assoc]
      rfl
    exact List.append_cancel_right regrouped
  rw [← isBefore, List.all_append] at allBefore
  exact (Bool.and_eq_true_iff.mp allBefore).1

end Lone

/-- The rule of a component with a safe id is, without comments, one rule for its container
exactly if the comment with the type of the component leaves nothing visible and the
declarations leave no comment open; and exactly in the latter case everything that follows
the rule is read as it is by itself. -/
theorem base_rule_contained_iff (node : Node)
    (safe : ∀ character ∈ node.id.toList, isIdCharacter character = true) :
    (IsLoneRule (containerSelector node) (baseRule node) ↔
      (withoutComments (typeComment node.type).toList).all isBlank = true ∧
        leavesCommentOpen (declarations node).toList = false) ∧
    ((∀ following, withoutComments ((baseRule node).toList ++ following) =
        withoutComments (baseRule node).toList ++ withoutComments following) ↔
      leavesCommentOpen (declarations node).toList = false) := by
  constructor
  · constructor
    · intro lone
      exact ⟨blank_of_isLoneRule safe lone, closed_of_isLoneRule safe lone⟩
    · rintro ⟨blank, closed⟩
      exact isLoneRule_of_closed safe blank closed
  · have isLine : (baseRule node).toList = ((typeComment node.type).toList ++
        '\n' :: ((containerSelector node).toList ++ ' ' :: '\x7b' :: '\n' ::
          ((declarations node).toList ++ ['\x7d']))) ++ ['\n'] := by
      rw [toList_baseRule]
      simp
    have isOpen : leavesCommentOpen (baseRule node).toList =
        leavesCommentOpen (declarations node).toList := by
      rw [leavesCommentOpen, scanComments_baseRule safe]
    rw [← isOpen, isLine]
    exact withoutComments_append_iff _

/-- The declarations of a component without sizes are its custom ones, without the
characters that could end the rule. -/
theorem toList_declarations_of_custom {node : Node} {custom : String}
    (noSizes : sizeLines node = []) (isCustom : node.prop "customCSS" = .text custom)
    (notBlank : dropEndsWhile isBlank custom.toList ≠ []) :
    (declarations node).toList =
      ' ' :: ' ' :: (dropEndsWhile isBlank custom.toList).filter (fun inside => !endsRule inside) ++
        ['\n'] := by
  have notEmpty : (strip custom == "") = false := by
    rw [beq_eq_false_iff_ne]
    intro isEmpty
    apply notBlank
    rw [← toList_strip, isEmpty]
    rfl
  have indented : "  ".toList = [' ', ' '] := by decide
  unfold declarations customLines
  rw [noSizes, isCustom]
  simp [notEmpty, Text.toList_endLines, toList_without, toList_strip, indented]

/-- A component whose custom declarations hold a comment and braces. -/
def commentedNode : Node :=
  { id := "m-1"
    type := "hero*/"
    props := [("customCSS", .text "color: red; /* \x7d */ \x7d a \x7b")] }

/-- A comment that the custom declarations close themselves, and braces, do not escape the
rule. -/
theorem base_rule_contained_commented :
    (∀ character ∈ commentedNode.id.toList, isIdCharacter character = true) ∧
      IsLoneRule (containerSelector commentedNode) (baseRule commentedNode) := by
  have safe : ∀ character ∈ commentedNode.id.toList, isIdCharacter character = true :=
    List.all_eq_true.mp (by decide)
  have blank : (withoutComments (typeComment commentedNode.type).toList).all isBlank = true := by
    rw [toList_typeComment]
    decide
  have closed : leavesCommentOpen (declarations commentedNode).toList = false := by
    rw [toList_declarations_of_custom rfl (by rfl) (by decide)]
    decide
  exact ⟨safe, (base_rule_contained_iff commentedNode safe).1.mpr ⟨blank, closed⟩⟩

/-- A component whose custom declarations open a comment. -/
def openCommentNode : Node :=
  { id := "m", type := "text", props := [("customCSS", .text "color: red; /*")] }

/-- A component whose type forms a comment end by the removal of another. -/
def commentEndNode : Node :=
  { id := "m", type := "**//", props := [] }

/-- Neither the custom declarations nor the type of a component always stay inside its rule
and its comment. -/
theorem not_base_rule_contained :
    (∀ node ∈ [openCommentNode, commentEndNode],
      ∀ character ∈ node.id.toList, isIdCharacter character = true) ∧
      ¬ IsLoneRule (containerSelector openCommentNode) (baseRule openCommentNode) ∧
      ¬ IsLoneRule (containerSelector commentEndNode) (baseRule commentEndNode) := by
  have safe : ∀ node ∈ [openCommentNode, commentEndNode],
      ∀ character ∈ node.id.toList, isIdCharacter character = true := by
    have allSafe : [openCommentNode, commentEndNode].all
        (fun node => node.id.toList.all isIdCharacter) = true := by
      decide
    exact fun node member => List.all_eq_true.mp (List.all_eq_true.mp allSafe node member)
  have safeOpen := safe openCommentNode List.mem_cons_self
  have safeEnd := safe commentEndNode (List.mem_cons_of_mem _ List.mem_cons_self)
  refine ⟨safe, ?_, ?_⟩
  · intro lone
    have closed := closed_of_isLoneRule safeOpen lone
    rw [toList_declarations_of_custom rfl (by rfl) (by decide)] at closed
    exact absurd closed (by decide)
  · intro lone
    have blank := blank_of_isLoneRule safeEnd lone
    rw [toList_typeComment] at blank
    exact absurd blank (by decide)

end StaticSite.Emission
