import Mathlib.Data.List.Infix
import StaticSite.Markup.Html
import StaticSite.Proofs.Text.Entity

/-!
Contract: the end tags that a text holds.

Owns:
- the end tags of a text, wherever they come from;
- texts whose end tags are known whatever text follows;
- the number of places at which a text begins an end tag.

Does not own: which end tags a tree of markup has (see `StaticSite.Proofs.Markup.Guard`).
-/

namespace StaticSite.Markup

/-! ## End tags in a text -/

/-- A text up to its first right angle bracket, which is included. -/
def throughBracket : List Char → List Char
  | [] => []
  | character :: rest =>
      if character = '>' then ['>'] else character :: throughBracket rest

/-- What stands after each left angle bracket with a slash in a text, through the right
angle bracket that ends the tag. -/
def closings : List Char → List String
  | '<' :: '/' :: rest => String.ofList (throughBracket rest) :: closings rest
  | _ :: rest => closings rest
  | [] => []

theorem closings_cons {character : Char} {rest : List Char}
    (notTag : ∀ further, character = '<' → rest = '/' :: further → False) :
    closings (character :: rest) = closings rest := by
  rw [closings.eq_def]
  split
  · rename_i further isText
    obtain ⟨isLess, isRest⟩ := List.cons.inj isText
    exact (notTag further isLess isRest).elim
  · rename_i isText
    rw [(List.cons.inj isText).2]
  · rename_i isText
    cases isText

theorem closings_cons_of_ne {character : Char} (plain : character ≠ '<') (rest : List Char) :
    closings (character :: rest) = closings rest :=
  closings_cons fun _ isLess _ => plain isLess

theorem closings_less_cons {second : Char} (noSlash : second ≠ '/') (rest : List Char) :
    closings ('<' :: second :: rest) = closings (second :: rest) :=
  closings_cons fun _ _ isSlash => noSlash (List.cons.inj isSlash).1

/-! ## Texts with known end tags -/

/-- Whether a text holds the given end tags, whatever text follows it. -/
def Closes (text : List Char) (tags : List String) : Prop :=
  ∀ rest, closings (text ++ rest) = tags ++ closings rest

theorem Closes.closings_eq {text : List Char} {tags : List String} (closes : Closes text tags) :
    closings text = tags := by
  have alone := closes []
  rw [List.append_nil, closings.eq_def []] at alone
  rw [alone]
  exact List.append_nil tags

theorem closes_nil : Closes [] [] :=
  fun _ => rfl

theorem Closes.append {first second : List Char} {tags others : List String}
    (closesFirst : Closes first tags) (closesSecond : Closes second others) :
    Closes (first ++ second) (tags ++ others) := by
  intro rest
  rw [List.append_assoc, closesFirst, closesSecond, List.append_assoc]

/-- A text that holds no end tag may follow any other. -/
theorem Closes.append_nothing {first second : List Char} {tags : List String}
    (closesFirst : Closes first tags) (nothing : Closes second []) :
    Closes (first ++ second) tags := by
  have both := closesFirst.append nothing
  rw [List.append_nil] at both
  exact both

/-- Whether a text holds no end tag and does not end where one could begin. -/
def closesNothing : List Char → Bool
  | [] => true
  | [character] => character != '<'
  | first :: second :: rest =>
      !(first == '<' && second == '/') && closesNothing (second :: rest)

theorem closes_of_closesNothing {text : List Char} (nothing : closesNothing text = true) :
    Closes text [] := by
  intro rest
  induction text with
  | nil => rfl
  | cons first others inductionHypothesis =>
      cases others with
      | nil =>
          have plain : first ≠ '<' := bne_iff_ne.mp nothing
          exact closings_cons_of_ne plain rest
      | cons second further =>
          simp only [closesNothing, Bool.and_eq_true] at nothing
          have later := inductionHypothesis nothing.2
          by_cases less : first = '<'
          · subst less
            have noSlash : second ≠ '/' := by
              rintro rfl
              simp at nothing
            exact (closings_less_cons noSlash (further ++ rest)).trans later
          · exact (closings_cons_of_ne less _).trans later

theorem closesNothing_of_not_mem {text : List Char} (plain : '<' ∉ text) :
    closesNothing text = true := by
  induction text with
  | nil => rfl
  | cons first others inductionHypothesis =>
      have notFirst : first ≠ '<' := (List.ne_of_not_mem_cons plain).symm
      have notLater : '<' ∉ others := List.not_mem_of_not_mem_cons plain
      cases others with
      | nil => exact bne_iff_ne.mpr notFirst
      | cons second further =>
          simp [closesNothing, notFirst, inductionHypothesis notLater]

/-- A text without a left angle bracket holds no end tag. -/
theorem closes_of_not_mem {text : List Char} (plain : '<' ∉ text) : Closes text [] :=
  closes_of_closesNothing (closesNothing_of_not_mem plain)

/-! ## Tags -/

/-- Whether a text may be the name of a tag: it consists of Latin letters and digits. -/
def isTagName (tag : String) : Bool :=
  tag != "" && tag.toList.all Char.isAlphanum

theorem not_mem_of_isTagName {tag : String} {character : Char} (isName : isTagName tag = true)
    (special : character.isAlphanum = false) : character ∉ tag.toList := by
  intro member
  have alphanumeric := List.all_eq_true.mp (Bool.and_eq_true_iff.mp isName).2 character member
  rw [special] at alphanumeric
  cases alphanumeric

theorem throughBracket_append {tag : List Char} (plain : '>' ∉ tag) (rest : List Char) :
    throughBracket (tag ++ '>' :: rest) = tag ++ ['>'] := by
  induction tag with
  | nil => rfl
  | cons first others inductionHypothesis =>
      have notFirst : first ≠ '>' := (List.ne_of_not_mem_cons plain).symm
      have notLater : '>' ∉ others := List.not_mem_of_not_mem_cons plain
      simp [throughBracket, notFirst, inductionHypothesis notLater]

theorem closes_endTag {tag : String} (isName : isTagName tag = true) :
    Closes (endTag tag).toList [tag ++ ">"] := by
  intro rest
  have noLess : '<' ∉ tag.toList ++ ['>'] := by
    simp [not_mem_of_isTagName isName (by decide : '<'.isAlphanum = false)]
  have split : (endTag tag).toList ++ rest = '<' :: '/' :: (tag.toList ++ '>' :: rest) := by
    simp [endTag]
  have isTag : String.ofList (tag.toList ++ ['>']) = tag ++ ">" := by
    refine String.toList_inj.mp ?_
    rw [String.toList_ofList, String.toList_append]
    rfl
  have later := closes_of_not_mem noLess rest
  rw [List.append_assoc, List.singleton_append, List.nil_append] at later
  rw [split, closings, later, throughBracket_append
    (not_mem_of_isTagName isName (by decide)), isTag]
  rfl

/-- A start tag without left angle brackets in its attributes holds no end tag. -/
theorem closes_startTag {tag : String} {attributes : List Attribute}
    (isName : isTagName tag = true)
    (plain : ∀ written ∈ attributes, '<' ∉ written.render.toList) :
    Closes (startTag tag attributes).toList [] := by
  have isText : (startTag tag attributes).toList =
      '<' :: (tag.toList ++ (attributes.flatMap (·.render.toList) ++ ['>'])) := by
    simp [startTag, String.toList_join, List.flatMap_map]
  have noLess : '<' ∉ tag.toList ++ (attributes.flatMap (·.render.toList) ++ ['>']) := by
    intro member
    simp only [List.mem_append, List.mem_flatMap, List.mem_singleton] at member
    rcases member with inName | ⟨written, isWritten, inWritten⟩ | isEnd
    · exact not_mem_of_isTagName isName (by decide) inName
    · exact plain written isWritten inWritten
    · exact absurd isEnd (by decide)
  have nothing := closesNothing_of_not_mem noLess
  refine closes_of_closesNothing ?_
  rw [isText]
  cases isTag : tag.toList with
  | nil =>
      rw [String.toList_eq_nil_iff.mp isTag] at isName
      cases isName
  | cons first others =>
      have noSlash : first ≠ '/' := by
        rintro rfl
        exact not_mem_of_isTagName isName (by decide : '/'.isAlphanum = false)
          (by rw [isTag]; exact List.mem_cons_self)
      rw [isTag] at nothing
      simp only [List.cons_append] at nothing ⊢
      simp [closesNothing, noSlash, nothing]

/-! ## Counting -/

/-- The number of places at which a pattern stands in a text. -/
def occurrences (pattern : String) (text : List Char) : Nat :=
  text.tails.countP fun place => pattern.toList.isPrefixOf place

/-- A word without a right angle bracket, but for its last character, begins a text exactly
if it begins it within its first right angle bracket. -/
theorem isPrefixOf_throughBracket {word : List Char} (plain : '>' ∉ word.dropLast)
    (text : List Char) : word.isPrefixOf (throughBracket text) = word.isPrefixOf text := by
  induction word generalizing text with
  | nil => simp
  | cons first others inductionHypothesis =>
      cases text with
      | nil => rfl
      | cons character rest =>
          by_cases isEnd : character = '>'
          · subst isEnd
            cases others with
            | nil => simp [throughBracket, List.isPrefixOf]
            | cons second further =>
                have notEnd : first ≠ '>' := (List.ne_of_not_mem_cons plain).symm
                simp [throughBracket, List.isPrefixOf, notEnd]
          · have later : '>' ∉ others.dropLast := by
              cases others with
              | nil => exact List.not_mem_nil
              | cons second further =>
                  exact List.not_mem_of_not_mem_cons plain
            simp [throughBracket, List.isPrefixOf, isEnd, inductionHypothesis later]

/-- The places at which a text begins an end tag with a word are its end tags which begin
with that word. -/
theorem occurrences_endTag {word : String} (plain : '>' ∉ word.toList.dropLast)
    (text : List Char) :
    occurrences ("</" ++ word) text =
      (closings text).countP fun tag => word.toList.isPrefixOf tag.toList := by
  have pattern : ("</" ++ word).toList = '<' :: '/' :: word.toList := by simp
  unfold occurrences
  rw [pattern]
  induction text using closings.induct with
  | case1 rest inductionHypothesis =>
      have notSlash : ('<' :: '/' :: word.toList).isPrefixOf ('/' :: rest) = false := by
        simp [List.isPrefixOf]
      have sameTest : ('<' :: '/' :: word.toList).isPrefixOf ('<' :: '/' :: rest) =
          word.toList.isPrefixOf (String.ofList (throughBracket rest)).toList := by
        rw [String.toList_ofList, isPrefixOf_throughBracket plain]
        simp [List.isPrefixOf]
      rw [List.tails_cons, List.tails_cons, closings, List.countP_cons, List.countP_cons,
        List.countP_cons, notSlash, sameTest, inductionHypothesis]
      simp
  | case2 character rest notTag inductionHypothesis =>
      have notPrefix : ('<' :: '/' :: word.toList).isPrefixOf (character :: rest) = false := by
        cases rest with
        | nil => simp [List.isPrefixOf]
        | cons second further =>
            rw [Bool.eq_false_iff]
            intro begins
            simp only [List.isPrefixOf, Bool.and_eq_true, beq_iff_eq] at begins
            exact notTag further begins.1.symm (by rw [← begins.2.1])
      rw [List.tails_cons, List.countP_cons, notPrefix, closings_cons notTag,
        inductionHypothesis]
      simp
  | case3 => rfl

/-! ## Letter case -/

theorem isAlpha_toLower {character : Char} (isCapital : character.isUpper = true) :
    character.toLower.isAlpha = true := by
  have bounds := of_decide_eq_true isCapital
  have shifted : character.toLower.val = character.val + ('a'.val - 'A'.val) :=
    congrArg Char.val (dif_pos bounds)
  obtain ⟨low, high⟩ := bounds
  simp only [ge_iff_le, UInt32.le_iff_toNat_le] at low high
  have capitalFirst : 'A'.val.toNat = 65 := by decide
  have capitalLast : 'Z'.val.toNat = 90 := by decide
  have smallFirst : 'a'.val.toNat = 97 := by decide
  have smallLast : 'z'.val.toNat = 122 := by decide
  have distance : ('a'.val - 'A'.val).toNat = 32 := by decide
  rw [capitalFirst] at low
  rw [capitalLast] at high
  have between : character.toLower.val ≥ 'a'.val ∧ character.toLower.val ≤ 'z'.val := by
    simp only [shifted, ge_iff_le, UInt32.le_iff_toNat_le, UInt32.toNat_add]
    rw [smallFirst, smallLast, distance]
    omega
  have isSmall : character.toLower.isLower = true :=
    Bool.and_eq_true_iff.mpr ⟨decide_eq_true between.1, decide_eq_true between.2⟩
  show (character.toLower.isUpper || character.toLower.isLower) = true
  rw [isSmall, Bool.or_true]

theorem toLower_of_not_isUpper {character : Char} (notCapital : ¬ character.isUpper = true) :
    character.toLower = character := by
  have outside : ¬ (character.val ≥ 'A'.val ∧ character.val ≤ 'Z'.val) :=
    fun bounds => notCapital (decide_eq_true bounds)
  exact dif_neg outside

/-- Folding letters makes no angle bracket and no slash. -/
theorem toLower_eq_iff {special : Char} (notLetter : special.isAlpha = false)
    (character : Char) : character.toLower = special ↔ character = special := by
  by_cases isCapital : character.isUpper = true
  · have lowered := isAlpha_toLower isCapital
    constructor
    · intro same
      rw [same, notLetter] at lowered
      cases lowered
    · rintro rfl
      have isLetter : character.isAlpha = true :=
        Bool.or_eq_true_iff.mpr (Or.inl isCapital)
      rw [isLetter] at notLetter
      cases notLetter
  · rw [toLower_of_not_isUpper isCapital]

/-- A text with its Latin letters in lower case. -/
def foldLetters (text : List Char) : List Char :=
  text.map Char.toLower

theorem throughBracket_foldLetters (text : List Char) :
    throughBracket (foldLetters text) = foldLetters (throughBracket text) := by
  induction text with
  | nil => rfl
  | cons character rest inductionHypothesis =>
      have sameTest := toLower_eq_iff (by decide : '>'.isAlpha = false) character
      by_cases isEnd : character = '>'
      · subst isEnd
        rfl
      · have notEnd : character.toLower ≠ '>' := fun lowered => isEnd (sameTest.mp lowered)
        simp only [foldLetters] at inductionHypothesis
        simp [foldLetters, throughBracket, isEnd, notEnd, inductionHypothesis]

/-- The end tags of a text in lower case are its end tags in lower case. -/
theorem closings_foldLetters (text : List Char) :
    closings (foldLetters text) =
      (closings text).map fun tag => String.ofList (foldLetters tag.toList) := by
  induction text using closings.induct with
  | case1 rest inductionHypothesis =>
      have folded : foldLetters ('<' :: '/' :: rest) = '<' :: '/' :: foldLetters rest := rfl
      rw [folded, closings, closings, List.map_cons, throughBracket_foldLetters,
        inductionHypothesis, String.toList_ofList]
  | case2 character rest notTag inductionHypothesis =>
      have notFolded : ∀ further, character.toLower = '<' →
          foldLetters rest = '/' :: further → False := by
        intro further isLess isSlash
        cases rest with
        | nil => cases isSlash
        | cons second others =>
            have lowered : second.toLower = '/' := (List.cons.inj isSlash).1
            exact notTag others ((toLower_eq_iff (by decide) character).mp isLess)
              (by rw [(toLower_eq_iff (by decide) second).mp lowered])
      have folded : foldLetters (character :: rest) = character.toLower :: foldLetters rest := rfl
      rw [folded, closings_cons notFolded, closings_cons notTag, inductionHypothesis]
  | case3 => rfl

end StaticSite.Markup
