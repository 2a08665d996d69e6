import Mathlib.Data.List.DropRight
import StaticSite.Text.Blank

/-!
Contract: the laws of trimming.

Owns:
- what trimming removes, and texts of which it leaves a known part, all or nothing;
- the law that trimming twice is trimming once;
- characters that are no blanks;
- trimming of a text that is written character by character.

Does not own: which characters a format trims.
-/

namespace StaticSite.Text

variable {discard : Char → Bool}

/-- Trimming removes discarded characters from both ends and nothing else. -/
theorem exists_append_dropEndsWhile (discard : Char → Bool) (text : List Char) :
    ∃ before after, text = before ++ dropEndsWhile discard text ++ after ∧
      before.all discard = true ∧ after.all discard = true := by
  obtain ⟨after, isRest, allAfter⟩ :=
    exists_append_dropTailWhile discard (text.dropWhile discard)
  refine ⟨text.takeWhile discard, after, ?_, List.all_takeWhile, allAfter⟩
  rw [List.append_assoc, dropEndsWhile, ← isRest, List.takeWhile_append_dropWhile]

/-- Trimming a tail leaves a text that ends with a character to keep. -/
theorem dropTailWhile_append {core after : List Char} {last : Char}
    (kept : discard last = false) (allAfter : after.all discard = true) :
    dropTailWhile discard (core ++ last :: after) = core ++ [last] := by
  have discarded : ∀ character ∈ after.reverse, discard character = true := by
    intro character member
    exact List.all_eq_true.mp allAfter character (List.mem_reverse.mp member)
  have notDiscarded : ¬ discard last = true := by
    rw [kept]
    exact Bool.false_ne_true
  have reversed : (core ++ last :: after).reverse = after.reverse ++ last :: core.reverse := by
    simp
  rw [dropTailWhile, reversed, List.dropWhile_append_of_pos discarded,
    List.dropWhile_cons_of_neg notDiscarded]
  simp

/-- Trimming a tail keeps what a text begins with, if none of it is discarded. -/
theorem exists_dropTailWhile_append {beginning : List Char}
    (kept : ∀ character ∈ beginning, discard character = false) (rest : List Char) :
    ∃ others, dropTailWhile discard (beginning ++ rest) = beginning ++ others := by
  obtain ⟨tail, isAll, discarded⟩ := exists_append_dropTailWhile discard (beginning ++ rest)
  generalize dropTailWhile discard (beginning ++ rest) = trimmed at isAll
  rcases List.append_eq_append_iff.mp isAll with ⟨others, isLonger, _⟩ | ⟨cut, isBeginning, isTail⟩
  · exact ⟨others, isLonger⟩
  · have nothingCut : cut = [] := by
      refine List.eq_nil_iff_forall_not_mem.mpr fun character member => ?_
      have keptInBeginning := kept character (isBeginning ▸ List.mem_append_right trimmed member)
      have discardedInTail := List.all_eq_true.mp discarded character
        (isTail ▸ List.mem_append_left rest member)
      rw [keptInBeginning] at discardedInTail
      cases discardedInTail
    refine ⟨[], ?_⟩
    rw [isBeginning, nothingCut, List.append_nil, List.append_nil]

theorem dropTailWhile_dropTailWhile (discard : Char → Bool) (text : List Char) :
    dropTailWhile discard (dropTailWhile discard text) = dropTailWhile discard text := by
  simp only [dropTailWhile, List.reverse_reverse, List.dropWhile_idempotent]

theorem stripTrailing_stripTrailing (unwanted : Char) (text : String) :
    stripTrailing unwanted (stripTrailing unwanted text) = stripTrailing unwanted text := by
  apply String.toList_inj.mp
  simp only [toList_stripTrailing, dropTailWhile_dropTailWhile]

/-- Trimming leaves a text that begins and ends with characters to keep. -/
theorem dropEndsWhile_append {before after : List Char} {first last : Char}
    (core : List Char) (allBefore : before.all discard = true) (keptFirst : discard first = false)
    (keptLast : discard last = false) (allAfter : after.all discard = true) :
    dropEndsWhile discard (before ++ first :: (core ++ last :: after)) =
      first :: (core ++ [last]) := by
  have notDiscarded : ¬ discard first = true := by
    rw [keptFirst]
    exact Bool.false_ne_true
  rw [dropEndsWhile, List.dropWhile_append_of_pos (List.all_eq_true.mp allBefore),
    List.dropWhile_cons_of_neg notDiscarded, ← List.cons_append,
    dropTailWhile_append keptLast allAfter, List.cons_append]

/-- Nothing is trimmed off a text of characters to keep. -/
theorem dropEndsWhile_of_kept {text : List Char}
    (kept : ∀ character ∈ text, discard character = false) :
    dropEndsWhile discard text = text := by
  have keptHead : text.dropWhile discard = text := by
    refine List.dropWhile_eq_self_iff.mpr fun some => ?_
    rw [kept _ (List.getElem_mem some)]
    exact Bool.false_ne_true
  obtain ⟨others, isTrimmed⟩ := exists_dropTailWhile_append kept []
  obtain ⟨tail, isText, _⟩ := exists_append_dropTailWhile discard text
  rw [List.append_nil] at isTrimmed
  rw [isTrimmed, List.append_assoc] at isText
  have nothingMore := List.append_eq_nil_iff.mp (List.self_eq_append_right.mp isText)
  rw [dropEndsWhile, keptHead, isTrimmed, nothingMore.1, List.append_nil]

/-- Trimming leaves nothing to trim. -/
theorem dropEndsWhile_dropEndsWhile (discard : Char → Bool) (text : List Char) :
    dropEndsWhile discard (dropEndsWhile discard text) = dropEndsWhile discard text := by
  cases isRest : text.dropWhile discard with
  | nil =>
      have isNothing : dropEndsWhile discard text = [] := by
        rw [dropEndsWhile, isRest]
        rfl
      rw [isNothing]
      rfl
  | cons first rest =>
      have kept : discard first = false := by
        have notEmpty : text.dropWhile discard ≠ [] := by
          rw [isRest]
          exact List.cons_ne_nil first rest
        have keptHead := List.head_dropWhile_not discard notEmpty
        simpa only [isRest, List.head_cons] using keptHead
      obtain ⟨others, isTrimmed⟩ :=
        exists_dropTailWhile_append (List.forall_mem_singleton.mpr kept) rest
      have keptFirst : (first :: others).dropWhile discard = first :: others :=
        List.dropWhile_cons_of_neg (by simp [kept])
      have isAgain := dropTailWhile_dropTailWhile discard (first :: rest)
      rw [List.singleton_append] at isTrimmed
      rw [isTrimmed] at isAgain
      have trimmedText : dropEndsWhile discard text = first :: others := by
        rw [dropEndsWhile, isRest, isTrimmed]
        rfl
      rw [trimmedText, dropEndsWhile]
      exact (congrArg (dropTailWhile discard) keptFirst).trans isAgain

theorem strip_strip (text : String) : strip (strip text) = strip text := by
  apply String.toList_inj.mp
  rw [toList_strip, toList_strip, dropEndsWhile_dropEndsWhile]

theorem dropEndsWhile_cons {character : Char} {text : List Char} (kept : discard character = false)
    (trimmed : dropEndsWhile discard text = text) :
    dropEndsWhile discard (character :: text) = character :: text := by
  have keptFirst : ¬ discard character = true := by
    rw [kept]
    exact Bool.false_ne_true
  have keptTail : text.reverse.dropWhile discard = text.reverse := by
    have isBehind : dropTailWhile discard text = text := by
      rw [← trimmed, dropEndsWhile, dropTailWhile_dropTailWhile]
    exact List.reverse_eq_iff.mp isBehind
  rw [dropEndsWhile, List.dropWhile_cons_of_neg keptFirst, dropTailWhile, List.reverse_cons,
    List.dropWhile_append, keptTail]
  cases text with
  | nil => exact congrArg List.reverse (List.dropWhile_cons_of_neg keptFirst)
  | cons first others => simp

/-- Trimming leaves nothing exactly of a text of characters to discard. -/
theorem dropEndsWhile_eq_nil_iff {text : List Char} :
    dropEndsWhile discard text = [] ↔ ∀ character ∈ text, discard character = true := by
  constructor
  · intro isNothing
    obtain ⟨before, after, isText, allBefore, allAfter⟩ := exists_append_dropEndsWhile discard text
    rw [isText, isNothing, List.append_nil]
    exact List.forall_mem_append.mpr
      ⟨List.all_eq_true.mp allBefore, List.all_eq_true.mp allAfter⟩
  · intro allDiscarded
    have nothingKept : text.dropWhile discard = [] := List.dropWhile_eq_nil_iff.mpr allDiscarded
    rw [dropEndsWhile, nothingKept]
    rfl

theorem strip_eq_empty_iff {text : String} :
    strip text = "" ↔ ∀ character ∈ text.toList, isBlank character = true := by
  rw [← dropEndsWhile_eq_nil_iff, ← toList_strip, String.toList_eq_nil_iff]

/-- Nothing is trimmed off a text without blanks. -/
theorem strip_of_notBlank {text : String}
    (kept : ∀ character ∈ text.toList, isBlank character = false) : strip text = text := by
  rw [strip, dropEndsWhile_of_kept kept, String.ofList_toList]

/-! ## Characters that are no blanks -/

theorem ne_of_isBlank {character other : Char} (blank : isBlank character = true)
    (notBlank : isBlank other = false) : character ≠ other := by
  rintro rfl
  rw [blank] at notBlank
  cases notBlank

theorem isDigit_of_isBlank {character : Char} (blank : isBlank character = true) :
    character.isDigit = false := by
  by_contra digit
  obtain ⟨lower, upper⟩ := Char.isDigit_iff_toNat.mp (Bool.not_eq_false _ ▸ digit)
  have zero : '0'.toNat = 48 := rfl
  have nine : '9'.toNat = 57 := rfl
  simp only [isBlank, Bool.or_eq_true, Bool.and_eq_true, decide_eq_true_eq,
    beq_iff_eq] at blank
  omega

/-! ## Trimming of a text that is written character by character -/

section Written

variable {write : Char → List Char} (notEmpty : ∀ character, write character ≠ [])
  (alike : ∀ character, ∀ written ∈ write character, discard written = discard character)
include notEmpty alike

theorem dropWhile_flatMap (text : List Char) :
    (text.flatMap write).dropWhile discard = (text.dropWhile discard).flatMap write := by
  induction text with
  | nil => rfl
  | cons character text inductionHypothesis =>
      rw [List.flatMap_cons]
      cases kept : discard character with
      | true =>
          have allDiscarded : ∀ written ∈ write character, discard written = true :=
            fun written member => (alike character written member).trans kept
          rw [List.dropWhile_append_of_pos allDiscarded, inductionHypothesis,
            List.dropWhile_cons_of_pos kept]
      | false =>
          obtain ⟨first, others, isWritten⟩ := List.exists_cons_of_ne_nil (notEmpty character)
          have keptFirst : ¬ discard first = true := by
            rw [alike character first (isWritten ▸ List.mem_cons_self), kept]
            exact Bool.false_ne_true
          rw [List.dropWhile_cons_of_neg (by simp [kept]), List.flatMap_cons, isWritten,
            List.cons_append, List.dropWhile_cons_of_neg keptFirst]

/-- Writing the characters of a text and trimming it change places. -/
theorem dropEndsWhile_flatMap (text : List Char) :
    dropEndsWhile discard (text.flatMap write) = (dropEndsWhile discard text).flatMap write := by
  have backwards (text : List Char) :
      (text.flatMap write).reverse = text.reverse.flatMap (List.reverse ∘ write) :=
    List.reverse_flatMap
  have backAgain (text : List Char) :
      (text.flatMap (List.reverse ∘ write)).reverse = text.reverse.flatMap write := by
    rw [List.reverse_flatMap]
    simp only [Function.comp_def, List.reverse_reverse]
  have fromBehind (text : List Char) :
      (text.flatMap (List.reverse ∘ write)).dropWhile discard =
        (text.dropWhile discard).flatMap (List.reverse ∘ write) :=
    dropWhile_flatMap (fun character => by simpa using notEmpty character)
      (fun character written member => alike character written (List.mem_reverse.mp member)) text
  rw [dropEndsWhile, dropTailWhile, dropWhile_flatMap notEmpty alike, backwards, fromBehind,
    backAgain]
  rfl

end Written

end StaticSite.Text
