import Mathlib.Data.List.TakeDrop
import StaticSite.Text.Blank

/-!
Contract: the declarations in the value of a style attribute.

Owns:
- the tokens of a style: quoted texts, which a line break cuts short, and single characters;
- the declarations that semicolons outside of brackets and quotes separate;
- what is read in quotes from a text without quotes and backslashes.

Does not own: the styles that components write (see `StaticSite.Proofs.Emission.Background`). An
address in brackets without quotes is read character by character.
-/

namespace StaticSite.Style

/-! ## Tokens -/

def isQuote (character : Char) : Bool :=
  character == '\'' || character == '"'

/-- Whether a character ends a line of a style. -/
def endsLine (character : Char) : Bool :=
  character == '\n' || character == '\r' || character == '\x0c'

def holdsLineBreak (text : String) : Bool :=
  text.toList.any endsLine

/-- What a style consists of. A quoted text has its content as it is written, with backslashes; it
is broken where a line ends before its closing quote. -/
inductive Token where
  | quoted (content : List Char)
  | broken (content : List Char)
  | mark (character : Char)
  deriving DecidableEq

/-- Where a reader of a style stands; in a quoted text, its quote and what has been read of it are
remembered. -/
inductive Place where
  | between
  | comment
  | quoted (quote : Char) (seen : List Char)

/-- The tokens that a reader at a place finds. The end of the style closes a quoted text. -/
def tokensFrom : Place → List Char → List Token
  | .between, '/' :: '*' :: rest => tokensFrom .comment rest
  | .between, character :: rest =>
      if isQuote character then tokensFrom (.quoted character []) rest
      else .mark character :: tokensFrom .between rest
  | .comment, '*' :: '/' :: rest => tokensFrom .between rest
  | .comment, _ :: rest => tokensFrom .comment rest
  | .quoted quote seen, '\\' :: '\r' :: '\n' :: rest =>
      tokensFrom (.quoted quote (seen ++ ['\\', '\r', '\n'])) rest
  | .quoted quote seen, '\\' :: escaped :: rest =>
      tokensFrom (.quoted quote (seen ++ ['\\', escaped])) rest
  | .quoted quote seen, character :: rest =>
      if character == quote then .quoted seen :: tokensFrom .between rest
      else if endsLine character then .broken seen :: .mark character :: tokensFrom .between rest
      else tokensFrom (.quoted quote (seen ++ [character])) rest
  | .quoted _ seen, [] => [.quoted seen]
  | _, [] => []

def tokens (style : String) : List Token :=
  tokensFrom .between style.toList

/-- The tokens of a text of single characters. -/
def marks (text : String) : List Token :=
  text.toList.map .mark

/-- Characters that begin neither a quoted text nor a comment are read one by one. -/
theorem tokensFrom_between_append {text : List Char}
    (plain : ∀ character ∈ text, isQuote character = false ∧ character ≠ '/') (rest : List Char) :
    tokensFrom .between (text ++ rest) = text.map .mark ++ tokensFrom .between rest := by
  induction text with
  | nil => rfl
  | cons character others inductionHypothesis =>
      obtain ⟨⟨noQuote, noSlash⟩, plainLater⟩ := List.forall_mem_cons.mp plain
      rw [List.cons_append, tokensFrom, noQuote, if_neg Bool.false_ne_true,
        inductionHypothesis plainLater, List.map_cons, List.cons_append]
      exact fun _ isSlash => absurd isSlash noSlash

/-! ## Declarations -/

/-- The bracket that closes the one that a character opens. -/
def closing? (character : Char) : Option Char :=
  match character with
  | '(' => some ')'
  | '[' => some ']'
  | '\x7b' => some '\x7d'
  | _ => none

/-- The brackets that are to be closed behind a character, the innermost first. -/
def expectedAfter (expected : List Char) (character : Char) : List Char :=
  match closing? character with
  | some bracket => bracket :: expected
  | none => if expected.head? == some character then expected.tail else expected

/-- The declarations of some tokens behind those that are seen of the first of them, where some
brackets are to be closed. -/
def declarationsFrom (expected : List Char) (seen : List Token) : List Token → List (List Token)
  | [] => [seen]
  | .mark character :: rest =>
      if expected.isEmpty && character == ';' then seen :: declarationsFrom [] [] rest
      else declarationsFrom (expectedAfter expected character) (seen ++ [.mark character]) rest
  | token :: rest => declarationsFrom expected (seen ++ [token]) rest

def declarations (style : String) : List (List Token) :=
  declarationsFrom [] [] (tokens style)

/-- A token that is no single character stands in one of the declarations. -/
theorem exists_mem_declarationsFrom {token : Token} (noMark : ∀ character, token ≠ .mark character)
    (expected : List Char) (seen : List Token) {rest : List Token}
    (member : token ∈ seen ++ rest) :
    ∃ declaration ∈ declarationsFrom expected seen rest, token ∈ declaration := by
  induction rest generalizing expected seen with
  | nil =>
      rw [List.append_nil] at member
      exact ⟨seen, List.mem_singleton_self seen, member⟩
  | cons next others inductionHypothesis =>
      have shifted : token ∈ (seen ++ [next]) ++ others := by
        rwa [List.append_assoc, List.singleton_append]
      cases next with
      | mark character =>
          rw [declarationsFrom]
          split
          · rcases List.mem_append.mp member with before | later
            · exact ⟨seen, List.mem_cons_self, before⟩
            · rcases List.mem_cons.mp later with isMark | further
              · exact absurd isMark (noMark character)
              · obtain ⟨declaration, isDeclaration, inside⟩ :=
                  inductionHypothesis [] [] further
                exact ⟨declaration, List.mem_cons_of_mem seen isDeclaration, inside⟩
          · exact inductionHypothesis _ _ shifted
      | quoted content => exact inductionHypothesis expected _ shifted
      | broken content => exact inductionHypothesis expected _ shifted

/-! ## Texts in quotes -/

/-- Whether a character of a quoted text neither ends it nor begins an escape. -/
def isInsideQuotes (character : Char) : Bool :=
  !(isQuote character || character == '\\')

section Quoted

variable {quote : Char} {text : List Char}
  (inside : ∀ character ∈ text, isInsideQuotes character = true)

theorem tokensFrom_quoted_cons {character : Char} (isInside : isInsideQuotes character = true)
    (isQuoteMark : isQuote quote = true) (seen rest : List Char) :
    tokensFrom (.quoted quote seen) (character :: rest) =
      if endsLine character then .broken seen :: .mark character :: tokensFrom .between rest
      else tokensFrom (.quoted quote (seen ++ [character])) rest := by
  rw [isInsideQuotes, Bool.not_eq_true', Bool.or_eq_false_iff, beq_eq_false_iff_ne] at isInside
  have notQuote : (character == quote) = false := by
    refine beq_false_of_ne fun same => ?_
    rw [same, isQuoteMark] at isInside
    cases isInside.1
  rw [tokensFrom, notQuote]
  · rfl
  · intro _ isBackslash
    exact absurd isBackslash isInside.2
  · intro _ _ isBackslash
    exact absurd isBackslash isInside.2

include inside

/-- A text on one line is read up to its end. -/
theorem tokensFrom_quoted_append (isQuoteMark : isQuote quote = true)
    (oneLine : ∀ character ∈ text, endsLine character = false) (seen rest : List Char) :
    tokensFrom (.quoted quote seen) (text ++ rest) =
      tokensFrom (.quoted quote (seen ++ text)) rest := by
  induction text generalizing seen with
  | nil => rw [List.nil_append, List.append_nil]
  | cons character others inductionHypothesis =>
      obtain ⟨isInside, insideLater⟩ := List.forall_mem_cons.mp inside
      obtain ⟨onLine, oneLineLater⟩ := List.forall_mem_cons.mp oneLine
      rw [List.cons_append, tokensFrom_quoted_cons isInside isQuoteMark, onLine,
        if_neg Bool.false_ne_true, inductionHypothesis insideLater oneLineLater,
        List.append_assoc, List.singleton_append]

/-- A text on several lines is broken where its first line ends, and the rest of it is read as
style. -/
theorem tokensFrom_quoted_broken (isQuoteMark : isQuote quote = true)
    (severalLines : text.any endsLine = true) (rest : List Char) :
    ∃ line lineEnd others, text = line ++ lineEnd :: others ∧ endsLine lineEnd = true ∧
      tokensFrom (.quoted quote []) (text ++ rest) =
        .broken line :: .mark lineEnd :: tokensFrom .between (others ++ rest) := by
  obtain ⟨lineEnd, isFirst⟩ := Option.isSome_iff_exists.mp
    (List.find?_isSome.mpr (List.any_eq_true.mp severalLines))
  obtain ⟨ends, line, others, rfl, onLine⟩ := List.find?_eq_some_iff_append.mp isFirst
  have oneLine : ∀ character ∈ line, endsLine character = false :=
    fun character member => Bool.not_eq_true' _ ▸ onLine character member
  refine ⟨line, lineEnd, others, rfl, ends, ?_⟩
  have insideLine : ∀ character ∈ line, isInsideQuotes character = true :=
    fun character member => inside character (List.mem_append_left _ member)
  have insideEnd := inside lineEnd (List.mem_append_right line List.mem_cons_self)
  rw [List.append_assoc, tokensFrom_quoted_append insideLine isQuoteMark oneLine, List.cons_append,
    tokensFrom_quoted_cons insideEnd isQuoteMark, if_pos ends, List.nil_append]

end Quoted

end StaticSite.Style
