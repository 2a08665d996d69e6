import StaticSite.Proofs.Markup.Guard

/-!
Contract: reading a text of markup character by character.

Owns:
- the places where a reader stands: in text, in tags and attributes, and in code, which only its
  own end tag ends;
- what a reader finds on its way: attributes with their values, and the ends of start tags;
- texts in which the same is found whatever text follows: plain text, names, quoted values, end
  tags and code.

Does not own: start tags as a whole (see `StaticSite.Proofs.Markup.Opening`), and the attributes
that hold ids (see `StaticSite.Proofs.Markup.IdAttribute`).
-/

namespace StaticSite.Markup

/-! ## Reading markup -/

/-- Where a reader of markup stands. Inside a start tag the name of the tag is remembered, and in
code what has been read of the end tag. -/
inductive Place where
  | text
  | opened
  | ending
  | tagName (tag : List Char)
  | between (tag : List Char)
  | attributeName (tag name : List Char)
  | assigned (tag name : List Char)
  | quoted (tag name value : List Char)
  | code (tag seen : List Char)

/-- Whether a character may stand between attributes. -/
def isMarkupBlank (character : Char) : Bool :=
  character == ' ' || character == '\t' || character == '\n' || character == '\x0c' ||
    character == '\r'

/-- Whether the content of an element is code, in which no tag begins. -/
def isCodeTag (tag : List Char) : Bool :=
  foldLetters tag == "script".toList || foldLetters tag == "style".toList

/-- Where the reader stands behind a start tag. -/
def contentPlace (tag : List Char) : Place :=
  if isCodeTag tag then .code tag [] else .text

/-- Where a character leads that ends a name inside a start tag. -/
def boundary? (tag : List Char) (character : Char) : Option Place :=
  if character == '>' then some (contentPlace tag)
  else if isMarkupBlank character || character == '/' then some (.between tag)
  else none

/-- The end tag of code, up to its name. -/
def codeEnd (tag : List Char) : List Char :=
  '<' :: '/' :: foldLetters tag

def nextInCode (tag seen : List Char) (character : Char) : Place :=
  if seen == codeEnd tag && character == '>' then .text
  else if seen == codeEnd tag && (isMarkupBlank character || character == '/') then .ending
  else if (seen ++ [character.toLower]).isPrefixOf (codeEnd tag) then
    .code tag (seen ++ [character.toLower])
  -- A character that breaks off one end tag may begin another.
  else if character == '<' then .code tag ['<']
  else .code tag []

def Place.next (place : Place) (character : Char) : Place :=
  match place with
  | .text => if character == '<' then .opened else .text
  | .opened =>
      if character.isAlpha then .tagName [character]
      else if character == '/' || character == '!' || character == '?' then .ending
      else .text
  | .ending => if character == '>' then .text else .ending
  | .tagName tag => (boundary? tag character).getD (.tagName (tag ++ [character]))
  | .between tag => (boundary? tag character).getD (.attributeName tag [character])
  | .attributeName tag name =>
      if character == '=' then .assigned tag name
      else (boundary? tag character).getD (.attributeName tag (name ++ [character]))
  | .assigned tag name =>
      if character == '"' then .quoted tag name []
      else (boundary? tag character).getD (.between tag)
  | .quoted tag name value =>
      if character == '"' then .between tag else .quoted tag name (value ++ [character])
  | .code tag seen => nextInCode tag seen character

/-- What a reader finds: an attribute with its value in double quotes, an attribute whose value
begins otherwise, or the end of a start tag. -/
inductive Finding where
  | quoted (name value : List Char)
  | unquoted (name : List Char)
  | opened (tag : List Char)

def Place.findings (place : Place) (character : Char) : List Finding :=
  match place with
  | .tagName tag => if character == '>' then [.opened tag] else []
  | .between tag => if character == '>' then [.opened tag] else []
  | .attributeName tag _ => if character == '>' then [.opened tag] else []
  | .assigned tag name =>
      if character == '"' then []
      else if character == '>' then [.unquoted name, .opened tag]
      else [.unquoted name]
  | .quoted _ name value => if character == '"' then [.quoted name value] else []
  | _ => []

/-- What a reader at a place finds in a text. -/
def findingsFrom (place : Place) : List Char → List Finding
  | [] => []
  | character :: rest => place.findings character ++ findingsFrom (place.next character) rest

/-! ## Texts in which the same is found whatever follows -/

/-- Whether a text leads from one place to another and gives the findings, whatever text
follows it. -/
def Finds (start : Place) (text : List Char) (findings : List Finding) (finish : Place) : Prop :=
  ∀ rest, findingsFrom start (text ++ rest) = findings ++ findingsFrom finish rest

theorem finds_nil (place : Place) : Finds place [] [] place :=
  fun _ => rfl

theorem Finds.append {start middle finish : Place} {first second : List Char}
    {findings others : List Finding} (findsFirst : Finds start first findings middle)
    (findsSecond : Finds middle second others finish) :
    Finds start (first ++ second) (findings ++ others) finish := by
  intro rest
  rw [List.append_assoc, findsFirst, findsSecond, List.append_assoc]

theorem Finds.append_nothing {start middle finish : Place} {first second : List Char}
    {findings : List Finding} (findsFirst : Finds start first findings middle)
    (findsSecond : Finds middle second [] finish) :
    Finds start (first ++ second) findings finish := by
  have both := findsFirst.append findsSecond
  rw [List.append_nil] at both
  exact both

theorem Finds.cons {place finish : Place} {character : Char} {text : List Char}
    {findings : List Finding} (nothing : place.findings character = [])
    (finds : Finds (place.next character) text findings finish) :
    Finds place (character :: text) findings finish := by
  intro rest
  rw [List.cons_append, findingsFrom, nothing, List.nil_append]
  exact finds rest

theorem Finds.findingsFrom_eq {start finish : Place} {text : List Char} {findings : List Finding}
    (finds : Finds start text findings finish) : findingsFrom start text = findings := by
  have alone := finds []
  rw [List.append_nil, findingsFrom, List.append_nil] at alone
  exact alone

theorem finds_of_stays {place : Place} {text : List Char}
    (stays : ∀ character ∈ text, place.next character = place)
    (nothing : ∀ character, place.findings character = []) : Finds place text [] place := by
  induction text with
  | nil => exact finds_nil place
  | cons character others inductionHypothesis =>
      obtain ⟨staysFirst, staysLater⟩ := List.forall_mem_cons.mp stays
      apply Finds.cons (nothing character)
      rw [staysFirst]
      exact inductionHypothesis staysLater

/-- In text without left angle brackets nothing is found. -/
theorem finds_text {text : List Char} (plain : '<' ∉ text) : Finds .text text [] .text := by
  apply finds_of_stays
  · intro character member
    have notLess : character ≠ '<' := fun isLess => plain (isLess ▸ member)
    simp [Place.next, notLess]
  · intro character
    rfl

/-! ## Names and values -/

/-- Whether a character may stand in the name of an attribute. -/
def isAttributeCharacter (character : Char) : Bool :=
  character.isAlphanum || character == '-' || character == ':'

/-- Whether a text may be the name of an attribute. -/
def isAttributeName (name : String) : Bool :=
  name != "" && name.toList.all isAttributeCharacter

theorem isAttributeCharacter_of_isAlphanum {character : Char}
    (alphanumeric : character.isAlphanum = true) : isAttributeCharacter character = true := by
  rw [isAttributeCharacter, alphanumeric]
  rfl

theorem ne_of_isAttributeCharacter {character special : Char}
    (allowed : isAttributeCharacter character = true)
    (notAllowed : isAttributeCharacter special = false) : character ≠ special := by
  intro same
  rw [same, notAllowed] at allowed
  cases allowed

theorem boundary?_of_isAttributeCharacter {character : Char}
    (allowed : isAttributeCharacter character = true) (tag : List Char) :
    boundary? tag character = none := by
  have apart : ∀ special, isAttributeCharacter special = false → character ≠ special :=
    fun _ => ne_of_isAttributeCharacter allowed
  simp [boundary?, isMarkupBlank, apart '>' (by decide), apart ' ' (by decide),
    apart '\t' (by decide), apart '\n' (by decide), apart '\x0c' (by decide),
    apart '\r' (by decide), apart '/' (by decide)]

/-- A character of a name ends no start tag. -/
theorem beq_bracket_of_isAttributeCharacter {character : Char}
    (allowed : isAttributeCharacter character = true) : (character == '>') = false :=
  beq_eq_false_iff_ne.mpr (ne_of_isAttributeCharacter allowed (by decide))

theorem finds_more_of_tagName (tag : List Char) {part : List Char}
    (allowed : ∀ character ∈ part, isAttributeCharacter character = true) :
    Finds (.tagName tag) part [] (.tagName (tag ++ part)) := by
  induction part generalizing tag with
  | nil =>
      rw [List.append_nil]
      exact finds_nil _
  | cons character others inductionHypothesis =>
      obtain ⟨allowedFirst, allowedLater⟩ := List.forall_mem_cons.mp allowed
      have later := inductionHypothesis (tag ++ [character]) allowedLater
      rw [List.append_assoc, List.singleton_append] at later
      apply Finds.cons
      · rw [Place.findings, beq_bracket_of_isAttributeCharacter allowedFirst]
        rfl
      · rw [Place.next, boundary?_of_isAttributeCharacter allowedFirst tag]
        exact later

theorem finds_more_of_attributeName (tag name : List Char) {part : List Char}
    (allowed : ∀ character ∈ part, isAttributeCharacter character = true) :
    Finds (.attributeName tag name) part [] (.attributeName tag (name ++ part)) := by
  induction part generalizing name with
  | nil =>
      rw [List.append_nil]
      exact finds_nil _
  | cons character others inductionHypothesis =>
      obtain ⟨allowedFirst, allowedLater⟩ := List.forall_mem_cons.mp allowed
      have notEquals : character ≠ '=' := ne_of_isAttributeCharacter allowedFirst (by decide)
      have later := inductionHypothesis (name ++ [character]) allowedLater
      rw [List.append_assoc, List.singleton_append] at later
      apply Finds.cons
      · rw [Place.findings, beq_bracket_of_isAttributeCharacter allowedFirst]
        rfl
      · rw [Place.next, boundary?_of_isAttributeCharacter allowedFirst tag,
          if_neg (by simpa using notEquals)]
        exact later

theorem finds_more_of_quoted (tag name value : List Char) {part : List Char}
    (unquoted : '"' ∉ part) :
    Finds (.quoted tag name value) part [] (.quoted tag name (value ++ part)) := by
  induction part generalizing value with
  | nil =>
      rw [List.append_nil]
      exact finds_nil _
  | cons character others inductionHypothesis =>
      have notQuote : (character == '"') = false :=
        beq_eq_false_iff_ne.mpr (List.ne_of_not_mem_cons unquoted).symm
      have later := inductionHypothesis (value ++ [character])
        (List.not_mem_of_not_mem_cons unquoted)
      rw [List.append_assoc, List.singleton_append] at later
      apply Finds.cons
      · simp [Place.findings, notQuote]
      · rw [Place.next, notQuote]
        exact later

/-! ## Inside start tags -/

/-- Whether a reader inside a start tag takes blanks and the end of the tag as such. -/
structure AwaitsAttribute (tag : List Char) (place : Place) : Prop where
  blank : place.next ' ' = .between tag
  nothing : place.findings ' ' = []
  bracket : place.next '>' = contentPlace tag
  ends : place.findings '>' = [.opened tag]

theorem awaitsAttribute_tagName (tag : List Char) : AwaitsAttribute tag (.tagName tag) :=
  ⟨rfl, rfl, rfl, rfl⟩

theorem awaitsAttribute_between (tag : List Char) : AwaitsAttribute tag (.between tag) :=
  ⟨rfl, rfl, rfl, rfl⟩

theorem awaitsAttribute_attributeName (tag name : List Char) :
    AwaitsAttribute tag (.attributeName tag name) :=
  ⟨rfl, rfl, rfl, rfl⟩

theorem finds_attributeName {tag : List Char} {place : Place} (awaits : AwaitsAttribute tag place)
    {name : String} (isName : isAttributeName name = true) :
    Finds place (' ' :: name.toList) [] (.attributeName tag name.toList) := by
  obtain ⟨notEmpty, allowed⟩ := Bool.and_eq_true_iff.mp isName
  apply Finds.cons awaits.nothing
  rw [awaits.blank]
  cases isText : name.toList with
  | nil =>
      rw [String.toList_eq_nil_iff.mp isText] at notEmpty
      cases notEmpty
  | cons first others =>
      rw [isText, List.all_eq_true] at allowed
      obtain ⟨allowedFirst, allowedLater⟩ := List.forall_mem_cons.mp allowed
      apply Finds.cons
      · rw [Place.findings, beq_bracket_of_isAttributeCharacter allowedFirst]
        rfl
      · rw [Place.next, boundary?_of_isAttributeCharacter allowedFirst tag]
        exact finds_more_of_attributeName tag [first] allowedLater

/-- The bracket that ends a start tag leads to the content of its element. -/
theorem finds_bracket {tag : List Char} {place : Place} (awaits : AwaitsAttribute tag place) :
    Finds place ['>'] [.opened tag] (contentPlace tag) := by
  intro rest
  rw [List.singleton_append, findingsFrom, awaits.ends, awaits.bracket]

/-! ## End tags and code -/

theorem finds_endTag {tag : String} (isName : isTagName tag = true) :
    Finds .text (endTag tag).toList [] .text := by
  have isText : (endTag tag).toList = ['<', '/'] ++ (tag.toList ++ ['>']) := by
    simp [endTag]
  have opening : Finds .text ['<', '/'] [] .ending := fun _ => rfl
  have name : Finds .ending tag.toList [] .ending := by
    apply finds_of_stays
    · intro character member
      have notBracket : character ≠ '>' := by
        intro isBracket
        exact not_mem_of_isTagName isName (by decide) (isBracket ▸ member)
      simp [Place.next, notBracket]
    · exact fun _ => rfl
  have closing : Finds .ending ['>'] [] .text := fun _ => rfl
  rw [isText]
  exact opening.append (name.append closing)

theorem next_code_start (tag : List Char) (character : Char) :
    (Place.code tag []).next character =
      if character = '<' then .code tag ['<'] else .code tag [] := by
  have lowered := toLower_eq_iff (by decide : '<'.isAlpha = false) character
  by_cases isLess : character = '<'
  · subst isLess
    simp [Place.next, nextInCode, codeEnd]
  · have notLowered : ¬ character.toLower = '<' := fun same => isLess (lowered.mp same)
    simp [Place.next, nextInCode, codeEnd, isLess, notLowered]

/-- Behind a left angle bracket only a slash begins an end tag. -/
theorem next_code_less {character : Char} (noSlash : character ≠ '/') (tag : List Char) :
    (Place.code tag ['<']).next character = (Place.code tag []).next character := by
  have lowered := toLower_eq_iff (by decide : '/'.isAlpha = false) character
  have notLowered : ¬ character.toLower = '/' := fun same => noSlash (lowered.mp same)
  rw [next_code_start]
  simp [Place.next, nextInCode, codeEnd, notLowered]

/-- Code that holds no end tag and does not end where one could begin is code throughout. -/
theorem finds_code (tag : List Char) {text : List Char} (nothing : closesNothing text = true) :
    Finds (.code tag []) text [] (.code tag []) := by
  induction text with
  | nil => exact finds_nil _
  | cons first others inductionHypothesis =>
      -- What a left angle bracket begins depends on the character behind it.
      cases others with
      | nil =>
          have notLess : first ≠ '<' := bne_iff_ne.mp nothing
          apply Finds.cons rfl
          rw [next_code_start, if_neg notLess]
          exact finds_nil _
      | cons second further =>
          simp only [closesNothing, Bool.and_eq_true] at nothing
          have later := inductionHypothesis nothing.2
          apply Finds.cons rfl
          rw [next_code_start]
          by_cases isLess : first = '<'
          · have noSlash : second ≠ '/' := by
              intro isSlash
              simp [isLess, isSlash] at nothing
            rw [if_pos isLess]
            -- The bracket has been read, but without a slash it changes nothing for what follows.
            intro rest
            have fromStart := later rest
            rw [List.cons_append, findingsFrom] at fromStart ⊢
            rw [next_code_less noSlash]
            exact fromStart
          · rw [if_neg isLess]
            exact later

def codeTags : List String := ["script", "style"]

theorem finds_codeEnd {tag : String} (isCode : tag ∈ codeTags) :
    Finds (contentPlace tag.toList) (endTag tag).toList [] .text := by
  simp only [codeTags, List.mem_cons, List.not_mem_nil, or_false] at isCode
  rcases isCode with rfl | rfl
  · intro rest
    rfl
  · intro rest
    rfl

end StaticSite.Markup
