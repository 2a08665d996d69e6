import StaticSite.Json.Reader
import StaticSite.Proofs.Association
import StaticSite.Proofs.Json.Quoted
import StaticSite.Proofs.Json.Scalar

/-!
Contract: the JSON texts of a value.

Owns:
- the grammar of JSON texts in which no object repeats a name, with blanks between tokens and
  any spelling of texts;
- the positions of a reading, and which of them lead to which;
- the law that every text of a value within the limit on open containers is read as it.

Does not own: the texts that are written (see `StaticSite.Proofs.Json.Writing`).
-/

namespace StaticSite.Json

/-! ## The grammar -/

mutual

/-- Whether some characters are a JSON text of a value. -/
inductive Denotes [Text.Halves] : List Char → Json → Prop where
  | scalar {source : List Char} {value : Json} (spells : SpellsScalar source value) :
      Denotes source value
  | text (source : List Char) {text : String} (spells : Spells source text.toList) :
      Denotes ('"' :: (source ++ ['"'])) (.text text)
  | emptyArray (blanks : List Char) (blank : blanks.all isTokenBlank = true) :
      Denotes ('[' :: (blanks ++ [']'])) (.array [])
  | array (blanks item tail : List Char) {value : Json} {values : List Json}
      (blank : blanks.all isTokenBlank = true) (first : Denotes item value)
      (others : DenotesItems tail values) :
      Denotes ('[' :: (blanks ++ (item ++ tail))) (.array (value :: values))
  | emptyObject (blanks : List Char) (blank : blanks.all isTokenBlank = true) :
      Denotes ('\x7b' :: (blanks ++ ['\x7d'])) (.object [])
  | object (blanks member tail : List Char) (name : String) (value : Json) (members : Members)
      (blank : blanks.all isTokenBlank = true) (first : DenotesMember member name value)
      (others : DenotesMembers tail members)
      (distinct : (name :: members.map Prod.fst).Nodup) :
      Denotes ('\x7b' :: (blanks ++ (member ++ tail))) (.object ((name, value) :: members))

/-- Whether some characters end an array after an item, with further items before the end. -/
inductive DenotesItems [Text.Halves] : List Char → List Json → Prop where
  | close (blanks : List Char) (blank : blanks.all isTokenBlank = true) :
      DenotesItems (blanks ++ [']']) []
  | next (before after item tail : List Char) (value : Json) {values : List Json}
      (blankBefore : before.all isTokenBlank = true) (blankAfter : after.all isTokenBlank = true)
      (first : Denotes item value) (others : DenotesItems tail values) :
      DenotesItems (before ++ ',' :: (after ++ (item ++ tail))) (value :: values)

/-- Whether some characters are a member of an object. -/
inductive DenotesMember [Text.Halves] : List Char → String → Json → Prop where
  | named (source before after text : List Char) {name : String} {value : Json}
      (spells : Spells source name.toList) (blankBefore : before.all isTokenBlank = true)
      (blankAfter : after.all isTokenBlank = true) (held : Denotes text value) :
      DenotesMember ('"' :: (source ++ '"' :: (before ++ ':' :: (after ++ text)))) name value

/-- Whether some characters end an object after a member, with further members before the
end. -/
inductive DenotesMembers [Text.Halves] : List Char → Members → Prop where
  | close (blanks : List Char) (blank : blanks.all isTokenBlank = true) :
      DenotesMembers (blanks ++ ['\x7d']) []
  | next (before after member tail : List Char) (name : String) (value : Json)
      {members : Members} (blankBefore : before.all isTokenBlank = true)
      (blankAfter : after.all isTokenBlank = true) (first : DenotesMember member name value)
      (others : DenotesMembers tail members) :
      DenotesMembers (before ++ ',' :: (after ++ (member ++ tail))) ((name, value) :: members)

end

/-! ## Positions of a reading -/

/-- Where a reading stands: what is left of the source, what may come next, and the open
containers. -/
structure Position where
  source : List Char
  expectation : Expectation
  frames : List Frame

def Position.finish [Text.Halves] (position : Position) (offset : Nat) : Except ReadError Json :=
  Reading.run (tokensFrom offset position.source) (.open position.expectation position.frames)

/-- Whether a reading from one position goes on as the reading from another. -/
def LeadsTo [Text.Halves] (first second : Position) : Prop :=
  ∀ offset, ∃ later, first.finish offset = second.finish later

variable {halves : Text.Halves}

theorem LeadsTo.refl (position : Position) : LeadsTo position position :=
  fun offset => ⟨offset, rfl⟩

theorem LeadsTo.trans {first second third : Position} (leads : LeadsTo first second)
    (leadsOn : LeadsTo second third) : LeadsTo first third := by
  intro offset
  obtain ⟨later, isSecond⟩ := leads offset
  obtain ⟨last, isThird⟩ := leadsOn later
  exact ⟨last, isSecond.trans isThird⟩

theorem leadsTo_blanks {blanks : List Char} (blank : blanks.all isTokenBlank = true)
    (source : List Char) (expectation : Expectation) (frames : List Frame) :
    LeadsTo ⟨blanks ++ source, expectation, frames⟩ ⟨source, expectation, frames⟩ := by
  induction blanks with
  | nil => exact LeadsTo.refl _
  | cons first others inductionHypothesis =>
      rw [List.all_cons, Bool.and_eq_true] at blank
      refine LeadsTo.trans (fun offset => ⟨offset + 1, ?_⟩) (inductionHypothesis blank.2)
      simp only [Position.finish, List.cons_append]
      rw [tokensFrom, if_pos blank.1]

section Token

variable {token : Token} {expectation next : Expectation} {frames inside : List Frame}

/-- A token leads on as the step that reads it says. -/
theorem leadsTo_token {first : Char} {rest : List Char} {length : Nat}
    (notBlank : isTokenBlank first = false)
    (isToken : ∀ offset, firstToken offset (first :: rest) = (token, length + 1))
    (isStep : ∀ offset, (Reading.open expectation frames).step ⟨token, offset⟩ =
      .ok (.open next inside)) :
    LeadsTo ⟨first :: rest, expectation, frames⟩ ⟨rest.drop length, next, inside⟩ := by
  intro offset
  refine ⟨offset + length + 1, ?_⟩
  simp only [Position.finish]
  rw [tokensFrom, notBlank, isToken offset]
  simp only [Bool.false_eq_true, if_false, Reading.run, isStep offset]
  rfl

theorem leadsTo_mark {mark : Char} {rest : List Char} (isMark : mark? mark = some token)
    (isStep : ∀ offset, (Reading.open expectation frames).step ⟨token, offset⟩ =
      .ok (.open next inside)) :
    LeadsTo ⟨mark :: rest, expectation, frames⟩ ⟨rest, next, inside⟩ := by
  have notQuote : mark ≠ '"' := by
    intro isQuote
    rw [isQuote] at isMark
    cases isMark
  have notBlank : isTokenBlank mark = false := by
    unfold mark? at isMark
    split at isMark
    all_goals first
      | rfl
      | cases isMark
  have isToken : ∀ offset, firstToken offset (mark :: rest) = (token, 0 + 1) := by
    intro offset
    rw [firstToken]
    · rw [isMark]
    · exact fun isQuote => notQuote isQuote
  exact leadsTo_token notBlank isToken isStep

theorem leadsTo_quoted {source rest : List Char} {text : String}
    (spells : Spells source text.toList)
    (isStep : ∀ offset, (Reading.open expectation frames).step ⟨.quoted text, offset⟩ =
      .ok (.open next inside)) :
    LeadsTo ⟨'"' :: (source ++ '"' :: rest), expectation, frames⟩ ⟨rest, next, inside⟩ := by
  have isToken : ∀ offset, firstToken offset ('"' :: (source ++ '"' :: rest)) =
      (.quoted text, source.length + 1 + 1) := by
    intro offset
    have stop : offset + 1 + source.length + 1 - offset = source.length + 1 + 1 := by omega
    rw [firstToken, readQuoted_of_spells spells]
    simp only [List.reverse_nil, List.nil_append, String.ofList_toList, stop]
  have isRest : (source ++ '"' :: rest).drop (source.length + 1) = rest := by
    have ended : (source ++ ['"'] ++ rest).drop (source ++ ['"']).length = rest := List.drop_left
    rw [List.append_assoc, List.length_append] at ended
    exact ended
  have leads := leadsTo_token (by decide) isToken isStep
  rw [isRest] at leads
  exact leads

theorem leadsTo_scalar {source rest : List Char} {value : Json}
    (spells : SpellsScalar source value) (delimited : Delimited rest)
    (isStep : ∀ offset, (Reading.open expectation frames).step ⟨.scalar value, offset⟩ =
      .ok (.open next inside)) :
    LeadsTo ⟨source ++ rest, expectation, frames⟩ ⟨rest, next, inside⟩ := by
  have isToken := spells.firstToken_append delimited
  cases source with
  | nil => cases spells.1
  | cons first others =>
      have notBlank := isTokenBlank_of_isScalarCharacter (spells.2 first List.mem_cons_self)
      have isRest : (others ++ rest).drop others.length = rest := List.drop_left
      have leads : LeadsTo ⟨first :: (others ++ rest), expectation, frames⟩
          ⟨(others ++ rest).drop others.length, next, inside⟩ :=
        leadsTo_token notBlank isToken isStep
      rw [isRest] at leads
      exact leads

end Token

/-! ## Reading a text of a value -/

theorem delimited_blanks {blanks : List Char} (blank : blanks.all isTokenBlank = true)
    {mark : Char} (ends : isDelimiter mark = true) (rest : List Char) :
    Delimited (blanks ++ mark :: rest) := by
  cases blanks with
  | nil => exact delimited_cons ends rest
  | cons first others =>
      rw [List.all_cons, Bool.and_eq_true] at blank
      refine delimited_cons ?_ _
      simp only [isDelimiter, blank.1, Bool.true_or]

theorem delimited_of_denotesItems {tail : List Char} {values : List Json}
    (denotes : DenotesItems tail values) (rest : List Char) : Delimited (tail ++ rest) := by
  cases denotes with
  | close blanks blank =>
      rw [List.append_assoc]
      exact delimited_blanks blank (by decide) _
  | next _ _ _ _ _ blankBefore =>
      rw [List.append_assoc]
      exact delimited_blanks blankBefore (by decide) _

theorem delimited_of_denotesMembers {tail : List Char} {members : Members}
    (denotes : DenotesMembers tail members) (rest : List Char) : Delimited (tail ++ rest) := by
  cases denotes with
  | close blanks blank =>
      rw [List.append_assoc]
      exact delimited_blanks blank (by decide) _
  | next _ _ _ _ _ _ blankBefore =>
      rw [List.append_assoc]
      exact delimited_blanks blankBefore (by decide) _

/-- Whether a value may begin, in the frames in which it will then stand. A value may begin
where an array may end too. -/
def MayBegin (expectation : Expectation) (outer frames : List Frame) : Prop :=
  (expectation = .value ∧ outer = frames) ∨
    (expectation = .firstItem ∧ frames = .array [] :: outer)

theorem MayBegin.step {expectation : Expectation} {outer frames : List Frame}
    (mayBegin : MayBegin expectation outer frames) {token : Token}
    (notEnd : token ≠ .closeArray) (offset : Nat) :
    (Reading.open expectation outer).step ⟨token, offset⟩ =
      beginValue ⟨token, offset⟩ frames := by
  rcases mayBegin with ⟨rfl, rfl⟩ | ⟨rfl, rfl⟩
  · rfl
  · cases token with
    | closeArray => exact absurd rfl notEnd
    | _ => rfl

/-- Whether a member may begin in an object with the given members so far, which are in
reverse. -/
def MayName (expectation : Expectation) (members : Members) : Prop :=
  (expectation = .firstName ∧ members = []) ∨ expectation = .name members

theorem MayName.step {expectation : Expectation} {members : Members}
    (mayName : MayName expectation members) (frames : List Frame) (name : String)
    (offset : Nat) :
    (Reading.open expectation frames).step ⟨.quoted name, offset⟩ =
      .ok (.open (.colon members name) frames) := by
  rcases mayName with ⟨rfl, rfl⟩ | rfl
  · rfl
  · rfl

/-- Where a value may begin, the mark that opens an array or an object opens it, as long as
there is room for one more container. -/
theorem MayBegin.leadsTo_open {expectation inner : Expectation} {outer frames : List Frame}
    (mayBegin : MayBegin expectation outer frames) {mark : Char} {token : Token}
    (isMark : mark? mark = some token) (notEnd : token ≠ .closeArray)
    (opens : ∀ offset, beginValue ⟨token, offset⟩ frames = .ok (.open inner frames))
    {blanks : List Char} (blank : blanks.all isTokenBlank = true) (rest : List Char) :
    LeadsTo ⟨mark :: (blanks ++ rest), expectation, outer⟩ ⟨rest, inner, frames⟩ := by
  have begins : LeadsTo ⟨mark :: (blanks ++ rest), expectation, outer⟩
      ⟨blanks ++ rest, inner, frames⟩ := by
    apply leadsTo_mark isMark
    intro offset
    rw [mayBegin.step notEnd, opens]
  exact begins.trans (leadsTo_blanks blank _ _ _)

theorem beginValue_openArray {frames : List Frame} (room : frames.length < openContainerLimit)
    (offset : Nat) : beginValue ⟨.openArray, offset⟩ frames = .ok (.open .firstItem frames) := by
  simp only [beginValue, if_pos room]

theorem beginValue_openObject {frames : List Frame} (room : frames.length < openContainerLimit)
    (offset : Nat) : beginValue ⟨.openObject, offset⟩ frames = .ok (.open .firstName frames) := by
  simp only [beginValue, if_pos room]

/-- A comma leads, over the blanks around it, to what it lets begin. -/
theorem leadsTo_comma {before after : List Char} (blankBefore : before.all isTokenBlank = true)
    (blankAfter : after.all isTokenBlank = true) {expectation next : Expectation}
    {frames inside : List Frame} (rest : List Char)
    (isStep : ∀ offset, (Reading.open expectation frames).step ⟨.comma, offset⟩ =
      .ok (.open next inside)) :
    LeadsTo ⟨before ++ ',' :: (after ++ rest), expectation, frames⟩ ⟨rest, next, inside⟩ := by
  have overComma : LeadsTo ⟨',' :: (after ++ rest), expectation, frames⟩
      ⟨after ++ rest, next, inside⟩ := leadsTo_mark rfl isStep
  refine (leadsTo_blanks blankBefore _ _ _).trans ?_
  exact overComma.trans (leadsTo_blanks blankAfter _ _ _)

-- The recursion is on the text.  It carries the room for open containers: entering one takes a
-- frame more and leaves a depth less, so that the sum never passes the limit.
mutual

/-- A text of a value is read as the value, whatever delimiter follows. -/
theorem leadsTo_of_denotes {source : List Char} {value : Json} :
    Denotes source value → ∀ {expectation : Expectation} {outer frames : List Frame}
      {rest : List Char}, MayBegin expectation outer frames →
      frames.length + value.depth ≤ openContainerLimit → Delimited rest →
      LeadsTo ⟨source ++ rest, expectation, outer⟩ ⟨rest, .continuation value, frames⟩
  | .scalar spells, _, _, _, _, mayBegin, _, delimited =>
      leadsTo_scalar spells delimited fun offset => mayBegin.step (by nofun) offset
  | .text inside spells, _, _, _, rest, mayBegin, _, _ => by
      have isText : '"' :: (inside ++ ['"']) ++ rest = '"' :: (inside ++ '"' :: rest) := by simp
      rw [isText]
      exact leadsTo_quoted spells fun offset => mayBegin.step (by nofun) offset
  | .emptyArray blanks blank, _, _, frames, rest, mayBegin, fits, _ => by
      have isText : '[' :: (blanks ++ [']']) ++ rest = '[' :: (blanks ++ ']' :: rest) := by simp
      simp only [depth] at fits
      have opens := beginValue_openArray (show frames.length < openContainerLimit by omega)
      rw [isText]
      refine (mayBegin.leadsTo_open rfl (by nofun) opens blank _).trans ?_
      exact leadsTo_mark rfl fun _ => rfl
  | .array blanks item tail blank first others, _, _, frames, rest, mayBegin, fits, delimited => by
      have isText : '[' :: (blanks ++ (item ++ tail)) ++ rest =
          '[' :: (blanks ++ (item ++ (tail ++ rest))) := by simp
      simp only [depth, depthOfItems] at fits
      have opens := beginValue_openArray (show frames.length < openContainerLimit by omega)
      rw [isText]
      refine (mayBegin.leadsTo_open rfl (by nofun) opens blank _).trans ?_
      refine (leadsTo_of_denotes first (Or.inr ⟨rfl, rfl⟩) ?_
        (delimited_of_denotesItems others rest)).trans ?_
      · simp only [List.length_cons]
        omega
      · exact leadsTo_of_denotesItems others (by omega)
  | .emptyObject blanks blank, _, _, frames, rest, mayBegin, fits, _ => by
      have isText : '\x7b' :: (blanks ++ ['\x7d']) ++ rest =
          '\x7b' :: (blanks ++ '\x7d' :: rest) := by simp
      simp only [depth] at fits
      have opens := beginValue_openObject (show frames.length < openContainerLimit by omega)
      rw [isText]
      refine (mayBegin.leadsTo_open rfl (by nofun) opens blank _).trans ?_
      exact leadsTo_mark rfl fun _ => rfl
  | .object blanks member tail name held members blank first others distinct, _, _, frames, rest,
      mayBegin, fits, _ => by
      have isText : '\x7b' :: (blanks ++ (member ++ tail)) ++ rest =
          '\x7b' :: (blanks ++ (member ++ (tail ++ rest))) := by simp
      simp only [depth, depthOfMembers] at fits
      have opens := beginValue_openObject (show frames.length < openContainerLimit by omega)
      rw [isText]
      refine (mayBegin.leadsTo_open rfl (by nofun) opens blank _).trans ?_
      refine (leadsTo_of_denotesMember first (Or.inl ⟨rfl, rfl⟩) (by omega)
        (delimited_of_denotesMembers others rest)).trans ?_
      have leads : LeadsTo ⟨tail ++ rest, .continuation held, .object [] name :: frames⟩ _ :=
        leadsTo_of_denotesMembers others (by omega)
      have isObject : Association.ofBindings ((name, held) :: members) = (name, held) :: members :=
        Association.ofBindings_of_nodup distinct
      rw [List.reverse_singleton, List.singleton_append, isObject] at leads
      exact leads

theorem leadsTo_of_denotesItems {tail : List Char} {values : List Json} :
    DenotesItems tail values → ∀ {value : Json} {items : List Json} {frames : List Frame}
      {rest : List Char}, frames.length + 1 + depthOfItems values ≤ openContainerLimit →
      LeadsTo ⟨tail ++ rest, .continuation value, .array items :: frames⟩
        ⟨rest, .continuation (.array ((value :: items).reverse ++ values)), frames⟩
  | .close blanks blank, value, items, frames, rest, _ => by
      have isText : blanks ++ [']'] ++ rest = blanks ++ ']' :: rest := by simp
      rw [isText, List.append_nil]
      refine (leadsTo_blanks blank _ _ _).trans ?_
      exact leadsTo_mark rfl fun _ => rfl
  | .next before after item tail following blankBefore blankAfter first others, value, items,
      frames, rest, fits => by
      have isText : before ++ ',' :: (after ++ (item ++ tail)) ++ rest =
          before ++ ',' :: (after ++ (item ++ (tail ++ rest))) := by simp
      simp only [depthOfItems] at fits
      rw [isText]
      refine (leadsTo_comma blankBefore blankAfter _ fun _ => rfl).trans ?_
      refine (leadsTo_of_denotes first (Or.inl ⟨rfl, rfl⟩) ?_
        (delimited_of_denotesItems others rest)).trans ?_
      · simp only [List.length_cons]
        omega
      · have leads : LeadsTo
            ⟨tail ++ rest, .continuation following, .array (value :: items) :: frames⟩ _ :=
          leadsTo_of_denotesItems others (by omega)
        rw [List.reverse_cons, List.append_assoc, List.singleton_append] at leads
        exact leads

theorem leadsTo_of_denotesMember {source : List Char} {name : String} {value : Json} :
    DenotesMember source name value → ∀ {expectation : Expectation} {members : Members}
      {frames : List Frame} {rest : List Char}, MayName expectation members →
      frames.length + 1 + value.depth ≤ openContainerLimit → Delimited rest →
      LeadsTo ⟨source ++ rest, expectation, frames⟩
        ⟨rest, .continuation value, .object members name :: frames⟩
  | .named inside before after written spells blankBefore blankAfter held, _, members, frames,
      rest, mayName, fits, delimited => by
      have isText : '"' :: (inside ++ '"' :: (before ++ ':' :: (after ++ written))) ++ rest =
          '"' :: (inside ++ '"' :: (before ++ ':' :: (after ++ (written ++ rest)))) := by simp
      rw [isText]
      refine (leadsTo_quoted spells fun offset => mayName.step frames name offset).trans ?_
      refine (leadsTo_blanks blankBefore _ _ _).trans ?_
      have overColon : LeadsTo
          ⟨':' :: (after ++ (written ++ rest)), .colon members name, frames⟩
          ⟨after ++ (written ++ rest), .value, .object members name :: frames⟩ :=
        leadsTo_mark rfl fun _ => rfl
      refine overColon.trans ?_
      refine (leadsTo_blanks blankAfter _ _ _).trans ?_
      refine leadsTo_of_denotes held (Or.inl ⟨rfl, rfl⟩) ?_ delimited
      simp only [List.length_cons]
      omega

theorem leadsTo_of_denotesMembers {tail : List Char} {members : Members} :
    DenotesMembers tail members → ∀ {value : Json} {name : String} {before : Members}
      {frames : List Frame} {rest : List Char},
      frames.length + 1 + depthOfMembers members ≤ openContainerLimit →
      LeadsTo ⟨tail ++ rest, .continuation value, .object before name :: frames⟩
        ⟨rest, .continuation
          (.object (Association.ofBindings (((name, value) :: before).reverse ++ members))),
          frames⟩
  | .close blanks blank, value, name, before, frames, rest, _ => by
      have isText : blanks ++ ['\x7d'] ++ rest = blanks ++ '\x7d' :: rest := by simp
      rw [isText, List.append_nil]
      refine (leadsTo_blanks blank _ _ _).trans ?_
      exact leadsTo_mark rfl fun _ => rfl
  | .next blanks after member tail nextName nextValue blankBefore blankAfter first others, value,
      name, before, frames, rest, fits => by
      have isText : blanks ++ ',' :: (after ++ (member ++ tail)) ++ rest =
          blanks ++ ',' :: (after ++ (member ++ (tail ++ rest))) := by simp
      simp only [depthOfMembers] at fits
      rw [isText]
      refine (leadsTo_comma blankBefore blankAfter _ fun _ => rfl).trans ?_
      refine (leadsTo_of_denotesMember first (Or.inr rfl) (by omega)
        (delimited_of_denotesMembers others rest)).trans ?_
      have leads : LeadsTo ⟨tail ++ rest, .continuation nextValue,
          .object ((name, value) :: before) nextName :: frames⟩ _ :=
        leadsTo_of_denotesMembers others (by omega)
      rw [List.reverse_cons, List.append_assoc, List.singleton_append] at leads
      exact leads

end

/-- No text of a value begins with a byte order mark. -/
theorem head?_of_denotes {source : List Char} {value : Json} (denotes : Denotes source value) :
    source.head? ≠ some '\ufeff' := by
  cases denotes with
  | scalar spells =>
      intro isHead
      have scalar := spells.2 '\ufeff' (List.mem_of_head? isHead)
      exact absurd scalar (by decide)
  | text _ _ => simp
  | emptyArray _ _ => simp
  | array _ _ _ _ _ _ => simp
  | emptyObject _ _ => simp
  | object _ _ _ _ _ _ _ _ _ => simp

theorem readCharacters_of_head {source : List Char} (noMark : source.head? ≠ some '\ufeff') :
    readCharacters source = Reading.run (tokens source) (.open .value []) := by
  unfold readCharacters
  split
  · exact absurd rfl noMark
  · rfl

/-- Every text of a value is read as the value, as long as the value is not nested too
deep. -/
theorem readCharacters_of_denotes {source : List Char} {value : Json}
    (denotes : Denotes source value) (fits : value.depth ≤ openContainerLimit) :
    readCharacters source = .ok value := by
  have leads : LeadsTo ⟨source ++ [], .value, []⟩ ⟨[], .continuation value, []⟩ :=
    leadsTo_of_denotes denotes (Or.inl ⟨rfl, rfl⟩) (by simpa using fits) delimited_nil
  rw [List.append_nil] at leads
  obtain ⟨offset, isEnd⟩ := leads 0
  have isFinish : tokensFrom offset [] = [⟨.finish, offset⟩] := by
    rw [tokensFrom]
  rw [readCharacters_of_head (head?_of_denotes denotes), tokens]
  refine isEnd.trans ?_
  rw [Position.finish, isFinish]
  rfl

end StaticSite.Json
