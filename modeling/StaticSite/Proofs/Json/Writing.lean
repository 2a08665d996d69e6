import StaticSite.Json.Writer
import StaticSite.Proofs.Json.Denotation
import StaticSite.Proofs.Json.Reading

/-!
Contract: the texts that values are written as.

Owns:
- numbers whose text is read as the number;
- layouts that put nothing but blanks between the tokens of JSON;
- the law that a regular value is written as a text of the same data, in any such layout, if no
  halves of surrogate pairs in its texts would pair by their escapes;
- the law that a text with sorted members stays on one line.

Does not own: texts inside other languages (see `StaticSite.Proofs.Page.InlineData`).
-/

namespace StaticSite.Json

open StaticSite.Number

variable {halves : Text.Halves}

/-! ## Scalars whose text is read back -/

/-- After a value, a text of scalars that can be read has ended. -/
theorem eq_of_run_continuation {offset : Nat} {source : List Char}
    (scalar : ∀ character ∈ source, isScalarCharacter character = true) {held value : Json}
    (isRun : Reading.run (tokensFrom offset source) (.open (.continuation held) []) = .ok value) :
    source = [] ∧ held = value := by
  cases source with
  | nil =>
      rw [tokensFrom] at isRun
      cases isRun
      exact ⟨rfl, rfl⟩
  | cons first others =>
      exfalso
      have begins := scalar first List.mem_cons_self
      have notBlank := isTokenBlank_of_isScalarCharacter begins
      cases isToken : firstToken offset (first :: others) with
      | mk token length =>
          have isScalar := (isScalarToken_of_isScalarCharacter begins isToken).1
          rw [tokensFrom, notBlank, isToken] at isRun
          cases length <;> cases isScalar <;> cases isRun

/-- A text that consists of the characters of scalars and is read as a value spells it. -/
theorem spellsScalar_of_read {text : String}
    (scalar : ∀ character ∈ text.toList, isScalarCharacter character = true) {value : Json}
    (isRead : read text = .ok value) : SpellsScalar text.toList value := by
  refine ⟨?_, scalar⟩
  unfold read at isRead
  cases isText : text.toList with
  | nil =>
      rw [isText, readCharacters_of_head (by simp), tokens, tokensFrom] at isRead
      cases isRead
  | cons first others =>
      rw [isText] at isRead scalar
      have begins := scalar first List.mem_cons_self
      have notBlank := isTokenBlank_of_isScalarCharacter begins
      have noMark : (first :: others).head? ≠ some '\ufeff' := by
        rintro isMark
        rw [Option.some.inj isMark] at begins
        exact absurd begins (by decide)
      rw [readCharacters_of_head noMark] at isRead
      cases isToken : firstToken 0 (first :: others) with
      | mk token length =>
          obtain ⟨isScalar, within⟩ := isScalarToken_of_isScalarCharacter begins isToken
          rw [tokens, tokensFrom, notBlank, isToken] at isRead
          cases length with
          | zero => cases isScalar <;> cases isRead
          | succ length =>
              cases isScalar with
              | malformed error => cases isRead
              | stray => cases isRead
              | scalar isScalar =>
                  have ended := eq_of_run_continuation
                    (fun character member =>
                      scalar character (List.mem_cons_of_mem first (List.mem_of_mem_drop member)))
                    isRead
                  have taken := List.drop_eq_nil_iff.mp ended.1
                  have isLength : length + 1 = (first :: others).length := by
                    simp only [List.length_cons] at within ⊢
                    omega
                  rw [ended.2, isLength]

/-- Whether the text of a number is read as that number. -/
def ReadsBack [Text.Halves] (number : Binary64) : Prop :=
  read (number.textIn numberStyle) = .ok (.real number)

instance [Text.Halves] (number : Binary64) : Decidable (ReadsBack number) :=
  match isRead : read (number.textIn numberStyle) with
  | .ok (.real other) =>
      if same : other = number then
        isTrue (by rw [ReadsBack, isRead, same])
      else
        isFalse fun readsBack => by
          rw [ReadsBack, isRead] at readsBack
          exact same (Json.real.inj (Except.ok.inj readsBack))
  | .ok .null | .ok (.bool _) | .ok (.int _) | .ok (.text _) | .ok (.array _) | .ok (.object _)
  | .error _ =>
      isFalse fun readsBack => by
        rw [ReadsBack, isRead] at readsBack
        cases readsBack

theorem isScalarCharacter_of_mem_number {number : Binary64} {character : Char}
    (member : character ∈ (number.textIn numberStyle).toList) :
    isScalarCharacter character = true := by
  have names : ∀ letter ∈ numberStyle.infinityName.toList ++ numberStyle.notANumberName.toList,
      isScalarCharacter letter = true :=
    List.all_eq_true.mp (by decide)
  rcases Binary64.mem_textIn member with numeral | inInfinity | inNotANumber
  · exact isScalarCharacter_of_isNumeralCharacter numeral
  · exact names character (List.mem_append_left _ inInfinity)
  · exact names character (List.mem_append_right _ inNotANumber)

theorem spellsScalar_real {number : Binary64} (readsBack : ReadsBack number) :
    SpellsScalar (number.textIn numberStyle).toList (.real number) :=
  spellsScalar_of_read (fun _ member => isScalarCharacter_of_mem_number member) readsBack

/-! ## Layouts -/

/-- Whether a layout writes JSON: what it puts behind commas and colons is blank. -/
structure Layout.Separates (layout : Layout) (afterComma afterColon : List Char) : Prop where
  item_eq : layout.itemSeparator.toList = ',' :: afterComma
  name_eq : layout.nameSeparator.toList = ':' :: afterColon
  blankComma : afterComma.all isTokenBlank = true
  blankColon : afterColon.all isTokenBlank = true

theorem separates_sortedLayout : sortedLayout.Separates [' '] [' '] := by
  constructor
  all_goals decide

theorem separates_asciiLayout : asciiLayout.Separates [' '] [' '] := by
  constructor
  all_goals decide

theorem separates_indentedLayout : indentedLayout.Separates [] [' '] := by
  constructor
  all_goals decide

theorem isTokenBlank_lineBreak (layout : Layout) (level : Nat) :
    (layout.lineBreak level).toList.all isTokenBlank = true := by
  unfold Layout.lineBreak
  cases layout.indent with
  | none => rfl
  | some width =>
      simp only [String.toList_append, String.toList_ofList, List.all_append, Bool.and_eq_true]
      refine ⟨by decide, List.all_eq_true.mpr fun character member => ?_⟩
      rw [List.eq_of_mem_replicate member]
      decide

theorem Layout.Separates.blank_gap {layout : Layout} {afterComma afterColon : List Char}
    (separates : layout.Separates afterComma afterColon) (level : Nat) :
    (afterComma ++ (layout.lineBreak (level + 1)).toList).all isTokenBlank = true := by
  rw [List.all_append, separates.blankComma, isTokenBlank_lineBreak]
  rfl

/-- The members of an object in the order in which a layout writes them. -/
def Layout.inOrder (layout : Layout) (members : Members) : Members :=
  if layout.sortMembers then sortByName members else members

/-- The value as the text of a layout has it, with the members of objects in the order of the
layout. -/
def Layout.ordered (layout : Layout) (value : Json) : Json :=
  if layout.sortMembers then value.sorted else value

theorem perm_inOrder (layout : Layout) (members : Members) :
    (layout.inOrder members).Perm members := by
  unfold Layout.inOrder
  split
  · exact perm_sortByName members
  · exact List.Perm.refl members

theorem arrange_map (layout : Layout) (written : Json → String) (members : Members) :
    layout.arrange (members.map fun entry => (entry.1, written entry.2)) =
      (layout.inOrder members).map fun entry => (entry.1, written entry.2) := by
  unfold Layout.arrange Layout.inOrder
  split
  · exact sortByName_map written members
  · rfl

theorem ordered_of_sorted_eq (layout : Layout) {value : Json} (unchanged : value.sorted = value) :
    layout.ordered value = value := by
  rw [Layout.ordered, unchanged, ite_self]

theorem ordered_array (layout : Layout) (items : List Json) :
    layout.ordered (.array items) = .array (items.map layout.ordered) := by
  unfold Layout.ordered
  cases layout.sortMembers with
  | true => exact sorted_array items
  | false => exact congrArg array (List.map_id items).symm

theorem ordered_object (layout : Layout) (members : Members) :
    layout.ordered (.object members) =
      .object ((layout.inOrder members).map fun entry => (entry.1, layout.ordered entry.2)) := by
  unfold Layout.ordered Layout.inOrder
  cases layout.sortMembers with
  | true => exact sorted_object members
  | false => exact congrArg object (List.map_id members).symm

/-! ## Texts of containers -/

theorem intercalate_append (gap first : List Char) (others : List (List Char))
    (rest : List Char) :
    gap.intercalate (first :: others) ++ rest =
      first ++ (others.flatMap (gap ++ ·) ++ rest) := by
  induction others generalizing first with
  | nil => simp
  | cons second further inductionHypothesis =>
      rw [List.intercalate_cons_cons, List.append_assoc, inductionHypothesis, List.flatMap_cons]
      simp only [List.append_assoc]

theorem toList_enclose_nil (layout : Layout) (level : Nat) (opening closing : String) :
    (layout.enclose level opening closing []).toList = opening.toList ++ closing.toList := by
  rw [Layout.enclose, List.isEmpty_nil, if_pos rfl, String.toList_append]

/-- The text of some items in brackets, with the first item apart. -/
theorem toList_enclose_cons (layout : Layout) (level : Nat) (opening closing first : String)
    (others : List String) :
    (layout.enclose level opening closing (first :: others)).toList =
      opening.toList ++ ((layout.lineBreak (level + 1)).toList ++ (first.toList ++
        ((others.map String.toList).flatMap
          (layout.itemSeparator.toList ++ (layout.lineBreak (level + 1)).toList ++ ·) ++
          ((layout.lineBreak level).toList ++ closing.toList)))) := by
  rw [Layout.enclose, List.isEmpty_cons, if_neg Bool.false_ne_true]
  simp only [String.toList_append, String.toList_intercalate, List.map_cons]
  rw [List.append_assoc, List.append_assoc, List.append_assoc, intercalate_append]

section Containers

variable {layout : Layout} {afterComma afterColon : List Char}
  (separates : layout.Separates afterComma afterColon) (level : Nat)
  {text : Json → String} {change : Json → Json}

include separates

theorem denotesItems_flatMap {items : List Json}
    (denotes : ∀ item ∈ items, Denotes (text item).toList (change item)) :
    DenotesItems (((items.map text).map String.toList).flatMap
        (layout.itemSeparator.toList ++ (layout.lineBreak (level + 1)).toList ++ ·) ++
      ((layout.lineBreak level).toList ++ [']'])) (items.map change) := by
  induction items with
  | nil => exact .close _ (isTokenBlank_lineBreak layout level)
  | cons item others inductionHypothesis =>
      obtain ⟨denotesItem, denotesOthers⟩ := List.forall_mem_cons.mp denotes
      have written := DenotesItems.next [] _ _ _ _ rfl (separates.blank_gap level) denotesItem
        (inductionHypothesis denotesOthers)
      simp only [List.nil_append, List.append_assoc] at written
      simp only [List.map_cons, List.flatMap_cons, separates.item_eq, List.cons_append,
        List.append_assoc] at written ⊢
      exact written

/-- Texts of items in brackets are a text of the array. -/
theorem denotes_enclose_array {items : List Json}
    (denotes : ∀ item ∈ items, Denotes (text item).toList (change item)) :
    Denotes (layout.enclose level "[" "]" (items.map text)).toList
      (.array (items.map change)) := by
  have brackets : "[".toList = ['['] ∧ "]".toList = [']'] := by decide
  cases items with
  | nil =>
      rw [List.map_nil, toList_enclose_nil, brackets.1, brackets.2]
      exact .emptyArray [] rfl
  | cons item others =>
      obtain ⟨denotesItem, denotesOthers⟩ := List.forall_mem_cons.mp denotes
      rw [List.map_cons, toList_enclose_cons, brackets.1, brackets.2, List.singleton_append]
      exact .array _ _ _ (isTokenBlank_lineBreak layout (level + 1)) denotesItem
        (denotesItems_flatMap separates level denotesOthers)

variable {memberText : String × Json → String}

theorem denotesMembers_flatMap {members : Members}
    (denotes : ∀ name value, (name, value) ∈ members →
      DenotesMember (memberText (name, value)).toList name (change value)) :
    DenotesMembers (((members.map memberText).map String.toList).flatMap
        (layout.itemSeparator.toList ++ (layout.lineBreak (level + 1)).toList ++ ·) ++
      ((layout.lineBreak level).toList ++ ['\x7d']))
      (members.map fun entry => (entry.1, change entry.2)) := by
  induction members with
  | nil => exact .close _ (isTokenBlank_lineBreak layout level)
  | cons member others inductionHypothesis =>
      obtain ⟨first, held⟩ := member
      have denotesOthers := inductionHypothesis fun name value later =>
        denotes name value (List.mem_cons_of_mem _ later)
      have written := DenotesMembers.next [] _ _ _ first (change held) rfl
        (separates.blank_gap level) (denotes first held List.mem_cons_self) denotesOthers
      simp only [List.nil_append, List.append_assoc] at written
      simp only [List.map_cons, List.flatMap_cons, separates.item_eq, List.cons_append,
        List.append_assoc] at written ⊢
      exact written

/-- Texts of members in braces are a text of the object. -/
theorem denotes_enclose_object {members : Members}
    (denotes : ∀ name value, (name, value) ∈ members →
      DenotesMember (memberText (name, value)).toList name (change value))
    (distinct : (members.map Prod.fst).Nodup) :
    Denotes (layout.enclose level "\x7b" "\x7d" (members.map memberText)).toList
      (.object (members.map fun entry => (entry.1, change entry.2))) := by
  have braces : "\x7b".toList = ['\x7b'] ∧ "\x7d".toList = ['\x7d'] := by decide
  cases members with
  | nil =>
      rw [List.map_nil, toList_enclose_nil, braces.1, braces.2]
      exact .emptyObject [] rfl
  | cons member others =>
      obtain ⟨first, held⟩ := member
      have denotesOthers := denotesMembers_flatMap separates level fun name value later =>
        denotes name value (List.mem_cons_of_mem _ later)
      have sameNames : (others.map fun entry => (entry.1, change entry.2)).map Prod.fst =
          others.map Prod.fst := by
        rw [List.map_map]
        rfl
      rw [List.map_cons, toList_enclose_cons, braces.1, braces.2, List.singleton_append]
      refine .object _ _ _ first (change held) _ (isTokenBlank_lineBreak layout (level + 1))
        (denotes first held List.mem_cons_self) denotesOthers ?_
      rw [sameNames]
      exact distinct

/-- A written member, from its name to its value. -/
theorem toList_layoutMember (name written : String) :
    (layout.member (name, written)).toList =
      '"' :: (name.toList.flatMap (quotedCharacter layout.asciiOnly) ++
        '"' :: ([] ++ ':' :: (afterColon ++ written.toList))) := by
  rw [Layout.member, String.toList_append, String.toList_append, toList_quote, separates.name_eq]
  simp

end Containers

theorem writeItems_eq_map (layout : Layout) (level : Nat) (items : List Json) :
    writeItems layout level items = items.map (writeAt layout level) := by
  induction items with
  | nil => rfl
  | cons item others inductionHypothesis =>
      rw [writeItems, inductionHypothesis, List.map_cons]

theorem writeMembers_eq_map (layout : Layout) (level : Nat) (members : Members) :
    writeMembers layout level members =
      members.map fun entry => (entry.1, writeAt layout level entry.2) := by
  induction members with
  | nil => rfl
  | cons member others inductionHypothesis =>
      rw [writeMembers, inductionHypothesis, List.map_cons]

/-! ## Texts of values -/

/-- A regular value whose numbers read back is written as a text of the same value, with members
in the order of the layout. In ASCII, its texts must keep halves of surrogate pairs apart. -/
theorem denotes_writeAt_ordered {layout : Layout} {afterComma afterColon : List Char}
    (separates : layout.Separates afterComma afterColon) {value : Json} (regular : value.IsRegular)
    (readBack : ∀ number ∈ value.reals, ReadsBack number)
    (apart : layout.asciiOnly = true → ∀ text, HoldsText text value → KeepsHalvesApart text.toList)
    (level : Nat) : Denotes (writeAt layout level value).toList (layout.ordered value) := by
  induction value using treeInduction generalizing level with
  | null =>
      rw [ordered_of_sorted_eq layout rfl]
      exact .scalar spellsScalar_null
  | bool value =>
      rw [ordered_of_sorted_eq layout rfl]
      exact .scalar (spellsScalar_bool value)
  | int value =>
      rw [ordered_of_sorted_eq layout rfl]
      exact .scalar (spellsScalar_int (regular _ .itself))
  | real number =>
      rw [ordered_of_sorted_eq layout rfl]
      exact .scalar (spellsScalar_real (readBack number (List.mem_singleton_self number)))
  | text value =>
      rw [ordered_of_sorted_eq layout rfl, writeAt, toList_quote]
      exact .text _ (spells_quote layout.asciiOnly fun ascii =>
        apart ascii value (holdsText_text_iff.mpr rfl))
  | array items inductionHypothesis =>
      rw [ordered_array, writeAt, writeItems_eq_map]
      refine denotes_enclose_array separates level fun item member => ?_
      exact inductionHypothesis item member (isRegular_array_iff.mp regular item member)
        (fun number inItem => readBack number (mem_realsOfItems_iff.mpr ⟨item, member, inItem⟩))
        (fun ascii text inItem => apart ascii text (holdsText_array_iff.mpr ⟨item, member, inItem⟩))
        (level + 1)
  | object members inductionHypothesis =>
      obtain ⟨distinct, regularMembers⟩ := isRegular_object_iff.mp regular
      have inOrder := perm_inOrder layout members
      rw [ordered_object, writeAt, writeMembers_eq_map, arrange_map, List.map_map]
      refine denotes_enclose_object separates level (fun name value isMember => ?_)
        ((inOrder.map Prod.fst).nodup_iff.mpr distinct)
      have member := inOrder.mem_iff.mp isMember
      have denotes := inductionHypothesis name value member (regularMembers name value member)
        (fun number inValue =>
          readBack number (mem_realsOfMembers_iff.mpr ⟨name, value, member, inValue⟩))
        (fun ascii text inValue =>
          apart ascii text (holdsText_object_iff.mpr ⟨name, value, member, Or.inr inValue⟩))
        (level + 1)
      have spells := spells_quote layout.asciiOnly fun ascii =>
        apart ascii name (holdsText_object_iff.mpr ⟨name, value, member, Or.inl rfl⟩)
      rw [Function.comp, toList_layoutMember separates]
      exact .named _ _ _ _ spells rfl separates.blankColon denotes

/-- With members in order, a regular value whose numbers read back is written as a text of the
same value with sorted members. -/
theorem denotes_writeAt {value : Json} (regular : value.IsRegular)
    (readBack : ∀ number ∈ value.reals, ReadsBack number) (level : Nat) :
    Denotes (writeAt sortedLayout level value).toList value.sorted :=
  denotes_writeAt_ordered separates_sortedLayout regular readBack nofun level

/-- A regular value within the limit on open containers, without fractions, is read back from its
indented text. -/
theorem read_write_indentedLayout {value : Json} (regular : value.IsRegular)
    (noReals : value.reals = []) (fits : value.depth ≤ openContainerLimit) :
    read (write indentedLayout value) = .ok value := by
  have readBack : ∀ number ∈ value.reals, ReadsBack number := by
    rw [noReals]
    exact nofun
  exact readCharacters_of_denotes
    (denotes_writeAt_ordered separates_indentedLayout regular readBack nofun 0) fits

/-- A regular value within the limit on open containers whose numbers read back and whose texts
keep halves of surrogate pairs apart is read back from its text in ASCII characters. -/
theorem read_write_asciiLayout {value : Json} (regular : value.IsRegular)
    (readBack : ∀ number ∈ value.reals, ReadsBack number)
    (apart : ∀ text, HoldsText text value → KeepsHalvesApart text.toList)
    (fits : value.depth ≤ openContainerLimit) : read (write asciiLayout value) = .ok value :=
  readCharacters_of_denotes
    (denotes_writeAt_ordered separates_asciiLayout regular readBack (fun _ => apart) 0) fits

/-! ## One line -/

/-- What stands between items and between members on one line. -/
def itemGap : List Char :=
  [',', ' ']

theorem toList_enclose (level : Nat) (opening closing : String) (items : List String) :
    (sortedLayout.enclose level opening closing items).toList =
      opening.toList ++ (itemGap.intercalate (items.map String.toList) ++ closing.toList) := by
  have noBreak : ∀ level, sortedLayout.lineBreak level = "" := fun _ => rfl
  have isGap : sortedLayout.itemSeparator.toList = itemGap := by decide
  unfold Layout.enclose
  split
  · rename_i noItems
    rw [List.isEmpty_iff.mp noItems, String.toList_append]
    rfl
  · simp only [noBreak, String.toList_append, String.toList_intercalate, isGap,
      String.toList_empty, List.append_nil, List.append_assoc]

theorem toList_member (name written : String) :
    (sortedLayout.member (name, written)).toList =
      '"' :: (name.toList.flatMap (quotedCharacter false) ++
        '"' :: ([] ++ ':' :: ([' '] ++ written.toList))) :=
  toList_layoutMember separates_sortedLayout name written

theorem toList_writeAt_array (level : Nat) (items : List Json) :
    (writeAt sortedLayout level (.array items)).toList =
      '[' :: (itemGap.intercalate (items.map fun item =>
        (writeAt sortedLayout (level + 1) item).toList) ++ [']']) := by
  rw [writeAt, writeItems_eq_map, toList_enclose, List.map_map]
  rfl

theorem toList_writeAt_object (level : Nat) (members : Members) :
    (writeAt sortedLayout level (.object members)).toList =
      '\x7b' :: (itemGap.intercalate ((sortByName members).map fun entry =>
        (sortedLayout.member (entry.1, writeAt sortedLayout (level + 1) entry.2)).toList) ++
          ['\x7d']) := by
  have inOrder : sortedLayout.arrange (writeMembers sortedLayout (level + 1) members) =
      sortByName (writeMembers sortedLayout (level + 1) members) := rfl
  rw [writeAt, inOrder, writeMembers_eq_map, sortByName_map, toList_enclose, List.map_map,
    List.map_map]
  rfl

/-- Whether a text stays on one line: it has no control characters. -/
def OneLine (text : List Char) : Prop :=
  ∀ character ∈ text, 32 ≤ character.toNat

instance (text : List Char) : Decidable (OneLine text) :=
  decidable_of_iff (text.all (fun character => decide (32 ≤ character.toNat)) = true)
    (by simp [OneLine])

theorem oneLine_mark {mark : Char} (printed : 32 ≤ mark.toNat) : OneLine [mark] := by
  intro character member
  rw [List.mem_singleton.mp member]
  exact printed

theorem OneLine.append {first second : List Char} (oneLine : OneLine first)
    (alsoSecond : OneLine second) : OneLine (first ++ second) :=
  List.forall_mem_append.mpr ⟨oneLine, alsoSecond⟩

theorem OneLine.intercalate {parts : List (List Char)} (oneLine : ∀ part ∈ parts, OneLine part) :
    OneLine (itemGap.intercalate parts) := by
  have gap : OneLine itemGap := by decide
  induction parts with
  | nil => exact fun _ member => absurd member List.not_mem_nil
  | cons first others inductionHypothesis =>
      obtain ⟨firstOnLine, othersOnLine⟩ := List.forall_mem_cons.mp oneLine
      cases others with
      | nil => simpa using firstOnLine
      | cons second further =>
          rw [List.intercalate_cons_cons]
          exact (firstOnLine.append gap).append (inductionHypothesis othersOnLine)

theorem oneLine_of_scalar {text : List Char}
    (scalar : ∀ character ∈ text, isScalarCharacter character = true) : OneLine text := by
  have controls : ∀ code < 32, isScalarCharacter (Char.ofNat code) = false := by decide
  intro character member
  by_contra isControl
  have notScalar := controls character.toNat (Nat.not_le.mp isControl)
  rw [Char.ofNat_toNat, scalar character member] at notScalar
  cases notScalar

theorem oneLine_quotedCharacter (character : Char) : OneLine (quotedCharacter false character) := by
  have letters : OneLine (letterEscapes.map Prod.fst) := by decide
  have controls : ∀ code < 32, OneLine (unitEscape code) := by decide
  have backslash : OneLine ['\\'] := by decide
  rcases quotedCharacter_cases character with
    ⟨letter, isEscape, isWritten⟩ | ⟨control, isWritten⟩ | ⟨printed, _, _, isWritten⟩
  · have isLetter := List.mem_map_of_mem (f := Prod.fst) isEscape
    rw [isWritten]
    exact backslash.append (oneLine_mark (letters letter isLetter))
  · rw [isWritten]
    exact controls character.toNat control
  · rw [isWritten]
    exact oneLine_mark printed

theorem oneLine_quote (text : List Char) : OneLine (text.flatMap (quotedCharacter false)) := by
  intro character member
  obtain ⟨source, _, inQuoted⟩ := List.mem_flatMap.mp member
  exact oneLine_quotedCharacter source character inQuoted

/-- With members in order, every value is written on one line. -/
theorem oneLine_writeAt (value : Json) (level : Nat) :
    OneLine (writeAt sortedLayout level value).toList := by
  induction value using treeInduction generalizing level with
  | null => exact oneLine_of_scalar fun _ member => isScalarCharacter_of_mem_null member
  | bool value => exact oneLine_of_scalar fun _ member => isScalarCharacter_of_mem_bool member
  | int value => exact oneLine_of_scalar fun _ member => isScalarCharacter_of_mem_int member
  | real number => exact oneLine_of_scalar fun _ member => isScalarCharacter_of_mem_number member
  | text value =>
      rw [writeAt, toList_quote]
      exact (oneLine_mark (by decide)).append
        ((oneLine_quote value.toList).append (oneLine_mark (by decide)))
  | array items inductionHypothesis =>
      rw [toList_writeAt_array]
      refine (oneLine_mark (by decide)).append (OneLine.append ?_ (oneLine_mark (by decide)))
      refine OneLine.intercalate fun part isPart => ?_
      obtain ⟨item, member, rfl⟩ := List.mem_map.mp isPart
      exact inductionHypothesis item member (level + 1)
  | object members inductionHypothesis =>
      rw [toList_writeAt_object]
      refine (oneLine_mark (by decide)).append (OneLine.append ?_ (oneLine_mark (by decide)))
      refine OneLine.intercalate fun part isPart => ?_
      obtain ⟨⟨name, value⟩, inOrder, rfl⟩ := List.mem_map.mp isPart
      have member := (perm_sortByName members).mem_iff.mp inOrder
      have written := inductionHypothesis name value member (level + 1)
      have gap : OneLine ['"', ':', ' '] := by decide
      rw [toList_member]
      exact (oneLine_mark (by decide)).append ((oneLine_quote name.toList).append (gap.append written))

end StaticSite.Json
