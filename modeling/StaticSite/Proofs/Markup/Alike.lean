import Mathlib.Data.List.Forall2
import StaticSite.Markup.Template
import StaticSite.Proofs.Json.Data
import StaticSite.Proofs.Markup.Mark

/-!
Contract: templates filled with values that look alike to their sections.

Owns:
- the names of the sections of a template;
- values that are alike under some names, and the law that look-up and entering keep scopes alike;
- the law that a template filled in alike scopes has the same marks.

Does not own: which values of components are alike (see `StaticSite.Proofs.Schema.Agreement`).
-/

namespace StaticSite.Markup

/-! ## Alike values -/

/-- Whether two values look alike to sections with some names: both are lists of pairwise alike
values, or records whose members with these names are alike, or other values that both count as
present or both do not. -/
inductive Alike (names : List String) : Json → Json → Prop where
  | scalar {left right : Json} (leftScalar : left.isScalar = true)
      (rightScalar : right.isScalar = true) (same : left.isTruthy = right.isTruthy) :
      Alike names left right
  | array {items others : List Json} (inside : List.Forall₂ (Alike names) items others) :
      Alike names (.array items) (.array others)
  | object {members others : Json.Members} (same : members.isEmpty = others.isEmpty)
      (unbound : ∀ name ∈ names, members.lookup name = none ↔ others.lookup name = none)
      (bound : ∀ name ∈ names, ∀ value other, members.lookup name = some value →
        others.lookup name = some other → Alike names value other) :
      Alike names (.object members) (.object others)

section Alike

variable {names : List String}

/-- A value that is neither a list nor a record is alike to itself. -/
theorem alike_of_isScalar {value : Json} (scalar : value.isScalar = true) :
    Alike names value value :=
  .scalar scalar scalar rfl

theorem Alike.isTruthy_eq {left right : Json} (alike : Alike names left right) :
    left.isTruthy = right.isTruthy := by
  cases alike with
  | scalar _ _ same => exact same
  | array inside =>
      cases inside with
      | nil => rfl
      | cons _ _ => rfl
  | object same _ _ => rw [Json.isTruthy, Json.isTruthy, same]

abbrev AlikeScopes (names : List String) : Scopes → Scopes → Prop :=
  List.Forall₂ (Alike names)

theorem member?_of_isScalar {value : Json} (scalar : value.isScalar = true) (name : String) :
    Json.member? name value = none := by
  cases value with
  | object members => cases scalar
  | _ => rfl

theorem enter_of_isScalar (scopes : Scopes) {value : Json} (scalar : value.isScalar = true) :
    scopes.enter value = if value.isTruthy then [value :: scopes] else [] := by
  cases value with
  | array items => cases scalar
  | _ => rfl

theorem AlikeScopes.lookup {scopes others : Scopes} (alike : AlikeScopes names scopes others)
    {name : String} (isName : name ∈ names) :
    Alike names (scopes.lookup name) (others.lookup name) := by
  induction alike with
  | nil => exact alike_of_isScalar rfl
  | @cons scope other scopes others first _ inductionHypothesis =>
      have skip : Json.member? name scope = none → Json.member? name other = none →
          Alike names (Scopes.lookup (scope :: scopes) name)
            (Scopes.lookup (other :: others) name) := by
        intro nothing nothingElse
        rw [Scopes.lookup, Scopes.lookup, List.findSome?_cons, List.findSome?_cons, nothing,
          nothingElse]
        exact inductionHypothesis
      cases first with
      | scalar leftScalar rightScalar _ =>
          exact skip (member?_of_isScalar leftScalar name) (member?_of_isScalar rightScalar name)
      | array _ => exact skip rfl rfl
      | @object members more _ unbound bound =>
          cases found : members.lookup name with
          | none => exact skip found ((unbound name isName).mp found)
          | some value =>
              cases foundOther : more.lookup name with
              | none =>
                  rw [(unbound name isName).mpr foundOther] at found
                  cases found
              | some otherValue =>
                  have isFound : Json.member? name (.object members) = some value := found
                  have isFoundOther : Json.member? name (.object more) = some otherValue := foundOther
                  rw [Scopes.lookup, Scopes.lookup, List.findSome?_cons, List.findSome?_cons, isFound,
                    isFoundOther]
                  exact bound name isName value otherValue found foundOther

theorem AlikeScopes.enter {scopes others : Scopes} (alike : AlikeScopes names scopes others)
    {value other : Json} (alikeValue : Alike names value other) :
    List.Forall₂ (AlikeScopes names) (scopes.enter value) (others.enter other) := by
  cases alikeValue with
  | scalar leftScalar rightScalar same =>
      rw [enter_of_isScalar scopes leftScalar, enter_of_isScalar others rightScalar, same]
      split
      · exact .cons (.cons (.scalar leftScalar rightScalar same) alike) .nil
      · exact .nil
  | object same unbound bound =>
      rw [Scopes.enter, Scopes.enter, Json.isTruthy, Json.isTruthy, same]
      · split
        · exact .cons (.cons (.object same unbound bound) alike) .nil
        · exact .nil
      · exact nofun
      · exact nofun
  | array inside =>
      exact List.forall₂_map_left_iff.mpr (List.forall₂_map_right_iff.mpr
        (inside.imp fun _ _ alikeItem => .cons alikeItem alike))

end Alike

/-! ## Names of sections -/

mutual

/-- The names of the sections in a part. -/
def Part.sections : Part → List String
  | .present name parts => name :: sectionsOfParts parts
  | .absent name parts => name :: sectionsOfParts parts
  | _ => []

/-- The names of the sections in some parts. -/
def sectionsOfParts : List Part → List String
  | [] => []
  | part :: others => part.sections ++ sectionsOfParts others

end

mutual

/-- The names of the sections in an attribute template. -/
def AttributeTemplate.sections : AttributeTemplate → List String
  | .valued _ parts => sectionsOfParts parts
  | .bare _ => []
  | .present name attributes => name :: sectionsOfAttributes attributes
  | .absent name attributes => name :: sectionsOfAttributes attributes

/-- The names of the sections in some attribute templates. -/
def sectionsOfAttributes : List AttributeTemplate → List String
  | [] => []
  | first :: others => first.sections ++ sectionsOfAttributes others

end

mutual

/-- The names of the sections in a template. -/
def Template.sections : Template → List String
  | .text part => part.sections
  | .element _ attributes children => sectionsOfAttributes attributes ++ sectionsOf children
  | .void _ attributes => sectionsOfAttributes attributes
  | .block _ attributes children => sectionsOfAttributes attributes ++ sectionsOf children
  | .row children => sectionsOf children
  | .inline name children => name :: sectionsOf children
  | .perItem name children => name :: sectionsOf children

/-- The names of the sections in some templates. -/
def sectionsOf : List Template → List String
  | [] => []
  | first :: others => first.sections ++ sectionsOf others

end

/-! ## Filling in alike scopes -/

section Filling

variable {names : List String}

/-- What is filled once for each of some scopes has the same marks for alike ones. -/
theorem flatMap_flatMap_eq {Item : Type} {marks : Item → List Char} {entered enteredOther : List Scopes}
    (alike : List.Forall₂ (AlikeScopes names) entered enteredOther) {fill : Scopes → List Item}
    (same : ∀ scopes others, AlikeScopes names scopes others →
      (fill scopes).flatMap marks = (fill others).flatMap marks) :
    (entered.flatMap fill).flatMap marks = (enteredOther.flatMap fill).flatMap marks := by
  induction alike with
  | nil => rfl
  | cons first _ inductionHypothesis =>
      rw [List.flatMap_cons, List.flatMap_cons, List.flatMap_append, List.flatMap_append,
        same _ _ first, inductionHypothesis]

/-- A section is filled with the same marks in alike scopes if what depends on it is. -/
theorem flatMap_present_eq {Item : Type} {marks : Item → List Char} {scopes others : Scopes}
    (alike : AlikeScopes names scopes others) {name : String} (isName : name ∈ names)
    {fill : Scopes → List Item}
    (same : ∀ scopes others, AlikeScopes names scopes others →
      (fill scopes).flatMap marks = (fill others).flatMap marks) :
    ((scopes.enter (scopes.lookup name)).flatMap fill).flatMap marks =
      ((others.enter (others.lookup name)).flatMap fill).flatMap marks :=
  flatMap_flatMap_eq (alike.enter (alike.lookup isName)) same

theorem flatMap_absent_eq {Item : Type} {marks : Item → List Char} {scopes others : Scopes}
    (alike : AlikeScopes names scopes others) {name : String} (isName : name ∈ names)
    {filled filledOther : List Item} (same : filled.flatMap marks = filledOther.flatMap marks) :
    (if (scopes.lookup name).isTruthy then [] else filled).flatMap marks =
      (if (others.lookup name).isTruthy then [] else filledOther).flatMap marks := by
  rw [(alike.lookup isName).isTruthy_eq]
  split
  · rfl
  · exact same

mutual

theorem flatMap_marks_fill :
    ∀ (part : Part) (scopes others : Scopes), AlikeScopes names scopes others →
      part.sections ⊆ names →
        (part.fill scopes).flatMap Piece.marks = (part.fill others).flatMap Piece.marks
  | .literal _, _, _, _, _ => rfl
  | .value _, _, _, _, _ => rfl
  | .current, _, _, _, _ => rfl
  | .present name parts, scopes, others, alike, known => by
      obtain ⟨isName, inside⟩ := List.cons_subset.mp known
      rw [Part.fill, Part.fill]
      exact flatMap_present_eq alike isName fun inner innerOther alikeInner =>
        flatMap_marks_fillParts parts inner innerOther alikeInner inside
  | .absent name parts, scopes, others, alike, known => by
      obtain ⟨isName, inside⟩ := List.cons_subset.mp known
      rw [Part.fill, Part.fill]
      exact flatMap_absent_eq alike isName
        (flatMap_marks_fillParts parts scopes others alike inside)

/-- Parts have the same marks in alike scopes. -/
theorem flatMap_marks_fillParts :
    ∀ (parts : List Part) (scopes others : Scopes), AlikeScopes names scopes others →
      sectionsOfParts parts ⊆ names →
        (fillParts scopes parts).flatMap Piece.marks = (fillParts others parts).flatMap Piece.marks
  | [], _, _, _, _ => rfl
  | part :: more, scopes, others, alike, known => by
      obtain ⟨first, later⟩ := List.append_subset.mp known
      rw [fillParts, fillParts, List.flatMap_append, List.flatMap_append,
        flatMap_marks_fill part scopes others alike first,
        flatMap_marks_fillParts more scopes others alike later]

end

mutual

theorem flatMap_marks_fillAttribute :
    ∀ (template : AttributeTemplate) (scopes others : Scopes), AlikeScopes names scopes others →
      template.sections ⊆ names →
        (template.fill scopes).flatMap Attribute.marks =
          (template.fill others).flatMap Attribute.marks
  | .valued name parts, scopes, others, alike, known => by
      rw [AttributeTemplate.fill, AttributeTemplate.fill, List.flatMap_singleton,
        List.flatMap_singleton, Attribute.marks, Attribute.marks,
        flatMap_marks_fillParts parts scopes others alike known]
  | .bare _, _, _, _, _ => rfl
  | .present name attributes, scopes, others, alike, known => by
      obtain ⟨isName, inside⟩ := List.cons_subset.mp known
      rw [AttributeTemplate.fill, AttributeTemplate.fill]
      exact flatMap_present_eq alike isName fun inner innerOther alikeInner =>
        flatMap_marks_fillAttributes attributes inner innerOther alikeInner inside
  | .absent name attributes, scopes, others, alike, known => by
      obtain ⟨isName, inside⟩ := List.cons_subset.mp known
      rw [AttributeTemplate.fill, AttributeTemplate.fill]
      exact flatMap_absent_eq alike isName
        (flatMap_marks_fillAttributes attributes scopes others alike inside)

/-- Attributes have the same marks in alike scopes. -/
theorem flatMap_marks_fillAttributes :
    ∀ (templates : List AttributeTemplate) (scopes others : Scopes),
      AlikeScopes names scopes others → sectionsOfAttributes templates ⊆ names →
        (fillAttributes scopes templates).flatMap Attribute.marks =
          (fillAttributes others templates).flatMap Attribute.marks
  | [], _, _, _, _ => rfl
  | first :: more, scopes, others, alike, known => by
      obtain ⟨knownFirst, later⟩ := List.append_subset.mp known
      rw [fillAttributes, fillAttributes, List.flatMap_append, List.flatMap_append,
        flatMap_marks_fillAttribute first scopes others alike knownFirst,
        flatMap_marks_fillAttributes more scopes others alike later]

end

theorem tagMarks_fillAttributes (tag : String) {templates : List AttributeTemplate}
    {scopes others : Scopes} (alike : AlikeScopes names scopes others)
    (known : sectionsOfAttributes templates ⊆ names) :
    tagMarks tag (fillAttributes scopes templates) =
      tagMarks tag (fillAttributes others templates) := by
  rw [tagMarks, tagMarks, flatMap_marks_fillAttributes templates scopes others alike known]

theorem marksOf_flatMap_enter {scopes others : Scopes} (alike : AlikeScopes names scopes others)
    {name : String} (isName : name ∈ names) {fill : Scopes → List Html}
    (same : ∀ scopes others, AlikeScopes names scopes others →
      Html.marksOf (fill scopes) = Html.marksOf (fill others)) :
    Html.marksOf ((scopes.enter (scopes.lookup name)).flatMap fill) =
      Html.marksOf ((others.enter (others.lookup name)).flatMap fill) := by
  simp only [Html.marksOf_eq_flatMap] at same ⊢
  exact flatMap_present_eq alike isName same

/-- A line of its own for what a template gives. -/
theorem marksOf_line {scopes others : Scopes} {first : Template} {more : List Template}
    (isLine : ∀ scopes, fillLines scopes (first :: more) =
      .row (first.fill scopes) :: fillLines scopes more)
    (same : Html.marksOf (first.fill scopes) = Html.marksOf (first.fill others))
    (rest : Html.marksOf (fillLines scopes more) = Html.marksOf (fillLines others more)) :
    Html.marksOf (fillLines scopes (first :: more)) =
      Html.marksOf (fillLines others (first :: more)) := by
  rw [isLine, isLine, Html.marksOf, Html.marks, Html.marksOf, Html.marks, same, rest]

mutual

/-- A template has the same marks in alike scopes. -/
theorem marksOf_fill :
    ∀ (template : Template) (scopes others : Scopes), AlikeScopes names scopes others →
      template.sections ⊆ names →
        Html.marksOf (template.fill scopes) = Html.marksOf (template.fill others)
  | .text part, scopes, others, alike, known => by
      rw [Template.fill, Template.fill, Html.marksOf_singleton, Html.marksOf_singleton, Html.marks,
        Html.marks, flatMap_marks_fill part scopes others alike known]
  | .element tag attributes children, scopes, others, alike, known => by
      obtain ⟨knownAttributes, inside⟩ := List.append_subset.mp known
      rw [Template.fill, Template.fill, Html.marksOf_singleton, Html.marksOf_singleton, Html.marks,
        Html.marks, tagMarks_fillAttributes tag alike knownAttributes,
        marksOf_fillInline children scopes others alike inside]
  | .void tag attributes, scopes, others, alike, known => by
      rw [Template.fill, Template.fill, Html.marksOf_singleton, Html.marksOf_singleton, Html.marks,
        Html.marks, tagMarks_fillAttributes tag alike known]
  | .block tag attributes children, scopes, others, alike, known => by
      obtain ⟨knownAttributes, inside⟩ := List.append_subset.mp known
      rw [Template.fill, Template.fill, Html.marksOf_singleton, Html.marksOf_singleton, Html.marks,
        Html.marks, tagMarks_fillAttributes tag alike knownAttributes,
        marksOf_fillLines children scopes others alike inside]
  | .row children, scopes, others, alike, known => by
      rw [Template.fill, Template.fill]
      exact marksOf_fillInline children scopes others alike known
  | .inline name children, scopes, others, alike, known => by
      obtain ⟨isName, inside⟩ := List.cons_subset.mp known
      rw [Template.fill, Template.fill]
      exact marksOf_flatMap_enter alike isName fun inner innerOther alikeInner =>
        marksOf_fillInline children inner innerOther alikeInner inside
  | .perItem name children, scopes, others, alike, known => by
      obtain ⟨isName, inside⟩ := List.cons_subset.mp known
      rw [Template.fill, Template.fill]
      exact marksOf_flatMap_enter alike isName fun inner innerOther alikeInner =>
        marksOf_fillInline children inner innerOther alikeInner inside

theorem marksOf_fillInline :
    ∀ (templates : List Template) (scopes others : Scopes), AlikeScopes names scopes others →
      sectionsOf templates ⊆ names →
        Html.marksOf (fillInline scopes templates) = Html.marksOf (fillInline others templates)
  | [], _, _, _, _ => rfl
  | child :: more, scopes, others, alike, known => by
      obtain ⟨knownFirst, later⟩ := List.append_subset.mp known
      rw [fillInline, fillInline, Html.marksOf_append, Html.marksOf_append,
        marksOf_fill child scopes others alike knownFirst,
        marksOf_fillInline more scopes others alike later]

theorem marksOf_fillLines :
    ∀ (templates : List Template) (scopes others : Scopes), AlikeScopes names scopes others →
      sectionsOf templates ⊆ names →
        Html.marksOf (fillLines scopes templates) = Html.marksOf (fillLines others templates)
  | [], _, _, _, _ => rfl
  | first :: more, scopes, others, alike, known => by
      obtain ⟨knownFirst, later⟩ := List.append_subset.mp known
      have rest := marksOf_fillLines more scopes others alike later
      cases first with
      -- Only here the lines are those of the items and not a row for the whole template.
      | perItem name children =>
          obtain ⟨isName, inside⟩ := List.cons_subset.mp knownFirst
          rw [fillLines, fillLines, Html.marksOf_append, Html.marksOf_append, rest,
            marksOf_flatMap_enter alike isName fun inner innerOther alikeInner =>
              marksOf_fillLines children inner innerOther alikeInner inside]
      | text | element | void | block | row | inline =>
          exact marksOf_line (fun _ => rfl) (marksOf_fill _ scopes others alike knownFirst) rest

end

end Filling

end StaticSite.Markup
