import StaticSite.Number.Numeral
import StaticSite.Schema.Basic
import StaticSite.Url

/-!
Contract: reading stored values as the declared kinds.

Owns:
- the text, the number and the truth value that a stored value amounts to;
- coercion of one value to a kind and of stored props to a list of fields.

Does not own: which fields a component has.
-/

namespace StaticSite.Schema

/-- Why a value cannot be coerced at all. -/
inductive CoercionError where
  | integerTooLarge
  deriving DecidableEq

def CoercionError.message : CoercionError → String
  | .integerTooLarge => "int too large to convert to float"

/-- The text that a stored value amounts to: texts are trimmed, numbers and truth
values are written out, and anything else is empty.  A double-precision number that
is an integer is written as one. -/
def textOf : Json → String
  | .bool value => if value then "true" else "false"
  | .int value => toString value
  | .real value =>
      match value.toInt? with
      | some whole => toString whole
      | none => value.text
  | .text value => Text.strip value
  | _ => ""

/-- The number that a typed-in text amounts to; an integer if it is one. -/
def numberOfText? (typed : String) : Option Json :=
  match Number.fraction? typed with
  | none => none
  | some value =>
      if value.isFinite then
        match value.toInt? with
        | some whole => some (.int whole)
        | none => some (.real value)
      else
        none

/-- The finite number that a stored value amounts to, if any.  An integer beyond the
range of double precision is an error. -/
def numberOf? : Json → Except CoercionError (Option Json)
  | .int value =>
      if Binary64.overflows value then
        .error .integerTooLarge
      else
        .ok (some (.int value))
  | .real value => .ok (if value.isFinite then some (.real value) else none)
  | .text value => .ok (numberOfText? value)
  | _ => .ok none

/-- A text with its Latin letters in lower case. -/
def lowerLatin (value : String) : String :=
  String.ofList (value.toList.map Char.toLower)

/-- The texts that mean yes. -/
def affirmations : List String := ["true", "1", "yes", "on"]

/-- The texts that mean no. -/
def denials : List String := ["false", "0", "no", "off"]

/-- The truth value that a stored value amounts to, if any. -/
def flagOf? : Json → Option Bool
  | .bool value => some value
  | .int value => some (value != 0)
  | .real value => some (!value.isZero)
  | .text value =>
      let word := lowerLatin (Text.strip value)
      if affirmations.contains word then some true
      else if denials.contains word then some false
      else none
  | _ => none

def textsOf (items : List Json) : List Json :=
  ((items.map textOf).filter (· != "")).map .text

/-- The link of one platform, if it is a text that is not blank. -/
def platformLink? (entry : String × Json) : Option Json :=
  match entry.2 with
  | .text address =>
      if Text.strip address == "" then
        none
      else
        some (.object [("platform", .text entry.1), ("url", .text (Url.safe address))])
  | _ => none

/-- The members of a stored value that is an object; other values have none. -/
def membersOf (stored : Json) : Json.Members :=
  match stored with
  | .object members => members
  | _ => []

/-- The members of the objects among some stored values. -/
def recordsIn (items : List Json) : List Json.Members :=
  items.filterMap fun item =>
    match item with
    | .object members => some members
    | _ => none

mutual

/-- The value of a field for a stored value. -/
def Kind.coerce (fallback stored : Json) : Kind → Except CoercionError Json
  | .text =>
      .ok (if textOf stored == "" then fallback else .text (textOf stored))
  | .link =>
      .ok (if textOf stored == "" then fallback else .text (Url.safe (textOf stored)))
  | .choice options =>
      .ok (match stored with
        | .null => fallback
        | _ => if options.contains (textOf stored) then .text (textOf stored) else fallback)
  | .number => (numberOf? stored).map fun number => number.getD fallback
  | .flag =>
      .ok (match flagOf? stored with
        | some value => .bool value
        | none => fallback)
  | .records fields =>
      match stored with
      | .array items =>
          ((recordsIn items).mapM fun members =>
            (coerceFields members fields).map .object).map .array
      | _ => .ok fallback
  | .texts =>
      .ok (match stored with
        | .array items => .array (textsOf items)
        | _ => fallback)
  | .linksByPlatform =>
      .ok (match stored with
        | .object members => .array (members.filterMap platformLink?)
        | _ => fallback)
  | .fixed => .ok fallback

def Field.coerce (stored : Json.Members) : Field → Except CoercionError (String × Json)
  | ⟨name, key, kind, fallback⟩ =>
      (kind.coerce fallback ((stored.lookup key).getD .null)).map fun value =>
        (name, value)

/-- The values of some fields in stored props, by name and in the declared order. -/
def coerceFields (stored : Json.Members) : List Field → Except CoercionError Json.Members
  | [] => .ok []
  | field :: others =>
      (field.coerce stored).bind fun member =>
        (coerceFields stored others).map (member :: ·)

end

/-- The values of some fields in a stored value, which has no members unless it is
an object. -/
def coerce (fields : List Field) (stored : Json) : Except CoercionError Json.Members :=
  coerceFields (membersOf stored) fields

end StaticSite.Schema
