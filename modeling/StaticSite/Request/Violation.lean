import StaticSite.Json.Basic

/-!
Contract: what can be wrong with submitted data.

Owns:
- violations with their place, cause and subject, and their wording;
- checks that collect the violations of all their parts.

Does not own: the rules for particular data (see `StaticSite.Request.Website`).
-/

namespace StaticSite.Request

/-- A step from a value to a part of it. -/
inductive Step where
  | member (name : String)
  | item (position : Nat)
  deriving DecidableEq

/-- What is wrong with a value.  A `notObject` names the kind of object that was
expected; `notFields` says the same of a value that came as the body of a request. -/
inductive Cause where
  | missing
  | notText
  | tooShort (least : Nat)
  | tooLong (most : Nat)
  | unmatched (pattern : String)
  | notList
  | tooManyItems (most actual : Nat)
  | notObject (kind : String)
  | notFields
  | malformed
  deriving DecidableEq

/-- A violation: where it is, what it is, and the value it is about. -/
structure Violation where
  location : List Step
  cause : Cause
  subject : Json

def Cause.name : Cause → String
  | missing => "missing"
  | notText => "string_type"
  | tooShort _ => "string_too_short"
  | tooLong _ => "string_too_long"
  | unmatched _ => "string_pattern_mismatch"
  | notList => "list_type"
  | tooManyItems _ _ => "too_long"
  | notObject _ => "model_type"
  | notFields => "model_attributes_type"
  | malformed => "json_invalid"

/-- A number of things, with the ending of the plural unless it is one. -/
def counted (count : Nat) (noun : String) : String :=
  toString count ++ " " ++ noun ++ (if count == 1 then "" else "s")

def Cause.message : Cause → String
  | missing => "Field required"
  | notText => "Input should be a valid string"
  | tooShort least => "String should have at least " ++ counted least "character"
  | tooLong most => "String should have at most " ++ counted most "character"
  | unmatched pattern => "String should match pattern '" ++ pattern ++ "'"
  | notList => "Input should be a valid list"
  | tooManyItems most actual =>
      "List should have at most " ++ counted most "item" ++ " after validation, not " ++
        toString actual
  | notObject kind => "Input should be a valid dictionary or instance of " ++ kind
  | notFields => "Input should be a valid dictionary or object to extract fields from"
  | malformed => "JSON decode error"

/-- A violation seen from a value whose part it is in. -/
def Violation.within (step : Step) (violation : Violation) : Violation :=
  { violation with location := step :: violation.location }

def Step.toJson : Step → Json
  | member name => .text name
  | item position => .int position

/-- The JSON form of a violation, without its subject. -/
def Violation.toMembers (violation : Violation) : Json.Members :=
  [ ("type", .text violation.cause.name),
    ("loc", .array (violation.location.map Step.toJson)),
    ("msg", .text violation.cause.message) ]

/-! ## Checks -/

/-- The outcome of a check. -/
inductive Checked (Value : Type) where
  | accepted (value : Value)
  | rejected (violations : List Violation)

namespace Checked

variable {Value Result : Type}

/-- A check of two parts: the violations of both count. -/
def apply : Checked (Value → Result) → Checked Value → Checked Result
  | accepted function, accepted value => accepted (function value)
  | accepted _, rejected violations => rejected violations
  | rejected violations, accepted _ => rejected violations
  | rejected first, rejected second => rejected (first ++ second)

instance : Applicative Checked where
  pure := accepted
  seq function value := apply function (value ())

def reject (cause : Cause) (subject : Json) : Checked Value :=
  rejected [⟨[], cause, subject⟩]

/-- A check of a part, seen from the whole. -/
def within (step : Step) : Checked Value → Checked Value
  | accepted value => accepted value
  | rejected violations => rejected (violations.map (Violation.within step))

/-- A check of all items of a list from a position on. -/
def items (check : Json → Checked Value) (position : Nat) : List Json → Checked (List Value)
  | [] => accepted []
  | item :: others =>
      pure List.cons
        <*> (check item).within (.item position)
        <*> items check (position + 1) others

end Checked

end StaticSite.Request
