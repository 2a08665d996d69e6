import StaticSite.Json.Basic

/-!
Contract: what the props of a component are declared to be.

Owns:
- the kinds of fields;
- fields with the key under which they are stored and with their fallback.

Does not own: turning stored values into declared ones (see
`StaticSite.Schema.Coercion`).
-/

namespace StaticSite.Schema

mutual

/-- What the value of a field is: a trimmed text, a safe link, one of some texts, a
number, a truth value, a list of records that have fields of their own, a list of
texts, or links by platform.  A field of kind `fixed` always has its fallback. -/
inductive Kind where
  | text
  | link
  | choice (options : List String)
  | number
  | flag
  | records (fields : List Field)
  | texts
  | linksByPlatform
  | fixed

/-- A field: its name, the key under which its value is stored, its kind, and the
value that stands in for a missing or unusable one. -/
structure Field where
  name : String
  key : String
  kind : Kind
  fallback : Json

end

/-- A declared field.  Whatever list is given as its fallback, the field falls back
on the empty list. -/
def Field.declare (name key : String) (kind : Kind) (fallback : Json) : Field :=
  match fallback with
  | .array _ => ⟨name, key, kind, .array []⟩
  | _ => ⟨name, key, kind, fallback⟩

def textField (name key : String) (fallback : String) : Field :=
  ⟨name, key, .text, .text fallback⟩

def linkField (name key : String) (fallback : String) : Field :=
  ⟨name, key, .link, .text fallback⟩

def choiceField (name key : String) (options : List String) (fallback : String) : Field :=
  ⟨name, key, .choice options, .text fallback⟩

def numberField (name key : String) (fallback : Int) : Field :=
  ⟨name, key, .number, .int fallback⟩

def flagField (name key : String) (fallback : Bool) : Field :=
  ⟨name, key, .flag, .bool fallback⟩

def recordsField (name key : String) (fields : List Field) : Field :=
  ⟨name, key, .records fields, .array []⟩

def textsField (name key : String) : Field :=
  ⟨name, key, .texts, .array []⟩

def linksByPlatformField (name key : String) : Field :=
  ⟨name, key, .linksByPlatform, .array []⟩

end StaticSite.Schema
