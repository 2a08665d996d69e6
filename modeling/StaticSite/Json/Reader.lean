import StaticSite.Association
import StaticSite.Json.Token

/-!
Contract: reading a JSON text as a value.

Owns:
- the machine that consumes tokens, with a stack of open containers;
- the limit on open containers;
- reading of a whole text.

Does not own: tokens (see `StaticSite.Json.Token`) and the wording of errors (see
`StaticSite.Json.ReadError`).
-/

namespace StaticSite.Json

/-- A container whose end has not been read, with what it holds so far in reverse.
An object also holds the name whose value is being read. -/
inductive Frame where
  | array (items : List Json)
  | object (members : Members) (name : String)

/-- What may come next. -/
inductive Expectation where
  | value
  | firstItem
  | firstName
  | name (members : Members)
  | colon (members : Members) (name : String)
  | continuation (value : Json)

/-- A reading in progress, or its result. -/
inductive Reading where
  | open (expectation : Expectation) (frames : List Frame)
  | complete (value : Json)

def beginValue (placed : PlacedToken) (frames : List Frame) : Except ReadError Reading :=
  match placed.token with
  | .quoted value => .ok (.open (.continuation (.text value)) frames)
  | .scalar value => .ok (.open (.continuation value) frames)
  | .openArray =>
      if frames.length < openContainerLimit then
        .ok (.open .firstItem frames)
      else
        .error (.nestedTooDeep .array)
  | .openObject =>
      if frames.length < openContainerLimit then
        .ok (.open .firstName frames)
      else
        .error (.nestedTooDeep .object)
  | .malformedText error => .error error
  | .malformedNumber error => .error error
  | _ => .error (.fault .expectedValue placed.offset)

/-- Reads a token where the name of a member has to stand. -/
def beginMember (placed : PlacedToken) (members : Members) (frames : List Frame) :
    Except ReadError Reading :=
  match placed.token with
  | .quoted name => .ok (.open (.colon members name) frames)
  | .malformedText error => .error error
  | _ => .error (.fault .expectedName placed.offset)

def continueAfter (value : Json) (placed : PlacedToken) :
    List Frame → Except ReadError Reading
  | [] =>
      match placed.token with
      | .finish => .ok (.complete value)
      | _ => .error (.fault .extraData placed.offset)
  | .array items :: outer =>
      match placed.token with
      | .comma => .ok (.open .value (.array (value :: items) :: outer))
      | .closeArray =>
          .ok (.open (.continuation (.array (value :: items).reverse)) outer)
      | _ => .error (.fault .expectedComma placed.offset)
  | .object members name :: outer =>
      match placed.token with
      | .comma => .ok (.open (.name ((name, value) :: members)) outer)
      | .closeObject =>
          .ok (.open (.continuation
            (.object (Association.ofBindings ((name, value) :: members).reverse))) outer)
      | _ => .error (.fault .expectedComma placed.offset)

def Reading.step (placed : PlacedToken) : Reading → Except ReadError Reading
  | .complete _ => .error (.fault .extraData placed.offset)
  | .open expectation frames =>
      match expectation with
      | .value => beginValue placed frames
      | .firstItem =>
          match placed.token with
          | .closeArray => .ok (.open (.continuation (.array [])) frames)
          | _ => beginValue placed (.array [] :: frames)
      | .firstName =>
          match placed.token with
          | .closeObject => .ok (.open (.continuation (.object [])) frames)
          | _ => beginMember placed [] frames
      | .name members => beginMember placed members frames
      | .colon members name =>
          match placed.token with
          | .colon => .ok (.open .value (.object members name :: frames))
          | _ => .error (.fault .expectedColon placed.offset)
      | .continuation value => continueAfter value placed frames

def Reading.run : List PlacedToken → Reading → Except ReadError Json
  | [], .complete value => .ok value
  | [], .open .. => .error (.fault .expectedValue 0)
  | placed :: rest, reading => (reading.step placed).bind (Reading.run rest)

/-- Reads a sequence of characters as one value. -/
def readCharacters [Text.Halves] (source : List Char) : Except ReadError Json :=
  match source with
  | '\ufeff' :: _ => .error (.fault .byteOrderMark 0)
  | _ => Reading.run (tokens source) (.open .value [])

/-- Reads a text as one value. -/
def read [Text.Halves] (source : String) : Except ReadError Json :=
  readCharacters source.toList

end StaticSite.Json
