import StaticSite.Association
import StaticSite.Component.Node
import StaticSite.Json.Depth
import StaticSite.Json.Reader
import StaticSite.Url

/-!
Contract: the content of a page as its store keeps it.

Owns:
- what content is: components in order, and an image for previews;
- the ways in which stored content can be unusable;
- ids that are unique on a page: the count of uses that is kept for every id handed
  out, and the suffix that a repeated id gets;
- reading content.

Does not own: what the components look like, or which characters an id has (see
`StaticSite.Component.Node`).
-/

namespace StaticSite.Page

open StaticSite.Component

/-- The content of a page. -/
structure Content where
  components : List Node
  ogImage : Option String

/-- Why stored content is unusable. -/
inductive ContentError where
  | notJson (source : String) (error : Json.ReadError)
  | tooDeep
  | notObject
  | componentsNotList

/-- How deep content may be nested. -/
def depthLimit : Nat := 64

def ContentError.message : ContentError → String
  | .notJson source error => "page content is not valid JSON: " ++ error.message source
  | .tooDeep =>
      "page content is nested deeper than " ++ toString depthLimit ++ " levels"
  | .notObject => "page content must be a JSON object"
  | .componentsNotList => "page content 'components' must be a list"

def Content.empty : Content :=
  ⟨[], none⟩

/-! ## Ids -/

/-- How often each id has been asked for, by the ids handed out so far. -/
abbrev UsedIds := List (String × Nat)

def suffixed (id : String) (count : Nat) : String :=
  id ++ "-" ++ toString count

def isUsed (used : UsedIds) (id : String) : Bool :=
  (used.lookup id).isSome

/-- The first number from `count` on that makes an unused id.  There are at most as
many used ids as the fuel says, so that one of the numbers tried is free. -/
def freeCount (used : UsedIds) (id : String) : Nat → Nat → Nat
  | 0, count => count
  | fuel + 1, count =>
      if isUsed used (suffixed id count) then freeCount used id fuel (count + 1) else count

/-- Hands out an id: the wanted one if it is asked for the first time, otherwise the
wanted one with a number.  The result also holds the ids used from then on. -/
def uniqueId (used : UsedIds) (wanted : String) : String × UsedIds :=
  let count := (used.lookup wanted).getD 0 + 1
  let counted := Association.bind wanted count used
  if count = 1 then
    (wanted, counted)
  else
    let id := suffixed wanted (freeCount counted wanted counted.length count)
    (id, Association.bind id 1 counted)

/-- Hands out ids for a list of wanted ones, in order. -/
def uniqueIds (used : UsedIds) : List String → List String
  | [] => []
  | wanted :: others =>
      let (id, usedNow) := uniqueId used wanted
      id :: uniqueIds usedNow others

/-! ## Reading -/

/-- The components that a list of stored values holds, with their ids as they are
stored.  Values that are no objects are skipped, but count for the position. -/
def storedNodes (items : List Json) : List Node :=
  items.zipIdx.filterMap fun entry =>
    match entry.1 with
    | .object members => some (Node.ofMembers members entry.2)
    | _ => none

/-- Components with unique ids in the places of their own. -/
def withUniqueIds (nodes : List Node) : List Node :=
  List.zipWith (fun node id => { node with id := id }) nodes
    (uniqueIds [] (nodes.map (·.id)))

def ogImageOf (stored : Option Json) : Option String :=
  match stored with
  | some (.text address) =>
      if Text.strip address == "" then none else some (Url.safe address)
  | _ => none

def contentOfMembers (members : Json.Members) : Except ContentError Content :=
  match (members.lookup "components").getD (.array []) with
  | .array items =>
      .ok
        { components := withUniqueIds (storedNodes items)
          ogImage := ogImageOf (members.lookup "ogImage") }
  | _ => .error .componentsNotList

def contentOfJson (value : Json) : Except ContentError Content :=
  if value.isDeeperThan depthLimit then
    .error .tooDeep
  else
    match value with
    | .object members => contentOfMembers members
    | _ => .error .notObject

/-- Reads stored content.  Nothing and blank text are the empty page. -/
def readContent [Text.Halves] (stored : Option String) : Except ContentError Content :=
  match stored with
  | none => .ok .empty
  | some source =>
      if Text.strip source == "" then
        .ok .empty
      else
        match Json.read source with
        | .error error => .error (.notJson source error)
        | .ok value => contentOfJson value

end StaticSite.Page
