import StaticSite.Component.Catalogue
import StaticSite.Proofs.Association
import StaticSite.Proofs.Schema.Coerced

/-!
Contract: the values that types of components derive from the declared ones.

Owns:
- changes of the records of one list, each with its position, and what look-up finds after them;
- the law that the types derive nothing else, and the names under which they do;
- the law that all their fields have plain fallbacks.

Does not own: what becomes of the derived values in markup.
-/

namespace StaticSite.Component

/-! ## Changes of records -/

/-- An item with a change applied to its members if it is a record. -/
def changeRecord (change : Json.Members → Json.Members) : Json → Json
  | .object members => .object (change members)
  | other => other

/-- Items with a change applied to the records among them, which may depend on the position. -/
def changeRecords (change : Nat → Json.Members → Json.Members) (items : List Json) : List Json :=
  items.zipIdx.map fun entry => changeRecord (change entry.2) entry.1

/-- Values with the items of one list changed. -/
def changeList (list : String) (change : List Json → List Json) (values : Json.Members) :
    Json.Members :=
  match values.lookup list with
  | some (.array items) => Association.bind list (.array (change items)) values
  | _ => values

/-- A record with its position, whether it is the first, and its side. -/
def addPosition (index : Nat) (record : Json.Members) : Json.Members :=
  Association.bind "side" (.text (if index % 2 = 0 then "left" else "right"))
    (Association.bind "first" (.bool (index == 0))
      (Association.bind "index" (.int index) record))

theorem changeList_cases (list : String) (change : List Json → List Json)
    (values : Json.Members) :
    changeList list change values = values ∨
      ∃ items, values.lookup list = some (.array items) ∧
        changeList list change values = Association.bind list (.array (change items)) values := by
  unfold changeList
  split
  · rename_i items isList
    exact Or.inr ⟨items, isList, rfl⟩
  · exact Or.inl rfl

/-- A value with its items changed if it is a list. -/
def changeItems (change : List Json → List Json) : Json → Json
  | .array items => .array (change items)
  | other => other

theorem lookup_changeList_self (list : String) (change : List Json → List Json)
    (values : Json.Members) :
    (changeList list change values).lookup list = (values.lookup list).map (changeItems change) := by
  unfold changeList
  split
  · rename_i items isList
    rw [Association.lookup_bind_self, isList]
    rfl
  · rename_i noList
    cases found : values.lookup list with
    | none => rfl
    | some value =>
        cases value with
        | array items => exact absurd found (noList items)
        | _ => rfl

theorem lookup_changeList_of_ne {list name : String} (differs : name ≠ list)
    (change : List Json → List Json) (values : Json.Members) :
    (changeList list change values).lookup name = values.lookup name := by
  rcases changeList_cases list change values with same | ⟨items, _, isBound⟩
  · rw [same]
  · rw [isBound, Association.lookup_bind_of_ne differs]

theorem isEmpty_changeList (list : String) (change : List Json → List Json)
    (values : Json.Members) : (changeList list change values).isEmpty = values.isEmpty := by
  rcases changeList_cases list change values with same | ⟨items, isList, isBound⟩
  · rw [same]
  · rw [isBound, Association.isEmpty_bind]
    cases values with
    | nil => cases isList
    | cons _ _ => rfl

theorem positionsIn_eq (list : String) :
    positionsIn list = changeList list (changeRecords addPosition) := by
  have sameItem : withPosition = fun index => changeRecord (addPosition index) := by
    funext index item
    cases item <;> rfl
  have sameItems : withPositions = changeRecords addPosition := by
    funext items
    rw [withPositions, sameItem, changeRecords]
  funext values
  rcases found : values.lookup list with _ | (_ | _ | _ | _ | _ | _ | _) <;>
    simp only [positionsIn, changeList, found, sameItems]

theorem mapRecordsIn_eq (list : String) (change : Json.Members → Json.Members) :
    mapRecordsIn list change = changeList list (changeRecords fun _ => change) := by
  have sameItems : ∀ items : List Json, items.map (fun item => match item with
      | .object members => .object (change members)
      | other => other) = changeRecords (fun _ => change) items := by
    intro items
    have sameItem : (fun entry : Json × Nat => changeRecord change entry.1) =
        changeRecord change ∘ Prod.fst := rfl
    rw [changeRecords, sameItem, ← List.map_map, List.zipIdx_map_fst]
    exact List.map_congr_left fun item _ => by cases item <;> rfl
  funext values
  unfold mapRecordsIn changeList
  generalize values.lookup list = found
  rcases found with _ | (_ | _ | _ | _ | _ | items | _)
  case some.array =>
    exact congrArg (fun changed => Association.bind list (.array changed) values) (sameItems items)
  all_goals rfl

/-! ## The types -/

theorem allAreRegular_of_mem_catalogue :
    ∀ definition ∈ catalogue, Schema.allAreRegular definition.fields = true := by
  decide +kernel

/-- What a type derives: nothing, positions of the items of a list, labels of links, or descriptions
of the pictures of posts. -/
inductive Derives : (Json.Members → Json.Members) → Prop where
  | nothing : Derives id
  | positions {list : String} (isList : list ∈ ["items", "faqs", "images", "tabs", "events"]) :
      Derives (positionsIn list)
  | labels : Derives (mapRecordsIn "links" SocialLinks.withLabel)
  | descriptions : Derives (mapRecordsIn "posts" BlogList.withImageDescription)

/-- The types derive nothing but positions, labels and descriptions. -/
theorem derives_of_mem_catalogue : ∀ definition ∈ catalogue, Derives definition.derive := by
  simp only [catalogue, List.forall_mem_cons, List.not_mem_nil, false_imp_iff, implies_true,
    and_true]
  repeat' apply And.intro
  all_goals first
    | exact .nothing
    | exact .positions (by decide)
    | exact .labels
    | exact .descriptions

/-- The names that are bound in the scope of a template without being declared, and those of the
lists whose items are changed. -/
def derivedNames : List String :=
  ["items", "faqs", "images", "tabs", "events", "links", "posts", "index", "first", "side", "label",
    "image_alt", "component_id"]

end StaticSite.Component
