import StaticSite.Proofs.Emission.Order
import StaticSite.Proofs.Page.Concatenation

/-!
Contract: pages whose content lists members in another order.

Owns:
- the hints and the islands of components that differ in the order of members alone;
- contents that differ in it;
- the law that the order of the members of stored objects does not show in a compiled page, but for
  the platforms of profiles in a team.

Does not own: single components (see `StaticSite.Proofs.Emission.Order`).
-/

namespace StaticSite.Island

open StaticSite.Component

/-! ## Hints -/

theorem trimmedText_eq {stored other : Json} (same : Json.Reorders stored other) :
    trimmedText stored = trimmedText other := by
  cases same with
  | scalar | array | object => rfl

theorem pictureSources_eq {items others : List Json}
    (inside : List.Forall₂ Json.Reorders items others) :
    pictureSources items = pictureSources others := by
  refine Related.filterMap_eq_filterMap (inside.imp fun item other reorders => ?_)
  cases reorders with
  | scalar | array => rfl
  | object distinct otherDistinct inside =>
      exact congrArg some
        (trimmedText_eq (Json.Reorders.member (.object distinct otherDistinct inside) "src"))

section Hints

variable {node other : Node} (reorders : node.Reorders other)

include reorders

theorem preloads_eq : preloads node = preloads other := by
  rw [preloads, preloads, backgroundOf, backgroundOf, fontOf, fontOf, reorders.sameType,
    trimmedText_eq (reorders.prop "backgroundImage"), trimmedText_eq (reorders.prop "fontFamily")]

theorem deferrals_eq : deferrals node = deferrals other := by
  have images := reorders.prop "images"
  rw [deferrals, deferrals, reorders.sameType]
  generalize node.prop "images" = stored at images ⊢
  generalize other.prop "images" = otherStored at images ⊢
  cases images with
  | scalar | object => rfl
  | array inside =>
      dsimp only
      rw [pictureSources_eq inside]

end Hints

/-! ## Islands -/

/-- Whether two islands are the same but for the order in which objects in their props list their
members. -/
structure Reorders (island other : Island) : Prop where
  isIsland : other = { island with props := other.props }
  props : Json.Reorders (.object island.props) (.object other.props)

/-- Such islands have the same JSON form once members are sorted. -/
theorem Reorders.sorted_toJson_eq {island other : Island} (reorders : island.Reorders other) :
    island.toJson.sorted = other.toJson.sorted := by
  have sameProps := reorders.props.sorted_eq
  rw [reorders.isIsland]
  simp only [toJson, Json.sorted, Json.sortedMembers] at sameProps ⊢
  rw [sameProps]

end StaticSite.Island

namespace StaticSite.Page

open StaticSite.Component StaticSite.Emission

/-- Components that differ in the order of members alone are both islands, or both are none. -/
theorem islandOf_reorders (table : Island.Table) {node other : Node}
    (reorders : node.Reorders other) :
    Option.Rel Island.Reorders (islandOf table node) (islandOf table other) := by
  rw [islandOf, islandOf, ← reorders.sameType, ← reorders.sameId]
  split
  · exact .some ⟨rfl, reorders.props⟩
  · exact .none

/-! ## Content -/

/-- Whether two contents are the same but for the order in which objects in the props of components
list their members. -/
structure Content.Reorders (content other : Content) : Prop where
  components : List.Forall₂ Node.Reorders content.components other.components
  sameImage : content.ogImage = other.ogImage

/-- Whether the id and the type of each component that a value lists are no containers. -/
def NamesPlainly (value : Json) : Prop :=
  ∀ members, .object members ∈ listedEntries value → ∀ name ∈ ["id", "type"],
    ((members.lookup name).getD .null).isScalar = true

/-- The platforms of the profiles in each component that a value lists, in the order in which they
are stored (see `platformOrders`). -/
def listedPlatformOrders (value : Json) : List (List (List String)) :=
  (storedNodes (listedEntries value)).map platformOrders

/-- Objects that differ in the order of members alone store the same component, but for the order of
members in its props. -/
theorem ofMembers_reorders {members others : Json.Members}
    (reorders : Json.Reorders (.object members) (.object others))
    (plain : ∀ name ∈ ["id", "type"], ((members.lookup name).getD .null).isScalar = true)
    (index : Nat) :
    (Node.ofMembers members index).id = (Node.ofMembers others index).id ∧
      (Node.ofMembers members index).type = (Node.ofMembers others index).type ∧
      Json.Reorders (.object (Node.ofMembers members index).props)
        (.object (Node.ofMembers others index).props) := by
  have sameId := (reorders.member "id").eq_of_isScalar (plain "id" (by decide))
  have sameType := (reorders.member "type").eq_of_isScalar (plain "type" (by decide))
  refine ⟨?_, ?_, ?_⟩
  · rw [Node.ofMembers, Node.ofMembers, sameId]
  · rw [Node.ofMembers, Node.ofMembers, sameType]
  · have noProps : Json.Reorders (.object []) (.object []) :=
      .object List.nodup_nil List.nodup_nil fun _ => .none
    rw [Node.ofMembers, Node.ofMembers]
    rcases Related.option_cases (reorders.lookup "props") with
      ⟨found, foundOther⟩ | ⟨value, other, found, foundOther, inside⟩
    · rw [found, foundOther]
      exact noProps
    · rw [found, foundOther]
      cases inside with
      | scalar scalar =>
          cases value with
          | object => cases scalar
          | null | bool _ | int _ | real _ | text _ | array _ => exact noProps
      | array => exact noProps
      | object distinct otherDistinct inside => exact .object distinct otherDistinct inside

theorem storedNodes_reorders {items others : List Json}
    (inside : List.Forall₂ Json.Reorders items others)
    (plain : ∀ members, .object members ∈ items → ∀ name ∈ ["id", "type"],
      ((members.lookup name).getD .null).isScalar = true) :
    List.Forall₂ (fun node other : Node => node.id = other.id ∧ node.type = other.type ∧
        Json.Reorders (.object node.props) (.object other.props))
      (storedNodes items) (storedNodes others) := by
  have pairs := (List.forall₂_and_left _ _).mpr ⟨fun _ member => member, inside⟩
  refine List.rel_filterMap ?_ (Related.zipIdx pairs 0)
  rintro ⟨item, index⟩ ⟨other, _⟩ ⟨rfl, member, reorders⟩
  dsimp only at member reorders ⊢
  cases reorders with
  | scalar scalar =>
      cases item with
      | object => cases scalar
      | null | bool _ | int _ | real _ | text _ | array _ => exact .none
  | array => exact .none
  | @object members others distinct otherDistinct inside =>
      exact .some (ofMembers_reorders (.object distinct otherDistinct inside) (plain members member)
        index)

theorem withUniqueIds_reorders {nodes others : List Node}
    (reorders : List.Forall₂ Node.Reorders nodes others) :
    List.Forall₂ Node.Reorders (withUniqueIds nodes) (withUniqueIds others) := by
  have sameIds : nodes.map (·.id) = others.map (·.id) :=
    Related.map_eq_map_iff.mpr (reorders.imp fun _ _ same => same.sameId)
  rw [withUniqueIds, withUniqueIds, sameIds]
  refine Related.zipWith (fun node other id same => ?_) reorders _
  exact ⟨rfl, same.sameType, same.props, same.samePlatforms⟩

theorem ogImageOf_eq {stored other : Option Json} (same : Option.Rel Json.Reorders stored other) :
    ogImageOf stored = ogImageOf other := by
  cases same with
  | none => rfl
  | some inside =>
      cases inside with
      | scalar | array | object => rfl

/-- Whether two outcomes of reading content are the same error, or contents that differ in the order
of members alone. -/
inductive OutcomesReorder :
    Except ContentError Content → Except ContentError Content → Prop where
  | error (error : ContentError) : OutcomesReorder (.error error) (.error error)
  | ok {content other : Content} (reorders : content.Reorders other) :
      OutcomesReorder (.ok content) (.ok other)

theorem contentOfMembers_reorders {members others : Json.Members}
    (reorders : Json.Reorders (.object members) (.object others))
    (plain : NamesPlainly (.object members))
    (samePlatforms : listedPlatformOrders (.object members) = listedPlatformOrders (.object others)) :
    OutcomesReorder (contentOfMembers members) (contentOfMembers others) := by
  have sameImage := ogImageOf_eq (reorders.lookup "ogImage")
  unfold contentOfMembers
  rw [sameImage]
  rcases Related.option_cases (reorders.lookup "components") with
    ⟨found, foundOther⟩ | ⟨value, other, found, foundOther, inside⟩
  · rw [found, foundOther]
    exact .ok ⟨.nil, rfl⟩
  · rw [found, foundOther, Option.getD_some, Option.getD_some]
    cases inside with
    | scalar scalar =>
        cases value with
        | array => cases scalar
        | null | bool _ | int _ | real _ | text _ | object _ => exact .error .componentsNotList
    | object => exact .error .componentsNotList
    | @array items otherItems inside =>
        have areEntries : listedEntries (.object members) = items := by
          simp only [listedEntries, Json.member?, found]
        have areOtherEntries : listedEntries (.object others) = otherItems := by
          simp only [listedEntries, Json.member?, foundOther]
        rw [NamesPlainly, areEntries] at plain
        rw [listedPlatformOrders, listedPlatformOrders, areEntries, areOtherEntries]
          at samePlatforms
        have nodes : List.Forall₂ Node.Reorders (storedNodes items) (storedNodes otherItems) :=
          List.Forall₂.mp (fun _ _ stored platforms => ⟨stored.1, stored.2.1, stored.2.2, platforms⟩)
            (storedNodes_reorders inside plain) (Related.map_eq_map_iff.mp samePlatforms)
        exact .ok ⟨withUniqueIds_reorders nodes, rfl⟩

/-- Values that differ in the order of members alone are unusable for one reason, or hold contents
that differ in it alone. -/
theorem contentOfJson_reorders {value other : Json} (reorders : Json.Reorders value other)
    (plain : NamesPlainly value)
    (samePlatforms : listedPlatformOrders value = listedPlatformOrders other) :
    OutcomesReorder (contentOfJson value) (contentOfJson other) := by
  have sameDepth : value.isDeeperThan depthLimit = other.isDeeperThan depthLimit := by
    rw [Bool.eq_iff_iff, ← not_iff_not, Bool.not_eq_true, Bool.not_eq_true,
      Json.isDeeperThan_eq_false_iff, Json.isDeeperThan_eq_false_iff, reorders.depth_eq]
  unfold contentOfJson
  rw [← sameDepth]
  cases value.isDeeperThan depthLimit with
  | true => exact .error .tooDeep
  | false =>
      cases reorders with
      | scalar scalar =>
          cases value with
          | object => cases scalar
          | null | bool _ | int _ | real _ | text _ | array _ => exact .error .notObject
      | array => exact .error .notObject
      | object distinct otherDistinct inside =>
          exact contentOfMembers_reorders (.object distinct otherDistinct inside) plain
            samePlatforms

/-! ## Compiled pages -/

/-- Whether two compiled pages are the same but for the order in which objects in the props of
islands list their members. -/
structure CompiledPage.Reorders (compiled other : CompiledPage) : Prop where
  isPage : other = { compiled with islands := other.islands }
  islands : List.Forall₂ Island.Reorders compiled.islands other.islands

/-- Islands that differ in the order of members alone are handed to scripts as the same text. -/
theorem settings_eq {islands others : List Island}
    (reorders : List.Forall₂ Island.Reorders islands others) (website : Website)
    (options : Options) : settings website options islands = settings website options others := by
  have sameForms : (Json.array (islands.map Island.toJson)).sorted =
      (Json.array (others.map Island.toJson)).sorted := by
    rw [Json.sorted_array, Json.sorted_array, List.map_map, List.map_map]
    exact congrArg Json.array (Related.map_eq_map_iff.mpr (reorders.imp fun _ _ same =>
      same.sorted_toJson_eq))
  have sameData : inlineData (.array (islands.map Island.toJson)) =
      inlineData (.array (others.map Island.toJson)) := by
    rw [inlineData, inlineData, Json.write_eq_of_sorted_eq sameForms]
  rw [settings, settings, globalSetting, sameData, ← globalSetting]

/-- Whether two parts of pages are the same but for the order of members in the props of the
component. -/
structure Part.Reorders (part other : Part) : Prop where
  node : part.node.Reorders other.node
  sameFragment : part.fragment = other.fragment

theorem partsOf_reorders {options : Options} (ignores : options.emitter.IgnoresOrder)
    {nodes others : List Node} (reorders : List.Forall₂ Node.Reorders nodes others) :
    List.Forall₂ Part.Reorders (partsOf options nodes) (partsOf options others) := by
  rw [partsOf, partsOf, List.forall₂_map_left_iff, List.forall₂_map_right_iff]
  exact reorders.imp fun node other same => ⟨same, emitOrSubstitute_eq ignores same⟩

theorem Part.Reorders.script?_eq {part other : Part} (reorders : part.Reorders other) :
    part.script? = other.script? := by
  have sameFrame : componentScript part.node = componentScript other.node := by
    funext script
    rw [componentScript, componentScript, reorders.node.sameId, reorders.node.sameType]
  rw [Part.script?, Part.script?, reorders.sameFragment, sameFrame]

/-- Contents that differ in the order of members alone compile to pages that differ in it alone. -/
theorem compileContent_reorders {content other : Content} (reorders : content.Reorders other)
    {options : Options} (ignores : options.emitter.IgnoresOrder) (page : Page) (website : Website)
    (warnings : List Warning) :
    (compileContent page website options warnings content).Reorders
      (compileContent page website options warnings other) := by
  have islands : List.Forall₂ Island.Reorders
      (content.components.filterMap (islandOf options.classifier))
      (other.components.filterMap (islandOf options.classifier)) :=
    List.rel_filterMap (fun _ _ same => islandOf_reorders options.classifier same)
      reorders.components
  have parts := partsOf_reorders ignores reorders.components
  have sameBodies : (partsOf options content.components).map (·.fragment.body) =
      (partsOf options other.components).map (·.fragment.body) :=
    Related.map_eq_map_iff.mpr (parts.imp fun _ _ same => by rw [same.sameFragment])
  have sameStyles : styleSheet (partsOf options content.components) =
      styleSheet (partsOf options other.components) := by
    rw [styleSheet, styleSheet,
      Related.map_eq_map_iff.mpr (parts.imp fun _ _ same => by rw [same.sameFragment])]
  have sameScripts : (partsOf options content.components).filterMap Part.script? =
      (partsOf options other.components).filterMap Part.script? :=
    Related.filterMap_eq_filterMap (parts.imp fun _ _ same => same.script?_eq)
  have sameWarnings : partWarnings (partsOf options content.components) =
      partWarnings (partsOf options other.components) :=
    Related.filterMap_eq_filterMap (parts.imp fun _ _ same => by rw [same.sameFragment])
  have samePreloads : content.components.flatMap Island.preloads =
      other.components.flatMap Island.preloads := by
    rw [List.flatMap_def, List.flatMap_def,
      Related.map_eq_map_iff.mpr (reorders.components.imp fun _ _ same =>
        Island.preloads_eq same)]
  have sameDeferrals : content.components.flatMap Island.deferrals =
      other.components.flatMap Island.deferrals := by
    rw [List.flatMap_def, List.flatMap_def,
      Related.map_eq_map_iff.mpr (reorders.components.imp fun _ _ same =>
        Island.deferrals_eq same)]
  refine ⟨?_, islands⟩
  rw [compileContent, compileContent]
  dsimp only
  rw [sameBodies, sameStyles, sameScripts, sameWarnings, samePreloads, sameDeferrals,
    reorders.sameImage, documentRoot, documentRoot, bodyOf, bodyOf, settings_eq islands]

/-- The order of members does not show. Texts that are read as the same data compile, with any page,
website and options, to the same page but for the order in which objects in the props of islands list
their members, as long as no component has a container for its id or its type, the profiles in teams
list their platforms in the same order, and renderers that are not built in ignore the order. -/
theorem member_order_irrelevant (page : Page) (website : Website) (options : Options)
    {first second : String} {value other : Json} (isRead : Json.read first = .ok value)
    (isOtherRead : Json.read second = .ok other) (same : Json.SameData value other)
    (plain : NamesPlainly value)
    (samePlatforms : listedPlatformOrders value = listedPlatformOrders other)
    (ignores : options.emitter.IgnoresOrder) :
    (compile (page.withContent first) website options).Reorders
      (compile (page.withContent second) website options) := by
  have reorders := Json.reorders_of_sameData (Json.isRegular_of_read isRead) same
  have outcomes : OutcomesReorder (readContent (page.withContent first).content)
      (readContent (page.withContent second).content) := by
    rw [Page.withContent, Page.withContent, readContent_of_read isRead,
      readContent_of_read isOtherRead]
    exact contentOfJson_reorders reorders plain samePlatforms
  have others (content : Content) (warnings : List Warning) :
      compileContent (page.withContent second) website options warnings content =
        compileContent (page.withContent first) website options warnings content := rfl
  rw [compile, compile]
  generalize readContent (page.withContent first).content = outcome at outcomes ⊢
  generalize readContent (page.withContent second).content = otherOutcome at outcomes ⊢
  cases outcomes with
  | error error =>
      dsimp only
      rw [others]
      exact compileContent_reorders ⟨.nil, rfl⟩ ignores _ website _
  | ok reorders =>
      dsimp only
      rw [others]
      exact compileContent_reorders reorders ignores _ website _

def teamValue : Json :=
  .object
    [ ("components", .array
        [ .object
            [ ("id", .text "t"), ("type", .text "team"),
              ("props", .object
                [ ("members", .array
                    [ .object
                        [ ("name", .text "A"),
                          ("social", .object [("x", .text "/x"), ("y", .text "/y")]) ] ]) ]) ],
          .object
            [ ("id", .text "s"), ("type", .text "stats"),
              ("props", .object
                [ ("title", .text "S"),
                  ("more", .array [.object [("a", .int 1), ("b", .null)]]) ]) ] ]),
      ("ogImage", .text "/o") ]

/-- The same team and figures in another order of members, but for the platforms. -/
def reorderedTeamValue : Json :=
  .object
    [ ("ogImage", .text "/o"),
      ("components", .array
        [ .object
            [ ("props", .object
                [ ("members", .array
                    [ .object
                        [ ("social", .object [("x", .text "/x"), ("y", .text "/y")]),
                          ("name", .text "A") ] ]) ]),
              ("type", .text "team"), ("id", .text "t") ],
          .object
            [ ("type", .text "stats"),
              ("props", .object
                [ ("more", .array [.object [("b", .null), ("a", .int 1)]]),
                  ("title", .text "S") ]),
              ("id", .text "s") ] ]) ]

/-- The text of a team and figures. -/
def teamContent : String :=
  "\x7b\"components\":[
    \x7b\"id\":\"t\",\"type\":\"team\",\"props\":\x7b\"members\":[
      \x7b\"name\":\"A\",\"social\":\x7b\"x\":\"/x\",\"y\":\"/y\"\x7d\x7d]\x7d\x7d,
    \x7b\"id\":\"s\",\"type\":\"stats\",\"props\":\x7b
      \"title\":\"S\",\"more\":[\x7b\"a\":1,\"b\":null\x7d]\x7d\x7d],
    \"ogImage\":\"/o\"\x7d"

/-- The same with members in another order. -/
def reorderedTeamContent : String :=
  "\x7b\"ogImage\":\"/o\",\"components\":[
    \x7b\"props\":\x7b\"members\":[
      \x7b\"social\":\x7b\"x\":\"/x\",\"y\":\"/y\"\x7d,\"name\":\"A\"\x7d]\x7d,
    \"type\":\"team\",\"id\":\"t\"\x7d,
    \x7b\"type\":\"stats\",\"props\":\x7b
      \"more\":[\x7b\"b\":null,\"a\":1\x7d],\"title\":\"S\"\x7d,\"id\":\"s\"\x7d]\x7d"

set_option maxRecDepth 4000 in
theorem read_teamContent : Json.read teamContent = .ok teamValue := by
  refine (Json.read_ofList _).trans ?_
  with_unfolding_all rfl

set_option maxRecDepth 4000 in
theorem read_reorderedTeamContent : Json.read reorderedTeamContent = .ok reorderedTeamValue := by
  refine (Json.read_ofList _).trans ?_
  with_unfolding_all rfl

theorem sameData_teamValue : Json.SameData teamValue reorderedTeamValue := by
  simp [teamValue, reorderedTeamValue, Json.SameData, Json.SameItems, Json.SameMembers,
    List.lookup_cons]

theorem namesPlainly_teamValue : NamesPlainly teamValue := by
  intro members listed
  change Json.object members ∈ [_, _] at listed
  rcases List.mem_pair.mp listed with same | same
  · rw [Json.object.inj same]
    decide
  · rw [Json.object.inj same]
    decide

/-- A team and figures, stored with members in two orders, compile to one page. -/
theorem member_order_irrelevant_team :
    (compile (statsPage.withContent teamContent) statsWebsite {}).Reorders
      (compile (statsPage.withContent reorderedTeamContent) statsWebsite {}) := by
  exact member_order_irrelevant statsPage statsWebsite {} read_teamContent read_reorderedTeamContent
    sameData_teamValue namesPlainly_teamValue rfl ignoresOrder_builtIn

end StaticSite.Page
