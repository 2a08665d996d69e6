import StaticSite.Json.Basic

/-!
Contract: values without some of their members.

Owns:
- leaving out the members with certain names, at every depth.  What stays keeps its
  order.

Does not own: which names are left out (see `StaticSite.Service.Submission`).
-/

namespace StaticSite.Json

mutual

/-- A value without the members whose names are omitted, at every depth. -/
def without (omitted : String → Bool) : Json → Json
  | array items => array (itemsWithout omitted items)
  | object members => object (membersWithout omitted members)
  | value => value

/-- Some values, each without the members whose names are omitted. -/
def itemsWithout (omitted : String → Bool) : List Json → List Json
  | [] => []
  | item :: others => item.without omitted :: itemsWithout omitted others

/-- The members whose names are not omitted, each without such members inside. -/
def membersWithout (omitted : String → Bool) : List (String × Json) → List (String × Json)
  | [] => []
  | (name, value) :: others =>
      if omitted name then membersWithout omitted others
      else (name, value.without omitted) :: membersWithout omitted others

end

end StaticSite.Json
