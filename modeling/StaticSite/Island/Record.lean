import StaticSite.Json.Basic

/-!
Contract: components that are filled with fresh data in the browser.

Owns:
- records: whether a type is dynamic, where its data come from, how they may be
  cached, and when it is filled;
- the rule that only dynamic types have a source of data;
- tables of records by type, and the built-in one; types that are not listed have the plain record;
- what a page writes down about an island, and its JSON form.

Does not own: which components of a page are islands (see `StaticSite.Page.Compile`).
-/

namespace StaticSite.Island

/-- How far the data of a type may be cached. -/
inductive CacheStrategy where
  | static
  | dynamic
  | hybrid
  deriving DecidableEq

/-- When a component is filled: at once, after the page, or when it is seen. -/
inductive HydrationStrategy where
  | immediate
  | lazy
  | viewport
  deriving DecidableEq

def CacheStrategy.name : CacheStrategy → String
  | .static => "static"
  | .dynamic => "dynamic"
  | .hybrid => "hybrid"

def CacheStrategy.ofName? : String → Option CacheStrategy
  | "static" => some .static
  | "dynamic" => some .dynamic
  | "hybrid" => some .hybrid
  | _ => none

def HydrationStrategy.name : HydrationStrategy → String
  | .immediate => "immediate"
  | .lazy => "lazy"
  | .viewport => "viewport"

def HydrationStrategy.ofName? : String → Option HydrationStrategy
  | "immediate" => some .immediate
  | "lazy" => some .lazy
  | "viewport" => some .viewport
  | _ => none

/-- What is known about a type.  A type that is not dynamic has no source of data. -/
structure Record where
  isDynamic : Bool
  apiEndpoint : Option String
  cacheStrategy : CacheStrategy
  hydrationStrategy : HydrationStrategy
  staticHasNoEndpoint : isDynamic = false → apiEndpoint = none

/-- The record of a type about which nothing is said. -/
def Record.plain : Record :=
  { isDynamic := false
    apiEndpoint := none
    cacheStrategy := .static
    hydrationStrategy := .lazy
    staticHasNoEndpoint := fun _ => rfl }

def Record.dynamic (endpoint : String) (cacheStrategy : CacheStrategy)
    (hydrationStrategy : HydrationStrategy) : Record :=
  { isDynamic := true
    apiEndpoint := some endpoint
    cacheStrategy := cacheStrategy
    hydrationStrategy := hydrationStrategy
    staticHasNoEndpoint := by simp }

/-- Why data do not form a record. -/
inductive RecordError where
  | staticWithEndpoint
  | unknownCacheStrategy (name : String)
  | unknownHydrationStrategy (name : String)
  deriving DecidableEq

def RecordError.message : RecordError → String
  | .staticWithEndpoint => "static component types cannot declare an api_endpoint"
  | .unknownCacheStrategy name => "unknown cache strategy: " ++ name
  | .unknownHydrationStrategy name => "unknown hydration strategy: " ++ name

def Record.make (isDynamic : Bool) (apiEndpoint : Option String)
    (cacheName hydrationName : String) : Except RecordError Record :=
  if consistent : isDynamic = false → apiEndpoint = none then
    match CacheStrategy.ofName? cacheName with
    | none => .error (.unknownCacheStrategy cacheName)
    | some cacheStrategy =>
        match HydrationStrategy.ofName? hydrationName with
        | none => .error (.unknownHydrationStrategy hydrationName)
        | some hydrationStrategy =>
            .ok ⟨isDynamic, apiEndpoint, cacheStrategy, hydrationStrategy, consistent⟩
  else
    .error .staticWithEndpoint

/-! ## Tables -/

/-- Records by type. -/
abbrev Table := List (String × Record)

namespace Table

def builtIn : Table :=
  [ ("ecommerce-product", .dynamic "/api/products" .dynamic .lazy),
    ("ecommerce-cart", .dynamic "/api/cart" .dynamic .immediate),
    ("blog-list", .dynamic "/api/blog/posts" .hybrid .viewport),
    ("newsletter", .dynamic "/api/newsletter" .hybrid .viewport),
    ("testimonials", .dynamic "/api/testimonials" .hybrid .lazy),
    ("stats", .dynamic "/api/stats" .dynamic .lazy),
    ("contact", .dynamic "/api/contact" .static .immediate),
    ("countdown", .dynamic "/api/countdown" .dynamic .immediate) ]

def classify (table : Table) (type : String) : Record :=
  (table.lookup type).getD .plain

def lists (table : Table) (type : String) : Bool :=
  (table.lookup type).isSome

end Table

end StaticSite.Island

namespace StaticSite

/-- One island of a page. -/
structure Island where
  id : String
  type : String
  props : Json.Members
  apiEndpoint : Option String
  cacheStrategy : Island.CacheStrategy
  hydrationStrategy : Island.HydrationStrategy

namespace Island

def optionalText : Option String → Json
  | some value => .text value
  | none => .null

def toJson (island : Island) : Json :=
  .object
    [ ("id", .text island.id),
      ("type", .text island.type),
      ("props", .object island.props),
      ("apiEndpoint", optionalText island.apiEndpoint),
      ("cacheStrategy", .text island.cacheStrategy.name),
      ("hydrationStrategy", .text island.hydrationStrategy.name) ]

def Record.toJson (record : Record) : Json :=
  .object
    [ ("isDynamic", .bool record.isDynamic),
      ("apiEndpoint", optionalText record.apiEndpoint),
      ("cacheStrategy", .text record.cacheStrategy.name),
      ("hydrationStrategy", .text record.hydrationStrategy.name) ]

end Island

end StaticSite
