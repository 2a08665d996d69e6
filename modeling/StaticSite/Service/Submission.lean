import StaticSite.Json.Omission
import StaticSite.Json.Reader
import StaticSite.Request.Website
import StaticSite.Service.Message

/-!
Contract: websites in the bodies of requests.

Owns:
- reading a website from a body;
- the ways in which a body can be unusable, and the responses to them, which repeat
  the values at fault without their internal members.

Does not own: the rules for websites (see `StaticSite.Request.Website`).
-/

namespace StaticSite.Service

open StaticSite.Request

/-- Why a body holds no website. -/
inductive Unusable where
  | invalid (violations : List Violation)
  | unreadable

/-- A cause as it is worded for the body of a request. -/
def causeInBody : Cause → Cause
  | .notObject _ => .notFields
  | cause => cause

/-- A violation as it is listed for the body of a request. -/
def violationInBody (violation : Violation) : Violation :=
  { violation with cause := causeInBody violation.cause }.within (.member "body")

def missingBody : Violation :=
  ⟨[.member "body"], .missing, .null⟩

/-- The violation of a body that is no JSON from an offset on. -/
def malformedBody (offset : Nat) : Violation :=
  ⟨[.member "body", .item offset], .malformed, .object []⟩

/-- A body without the mark that texts of its encoding may begin with. -/
def withoutMark (body : String) : String :=
  match body.toList with
  | '\uFEFF' :: rest => String.ofList rest
  | _ => body

/-- The text of a body: without its mark in UTF-8, or read anew in the encoding that its
first bytes show, where the bytes of wide units must be complete. -/
def bodyText? [Text.Halves] (body : String) : Option String :=
  match Text.Encoding.ofBytes (Text.utf8Bytes body) with
  | .utf8 => some (withoutMark body)
  | .utf16 order => Text.ofUtf16? order (Text.utf8Bytes body)
  | .utf32 order => Text.ofUtf32? order (Text.utf8Bytes body)

def websiteOfText [Text.Halves] (source : String) : Except Unusable Website :=
  match Json.read source with
  | .error (.fault _ offset) => .error (.invalid [malformedBody offset])
  | .error _ => .error .unreadable
  | .ok value =>
      match checkWebsite value with
      | .accepted website => .ok website
      | .rejected violations => .error (.invalid (violations.map violationInBody))

def submittedWebsite [Text.Halves] (request : Request) : Except Unusable Website :=
  match Text.nonempty? request.body with
  | none => .error (.invalid [missingBody])
  | some body =>
      match bodyText? body with
      | some source => websiteOfText source
      | none => .error .unreadable

/-- Whether a member is internal by its name, so that no response repeats it. -/
def isInternal (name : String) : Bool :=
  "_sa".toList.isPrefixOf name.toList

/-- The JSON form of a violation, with its subject as far as it may be repeated. -/
def violationJson (violation : Violation) : Json :=
  .object (violation.toMembers ++ [("input", violation.subject.without isInternal)])

def Unusable.respond : Unusable → Outcome
  | invalid violations =>
      respondJson 422 (.object [("detail", .array (violations.map violationJson))])
  | unreadable => respondDetail 400 "There was an error parsing the body"

end StaticSite.Service
