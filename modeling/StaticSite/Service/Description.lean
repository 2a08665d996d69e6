import StaticSite.Json.Basic
import StaticSite.Request.Website

/-!
Contract: the description of the service that the service gives of itself.

Owns:
- the operations of the service with their parameters, bodies and responses;
- the shapes of the data that they take and give.

Does not own: what the operations do (see `StaticSite.Service.Handler`).
-/

namespace StaticSite.Service

/-! ## Shapes of data -/

def shapeNamed (name : String) : Json :=
  .object [("$ref", .text ("#/components/schemas/" ++ name))]

/-- A shape of a type, with further members. -/
def shapeOfType (type title : String) (members : Json.Members) : Json :=
  .object ([("type", .text type), ("title", .text title)] ++ members)

def optionalTextShape (title : String) (members : Json.Members) : Json :=
  .object
    ([ ("anyOf", .array
        [.object [("type", .text "string")], .object [("type", .text "null")]]),
      ("title", .text title) ] ++ members)

/-- The shape of an object with the given members, some of which are required. -/
def objectShape (title : String) (description : Option String) (required : List String)
    (properties : Json.Members) : Json :=
  .object
    ([ ("type", .text "object"),
      ("title", .text title),
      ("properties", .object properties) ] ++
      (description.map fun text => ("description", Json.text text)).toList ++
      (if required.isEmpty then [] else [("required", .array (required.map .text))]))

def idLimits : Json.Members :=
  [("minLength", .int 1), ("maxLength", .int Request.idLimit)]

def pageShape : Json :=
  objectShape "PageIn"
    (some "One page of a website. `content` is the serialized component tree.") ["id"]
    [ ("id", shapeOfType "string" "Id" idLimits),
      ("name", optionalTextShape "Name" []),
      ("slug", optionalTextShape "Slug" []),
      ("content", shapeOfType "string" "Content" [("default", .text "")]),
      ("metaTitle", optionalTextShape "Metatitle" []),
      ("metaDescription", optionalTextShape "Metadescription" []),
      ("metaKeywords", optionalTextShape "Metakeywords" []) ]

def websiteShape : Json :=
  objectShape "WebsiteIn"
    (some "What the client sends to compile, preview or publish a site.") ["id"]
    [ ("id", shapeOfType "string" "Id"
        (idLimits ++ [("pattern", .text Request.websiteIdPattern)])),
      ("name", optionalTextShape "Name" []),
      ("description", optionalTextShape "Description" []),
      ("language", optionalTextShape "Language" [("default", .text "en")]),
      ("theme", shapeOfType "string" "Theme" [("default", .text "light")]),
      ("pages", shapeOfType "array" "Pages"
        [("items", shapeNamed "PageIn"), ("maxItems", .int Request.pageLimit)]) ]

def reportShape : Json :=
  objectShape "PublishResponse" (some "What the publish endpoint returns.")
    ["website_id", "url", "files"]
    [ ("website_id", shapeOfType "string" "Website Id" []),
      ("url", shapeOfType "string" "Url" []),
      ("files", shapeOfType "array" "Files"
        [("items", .object [("type", .text "string")])]),
      ("warnings", shapeOfType "integer" "Warnings" [("default", .int 0)]) ]

def violationShape : Json :=
  objectShape "ValidationError" none ["loc", "msg", "type"]
    [ ("loc", shapeOfType "array" "Location"
        [ ("items", .object
            [ ("anyOf", .array
                [ .object [("type", .text "string")],
                  .object [("type", .text "integer")] ]) ]) ]),
      ("msg", shapeOfType "string" "Message" []),
      ("type", shapeOfType "string" "Error Type" []),
      ("input", .object [("title", .text "Input")]),
      ("ctx", shapeOfType "object" "Context" []) ]

/-- The shape of the response to an unusable body. -/
def violationsShape : Json :=
  objectShape "HTTPValidationError" none []
    [("detail", shapeOfType "array" "Detail" [("items", shapeNamed "ValidationError")])]

/-! ## Operations -/

def contentOf (contentType : String) (shape : Json) : String × Json :=
  ("content", .object [(contentType, .object [("schema", shape)])])

/-- Responses to the status 200, and to unusable input where there can be any. -/
def responsesOf (checksInput : Bool) (contentType : String) (shape : Json) :
    String × Json :=
  ("responses", .object
    (("200", .object
        [("description", .text "Successful Response"), contentOf contentType shape]) ::
      (if checksInput then
        [ ("422", .object
            [ ("description", .text "Validation Error"),
              contentOf "application/json" (shapeNamed "HTTPValidationError") ]) ]
      else [])))

/-- What an operation is called, and what it does. -/
def operationNamed (id summary description : String) : Json.Members :=
  [ ("summary", .text summary),
    ("description", .text description),
    ("operationId", .text id) ]

def siteMark : String × Json :=
  ("tags", .array [.text "sites"])

def parameter (name place title : String) (default : Option String) : Json :=
  .object
    [ ("name", .text name),
      ("in", .text place),
      ("required", .bool default.isNone),
      ("schema", shapeOfType "string" title
        (default.map fun text => ("default", Json.text text)).toList) ]

/-- The body that operations on submitted websites take. -/
def websiteBody : String × Json :=
  ("requestBody", .object
    [contentOf "application/json" (shapeNamed "WebsiteIn"), ("required", .bool true)])

def compileOperation : Json :=
  .object
    (siteMark :: operationNamed "compile_site_route_api_sites_compile_post"
      "Compile Site Route" "Compile a website and return every generated artifact as JSON." ++
      [websiteBody, responsesOf true "application/json" (.object [])])

def previewOperation : Json :=
  .object
    (siteMark :: operationNamed "preview_page_api_sites_preview_post" "Preview Page"
      ("Compile a website and return the HTML document of one page.\n\n" ++
        "404 if no page of the site has that path.") ++
      [ ("parameters", .array [parameter "path" "query" "Path" (some "/")]),
        websiteBody,
        responsesOf true "text/html" (.object [("type", .text "string")]) ])

def publishOperation : Json :=
  .object
    (siteMark :: operationNamed "publish_site_api_sites_publish_post" "Publish Site"
      "Compile a website and upload every file to the published bucket." ++
      [websiteBody, responsesOf true "application/json" (shapeNamed "PublishResponse")])

def serveOperation : Json :=
  .object
    (siteMark :: operationNamed "serve_published_file_sites__website_id___path__get"
      "Serve Published File"
      ("Serve one file of a published site.\n\n" ++
        "In production, this is served directly from R2/CDN.\n" ++
        "This route exists for local development.\n\n" ++
        "Cache headers:\n" ++
        "- Cache-Control: public, 5-min browser TTL, 1-hour CDN TTL, " ++
        "24h stale-while-revalidate\n" ++
        "- ETag: MD5 of the file content for conditional requests") ++
      [ ("parameters", .array
          [ parameter "website_id" "path" "Website Id" none,
            parameter "path" "path" "Path" none ]),
        responsesOf true "application/json" (.object []) ])

def healthOperation : Json :=
  .object
    (operationNamed "health_health_get" "Health"
      "Health check endpoint for uptime monitoring." ++
      [responsesOf false "application/json" (.object [])])

def describedPaths : Json :=
  .object
    [ ("/api/sites/compile", .object [("post", compileOperation)]),
      ("/api/sites/preview", .object [("post", previewOperation)]),
      ("/api/sites/publish", .object [("post", publishOperation)]),
      ("/sites/\x7bwebsite_id\x7d/\x7bpath\x7d", .object [("get", serveOperation)]),
      ("/health", .object [("get", healthOperation)]) ]

def describedShapes : Json :=
  .object
    [ ("HTTPValidationError", violationsShape),
      ("PageIn", pageShape),
      ("PublishResponse", reportShape),
      ("ValidationError", violationShape),
      ("WebsiteIn", websiteShape) ]

def description : Json :=
  .object
    [ ("openapi", .text "3.1.0"),
      ("info", .object [("title", .text "Site Compiler"), ("version", .text "0.1.0")]),
      ("paths", describedPaths),
      ("components", .object [("schemas", describedShapes)]) ]

end StaticSite.Service
