import Atomwall.Http.Message

/-!
`globe_server.cpp`: the public listener of the globe. What it serves, the files under the static
directory and the newest events, is given.
-/

namespace Atomwall.Globe

open Http ByteString

def kEmbedScriptFile : String := "/globe-embed.js"
def kVendorPrefix : String := "/vendor/"
def kSnapshotPrefix : String := "/globe/snapshot"
def kStreamTarget : String := "/globe/stream"

/-- What a request finds: the file a target resolves to below the static directory, what is in a file
and its type, and the JSON object of a snapshot. -/
structure Sources where
  resolveStaticPath : String → Option String
  contents : String → String
  mimeTypeFor : String → String
  snapshot : (target : String) → JsonObject

inductive Body where
  | json (value : Json)
  | file (contents : String)

structure Response where
  status : Nat
  version : Nat
  fields : Fields
  body : Body

def addCorsHeader (res : Response) : Response :=
  { res with fields := res.fields.set "Access-Control-Allow-Origin" "*" }

def ofJson (res : Http.Response) : Response := ⟨res.status, res.version, res.fields, .json res.body⟩

def fileResponse (contents mimeType : String) (version : Nat) : Response where
  status := 200
  version := version
  fields := [("Server", "atomwall-globe"), ("Content-Type", mimeType),
    ("X-Content-Type-Options", "nosniff")]
  body := .file contents

variable (sources : Sources)

def handleEmbedScript (version : Nat) : Response :=
  match sources.resolveStaticPath kEmbedScriptFile with
  | none => addCorsHeader (ofJson (errorResponse 404 "globe embed script not found" version))
  | some path =>
    addCorsHeader (fileResponse (sources.contents path) "text/javascript; charset=utf-8" version)

def handleVendorAsset (target : String) (version : Nat) : Response :=
  match sources.resolveStaticPath target with
  | none => addCorsHeader (ofJson (errorResponse 404 "not found" version))
  | some path => addCorsHeader (fileResponse (sources.contents path) (sources.mimeTypeFor path) version)

def handleSnapshot (target : String) (version : Nat) : Response :=
  addCorsHeader (ofJson (jsonResponse 200 (.object (sources.snapshot target)) version))

def route (request : Request) : Response :=
  let target := request.target
  let version := request.version
  if request.method ≠ .get then
    addCorsHeader (ofJson (errorResponse 405 "method not allowed" version))
  else if target = "/globe.js" then handleEmbedScript sources version
  else if startsWith target kVendorPrefix then handleVendorAsset sources target version
  else if startsWith target kSnapshotPrefix then handleSnapshot sources target version
  else addCorsHeader (ofJson (errorResponse 404 "not found" version))

end Atomwall.Globe
