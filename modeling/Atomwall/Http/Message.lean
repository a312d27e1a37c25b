import Atomwall.Base.ByteString

/-! HTTP messages and JSON values as the handlers see them. -/

namespace Atomwall.Http

open ByteString

/-- The kinds of `boost::json::value`. -/
inductive Json where
  | null
  | bool (value : Bool)
  | int64 (value : Int)
  | uint64 (value : Nat)
  | double (bits : UInt64)
  | string (text : String)
  | array (items : List Json)
  | object (members : List (String × Json))

abbrev JsonObject := List (String × Json)

def JsonObject.find (obj : JsonObject) (key : String) : Option Json :=
  (obj.find? fun member => member.1 == key).map Prod.snd

def jsonStringField (obj : JsonObject) (key : String) : Option String :=
  match obj.find key with
  | some (.string text) => some text
  | _ => none

def jsonObjectField (obj : JsonObject) (key : String) : Option JsonObject :=
  match obj.find key with
  | some (.object members) => some members
  | _ => none

/-- The verbs the code compares with, and every other. -/
inductive Verb where
  | get | head | post | put | delete | other
  deriving DecidableEq, Repr

def verbOf (method : String) : Verb :=
  if method = "GET" then .get
  else if method = "HEAD" then .head
  else if method = "POST" then .post
  else if method = "PUT" then .put
  else if method = "DELETE" then .delete
  else .other

/-- The fields in the order they came; names are looked up whatever their case. -/
abbrev Fields := List (String × String)

def Fields.find (fields : Fields) (name : String) : Option String :=
  (List.find? (fun field => iequals field.1 name) fields).map Prod.snd

/-- `fields[name]`: empty where the field is absent. -/
def Fields.value (fields : Fields) (name : String) : String := (fields.find name).getD ""

/-- `set` replaces every field of the name. -/
def Fields.set (fields : Fields) (name value : String) : Fields :=
  List.filter (fun field => !iequals field.1 name) fields ++ [(name, value)]

/-- `insert` adds one more. -/
def Fields.insert (fields : Fields) (name value : String) : Fields := List.append fields [(name, value)]

structure Request where
  methodString : String
  target : String
  version : Nat := 11
  fields : Fields := []
  body : String := ""

def Request.method (request : Request) : Verb := verbOf request.methodString

structure Response where
  status : Nat
  version : Nat
  fields : Fields
  body : Json

def jsonResponse (status : Nat) (body : Json) (version : Nat) : Response :=
  { status, version, body,
    fields := [("Server", "atomwall-admin"), ("Content-Type", "application/json"),
      ("X-Content-Type-Options", "nosniff"), ("Cache-Control", "no-store")] }

def errorResponse (status : Nat) (message : String) (version : Nat) : Response :=
  jsonResponse status (.object [("error", .string message)]) version

@[simp] theorem jsonResponse_status (status : Nat) (body : Json) (version : Nat) :
    (jsonResponse status body version).status = status := rfl

@[simp] theorem errorResponse_status (status : Nat) (message : String) (version : Nat) :
    (errorResponse status message version).status = status := rfl

def Response.set (res : Response) (name value : String) : Response :=
  { res with fields := res.fields.set name value }

def Response.insert (res : Response) (name value : String) : Response :=
  { res with fields := res.fields.insert name value }

@[simp] theorem Response.set_status (res : Response) (name value : String) :
    (res.set name value).status = res.status := rfl

@[simp] theorem Response.insert_status (res : Response) (name value : String) :
    (res.insert name value).status = res.status := rfl

end Atomwall.Http
