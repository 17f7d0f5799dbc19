import Registrar.Json.Basic

/-!
# Requests and responses

See section 19 of the specification.

Out of scope: the headers of a response.
-/

namespace Registrar.Http

/-- What a request asks to be done. -/
inductive Method where
  | get
  /-- Like `get`, but only the status is answered. -/
  | head
  | post
  | put
  | patch
  | delete
  | options
  | other (name : String)
  deriving DecidableEq, Repr

namespace Method

/-- The method with a name. -/
def ofName : String → Method
  | "GET" => .get
  | "HEAD" => .head
  | "POST" => .post
  | "PUT" => .put
  | "PATCH" => .patch
  | "DELETE" => .delete
  | "OPTIONS" => .options
  | name => .other name

end Method

/-- A request. -/
structure Request where
  method : Method
  /-- The address that is asked for: a path with a query perhaps, or such after a host. -/
  target : String
  body : List UInt8
  /-- Whether the length of the body is announced. -/
  announced : Bool

namespace Request

/-- A character of the name of a scheme. -/
def isSchemeChar (c : Char) : Bool := c.isAlphanum || c == '+' || c == '-' || c == '.'

/-- The path and the query in the target, without a fragment. A target that does not begin with a
slash may name a scheme and a host in front of them, where a missing path is a slash; one without a
scheme is a host alone, or a star. -/
def address (r : Request) : List Char :=
  match r.target.toList.takeWhile (· != '#') with
  | '/' :: path => '/' :: path
  | ['*'] => ['*']
  | cs =>
    match cs.dropWhile isSchemeChar with
    | ':' :: '/' :: '/' :: rest =>
      match rest.dropWhile fun c => c != '/' && c != '?' with
      | '/' :: path => '/' :: path
      | query => '/' :: query
    | _ => []

/-- The path in the target. -/
def path (r : Request) : List Char := r.address.takeWhile (· != '?')

/-- The query in the target. -/
def query (r : Request) : List Char := (r.address.dropWhile (· != '?')).tail

end Request

/-- What a response holds. -/
inductive Content where
  | empty
  | text (s : String)
  | document (j : Json)

/-- A response. -/
structure Response where
  status : Nat
  content : Content

namespace Response

/-- A response without content. -/
def bare (status : Nat) : Response := ⟨status, .empty⟩

/-- A response with its content left out. -/
def withoutContent (r : Response) : Response := .bare r.status

end Response

end Registrar.Http
