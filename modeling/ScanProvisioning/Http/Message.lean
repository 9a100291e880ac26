import ScanProvisioning.Duration
import ScanProvisioning.Http.Url
import ScanProvisioning.Json.Document
import ScanProvisioning.Json.Printed
import ScanProvisioning.Text.Base64
import ScanProvisioning.Text.Blank
import ScanProvisioning.Text.Decimal

namespace ScanProvisioning.Http

inductive Method
  | get
  | head
  | post
  | put
  | delete
  deriving DecidableEq, Repr

def Method.name : Method → String
  | get => "GET"
  | head => "HEAD"
  | post => "POST"
  | put => "PUT"
  | delete => "DELETE"

/-- Names in lower case and values, in the order in which they stand. -/
abbrev Headers := List (String × String)

/-- Why there is no response, or no body of one. -/
structure Failure where
  message : String
  timedOut : Bool
  deriving DecidableEq

structure Request where
  method : Method
  url : Url
  headers : Headers
  body : Option String
  /-- How long to wait for the response; forever without one. -/
  timeout : Option Duration
  deriving DecidableEq

structure Response where
  status : UInt16
  headers : Headers
  /-- The text of the body, as far as it arrived. -/
  body : Except Failure String

namespace Failure

def unbuildable : Failure := { message := "builder error", timedOut := false }

def unanswered (url : Url) (timedOut : Bool) : Failure where
  message := "error sending request for url (" ++ url.text ++ ")"
  timedOut := timedOut

def undecodable : Failure := { message := "error decoding response body", timedOut := false }

end Failure

abbrev Draft := Except Failure Request

def isHeaderValue (s : String) : Bool :=
  s.toList.all fun c => c = '\t' || (0x20 ≤ c.toNat && c.toNat ≠ 0x7F)

namespace Request

/-- A login in front of a host becomes a header. -/
def splitLogin (url : Url) : Url × Headers :=
  match Text.percentDecoded? url.user, url.password.mapM Text.percentDecoded? with
  | some user, some password =>
    if user = "" ∧ password = none then (url, [])
    else
      ({ url with user := "", password := none },
        [("authorization", "Basic " ++ Text.Base64.encoded (user ++ ":" ++ password.getD ""))])
  | _, _ => (url, [])

def draft (method : Method) (address : String) (timeout : Option Duration) : Draft :=
  match Url.parse address with
  | .ok url =>
    let (url, headers) := splitLogin url
    .ok { method, url, headers, body := none, timeout }
  | .error .notAnAddress => .error .unbuildable
  | .error (.offWeb shown) =>
    .error { Failure.unbuildable with message := "builder error for url (" ++ shown ++ ")" }

end Request

namespace Draft

def header (name value : String) (d : Draft) : Draft := do
  let r ← d
  if isHeaderValue value then return { r with headers := r.headers ++ [(name, value)] }
  throw .unbuildable

def query (pairs : List (String × String)) (d : Draft) : Draft :=
  d.map fun r => { r with url := r.url.withQuery pairs }

def within (timeout : Duration) (d : Draft) : Draft := d.map fun r => { r with timeout := some timeout }

def body (type text : String) (d : Draft) : Draft :=
  header "content-type" type (d.map fun r => { r with body := some text })

def json (v : Json) (d : Draft) : Draft := body "application/json" v.printed d

def form (pairs : List (String × String)) (d : Draft) : Draft :=
  body "application/x-www-form-urlencoded" (Text.formLine pairs) d

end Draft

namespace Response

def isSuccess (r : Response) : Bool := 200 ≤ r.status && r.status < 300

/-- The first header of that name, if it is in printable ASCII. -/
def header? (name : String) (r : Response) : Option String :=
  (r.headers.lookup name).filter fun v =>
    v.toList.all fun c => c = '\t' || (0x20 ≤ c.toNat && c.toNat < 0x7F)

def retryAfter (r : Response) : Option Duration :=
  ((r.header? "retry-after").bind fun v => Text.uint64? (Text.trim v)).map Duration.ofSeconds

/-- The body as text, a mark of the byte order left out. -/
def text (r : Response) : Except Failure String :=
  r.body.map fun s => (Text.after? "\uFEFF" s).getD s

def json (r : Response) : Except Failure Json := do
  match Json.ofText (← r.body) with
  | .ok v => return v
  | .error _ => throw .undecodable

end Response

end ScanProvisioning.Http
