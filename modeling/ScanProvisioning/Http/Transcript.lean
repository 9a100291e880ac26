import ScanProvisioning.Http.Message

namespace ScanProvisioning.Http

def Url.authority (u : Url) : String :=
  u.host ++ (match u.port with | some p => ":" ++ toString p | none => "")

def Url.target (u : Url) : String :=
  u.path ++ (match u.query with | some q => "?" ++ q | none => "")

/-- The way to a server: the host and port to connect to, and what to ask there. -/
structure Route where
  host : String
  port : Nat
  target : String
  deriving DecidableEq

/-- The way to the server of an address. Servers that speak TLS are asked through a relay, if there is one. -/
def Url.route? (relay : Option String) (u : Url) : Option Route :=
  if u.scheme = "https" then do
    let (host, port) ← Text.splitOnce ':' (← relay)
    return { host, port := (← Text.uint64? port).toNat
             target := u.resource ++ (u.query.map ("?" ++ ·)).getD "" }
  else
    let host := String.ofList (u.host.toList.filter fun c => c ≠ '[' ∧ c ≠ ']')
    some { host, port := u.port.getD (defaultPort u.scheme), target := u.target }

namespace Request

/-- The length of the body, where the headers do not say it. -/
def lengthHeader (r : Request) : Headers :=
  if (r.headers.lookup "content-length").isSome then []
  else
    match r.body with
    | some s => [("content-length", toString s.utf8ByteSize)]
    | none => if r.method = .post ∨ r.method = .put then [("content-length", "0")] else []

def sentHeaders (r : Request) : Headers :=
  [("host", r.url.authority), ("accept", "*/*"), ("connection", "close")] ++ r.headers ++ r.lengthHeader

def transcript (target : String) (r : Request) : String :=
  let lines := (r.method.name ++ " " ++ target ++ " HTTP/1.1") ::
    r.sentHeaders.map fun (name, value) => name ++ ": " ++ value
  String.join (lines.map (· ++ "\r\n")) ++ "\r\n" ++ r.body.getD ""

end Request

namespace Transcript

/-- The first line, without its end, and what follows it. -/
def line? : List UInt8 → Option (List UInt8 × List UInt8)
  | [] => none
  | 10 :: bs => some ([], bs)
  | 13 :: 10 :: bs => some ([], bs)
  | b :: bs => (line? bs).map fun (l, rest) => (b :: l, rest)

def lineText (bs : List UInt8) : String := String.ofList (bs.map fun b => Char.ofNat b.toNat)

def status? (line : String) : Option UInt16 :=
  match line.splitOn " " with
  | _ :: code :: _ =>
    (Text.uint64? code).bind fun n => if n < 1000 then some (UInt16.ofNat n.toNat) else none
  | _ => none

/-- The headers up to the empty line, and what follows that. -/
def headers? : (fuel : Nat) → List UInt8 → Option (Headers × List UInt8)
  | 0, _ => none
  | fuel + 1, bs => do
    let (l, rest) ← line? bs
    if l.isEmpty then return ([], rest)
    let (name, value) ← Text.splitOnce ':' (lineText l)
    let (hs, rest) ← headers? fuel rest
    return ((Text.toLowerAscii name, Text.trim value) :: hs, rest)

/-- The bytes of a body that comes in chunks, each behind a line with its size. -/
def chunks? : (fuel : Nat) → List UInt8 → Option (List UInt8)
  | 0, _ => none
  | fuel + 1, bs => do
    let (l, rest) ← line? bs
    let size ← Host.digits? 16 0 ((lineText l).toList.takeWhile fun c => c ≠ ';' && c ≠ ' ')
    if size = 0 then return []
    if rest.length < size then none
    let (_, after) ← line? (rest.drop size)
    return rest.take size ++ (← chunks? fuel after)

/-- The bytes of the body in what follows the headers, unless some are missing. -/
def body? (method : Method) (status : UInt16) (headers : Headers) (bs : List UInt8) : Option (List UInt8) :=
  if method = .head ∨ status = 204 ∨ status = 304 then some []
  else if (headers.lookup "transfer-encoding").map Text.toLowerAscii = some "chunked" then
    chunks? (bs.length + 1) bs
  else
    match (headers.lookup "content-length").bind Text.uint64? with
    | some n => if bs.length < n.toNat then none else some (bs.take n.toNat)
    | none => some bs

end Transcript

/-- The response to a request of that method in everything received, if its headers are complete. -/
def Response.ofTranscript? (method : Method) (received : ByteArray) : Option Response := do
  let (first, rest) ← Transcript.line? received.toList
  let status ← Transcript.status? (Transcript.lineText first)
  let (headers, rest) ← Transcript.headers? (rest.length + 1) rest
  let body := (Transcript.body? method status headers rest).bind fun bs => String.fromUTF8? ⟨bs.toArray⟩
  return { status, headers, body := body.elim (.error .undecodable) .ok }

end ScanProvisioning.Http
