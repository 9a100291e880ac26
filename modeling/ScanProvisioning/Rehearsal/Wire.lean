import ScanProvisioning.Http.Message
import ScanProvisioning.Instant
import ScanProvisioning.Registry
import ScanProvisioning.Rehearsal.Script

namespace ScanProvisioning.Rehearsal

/-- What a scripted server does with a request. -/
inductive ServerAnswer
  | respond (after : Duration) (response : Http.Response)
  /-- The connection fails, or nothing is heard in time. -/
  | drop (timedOut : Bool)

/-- Scripted servers by method and address, and the requests sent so far, latest first. -/
structure Wire where
  now : Instant := 0
  routes : Registry String (List ServerAnswer) := {}
  sent : List Http.Request := []

namespace Wire

def notFound : Http.Response := { status := 404, headers := [], body := .ok "" }

def routeOf (r : Http.Request) : String := r.method.name ++ " " ++ r.url.resource

/-- What the sender of a request hears, and after which time. -/
def heard (r : Http.Request) : ServerAnswer → Duration × Except Http.Failure Http.Response
  | .drop timedOut => (.zero, .error (.unanswered r.url timedOut))
  | .respond after response =>
    match r.timeout with
    | none => (after, .ok response)
    | some timeout =>
      if timeout < after then (timeout, .error (.unanswered r.url true)) else (after, .ok response)

def send (r : Http.Request) (w : Wire) : (Duration × Except Http.Failure Http.Response) × Wire :=
  let w := { w with sent := r :: w.sent }
  let (entry, rest) := nextEntry ((w.routes.get? (routeOf r)).getD [])
  match entry with
  | none => ((.zero, .ok notFound), w)
  | some a => (heard r a, { w with routes := w.routes.set (routeOf r) rest })

end Wire

/-- Where a wait that starts now ends, if its deadline lets it. -/
def waitEnd? (deadline : Option Instant) (now : Instant) (d : Duration) : Option Instant :=
  let t := Instant.endOfWait now d
  match deadline with
  | none => some t
  | some limit => if limit < t then none else some t

end ScanProvisioning.Rehearsal
