import Parley.Json.Decoding

/-!
The network as a script: what arrives at each post, in order, and how long it takes. Posting reads off the next
arrival, moves the clock on by its time, and keeps the post.
-/

namespace Parley

structure Post where
  url : String
  headers : Table String
  body : Json
  timeout : Json

inductive Delivery where
  | answer (status : Int) (body reason : String)
  | timedOut
  | unreachable (message : String)
  | broken (message : String)

structure Arrival where
  delivery : Delivery
  elapsed : Number := .int 0

structure Network where
  script : List Arrival := []
  clock : Float := 0.0
  posts : List Post := []

namespace Network

def userAgent : String := "llmclient"

/-- Adds the library's name to headers that give no other. -/
def introduced (headers : Table String) : Table String :=
  if headers.any fun header => Text.lower header.1 = "user-agent" then headers
  else ("User-Agent", userAgent) :: headers

def firstChars (count : Nat) (text : String) : String := String.ofList (text.toList.take count)

/-- The failure that an answer with a body that is not JSON amounts to. -/
def unreadable (status : Int) (body reason : String) : Failure :=
  if 400 ≤ status then
    let text := if body.isEmpty then (if reason.isEmpty then "no body" else reason) else firstChars 500 body
    .transport text (some status) ""
  else .malformed "transport" s!"Body is not JSON: {Text.quoted (firstChars 200 body)}"

/-- The status and the body that a delivery brings. A body nested too deeply is neither read nor reported. -/
def received (post : Post) : Delivery → Except Failure (Int × Json)
  | .answer status body reason =>
      match Json.readList body.toList with
      | .ok value => .ok (status, value)
      | .error .tooDeep => .error Json.Defect.tooDeep.failure
      | .error _ => .error (unreadable status body reason)
  | .timedOut => .error (.transport s!"Request timed out after {post.timeout.plain} seconds" none "")
  | .unreachable message => .error (.transport s!"Could not connect to {post.url}: {message}" none "")
  | .broken message => .error (.transport s!"Request failed: {message}" none "")

/-- What arrives next. At the end of the script nobody can be reached. -/
def arrival (network : Network) : Arrival := network.script.headD ⟨.unreachable "no reply scripted", .int 0⟩

/-- The time after an arrival. One out of range does not move the clock. -/
def later (clock : Float) (elapsed : Number) : Float := if elapsed.hasFloat then clock + elapsed.toFloat else clock

def after (network : Network) (post : Post) : Network where
  script := network.script.tail
  clock := later network.clock network.arrival.elapsed
  posts := network.posts ++ [{ post with headers := introduced post.headers }]

/-- What a post brings. A time out of the range of floats fails in the clock of the script, which is added to; with a real
clock there is no such failure. -/
def post (network : Network) (post : Post) : Except Failure (Int × Json) × Network :=
  (if network.arrival.elapsed.hasFloat then received post network.arrival.delivery else .error .beyondFloats,
    network.after post)

end Network

end Parley

