import Parley.Extraction.Mention
import Parley.Extraction.Payload
import Parley.Journal
import Parley.Tool.Call

/-!
Finding the call in a reply. The vendor's own call field decides where it is present. Without it, the text is
searched for calls written as JSON and then for mentions; the first that fits its function is the call.
-/

namespace Parley.Extraction

structure Ambiguity where
  fragment : String
  reason : String
  deriving DecidableEq, Repr

def Ambiguity.failure (ambiguity : Ambiguity) : Failure := .ambiguous ambiguity.fragment ambiguity.reason

structure Finding where
  call : Option Tool.Call := none
  ambiguity : Option Ambiguity := none
  deriving DecidableEq, Repr

/-- Something in a text that names an offered function: the text of it, and the call or the reason against it. -/
structure Hit where
  fragment : List Char
  call : Except Misfit Tool.Call

/-- Replaces the spec of the same name, or appends. -/
def offer (spec : Tool.Spec) : List Tool.Spec → List Tool.Spec
  | [] => [spec]
  | other :: rest => if other.name = spec.name then spec :: rest else other :: offer spec rest

/-- The functions offered: of several specs of one name the last counts, in the place of the first. -/
def offered (specs : List Tool.Spec) : List Tool.Spec := specs.foldl (fun table spec => offer spec table) []

def specNamed? (table : List Tool.Spec) (name : String) : Option Tool.Spec :=
  table.find? fun spec => spec.name = name

/-- A call whose number of arguments its function accepts. -/
def counted (spec : Tool.Spec) (source : Tool.Source) (arguments : List String) : Except Misfit Tool.Call :=
  match countMisfit? spec arguments with
  | none => .ok ⟨spec.name, arguments, source⟩
  | some misfit => .error misfit

def jsonHit? (limit : Int) (table : List Tool.Spec) (block : List Char) : Except Failure (Option Hit) := do
  match ← writtenCall? limit block with
  | none => return none
  | some (name, arguments) =>
      match specNamed? table name with
      | none => return none
      | some spec => return some ⟨block, counted spec .json (← argumentsOf (some spec) arguments)⟩

def textHits (table : List Tool.Spec) (cs : List Char) : List Hit :=
  (mentions (table.map Tool.Spec.name) cs).filterMap fun mention =>
    (specNamed? table (String.ofList mention.name)).map fun spec =>
      let (fragment, arguments) := mention.call spec
      ⟨fragment, arguments.bind (counted spec .text)⟩

/-- The call of a hit that fits. -/
def Hit.call? (hit : Hit) : Option Tool.Call := hit.call.toOption

def Hit.ambiguity? (hit : Hit) : Option Ambiguity :=
  match hit.call with
  | .ok _ => none
  | .error misfit => some ⟨String.ofList hit.fragment, misfit.reason⟩

/-- The first hit that fits is the call; if none does, the first hit is noted. -/
def settle (hits : List Hit) : Finding :=
  match hits.findSome? Hit.call? with
  | some call => ⟨some call, none⟩
  | none => ⟨none, hits.head?.bind Hit.ambiguity?⟩

/-- The hits among blocks of balanced braces, up to and with the first that fits. Fails if a block before it cannot
be read. -/
def jsonHits (limit : Int) (table : List Tool.Spec) : List (List Char) → Except Failure (List Hit)
  | [] => .ok []
  | block :: rest =>
      match jsonHit? limit table block with
      | .error failure => .error failure
      | .ok none => jsonHits limit table rest
      | .ok (some hit) => if hit.call?.isSome then .ok [hit] else (jsonHits limit table rest).map (hit :: ·)

/-- Searches the text of a reply: for calls written as JSON, then for mentions. -/
def searchText (limit : Int) (table : List Tool.Spec) (text : String) : Except Failure Finding :=
  (jsonHits limit table (braceBlocks text.toList)).map fun hits => settle (hits ++ textHits table text.toList)

/-- The record on a vendor's further calls, of which only the first is used. -/
def extraCalls (provider : String) (single : Bool) (count : Nat) (first : Json) : Record :=
  if single then
    ⟨.warning, .extraction,
      s!"{provider} returned {Text.natText count} function calls but takes one per turn; only '{first.plain}' is used"⟩
  else
    ⟨.info, .extraction, s!"Response carries {Text.natText count} function calls; only '{first.plain}' is used"⟩

/-- The spec that a vendor's value names. Lists and objects cannot be looked up at all. -/
def named (table : List Tool.Spec) (name : Json) : Except Failure (String × Tool.Spec) :=
  match name with
  | .text text =>
      match specNamed? table text with
      | some spec => .ok (text, spec)
      | none => .error (.unknownFunction name (table.map Tool.Spec.name))
  | .list _ => .error (.foreign .wrongType "unhashable type: 'list'")
  | .object _ => .error (.foreign .wrongType "unhashable type: 'dict'")
  | _ => .error (.unknownFunction name (table.map Tool.Spec.name))

/-- Everything that a search needs to know of a reply: the calls in the vendor's own field, the text, and who sent
it. -/
structure Reading where
  provider : String
  /-- Whether the provider promises one call at most. -/
  single : Bool
  calls : List (Json × Json)
  text : String

/-- The default limit on the length of a call written as JSON. -/
def defaultLimit : Int := 8000

/-- The call in a reply, among the functions offered. Fails for a vendor's call that names no function offered, and
for JSON that is out of bounds. -/
def search (limit : Int) (reading : Reading) (specs : List Tool.Spec) : Except Failure Finding × Journal :=
  let table := offered specs
  match reading.calls with
  | (name, arguments) :: others =>
      let journal :=
        if others.isEmpty then [] else [extraCalls reading.provider reading.single (others.length + 1) name]
      (do
        let (name, spec) ← named table name
        return ⟨some ⟨name, ← argumentsOf (some spec) arguments, .structured⟩, none⟩, journal)
  | [] =>
      if table.isEmpty || reading.text.isEmpty then (.ok {}, [])
      else
        let finding := searchText limit table reading.text
        (finding, (finding.toOption.bind Finding.ambiguity).toList.map fun ambiguity =>
          ⟨.warning, .extraction, ambiguity.failure.message⟩)

end Parley.Extraction

