import Parley.Proofs.Json.Roundtrip
import Parley.Proofs.Vendor.Delivery

namespace Parley

structure Network.Yields (network : Network) (status : Int) (body : Json) : Prop where
  timed : network.arrival.elapsed.hasFloat = true
  answers : ∃ text reason, network.arrival.delivery = .answer status text reason ∧
    Json.readList text.toList = .ok body

def Network.sending (status : Int) (body : Json) : Network where
  script := [⟨.answer status body.render "", .int 0⟩]

theorem Network.yields_sending (status : Int) {body : Json} (reads : Json.rereads Json.depthLimit body = true) :
    (sending status body).Yields status body where
  timed := by
    change (Number.int 0).hasFloat = true
    decide +kernel
  answers := by
    refine ⟨_, _, rfl, ?_⟩
    rw [Json.render, String.toList_ofList]
    exact Json.readList_written reads

namespace Vendor

/-- A body that complains is reported with its message, whatever its status. -/
theorem accepted_of_complaint {provider message : String} {body : Json} (complains : bodyMessage? body = some message)
    (status : Int) : Provider.accepted provider status body = .error (.transport message (some status) provider) := by
  rw [Provider.accepted, complains]

theorem bodyMessage?_list (items : List Json) : bodyMessage? (.list items) = none := by
  rw [bodyMessage?]
  nofun

def unexplained : String := "request rejected without an error message"

theorem accepted_list (provider : String) (status : Int) (items : List Json) :
    Provider.accepted provider status (.list items) =
      if 400 ≤ status then .error (.transport unexplained (some status) provider) else .ok (.list items) := by
  rw [Provider.accepted, bodyMessage?_list]
  rfl

namespace Provider

variable {provider : Provider} {question : Question} {network : Network} {status : Int} {body : Json}

theorem send_of_yields (yields : network.Yields status body) (request : Request) :
    (provider.send request network).1 = accepted provider.adapter.name status body := by
  obtain ⟨text, reason, arrived, read⟩ := yields.answers
  rw [send_timed yields.timed, received_eq_ok.2 ⟨text, reason, arrived, read⟩]

theorem ask_of_yields (yields : network.Yields status body) :
    ∃ elapsed, (provider.ask question network).1 = accepted provider.adapter.name status body >>= fun body =>
      (provider.adapter.reply provider.settings elapsed body).mapError (shapeFailure provider.adapter.name) := by
  obtain ⟨elapsed, asked⟩ := provider.ask_eq question network
  exact ⟨elapsed, by rw [asked, send_of_yields yields]⟩

end Provider

namespace Gemini

def isQuietKey (key : String) : Bool := key ≠ "error" && key ≠ "type"

def silenced (chunk : Fields) : Fields := chunk.filter fun field => isQuietKey field.1

/-- The value without the fields that make it a complaint, where it is an object. -/
def quiet : Json → Json
  | .object chunk => .object (silenced chunk)
  | value => value

theorem field_silenced {key : String} (kept : isQuietKey key = true) (chunk : Fields) :
    Json.field key (silenced chunk) = Json.field key chunk := by
  rw [Json.field, Json.field, silenced, Table.lookup_filter kept]

theorem chunks_quiet (items : List Json) :
    chunks (.list (items.map quiet)) = (chunks (.list items)).map silenced := by
  rw [chunks, chunks, objectsOf, objectsOf, List.filterMap_map, List.map_filterMap]
  congr 1
  funext value
  cases value <;> rfl

theorem chunkParts_silenced (chunk : Fields) : chunkParts (silenced chunk) = chunkParts chunk := by
  rw [chunkParts, chunkParts, field_silenced (by decide)]

theorem parts_quiet (items : List Json) : parts (.list (items.map quiet)) = parts (.list items) := by
  simp only [parts, chunks_quiet, List.flatMap_map, chunkParts_silenced]

theorem add_silenced (stream : Stream) (chunk : Fields) : stream.add (silenced chunk) = stream.add chunk := by
  have candidates : candidate? (silenced chunk) = candidate? chunk := by
    rw [candidate?, candidate?, optionalList, optionalList, field_silenced (by decide)]
  have feedback : optionalObject name "promptFeedback" "promptFeedback" (silenced chunk) =
      optionalObject name "promptFeedback" "promptFeedback" chunk := by
    rw [optionalObject, optionalObject, field_silenced (by decide)]
  have metadata : optionalObject name "usageMetadata" "usageMetadata" (silenced chunk) =
      optionalObject name "usageMetadata" "usageMetadata" chunk := by
    rw [optionalObject, optionalObject, field_silenced (by decide)]
  rw [Stream.add, Stream.add, candidates, feedback, metadata]

/-- A body is read as another one whose chunks add up to the same and have the same parts, but for the body that is
kept. -/
theorem reply_congr {settings : Settings} {elapsed : Number} {body other : Json} (full : (chunks body).isEmpty = false)
    (filled : (chunks other).isEmpty = false)
    (streamed : (chunks other).foldlM Stream.add {} = (chunks body).foldlM Stream.add {})
    (parted : parts other = parts body) :
    reply settings elapsed other = (reply settings elapsed body).map fun reply => { reply with body := other } := by
  simp only [reply, calls, full, filled, streamed, parted]
  cases (chunks body).foldlM Stream.add {} with
  | error failure => rfl
  | ok stream =>
    cases silent : !stream.hasCandidates && stream.finish.isEmpty with
    | true => simp only [bind, Except.bind, silent, if_true]; rfl
    | false => simp only [bind, Except.bind, silent]; rfl

/-- The reply to a list is that to its chunks without their complaints, but for the body that it keeps. -/
theorem reply_quiet (settings : Settings) (elapsed : Number) (items : List Json) :
    reply settings elapsed (.list items) =
      (reply settings elapsed (.list (items.map quiet))).map fun reply => { reply with body := .list items } := by
  have empty : (chunks (.list (items.map quiet))).isEmpty = (chunks (.list items)).isEmpty := by
    rw [chunks_quiet, List.isEmpty_map]
  cases none : (chunks (.list items)).isEmpty with
  | true =>
    simp only [reply, empty, none]
    rfl
  | false =>
    refine reply_congr (empty.trans none) none ?_ (parts_quiet items).symm
    rw [chunks_quiet, List.foldlM_map]
    congr 1
    funext stream chunk
    exact (add_silenced stream chunk).symm

theorem not_transport_of_reply (settings : Settings) (elapsed : Number) (body : Json) {provider text owner : String}
    {status : Option Int} :
    (reply settings elapsed body).mapError (Provider.shapeFailure provider) ≠ .error (.transport text status owner) := by
  intro failed
  obtain ⟨cause, unread, shaped⟩ := mapError_eq_error.1 failed
  obtain ⟨_, _, rfl⟩ | rfl := reply_unread settings elapsed body cause unread
  · cases shaped
  · cases shaped

/-- The chunks of a list may complain, and where one of them is the whole body, its message is reported. Within the list
it never is: only the status makes a failure, which has no more to say than that it cannot be explained; and a list whose
status is no error is read as its chunks are without their complaints, so that a partial answer passes for an answer. -/
theorem ask_list {provider : Provider} (speaks : provider.adapter = adapter) {status : Int} {items : List Json}
    (question : Question) {network : Network} (yields : network.Yields status (.list items)) :
    (∀ chunk ∈ items, ∀ message, bodyMessage? chunk = some message → ∀ whole : Network, whole.Yields status chunk →
      (provider.ask question whole).1 = .error (.transport message (some status) name)) ∧
    (∀ message, (provider.ask question network).1 = .error (.transport message (some status) name) ↔
      400 ≤ status ∧ message = unexplained) ∧
    (status < 400 → ∃ elapsed, (provider.ask question network).1 =
      ((reply provider.settings elapsed (.list (items.map quiet))).map fun reply =>
        { reply with body := .list items }).mapError (Provider.shapeFailure name)) := by
  have named : provider.adapter.name = name := by rw [speaks]; rfl
  have refused (high : 400 ≤ status) :
      (provider.ask question network).1 = .error (.transport unexplained (some status) name) := by
    obtain ⟨elapsed, asked⟩ := Provider.ask_of_yields yields
    rw [asked, accepted_list, if_pos high, named]
    rfl
  have answered (low : status < 400) : ∃ elapsed, (provider.ask question network).1 =
      (reply provider.settings elapsed (.list items)).mapError (Provider.shapeFailure name) := by
    obtain ⟨elapsed, asked⟩ := Provider.ask_of_yields yields
    refine ⟨elapsed, ?_⟩
    rw [asked, accepted_list, if_neg (by omega), named, speaks]
    rfl
  refine ⟨?_, fun message => ⟨?_, ?_⟩, ?_⟩
  · intro chunk _ message complains whole alone
    obtain ⟨elapsed, asked⟩ := Provider.ask_of_yields alone
    rw [asked, accepted_of_complaint complains, named]
    rfl
  · intro reported
    by_cases high : 400 ≤ status
    · obtain ⟨same, -, -⟩ := Failure.transport.inj (Except.error.inj ((refused high).symm.trans reported))
      exact ⟨high, same.symm⟩
    · obtain ⟨elapsed, asked⟩ := answered (by omega)
      exact absurd (asked.symm.trans reported) (not_transport_of_reply _ _ _)
  · rintro ⟨high, rfl⟩
    exact refused high
  · intro low
    obtain ⟨elapsed, asked⟩ := answered low
    exact ⟨elapsed, by rw [asked, reply_quiet]⟩

def interrupted : List Json :=
  [.object [("candidates", .list [.object [("content", .object [("parts", .list [.object [("text", "Hel")]])])]])],
    .object [("error", .object [("message", "boom")])]]

def provider : Provider :=
  .ofSettings adapter { vendor := name, apiKey := "key", model := "model", url := "url" }

theorem interrupted_unexplained :
    (Network.sending 503 (.list interrupted)).Yields 503 (.list interrupted) ∧
      (provider.ask { turns := [] } (.sending 503 (.list interrupted))).1 =
        .error (.transport unexplained (some 503) name) := by
  have yields : (Network.sending 503 (.list interrupted)).Yields 503 (.list interrupted) :=
    Network.yields_sending 503 (by decide)
  exact ⟨yields, ((ask_list rfl { turns := [] } yields).2.1 unexplained).2 ⟨by decide, rfl⟩⟩

/-- What came before the complaint is returned as the whole answer. -/
theorem interrupted_answered :
    interrupted.findSome? bodyMessage? = some "boom" ∧
      (provider.ask { turns := [] } (.sending 200 (.list interrupted))).1.toOption.map
        (fun reply => (reply.text, reply.finish)) = some ("Hel", .stop) := by
  decide +kernel

end Gemini

end Vendor

end Parley

