import Mathlib.Data.List.Forall2
import Parley.Vendor.Catalogue

namespace Parley

def Settings.keyed (settings : Settings) (key : String) : Settings := { settings with apiKey := key }

namespace Table

/-- Two tables with the same names in the same order, in which only the value of one name may differ. -/
def SameBut (name : String) (left right : Table String) : Prop :=
  List.Forall₂ (fun entry other => entry.1 = other.1 ∧ (entry.1 ≠ name → entry.2 = other.2)) left right

theorem SameBut.refl (name : String) (table : Table String) : SameBut name table table :=
  List.forall₂_same.2 fun _ _ => ⟨rfl, fun _ => rfl⟩

theorem SameBut.names_eq {name : String} {left right : Table String} (same : SameBut name left right) :
    left.names = right.names := by
  induction same with
  | nil => rfl
  | cons agree _ ih =>
    unfold names at ih ⊢
    rw [List.map_cons, List.map_cons, agree.1, ih]

theorem SameBut.put {name key value other : String} {left right : Table String} (same : SameBut name left right)
    (only : key ≠ name → value = other) : SameBut name (left.put key value) (right.put key other) := by
  induction same with
  | nil => exact .cons ⟨rfl, only⟩ .nil
  | @cons entry second rest others agree later ih =>
    obtain ⟨first, old⟩ := entry
    obtain ⟨_, older⟩ := second
    obtain ⟨rfl, equal⟩ := agree
    by_cases here : first = key
    · subst here
      simp only [Table.put, if_true]
      exact .cons ⟨rfl, only⟩ later
    · simp only [Table.put, here, if_false]
      exact .cons ⟨rfl, equal⟩ ih

end Table

/-- Two posts that differ in nothing but the value of one header. -/
structure Post.SameBut (header : String) (left right : Post) : Prop where
  url : left.url = right.url
  headers : Table.SameBut header left.headers right.headers
  body : left.body = right.body
  timeout : left.timeout = right.timeout

namespace Network

/-- Two networks on which the same arrives, whose posts differ in nothing but the value of one header. -/
structure SameBut (header : String) (left right : Network) : Prop where
  script : left.script = right.script
  clock : left.clock = right.clock
  posts : List.Forall₂ (Post.SameBut header) left.posts right.posts

theorem SameBut.refl (header : String) (network : Network) : SameBut header network network where
  script := rfl
  clock := rfl
  posts := List.forall₂_same.2 fun _ _ => ⟨rfl, .refl _ _, rfl, rfl⟩

theorem introduced_alike {header : String} {left right : Table String} (same : Table.SameBut header left right) :
    Table.SameBut header (introduced left) (introduced right) := by
  have named (table : Table String) : (table.any fun field => Text.lower field.1 = "user-agent") =
      table.names.any fun name => Text.lower name = "user-agent" := by
    rw [Table.names, List.any_map]
    rfl
  unfold introduced
  rw [named, named, same.names_eq]
  split
  · exact same
  · exact .cons ⟨rfl, fun _ => rfl⟩ same

theorem received_alike {header : String} {post other : Post} (posts : post.SameBut header other) (delivery : Delivery) :
    received post delivery = received other delivery := by
  unfold received
  rw [posts.url, posts.timeout]

variable {header : String} {left right : Network} {post other : Post}

theorem SameBut.arrival_eq (networks : left.SameBut header right) : left.arrival = right.arrival := by
  unfold arrival
  rw [networks.script]

/-- What comes of a post does not depend on the values of its headers. -/
theorem post_alike (networks : left.SameBut header right) (posts : post.SameBut header other) :
    (left.post post).1 = (right.post other).1 ∧ (left.post post).2.SameBut header (right.post other).2 := by
  have arrives := networks.arrival_eq
  constructor
  · unfold Network.post
    rw [arrives, received_alike posts]
  · refine ⟨?_, ?_, ?_⟩
    · exact congrArg List.tail networks.script
    · show later left.clock left.arrival.elapsed = later right.clock right.arrival.elapsed
      rw [networks.clock, arrives]
    · apply List.rel_append networks.posts
      exact .cons ⟨posts.url, introduced_alike posts.headers, posts.body, posts.timeout⟩ .nil

end Network

namespace Vendor

def keyHeader : Vendor → String
  | gemini => "x-goog-api-key"
  | claude => "x-api-key"
  | gpt | mistral | deepseek | groq => "Authorization"

def credential : Vendor → String → String
  | gemini, key | claude, key => key
  | gpt, key | mistral, key | deepseek, key | groq, key => "Bearer " ++ key

theorem authenticates (vendor : Vendor) (settings : Settings) (question : Question) :
    (vendor.adapter.request settings question).headers.lookup vendor.keyHeader =
      some (vendor.credential settings.apiKey) := by
  cases vendor with
  | claude =>
    have apart : "x-api-key" ≠ "anthropic-version" := by decide
    exact (Table.lookup_put_of_ne _ _ apart).trans (Table.lookup_put_self _ _ _)
  | _ => exact Table.lookup_put_self _ _ _

theorem headers_keyed (vendor : Vendor) (settings : Settings) (key : String) (question : Question) :
    Table.SameBut vendor.keyHeader (vendor.adapter.request settings question).headers
      (vendor.adapter.request (settings.keyed key) question).headers := by
  have base : Table.SameBut vendor.keyHeader (baseHeaders settings) (baseHeaders (settings.keyed key)) := .refl _ _
  cases vendor with
  | claude => exact (base.put fun other => absurd rfl other).put fun _ => rfl
  | _ => exact base.put fun other => absurd rfl other

theorem request_keyed (vendor : Vendor) (settings : Settings) (key : String) (question : Question) :
    (vendor.adapter.request settings question).url = (vendor.adapter.request (settings.keyed key) question).url ∧
      (vendor.adapter.request settings question).body = (vendor.adapter.request (settings.keyed key) question).body := by
  cases vendor with
  | _ => exact ⟨rfl, rfl⟩

theorem reply_keyed (vendor : Vendor) (settings : Settings) (key : String) :
    vendor.adapter.reply (settings.keyed key) = vendor.adapter.reply settings := by
  cases vendor with
  | _ => rfl

namespace Provider

def keyed (provider : Provider) (key : String) : Provider := { provider with settings := provider.settings.keyed key }

variable {provider : Provider} {vendor : Vendor} {left right : Network}

theorem send_keyed (provider : Provider) (key : String) {header : String} {request other : Request}
    (url : request.url = other.url) (headers : Table.SameBut header request.headers other.headers)
    (body : request.body = other.body) (networks : left.SameBut header right) :
    (provider.send request left).1 = ((provider.keyed key).send other right).1 ∧
      (provider.send request left).2.SameBut header ((provider.keyed key).send other right).2 := by
  have posts : Post.SameBut header ⟨request.url, request.headers, .object request.body, provider.timeout⟩
      ⟨other.url, other.headers, .object other.body, provider.timeout⟩ :=
    ⟨url, headers, congrArg Json.object body, rfl⟩
  obtain ⟨same, alike⟩ := Network.post_alike networks posts
  unfold send
  dsimp only [keyed]
  rw [← same]
  split
  · exact ⟨rfl, alike⟩
  · exact ⟨rfl, alike⟩

theorem ask_keyed (speaks : provider.adapter = vendor.adapter) (key : String) (question : Question)
    (networks : left.SameBut vendor.keyHeader right) :
    (provider.ask question left).1 = ((provider.keyed key).ask question right).1 ∧
      (provider.ask question left).2.SameBut vendor.keyHeader ((provider.keyed key).ask question right).2 := by
  have asks := vendor.request_keyed provider.settings key question
  have headers := vendor.headers_keyed provider.settings key question
  rw [← speaks] at asks headers
  obtain ⟨same, alike⟩ := provider.send_keyed key asks.1 headers asks.2 networks
  have reads : provider.adapter.reply (provider.settings.keyed key) = provider.adapter.reply provider.settings := by
    rw [speaks]
    exact vendor.reply_keyed provider.settings key
  have asked : (provider.keyed key).adapter.request (provider.keyed key).settings question =
      provider.adapter.request (provider.settings.keyed key) question := rfl
  cases sent : provider.send (provider.adapter.request provider.settings question) left with
  | mk result later =>
    cases resent : (provider.keyed key).send (provider.adapter.request (provider.settings.keyed key) question) right with
    | mk other latest =>
      rw [sent, resent] at same alike
      obtain rfl := same
      unfold ask
      rw [asked, sent, resent]
      cases result with
      | error failure => exact ⟨rfl, alike⟩
      | ok body =>
        refine ⟨?_, alike⟩
        dsimp only [keyed]
        rw [reads, alike.clock, networks.clock]

end Provider

end Vendor

end Parley

