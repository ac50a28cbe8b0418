import Parley.Proofs.Exchange.Rejection
import Parley.Proofs.Json.Overflow
import Parley.Proofs.Tokens
import Parley.Proofs.Vendor.Utterance

/-!
Exchanges with one vendor instead of another. What an exchange comes to, apart from labels and timing, is a function of
what the vendor says: two exchanges that hear the same utterances go through the same steps, and each step carries over
that they are alike.
-/

namespace Parley

namespace Usage

def unlabelled (usage : Usage) : Usage where
  prompt := usage.prompt
  completion := usage.completion
  total := usage.total

theorem unlabelled_filled (usage : Usage) : usage.filled.unlabelled = usage.unlabelled.filled := by
  unfold filled
  split
  next none => rw [if_pos (show usage.unlabelled.total = 0 from none)]; rfl
  next given => rw [if_neg (show usage.unlabelled.total ≠ 0 from given)]

theorem unlabelled_add (left right : Usage) :
    (left + right).unlabelled = (left.unlabelled + right.unlabelled).unlabelled := by
  change (filled _).unlabelled = (filled _).unlabelled
  rw [unlabelled_filled, unlabelled_filled]
  rfl

theorem unlabelled_sum (usages : List Usage) : (sum usages).unlabelled = (sum (usages.map unlabelled)).unlabelled := by
  have folds (start other : Usage) (same : start.unlabelled = other.unlabelled) :
      (usages.foldl add start).unlabelled = ((usages.map unlabelled).foldl add other).unlabelled := by
    induction usages generalizing start other with
    | nil => exact same
    | cons usage rest ih =>
      refine ih _ _ ?_
      have first := unlabelled_add start usage
      have second := unlabelled_add other usage.unlabelled
      rw [same] at first
      exact first.trans second.symm
  exact folds {} {} rfl

end Usage

/-- A result without the labels of its usage and without its time. -/
def Result.unlabelled (result : Result) : Result := { result with usage := result.usage.unlabelled, elapsed := 0.0 }

namespace Exchange

/-- An exchange without the labels of its usages and without its journal. -/
def unlabelled (exchange : Exchange) : Exchange :=
  { exchange with charges := exchange.charges.map fun charge => (charge.1.unlabelled, charge.2), journal := [] }

def plain {α : Type} (step : Exchange × α) : Exchange × α := (step.1.unlabelled, step.2)

theorem unlabelled_charge (exchange : Exchange) (usage : Usage) (function : Option String) :
    (exchange.charge usage function).unlabelled = exchange.unlabelled.charge usage.unlabelled function := by
  simp [unlabelled, charge]

theorem unlabelled_tell (exchange : Exchange) (verbose : Bool) (line : String) :
    (exchange.tell verbose line).unlabelled = exchange.unlabelled.tell verbose line := by
  unfold tell
  split
  · rfl
  · rfl

section

variable {exchange other : Exchange}

theorem reach_alike (same : exchange.unlabelled = other.unlabelled) (stage : Stage) :
    (exchange.reach stage).unlabelled = (other.reach stage).unlabelled :=
  congrArg (Exchange.reach · stage) same

theorem log_alike (same : exchange.unlabelled = other.unlabelled) (records others : Journal) :
    (exchange.log records).unlabelled = (other.log others).unlabelled :=
  same

theorem tell_alike (same : exchange.unlabelled = other.unlabelled) (verbose : Bool) (line : String) :
    (exchange.tell verbose line).unlabelled = (other.tell verbose line).unlabelled := by
  rw [unlabelled_tell, unlabelled_tell, same]

theorem charge_alike (same : exchange.unlabelled = other.unlabelled) {usage second : Usage}
    (counts : usage.unlabelled = second.unlabelled) (function : Option String) :
    (exchange.charge usage function).unlabelled = (other.charge second function).unlabelled := by
  rw [unlabelled_charge, unlabelled_charge, same, counts]

end

theorem conclude_unlabelled (exchange : Exchange) (elapsed : Float) (ending : Ending) :
    (exchange.conclude elapsed ending).map Result.unlabelled =
      (exchange.unlabelled.conclude 0.0 ending).map Result.unlabelled := by
  have counts : exchange.usage.unlabelled = exchange.unlabelled.usage.unlabelled := by
    refine (Usage.unlabelled_sum _).trans ?_
    simp only [usage, unlabelled, List.map_map, Function.comp_def]
  have calls : exchange.unlabelled.charges.length = exchange.charges.length := List.length_map _
  cases ending with
  | broken => rfl
  | _ =>
    simp only [conclude, Except.map, result, Result.unlabelled, counts, calls]
    rfl

theorem turns_commit (exchange : Exchange) (dialogue : Dialogue) (answer : Option String) :
    (exchange.commit dialogue answer).turns = (exchange.unlabelled.commit dialogue answer).turns := by
  rw [commit_eq, commit_eq]
  rfl

theorem turns_settle (exchange : Exchange) (dialogue : Dialogue) (ending : Ending) :
    (exchange.settle dialogue ending).turns = (exchange.unlabelled.settle dialogue ending).turns := by
  cases ending with
  | answered | rejected | uncalled => exact turns_commit _ _ _
  | unheard | broken => rfl

end Exchange

namespace Vendor.Says

variable {utterance : Utterance} {reply second : Reply}

theorem counts (left : Says reply utterance) (right : Says second utterance) :
    reply.usage.unlabelled = second.usage.unlabelled := by
  simp only [Usage.unlabelled, left.prompt, left.completion, left.total, right.prompt, right.completion, right.total]

theorem isRejection (left : Says reply utterance) : reply.isRejection = false := by
  rw [Reply.isRejection, left.finish, Utterance.finish]
  cases utterance.calls.isEmpty with
  | true => rfl
  | false => rfl

theorem note (left : Says reply utterance) (exchange : Exchange) : exchange.note reply = exchange := by
  simp [Exchange.note, left.citations, left.ratings]

end Vendor.Says

namespace Extraction

/-- The search finds the same in readings with the same text and the same calls, however the arguments are written. -/
theorem search_alike {limit : Int} {left right : Reading} (specs : List Tool.Spec) {utterance : Vendor.Utterance}
    (text : left.text = right.text) (carries : Vendor.Carries left.calls utterance)
    (carriesToo : Vendor.Carries right.calls utterance) :
    (search limit left specs).1 = (search limit right specs).1 := by
  unfold search
  dsimp only
  rw [Vendor.Carries] at carries carriesToo
  generalize left.calls = calls at carries
  generalize right.calls = others at carriesToo
  generalize utterance.calls = spoken at carries carriesToo
  cases carries with
  | nil =>
    cases carriesToo
    rw [text]
  | @cons given call calls spoken carried rest =>
    cases carriesToo with
    | @cons givenToo _ others _ carriedToo restToo =>
      obtain ⟨name, arguments⟩ := given
      obtain ⟨nameToo, argumentsToo⟩ := givenToo
      obtain ⟨rfl, spells⟩ := carried
      obtain ⟨rfl, spellsToo⟩ := carriedToo
      dsimp only
      cases named (offered specs) (.text call.1) with
      | error failure => rfl
      | ok found =>
        have texts : argumentsOf (some found.2) arguments = .ok (received found.2 call.2) :=
          argumentsOf_of_spells spells
        have textsToo : argumentsOf (some found.2) argumentsToo = .ok (received found.2 call.2) :=
          argumentsOf_of_spells spellsToo
        simp only [bind, Except.bind, texts, textsToo]

end Extraction

namespace Vendor

/-- What arrives is an answer whose body is no error and says an utterance, after a time within the range of floats. -/
def Delivers (vendor : Vendor) (utterance : Utterance) (arrival : Arrival) : Prop :=
  arrival.elapsed.hasFloat = true ∧ ∃ text reason body, arrival.delivery = .answer 200 text reason ∧
    Json.readList text.toList = .ok body ∧ bodyMessage? body = none ∧ vendor.Utters utterance body

def Brings (vendor : Vendor) (said answered : Utterance) (network : Network) : Prop :=
  ∃ first second rest, network.script = first :: second :: rest ∧ vendor.Delivers said first ∧
    vendor.Delivers answered second

/-- Whatever a vendor is asked, what it says is heard. -/
theorem ask_of_delivers {vendor : Vendor} {provider : Provider} (speaks : provider.adapter = vendor.adapter)
    {utterance : Utterance} {network : Network} (delivers : vendor.Delivers utterance network.arrival)
    (question : Question) :
    ∃ reply later, provider.ask question network = (.ok reply, later) ∧ later.script = network.script.tail ∧
      Says reply utterance ∧ Carries (provider.adapter.calls reply.body) utterance := by
  obtain ⟨timed, text, reason, body, answers, reads, fine, utters⟩ := delivers
  have sent : (provider.send (provider.adapter.request provider.settings question) network).1 = .ok body :=
    Provider.send_eq_ok.2 ⟨timed, 200, text, reason, answers, reads, fine, by decide⟩
  obtain ⟨elapsed, asked⟩ := provider.ask_eq question network
  obtain ⟨carries, reply, read, saying⟩ := reply_of_utters utters provider.settings elapsed
  obtain ⟨post, after, _⟩ := provider.network_ask question network
  have answered : (provider.ask question network).1 = .ok reply := by
    rw [asked, sent, speaks]
    exact bind_eq_ok.2 ⟨body, rfl, by rw [read]; rfl⟩
  refine ⟨reply, network.after post, Prod.ext answered after, rfl, saying, ?_⟩
  rwa [speaks, body_of_reply read]

theorem Provider.ask_of_overflows {provider : Provider} {body : Json} {digits : Nat}
    (overflows : Json.Overflows Json.depthLimit body digits) (rest : List Json) (question : Question) :
    ∃ failure, (provider.ask question (.answering (body :: rest))).1 = .error failure ∧ failure.isDelivery = true := by
  have timed : (Network.answering (body :: rest)).arrival.elapsed.hasFloat = true := by
    change (Number.int 0).hasFloat = true
    decide +kernel
  have overlong : Json.readList body.render.toList = .error (.oversized digits) := by
    rw [Json.render, String.toList_ofList]
    exact Json.readList_of_overflows overflows
  have received (post : Post) : Network.received post (Network.answering (body :: rest)).arrival.delivery =
      .error (Network.unreadable 200 body.render "OK") := by
    change Network.received post (.answer 200 body.render "OK") = _
    simp only [Network.received, overlong]
  obtain ⟨elapsed, asked⟩ := provider.ask_eq question (.answering (body :: rest))
  rw [Provider.send_timed timed, received] at asked
  exact ⟨_, asked, rfl⟩

theorem delivers_body (vendor : Vendor) {utterance : Utterance}
    (reads : Json.rereads Json.depthLimit (vendor.body utterance) = true)
    (calls : ∀ call ∈ utterance.calls, Json.rereads Json.depthLimit (.object call.2) = true) :
    vendor.Delivers utterance ⟨.answer 200 (vendor.body utterance).render "OK", .int 0⟩ := by
  have timed : (Number.int 0).hasFloat = true := by decide +kernel
  refine ⟨timed, _, _, _, rfl, ?_, ?_, vendor.utters_body calls⟩
  · rw [Json.render, String.toList_ofList]
    exact Json.readList_written reads
  · cases vendor with
    | _ => rfl

theorem brings_answering (vendor : Vendor) {said answered : Utterance}
    (first : Json.rereads Json.depthLimit (vendor.body said) = true)
    (second : Json.rereads Json.depthLimit (vendor.body answered) = true)
    (written : ∀ call ∈ said.calls ++ answered.calls, Json.rereads Json.depthLimit (.object call.2) = true) :
    vendor.Brings said answered (.answering [vendor.body said, vendor.body answered]) :=
  ⟨_, _, [], rfl, vendor.delivers_body first fun call held => written call (List.mem_append_left _ held),
    vendor.delivers_body second fun call held => written call (List.mem_append_right _ held)⟩

end Vendor

namespace Assistant

def through (assistant : Assistant) (provider : Vendor.Provider) : Assistant := { assistant with provider := provider }

section

open Parley.Vendor

variable (assistant : Assistant) {exchange other : Exchange} {utterance : Utterance} {reply second : Reply}

theorem answer_alike (same : exchange.unlabelled = other.unlabelled) (left : Says reply utterance)
    (right : Says second utterance) : Exchange.plain (answer exchange reply) = Exchange.plain (answer other second) := by
  have outcome : exchange.outcome = other.outcome := by
    change exchange.unlabelled.outcome = other.unlabelled.outcome
    rw [same]
  have reached := Exchange.reach_alike same .answerReady
  simp only [answer, Exchange.plain, left.text, right.text, left.finish, right.finish, outcome, reached]

theorem carryOut_alike (same : exchange.unlabelled = other.unlabelled) (call : Tool.Call) :
    Exchange.plain (assistant.carryOut exchange call) = Exchange.plain (assistant.carryOut other call) := by
  cases invoked : assistant.toolbox.invoke call.name call.arguments with
  | mk result runs =>
    simp only [carryOut, invoked]
    cases result with
    | error failure => cases failure with
      | _ => exact congrArg (fun exchange : Exchange => (exchange, _)) same
    | ok result =>
      exact congrArg (fun exchange : Exchange =>
        ({ exchange with
          outcome := some ⟨call.name, call.arguments, result⟩
          pending := exchange.pending ++ [Turn.function ⟨call.name, call.arguments, result⟩] }, none)) same

theorem pursue_alike (same : exchange.unlabelled = other.unlabelled) (left : Says reply utterance)
    (right : Says second utterance) (finding : Except Failure Extraction.Finding) :
    Exchange.plain (assistant.pursue exchange reply finding) = Exchange.plain (assistant.pursue other second finding) := by
  have counts := left.counts right
  cases finding with
  | error failure => cases failure with
    | unknownFunction name available =>
      have charged := Exchange.reach_alike (Exchange.charge_alike same counts none) .callDetected
      exact congrArg (fun exchange : Exchange => (exchange, some (Ending.uncalled (.unknownFunction name available))))
        charged
    | _ => exact congrArg (fun exchange : Exchange => (exchange, _)) same
  | ok finding =>
    have noted : { exchange with ambiguity := finding.ambiguity }.unlabelled =
        { other with ambiguity := finding.ambiguity }.unlabelled :=
      congrArg (fun exchange : Exchange => { exchange with ambiguity := finding.ambiguity }) same
    cases calls : finding.call with
    | none =>
      have answered := answer_alike (Exchange.charge_alike noted counts none) left right
      simp only [pursue, calls]
      obtain ⟨alike, ending⟩ := Prod.mk.inj answered
      exact Prod.ext alike (congrArg some ending)
    | some call =>
      have called : { exchange with ambiguity := finding.ambiguity, call := some call }.unlabelled =
          { other with ambiguity := finding.ambiguity, call := some call }.unlabelled :=
        congrArg (fun exchange : Exchange => { exchange with call := some call }) noted
      have charged := Exchange.reach_alike (Exchange.charge_alike called counts (some call.name)) .callDetected
      simp only [pursue, calls]
      exact assistant.carryOut_alike (Exchange.tell_alike charged _ _) call

/-- Taking a reply that says something fails in both exchanges alike, or goes on in both. -/
theorem hear_alike (same : exchange.unlabelled = other.unlabelled) (left : Says reply utterance)
    (right : Says second utterance) :
    (∃ failure, assistant.hear exchange (.ok reply) = (exchange, .error (.broken failure)) ∧
      assistant.hear other (.ok second) = (other, .error (.broken failure))) ∨
    (∃ taken takenToo, assistant.hear exchange (.ok reply) = (taken, .ok reply) ∧
      assistant.hear other (.ok second) = (takenToo, .ok second) ∧ taken.unlabelled = takenToo.unlabelled) := by
  have lines : tokensLine reply.usage = tokensLine second.usage := by
    simp only [tokensLine, left.prompt, left.completion, left.total, right.prompt, right.completion, right.total]
  simp only [hear, receive, left.note, right.note, lines]
  cases assistant.options.verbose with
  | false => exact .inr ⟨exchange, other, by simp [left.isRejection], by simp [right.isRejection], same⟩
  | true =>
    cases told : tokensLine second.usage with
    | error failure => exact .inl ⟨failure, rfl, rfl⟩
    | ok line =>
      refine .inr ⟨exchange.tell true line, other.tell true line, ?_, ?_, Exchange.tell_alike same true line⟩
      · simp [Except.map, left.isRejection]
      · simp [Except.map, right.isRejection]

theorem hear_through (provider : Provider) (exchange : Exchange) (accepted : reply.isRejection = false) :
    (assistant.through provider).hear exchange (.ok reply) = assistant.hear exchange (.ok reply) := by
  have receives : (assistant.through provider).receive exchange reply = assistant.receive exchange reply := rfl
  simp only [hear, receives, accepted, Bool.false_eq_true, if_false]

theorem first_alike (one two : Provider) (same : exchange.unlabelled = other.unlabelled) (left : Says reply utterance)
    (right : Says second utterance) (carries : Carries (one.adapter.calls reply.body) utterance)
    (carriesToo : Carries (two.adapter.calls second.body) utterance) :
    Exchange.plain ((assistant.through one).first exchange (.ok reply)) =
      Exchange.plain ((assistant.through two).first other (.ok second)) := by
  have text : reply.text = second.text := left.text.trans right.text.symm
  have found : (Extraction.search assistant.limit ((assistant.through one).reading reply) (assistant.offered false)).1 =
      (Extraction.search assistant.limit ((assistant.through two).reading second) (assistant.offered false)).1 :=
    Extraction.search_alike _ text carries carriesToo
  unfold first
  rw [assistant.hear_through one exchange left.isRejection, assistant.hear_through two other right.isRejection]
  obtain ⟨failure, heard, heardToo⟩ | ⟨taken, takenToo, heard, heardToo, alike⟩ :=
    assistant.hear_alike same left right
  · simp only [heard, heardToo]
    exact congrArg (fun exchange : Exchange => (exchange, _)) same
  · simp only [heard, heardToo]
    have logged := Exchange.log_alike alike
      (Extraction.search assistant.limit ((assistant.through one).reading reply) (assistant.offered false)).2
      (Extraction.search assistant.limit ((assistant.through two).reading second) (assistant.offered false)).2
    have pursued := assistant.pursue_alike logged left right
      (Extraction.search assistant.limit ((assistant.through one).reading reply) (assistant.offered false)).1
    exact pursued.trans (by rw [found]; rfl)

theorem second_alike (one two : Provider) (same : exchange.unlabelled = other.unlabelled) (left : Says reply utterance)
    (right : Says second utterance) :
    Exchange.plain ((assistant.through one).second exchange (.ok reply)) =
      Exchange.plain ((assistant.through two).second other (.ok second)) := by
  unfold Assistant.second
  rw [assistant.hear_through one exchange left.isRejection, assistant.hear_through two other right.isRejection]
  obtain ⟨failure, heard, heardToo⟩ | ⟨taken, takenToo, heard, heardToo, alike⟩ :=
    assistant.hear_alike same left right
  · simp only [heard, heardToo]
    exact congrArg (fun exchange : Exchange => (exchange, _)) same
  · simp only [heard, heardToo]
    exact answer_alike (Exchange.charge_alike alike (left.counts right) none) left right

/-- Exchanges that are alike come to the same. -/
theorem report_alike {ending last : Ending} (same : Exchange.plain (exchange, ending) = Exchange.plain (other, last))
    (dialogue : Dialogue) (started startedToo : Float) (network later : Network) :
    (report dialogue started exchange ending network).result.map Result.unlabelled =
        (report dialogue startedToo other last later).result.map Result.unlabelled ∧
      (report dialogue started exchange ending network).dialogue.turns =
        (report dialogue startedToo other last later).dialogue.turns := by
  obtain ⟨alike, rfl⟩ := Prod.mk.inj same
  simp only [report]
  rw [Exchange.conclude_unlabelled exchange, Exchange.conclude_unlabelled other, Exchange.turns_settle exchange,
    Exchange.turns_settle other]
  have alike : exchange.unlabelled = other.unlabelled := alike
  rw [alike]
  exact ⟨rfl, rfl⟩

end

/-- Two vendors whose answers say the same are interchangeable: whatever the functions, the options and the dialogue,
an exchange comes to the same result and the same turns with either, but for the labels of its usage and its time. -/
theorem vendors_interchangeable (assistant : Assistant) (dialogue : Dialogue) (content : Content) {one two : Vendor}
    {first second : Vendor.Provider} (speaks : first.adapter = one.adapter) (speaksToo : second.adapter = two.adapter)
    {said answered : Vendor.Utterance} {network other : Network} (brings : one.Brings said answered network)
    (bringsToo : two.Brings said answered other) :
    ((assistant.through first).send dialogue content network).result.map Result.unlabelled =
        ((assistant.through second).send dialogue content other).result.map Result.unlabelled ∧
      ((assistant.through first).send dialogue content network).dialogue.turns =
        ((assistant.through second).send dialogue content other).dialogue.turns := by
  obtain ⟨arrival, next, rest, script, delivers, delivers_next⟩ := brings
  obtain ⟨arrivalToo, nextToo, restToo, scriptToo, deliversToo, delivers_nextToo⟩ := bringsToo
  have arrives : network.arrival = arrival := by rw [Network.arrival, script]; rfl
  have arrivesToo : other.arrival = arrivalToo := by rw [Network.arrival, scriptToo]; rfl
  obtain ⟨reply, later, asked, left, saying, carries⟩ := Vendor.ask_of_delivers speaks (arrives ▸ delivers)
    ((assistant.through first).question dialogue ((Exchange.begin content).reach .requestSent) false)
  obtain ⟨replyToo, laterToo, askedToo, leftToo, sayingToo, carriesToo⟩ :=
    Vendor.ask_of_delivers speaksToo (arrivesToo ▸ deliversToo)
      ((assistant.through second).question dialogue ((Exchange.begin content).reach .requestSent) false)
  have opened : ((Exchange.begin content).reach .requestSent).unlabelled =
      ((Exchange.begin content).reach .requestSent).unlabelled := rfl
  have alike := assistant.first_alike first second opened saying sayingToo carries carriesToo
  have sent : (assistant.through first).provider.ask _ network = (.ok reply, later) := asked
  have sentToo : (assistant.through second).provider.ask _ other = (.ok replyToo, laterToo) := askedToo
  unfold send
  simp only [sent, sentToo]
  cases led : (assistant.through first).first ((Exchange.begin content).reach .requestSent) (.ok reply) with
  | mk taken ending =>
    cases ledToo : (assistant.through second).first ((Exchange.begin content).reach .requestSent) (.ok replyToo) with
    | mk takenToo last =>
      rw [led, ledToo] at alike
      obtain ⟨same, rfl⟩ := Prod.mk.inj alike
      have same : taken.unlabelled = takenToo.unlabelled := same
      cases ending with
      | some ending => exact report_alike (congrArg (fun exchange : Exchange => (exchange, ending)) same) _ _ _ _ _
      | none =>
        have arrives : later.arrival = next := by rw [Network.arrival, left, script]; rfl
        have arrivesToo : laterToo.arrival = nextToo := by rw [Network.arrival, leftToo, scriptToo]; rfl
        obtain ⟨answer, latest, asked, _, saying, _⟩ := Vendor.ask_of_delivers speaks (arrives ▸ delivers_next)
          ((assistant.through first).question dialogue (taken.reach .requestSent) true)
        obtain ⟨answerToo, latestToo, askedToo, _, sayingToo, _⟩ :=
          Vendor.ask_of_delivers speaksToo (arrivesToo ▸ delivers_nextToo)
            ((assistant.through second).question dialogue (takenToo.reach .requestSent) true)
        have sent : (assistant.through first).provider.ask _ later = (.ok answer, latest) := asked
        have sentToo : (assistant.through second).provider.ask _ laterToo = (.ok answerToo, latestToo) := askedToo
        simp only [sent, sentToo]
        exact report_alike (assistant.second_alike first second (Exchange.reach_alike same _) saying sayingToo) _ _ _ _ _

theorem through_plain (one two : Vendor) (toolbox : Toolbox) :
    (plain one toolbox).through (plain two toolbox).provider = plain two toolbox := rfl

def askingEcho : Vendor.Utterance := ⟨"", [("echo", [("text", "hi")])], 3, 4, by decide⟩

def echoed : Vendor.Utterance := ⟨"It said hi.", [], 5, 6, by decide⟩

theorem echo_interchangeable :
    ((plain .gemini (.only .echo)).send {} (.text "Say hi")
        (.answering [Vendor.gemini.body askingEcho, Vendor.gemini.body echoed])).result.toOption.map
      (fun result => (result.text, result.calls)) = some ("It said hi.", 2) ∧
    ((plain .gemini (.only .echo)).send {} (.text "Say hi")
          (.answering [Vendor.gemini.body askingEcho, Vendor.gemini.body echoed])).result.map Result.unlabelled =
        ((plain .gpt (.only .echo)).send {} (.text "Say hi")
          (.answering [Vendor.gpt.body askingEcho, Vendor.gpt.body echoed])).result.map Result.unlabelled ∧
      ((plain .gemini (.only .echo)).send {} (.text "Say hi")
          (.answering [Vendor.gemini.body askingEcho, Vendor.gemini.body echoed])).dialogue.turns =
        ((plain .gpt (.only .echo)).send {} (.text "Say hi")
          (.answering [Vendor.gpt.body askingEcho, Vendor.gpt.body echoed])).dialogue.turns := by
  have brings (vendor : Vendor) (listed : vendor = .gemini ∨ vendor = .gpt) :
      vendor.Brings askingEcho echoed (.answering [vendor.body askingEcho, vendor.body echoed]) := by
    obtain rfl | rfl := listed
    · exact Vendor.brings_answering .gemini (by decide +kernel) (by decide +kernel) (by decide +kernel)
    · exact Vendor.brings_answering .gpt (by decide +kernel) (by decide +kernel) (by decide +kernel)
  have speaks : (plain .gemini (.only .echo)).provider.adapter = Vendor.gemini.adapter := rfl
  have speaksToo : (plain .gpt (.only .echo)).provider.adapter = Vendor.gpt.adapter := rfl
  have same := vendors_interchangeable (plain .gpt (.only .echo)) {} (.text "Say hi") speaks speaksToo
    (brings .gemini (.inl rfl)) (brings .gpt (.inr rfl))
  rw [through_plain, through_plain] at same
  exact ⟨by decide +kernel, same⟩

theorem send_of_delivers {assistant : Assistant} {vendor : Vendor} (speaks : assistant.provider.adapter = vendor.adapter)
    (unequipped : assistant.toolbox.specs = []) (quiet : assistant.options.verbose = false)
    {utterance : Vendor.Utterance} (silent : utterance.calls = []) {network : Network}
    (delivers : vendor.Delivers utterance network.arrival) (dialogue : Dialogue) (content : Content) :
    ∃ result, (assistant.send dialogue content network).result = .ok result ∧ result.failure = none ∧
      result.usage.tokens = ((utterance.prompt : Int), (utterance.completion : Int), (utterance.total : Int)) := by
  obtain ⟨reply, later, asked, -, saying, carries⟩ :=
    Vendor.ask_of_delivers speaks delivers (assistant.opening dialogue content)
  have hears : assistant.Hears (assistant.opening dialogue content) network reply later :=
    ⟨asked, by rw [shows, quiet]; rfl, saying.isRejection⟩
  have calls : (assistant.reading reply).calls = [] := by
    rw [Vendor.Carries, silent] at carries
    exact List.forall₂_nil_right_iff.1 carries
  have offers : assistant.offered false = [] := by
    rw [offered, unequipped, ite_self]
  have search : assistant.finding reply = .ok {} := by
    simp only [finding, Extraction.search, calls, offers]
    rfl
  obtain ⟨exchange, ending, latest, course, sent⟩ := assistant.send_course dialogue content network
  obtain ⟨charges, rfl⟩ := course.of_answered hears search rfl
  refine ⟨_, by rw [sent]; rfl, rfl, ?_⟩
  have charged : exchange.charges = [(reply.usage, none)] := charges
  have usage : exchange.usage = {} + reply.usage := by rw [Exchange.usage, charged]; rfl
  change exchange.usage.tokens = _
  rw [usage, Usage.tokens_add]
  simp [Usage.tokens, Usage.completed, saying.prompt, saying.completion, saying.total, Vendor.Utterance.total]

theorem send_of_unheard {assistant : Assistant} {dialogue : Dialogue} {content : Content} {network : Network}
    {failure : Failure}
    (unheard : (assistant.provider.ask (assistant.opening dialogue content) network).1 = .error failure)
    (delivery : failure.isDelivery = true) :
    ∃ result, (assistant.send dialogue content network).result = .ok result ∧ result.failure = some failure := by
  obtain ⟨exchange, ending, later, course, sent⟩ := assistant.send_course dialogue content network
  have stops := course.stops fun reply latest hears => by
    cases (congrArg Prod.fst hears.answered).symm.trans unheard
  have ends := stops.hearing
  rw [unheard] at ends
  simp only [hearing, delivery, if_true, Except.error.injEq] at ends
  subst ends
  exact ⟨_, by rw [sent]; rfl, rfl⟩

def overflowing : Vendor.Utterance := ⟨"Hi there", [], Text.endless - 1, 1, by simp⟩

theorem total_overflowing : overflowing.total = Text.endless := by
  have positive := Text.endless_pos
  unfold overflowing Vendor.Utterance.total
  generalize Text.endless = most at positive
  exact Nat.sub_add_cancel positive

section

variable {utterance : Vendor.Utterance} (silent : utterance.calls = [])
  (prompt : Text.isWritable utterance.prompt = true) (completion : Text.isWritable utterance.completion = true)

include silent prompt completion

theorem rereads_claude_body : Json.rereads Json.depthLimit (Vendor.claude.body utterance) = true := by
  have deep : 3 < Json.depthLimit := by decide
  simp [Vendor.body, Vendor.Claude.body, Json.int, Json.rereads, Json.rereadsItems, Json.rereadsFields, prompt, completion,
    silent]
  omega

theorem overflows_gemini_body (total : Text.isWritable utterance.total = false) :
    ∃ digits, Json.Overflows Json.depthLimit (Vendor.gemini.body utterance) digits := by
  have counts : Json.rereadsFields (Json.depthLimit - 2) [("promptTokenCount", .int utterance.prompt),
      ("candidatesTokenCount", .int utterance.completion)] = true := by
    simp [Json.int, Json.rereads, Json.rereadsFields, prompt, completion]
  have usage : Json.Overflows (Json.depthLimit - 1) (.object ([("promptTokenCount", .int utterance.prompt),
      ("candidatesTokenCount", .int utterance.completion)] ++ ("totalTokenCount", .int utterance.total) :: [])) _ :=
    .object counts (.integer total)
  have body : Vendor.gemini.body utterance = .object ([("candidates", .list [.object [
      ("content", .object [("parts", .list [.object [("text", utterance.text)]])]), ("finishReason", "STOP")]])] ++
      ("usageMetadata", .object ([("promptTokenCount", .int utterance.prompt),
        ("candidatesTokenCount", .int utterance.completion)] ++ ("totalTokenCount", .int utterance.total) :: [])) :: []) := by
    simp [Vendor.body, Vendor.Gemini.body, silent]
  rw [body]
  exact ⟨_, .object (by simp [Json.rereads, Json.rereadsItems, Json.rereadsFields]) usage⟩

end

theorem isWritable_one : Text.isWritable 1 = true := by decide +kernel

theorem delivers_overflowing (rest : List Json) :
    Vendor.claude.Delivers overflowing (Network.answering (Vendor.claude.body overflowing :: rest)).arrival :=
  Vendor.claude.delivers_body (rereads_claude_body rfl Text.isWritable_pred_endless isWritable_one)
    (by simp [overflowing])

/-- Only one of the vendors says the sum itself, so its body cannot be read. -/
theorem overflowing_told_apart :
    Vendor.claude.Utters overflowing (Vendor.claude.body overflowing) ∧
      Vendor.gemini.Utters overflowing (Vendor.gemini.body overflowing) ∧
      ((plain .claude {}).send {} (.text "Hi")
          (.answering [Vendor.claude.body overflowing, Vendor.claude.body overflowing])).result.map Result.unlabelled ≠
        ((plain .gemini {}).send {} (.text "Hi")
          (.answering [Vendor.gemini.body overflowing, Vendor.gemini.body overflowing])).result.map Result.unlabelled := by
  have written : ∀ call ∈ overflowing.calls, Json.rereads Json.depthLimit (.object call.2) = true := by
    simp [overflowing]
  have endless : Text.isWritable overflowing.total = false := by rw [total_overflowing, Text.not_isWritable_endless]
  refine ⟨Vendor.utters_body .claude written, Vendor.utters_body .gemini written, fun same => ?_⟩
  have speaks : (plain .claude {}).provider.adapter = Vendor.claude.adapter := rfl
  have quiet : (plain .claude {}).options.verbose = false := rfl
  have delivers := delivers_overflowing [Vendor.claude.body overflowing]
  obtain ⟨result, returned, fine, _⟩ := send_of_delivers speaks rfl quiet rfl delivers {} (.text "Hi")
  have overflows : ∃ digits, Json.Overflows Json.depthLimit (Vendor.gemini.body overflowing) digits :=
    overflows_gemini_body rfl Text.isWritable_pred_endless isWritable_one endless
  obtain ⟨digits, overflows⟩ := overflows
  obtain ⟨failure, unheard, delivery⟩ := (plain .gemini {}).provider.ask_of_overflows overflows
    [Vendor.gemini.body overflowing] ((plain .gemini {}).opening {} (.text "Hi"))
  obtain ⟨other, returnedToo, failed⟩ := send_of_unheard unheard delivery
  rw [returned, returnedToo] at same
  have unlabelled : result.unlabelled.failure = other.unlabelled.failure := congrArg Result.failure (Except.ok.inj same)
  have none : result.failure = other.failure := unlabelled
  rw [fine, failed] at none
  cases none

end Assistant

end Parley

