import Parley.Proofs.Exchange.Protocol
import Parley.Proofs.Extraction.WrittenCalls

namespace Parley

open Extraction

theorem Toolbox.find?_of_mem {toolbox : Toolbox} {spec : Tool.Spec} (member : spec ∈ toolbox.specs) :
    ∃ tool, toolbox.find? spec.name = some tool ∧ tool.spec = spec := by
  have named := specNamed?_of_mem toolbox.nodup_names member
  rw [specNamed?, specs, List.find?_map] at named
  exact Option.map_eq_some_iff.1 named

/-- A call that can be carried out is of a function that is there and is given as many arguments as it accepts, except
that the vendor may give it any number of them. -/
theorem Toolbox.Invocation.of_executable {toolbox : Toolbox} {call : Tool.Call} {result : Except Failure String}
    {runs : Journal} (executable : Executable toolbox.specs call)
    (invocation : toolbox.Invocation call.name call.arguments result runs) :
    (∀ name available, result ≠ .error (.unknownFunction name available)) ∧
      (call.source ≠ .structured → ∀ name expected got least, result ≠ .error (.arity name expected got least)) := by
  obtain ⟨spec, member, same, accepts⟩ := executable
  obtain ⟨tool, found, rfl⟩ := find?_of_mem member
  rw [same] at found
  cases invocation with
  | unknown absent => cases absent.symm.trans found
  | miscounted other refused =>
    obtain rfl := Option.some.inj (found.symm.trans other)
    refine ⟨by simp, fun heuristic => ?_⟩
    cases refused.symm.trans (accepts heuristic)
  | failed | unwritten | returned => simp [Failure.tooManyDigits]

namespace Assistant

section

variable {assistant : Assistant} {reply : Reply} {call : Tool.Call}

theorem Finds.executable (finds : assistant.Finds reply call) : Executable assistant.toolbox.specs call := by
  obtain ⟨found, searched, is⟩ := finds
  have executable := executable_of_search searched is
  unfold offered at executable
  split at executable
  next =>
    obtain ⟨spec, member, _⟩ := executable
    cases member
  next => rwa [offered_of_nodup assistant.toolbox.nodup_names] at executable

theorem Finds.invoked (finds : assistant.Finds reply call) :
    (∀ name available,
      (assistant.toolbox.invoke call.name call.arguments).1 ≠ .error (.unknownFunction name available)) ∧
    (call.source ≠ .structured → ∀ name expected got least,
      (assistant.toolbox.invoke call.name call.arguments).1 ≠ .error (.arity name expected got least)) :=
  (assistant.toolbox.invocation call.name call.arguments).of_executable finds.executable

end

theorem Stops.isVendors {assistant : Assistant} {question : Vendor.Question} {network later : Network}
    {before trail : Trail} {ending : Ending} {failure : Failure}
    (stops : assistant.Stops question network before trail ending later) (returns : ending.returns = true)
    (tells : ending.failure? = some failure) : failure.isVendors = true := by
  cases stops with
  | @unheard other _ answer delivery =>
    obtain rfl := Option.some.inj tells
    cases other with
    | transport | malformed => rfl
    | _ => cases delivery
  | lost | unshown => cases returns
  | rejected =>
    obtain rfl := Option.some.inj tells
    rfl

/-- An exchange tells of a function that is not there only if it found no call, and of a wrong number of arguments only
if the vendor made the call. -/
theorem Course.failure_cases {assistant : Assistant} {dialogue : Dialogue} {content : Content} {network later : Network}
    {trail : Trail} {ending : Ending} (course : assistant.Course dialogue content network trail ending later)
    (returns : ending.returns = true) :
    (∀ name available, ending.failure? = some (.unknownFunction name available) → trail.call = none) ∧
    ∀ name expected got least, ending.failure? = some (.arity name expected got least) →
      ∃ call, trail.call = some call ∧ call.source = .structured := by
  cases course with
  | stopped stops | stoppedAgain _ stops =>
    refine ⟨fun name available tells => ?_, fun name expected got least tells => ?_⟩
    · cases stops.isVendors returns tells
    · cases stops.isVendors returns tells
  | unsearchable | untold => cases returns
  | unknown => simp [Ending.failure?, Trail.opened, Trail.charge, Trail.reach]
  | answered | answeredAgain => simp [Ending.failure?]
  | @uncalled _ _ call failure _ calls =>
    obtain ⟨known, counted⟩ := calls.finds.invoked
    rw [calls.invoked] at known counted
    refine ⟨fun name available tells => ?_, fun name expected got least tells => ?_⟩
    · exact absurd (congrArg Except.error (Option.some.inj tells)) (known name available)
    · by_cases vendors : call.source = .structured
      · exact ⟨call, rfl, vendors⟩
      · exact absurd (congrArg Except.error (Option.some.inj tells)) (counted vendors name expected got least)

/-- Every call that a search finds can be carried out. Without a call of the vendor's, a search fails exactly if a block
that cannot be read is in its way; if none is, it finds a call exactly if some hit of the text fits, and then the call of
the first one that does. Every mention is a hit. Carrying out a call that was found never meets a function that is not
there; a result tells of one only where no call was found, and of a wrong number of arguments only where the vendor itself
made the call. -/
theorem found_calls_executable (assistant : Assistant) {limit : Int} {reading : Reading} {specs : List Tool.Spec}
    (distinct : (specs.map Tool.Spec.name).Nodup) :
    (∀ finding call, (search limit reading specs).1 = .ok finding → finding.call = some call → Executable specs call) ∧
    (reading.calls = [] → specs ≠ [] → reading.text ≠ "" →
      (∀ failure, (search limit reading specs).1 = .error failure ↔ Unsearchable limit reading specs failure) ∧
      ((∀ failure, ¬Unsearchable limit reading specs failure) → ∃ finding,
        (search limit reading specs).1 = .ok finding ∧ Settles (hitsOf limit specs reading.text) finding ∧
        (finding.call.isSome = true ↔ ∃ hit ∈ hitsOf limit specs reading.text, ∃ call, hit.call = .ok call))) ∧
    (∀ mention ∈ mentions (specs.map Tool.Spec.name) reading.text.toList,
      (specNamed? specs (String.ofList mention.name)).isSome = true) ∧
    (∀ reply call, assistant.Finds reply call →
      (∀ name available,
        (assistant.toolbox.invoke call.name call.arguments).1 ≠ .error (.unknownFunction name available)) ∧
      (call.source ≠ .structured → ∀ name expected got least,
        (assistant.toolbox.invoke call.name call.arguments).1 ≠ .error (.arity name expected got least))) ∧
    (∀ dialogue content network result, (assistant.send dialogue content network).result = .ok result →
      (∀ name available, result.failure = some (.unknownFunction name available) → result.call = none) ∧
      ∀ name expected got least, result.failure = some (.arity name expected got least) →
        ∃ call, result.call = some call ∧ call.source = .structured) := by
  have same := offered_of_nodup distinct
  refine ⟨?_, fun silent offers written => ⟨fun failure => ?_, fun unfailing => ?_⟩, fun mention held => mention_named held,
    fun reply call finds => finds.invoked, fun dialogue content network result returned => ?_⟩
  · intro finding call searched finds
    exact same ▸ executable_of_search searched finds
  · rw [search_silent_eq_error silent, same]
  · have settles := settles_settle (hitsOf limit specs reading.text)
    refine ⟨settle (hitsOf limit specs reading.text), ?_, settles, settles.found_iff⟩
    exact (search_eq_ok silent (same.symm ▸ offers) written).2 ⟨same.symm ▸ unfailing, same.symm ▸ settles⟩
  · obtain ⟨exchange, ending, later, course, sent⟩ := assistant.send_course dialogue content network
    rw [sent] at returned
    obtain ⟨returns, _, _, rfl⟩ := Exchange.conclude_eq_ok returned
    exact course.failure_cases returns

def overfullEcho : String := "\x7b\"name\": \"echo\", \"arguments\": [\"hi\", \"ho\"]\x7d echo(\"hi\")"

theorem overfull_echo_passed_over :
    ∃ finding, (search defaultLimit (textOnly overfullEcho) [Tool.echo.spec]).1 = .ok finding ∧
      Settles (hitsOf defaultLimit [Tool.echo.spec] overfullEcho) finding ∧
      finding.call = some ⟨"echo", ["hi"], .text⟩ ∧ Executable [Tool.echo.spec] ⟨"echo", ["hi"], .text⟩ := by
  have found : (search defaultLimit (textOnly overfullEcho) [Tool.echo.spec]).1.toOption.bind Extraction.Finding.call =
      some ⟨"echo", ["hi"], .text⟩ := by decide +kernel
  obtain ⟨finding, searched, finds⟩ := Option.bind_eq_some_iff.1 found
  have searched := eq_ok_of_toOption searched
  obtain ⟨executable, settled, _⟩ := @found_calls_executable (plain .gpt (.only .echo)) defaultLimit
    (textOnly overfullEcho) [Tool.echo.spec] (by decide)
  obtain ⟨fails, settles⟩ := settled rfl (by decide) (by decide)
  have unfailing : ∀ failure, ¬Unsearchable defaultLimit (textOnly overfullEcho) [Tool.echo.spec] failure := by
    intro failure unsearchable
    cases searched.symm.trans ((fails failure).2 unsearchable)
  obtain ⟨other, again, settles, _⟩ := settles unfailing
  obtain rfl := Except.ok.inj (again.symm.trans searched)
  exact ⟨other, searched, settles, finds, executable other _ searched finds⟩

/-- A block that cannot be read is in the way of a call that fits. -/
theorem endless_number_hides_echo :
    (∃ hit ∈ hitsOf defaultLimit [Tool.echo.spec] hiddenEcho, hit.call = .ok ⟨"echo", ["hi"], .text⟩) ∧
    ∃ text, (search defaultLimit (textOnly hiddenEcho) [Tool.echo.spec]).1 = .error (.foreign .invalidValue text) := by
  refine ⟨?_, search_hiddenEcho⟩
  obtain ⟨later, hits⟩ := @textHits_callText [Tool.echo.spec] Tool.echo.spec ["hi"] 1 []
    (" " ++ String.ofList endlessBlock) (by decide) (by decide) (by decide) (by decide) (by decide) rfl (by decide)
    (by decide)
  have mentioned : textHits [Tool.echo.spec] hiddenEcho.toList = _ :: later := hits
  exact ⟨_, List.mem_append_right _ (mentioned ▸ List.mem_cons_self), rfl⟩

end Assistant

end Parley

