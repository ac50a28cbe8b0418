import Mathlib
import Parley.CommandLine.Chat
import Parley.Proofs.Text.Trimming

namespace Parley

namespace CommandLine

def typed (input : String) : List String :=
  let pieces := Text.split '\n' input
  if pieces.getLast? = some "" then pieces.dropLast else pieces

theorem typed_of_pieces {input : String} {before : List (List Char)} {last : List Char}
    (pieces : Text.splitList '\n' input.toList = before ++ [last]) :
    typed input = (before ++ if last = [] then [] else [last]).map String.ofList := by
  have ends : String.ofList last = "" ↔ last = [] := by rw [← String.toList_inj]; simp
  simp only [typed, Text.split, pieces, List.map_append, List.map_singleton, List.getLast?_concat, List.dropLast_concat,
    Option.some.injEq, ends]
  split
  next => simp
  next => rfl

theorem typed_lossless (input : String) :
    (∀ line ∈ typed input, '\n' ∉ line.toList) ∧
      (String.join ((typed input).map (· ++ "\n")) = input ∨
        String.join ((typed input).map (· ++ "\n")) = input ++ "\n") := by
  obtain ⟨before, last, pieces, joined, plain⟩ := Text.splitList_pieces '\n' input.toList
  have lines (pieces : List (List Char)) : (String.join ((pieces.map String.ofList).map (· ++ "\n"))).toList =
      pieces.flatMap fun piece => piece ++ ['\n'] := by
    simp [List.flatMap_map]
  rw [List.forall_mem_append, List.forall_mem_singleton] at plain
  rw [typed_of_pieces pieces, ← String.toList_inj, ← String.toList_inj, lines, String.toList_append, ← joined]
  cases last with
  | nil => exact ⟨by simpa using plain.1, .inl (by simp)⟩
  | cons c rest => exact ⟨by simpa [or_imp, forall_and] using plain, .inr (by simp)⟩

theorem readsOf_eq (input : String) : readsOf input = (typed input).map Read.line ++ [.done] := by
  obtain ⟨before, last, pieces, -, -⟩ := Text.splitList_pieces '\n' input.toList
  have rest : (Option.filter (fun last => !last.isEmpty) (some last)).toList = if last = [] then [] else [last] := by
    cases last with
    | nil => rfl
    | cons => rfl
  rw [typed_of_pieces pieces, readsOf, pieces, List.dropLast_concat, List.getLast?_concat, rest, List.map_map]
  rfl

def leading (lines : List String) : List Directive :=
  (lines.takeWhile isCommand).filterMap fun line => directive? (Text.trim line)

def remainder (lines : List String) : String := Text.trim ("\n".intercalate (lines.dropWhile isCommand))

structure Doings where
  /-- The commands that are carried out, in order. -/
  directives : List Directive
  /-- The message that is sent after them. -/
  message : Option String
  deriving DecidableEq

/-- The remaining text is a command like the leading ones or else the message, unless there is none; a command to leave
ends everything. -/
def Doings.of (lines : List String) : Doings where
  directives := (leading lines ++ (directive? (remainder lines)).toList).takeWhile (· ≠ .leave)
  message :=
    if .leave ∈ leading lines ∨ remainder lines = "" ∨ (directive? (remainder lines)).isSome then none
    else some (remainder lines)

section

variable {line : String} {directive : Directive}

theorem isCommand_of_directive (command : directive? (Text.trim line) = some directive) : isCommand line = true := by
  rw [isCommand, command]
  rfl

theorem leading_command (command : directive? (Text.trim line) = some directive) (rest : List String) :
    leading (line :: rest) = directive :: leading rest := by
  simp only [leading, List.takeWhile_cons_of_pos (isCommand_of_directive command), List.filterMap_cons, command]

theorem remainder_command (command : directive? (Text.trim line) = some directive) (rest : List String) :
    remainder (line :: rest) = remainder rest := by
  simp only [remainder, List.dropWhile_cons_of_pos (isCommand_of_directive command)]

theorem Doings.of_leave (leaves : directive? (Text.trim line) = some .leave) (rest : List String) :
    of (line :: rest) = ⟨[], none⟩ := by
  simp [of, leading_command leaves]

theorem Doings.of_command (command : directive? (Text.trim line) = some directive) (stays : directive ≠ .leave)
    (rest : List String) : of (line :: rest) = ⟨directive :: (of rest).directives, (of rest).message⟩ := by
  simp [of, leading_command command, remainder_command command, stays, stays.symm]

theorem takeWhile_isCommand_of_plain (plain : directive? (Text.trim line) = none) (rest : List String) :
    (line :: rest).takeWhile isCommand = [] := by
  simp [isCommand, plain]

theorem Doings.of_text {lines : List String} (text : lines.takeWhile isCommand = []) :
    of lines = ⟨(directive? (remainder lines)).toList.takeWhile (· ≠ .leave),
      if remainder lines = "" ∨ (directive? (remainder lines)).isSome then none else some (remainder lines)⟩ := by
  simp [of, leading, text]

end

theorem gather_lines (lines : List String) : gather (lines.map Read.line ++ [.done]) = (lines, []) := by
  induction lines with
  | nil => rfl
  | cons line rest ih => rw [List.map_cons, List.cons_append, gather, ih]

theorem readPrompt_text {lines : List String} (text : lines.takeWhile isCommand = []) :
    readPrompt (lines.map Read.line ++ [.done]) = (remainder lines, []) := by
  have whole : lines.dropWhile isCommand = lines := by
    rw [← List.nil_append (lines.dropWhile isCommand), ← text, List.takeWhile_append_dropWhile]
  rw [remainder, whole]
  cases lines with
  | nil => rfl
  | cons line rest =>
    have plain : isCommand line = false := by simpa [List.takeWhile_cons] using text
    simp only [List.map_cons, List.cons_append, readPrompt, plain, gather_lines, Bool.false_eq_true, if_false]

namespace Chat

def obey (assistant : Assistant) (chat : Chat) : Directive → Chat
  | .leave => chat
  | .forget => { chat with dialogue := chat.dialogue.reset }
  | .recall => chat.print chat.recollection
  | .persona => chat.print [personaLine assistant]

def obeyAll (assistant : Assistant) (chat : Chat) (directives : List Directive) : Chat :=
  (directives.foldl (fun chat directive => (chat.print [invitation]).obey assistant directive) chat).print [invitation]

/-- A chat after its last prompt. One that goes on invites another prompt in vain. -/
def conclude : Chat × Standing → Chat × Option Failure
  | (after, .goesOn) => (after.print [invitation], none)
  | (after, .over) => (after, none)
  | (after, .broken failure) => (after, some failure)

section

variable (assistant : Assistant) (chat : Chat)

theorem step_directive {prompt : String} {directive : Directive} (command : directive? prompt = some directive) :
    chat.step assistant prompt = (chat.obey assistant directive, if directive = .leave then .over else .goesOn) := by
  have filled : prompt.isEmpty = false := by
    rw [← Bool.not_eq_true, String.isEmpty_iff]
    rintro rfl
    cases command
  simp only [step, filled, command]
  cases directive with
  | _ => rfl

theorem run_nil : run assistant chat [] = (chat.print [invitation], none) := by rw [run]

theorem run_leave {line : String} (leaves : directive? (Text.trim line) = some .leave) (rest : List Read) :
    run assistant chat (.line line :: rest) = (chat.print [invitation], none) := by
  rw [run, readPrompt, if_pos (isCommand_of_directive leaves), step_directive assistant _ leaves]
  rfl

theorem run_command {line : String} {directive : Directive} (command : directive? (Text.trim line) = some directive)
    (stays : directive ≠ .leave) (rest : List Read) :
    run assistant chat (.line line :: rest) =
      run assistant ((chat.print [invitation]).obey assistant directive) rest := by
  rw [run, readPrompt, if_pos (isCommand_of_directive command), step_directive assistant _ command, if_neg stays]

theorem conclude_step (prompt : String) :
    conclude ((chat.print [invitation]).step assistant prompt) =
      let ready := chat.obeyAll assistant ((directive? prompt).toList.takeWhile (· ≠ .leave))
      if prompt = "" ∨ (directive? prompt).isSome then (ready, none) else conclude (ready.send assistant prompt) := by
  cases command : directive? prompt with
  | some directive =>
    rw [step_directive assistant _ command]
    cases directive with
    | _ => simp [obeyAll, obey, conclude]
  | none =>
    by_cases empty : prompt = ""
    · simp [empty, step, conclude, obeyAll]
    · simp [empty, step, command, obeyAll]

def perform (assistant : Assistant) (chat : Chat) (doings : Doings) : Chat × Option Failure :=
  let ready := chat.obeyAll assistant doings.directives
  doings.message.elim (ready, none) fun prompt => conclude (ready.send assistant prompt)

theorem run_text {lines : List String} (text : lines.takeWhile isCommand = []) :
    run assistant chat (lines.map Read.line ++ [.done]) = chat.perform assistant (Doings.of lines) := by
  have read := readPrompt_text text
  have last : run assistant chat (lines.map Read.line ++ [.done]) =
      conclude ((chat.print [invitation]).step assistant (remainder lines)) := by
    cases reads : lines.map Read.line ++ [.done] with
    | nil => simp at reads
    | cons first later =>
      rw [reads] at read
      rw [run, read]
      cases (chat.print [invitation]).step assistant (remainder lines) with
      | mk after standing =>
        cases standing with
        | goesOn => exact run_nil assistant after
        | _ => rfl
  rw [last, conclude_step, Doings.of_text text, perform]
  by_cases silent : remainder lines = "" ∨ (directive? (remainder lines)).isSome
  · simp only [if_pos silent, Option.elim_none]
  · simp only [if_neg silent, Option.elim_some]

/-- A chat carries out its commands and then sends its message, if there is one. -/
theorem run_lines (lines : List String) :
    run assistant chat (lines.map Read.line ++ [.done]) = chat.perform assistant (Doings.of lines) := by
  induction lines generalizing chat with
  | nil => exact run_text assistant chat rfl
  | cons line rest ih =>
    cases command : directive? (Text.trim line) with
    | none => exact run_text assistant chat (takeWhile_isCommand_of_plain command rest)
    | some directive =>
      rw [List.map_cons, List.cons_append]
      by_cases leaves : directive = .leave
      · subst leaves
        rw [run_leave assistant chat command, Doings.of_leave command]
        rfl
      · rw [run_command assistant chat command leaves, ih, Doings.of_command command leaves]
        rfl

end

end Chat

end CommandLine

end Parley

