import Mathlib.Data.List.Forall2
import Mathlib.Data.List.Nodup
import Parley.Proofs.Extraction.Placement
import Parley.Proofs.Json.Blanks
import Parley.Proofs.Json.Roundtrip
import Parley.Proofs.Scenario
import Parley.Proofs.Text.Trimming

namespace Parley.Extraction

section

variable (spec : Option Tool.Spec) {value : Json} {text before after : String}

theorem argumentsOf_spelled (reads : Json.readList text.toList = .ok value) (blank : Text.isBlankText before = true)
    (blankToo : Text.isBlankText after = true) :
    argumentsOf spec (.text (before ++ text ++ after)) = .ok (argumentsOfValue spec value) := by
  have trims : Text.trimList (before ++ text ++ after).toList = Text.trimList text.toList := by
    rw [String.toList_append, String.toList_append, Text.trimList_append_of_blank_end (List.all_eq_true.1 blankToo),
      Text.trimList_append_of_blank (List.all_eq_true.1 blank)]
  have inked : Text.isBlankText (before ++ text ++ after) = false := by
    have ink := Json.isBlankText_of_readList reads
    unfold Text.isBlankText at ink ⊢
    rw [String.toList_append, String.toList_append, List.all_append, List.all_append, ink, Bool.and_false, Bool.false_and]
  have read : Json.decoded? (Text.trimList (before ++ text ++ after).toList) = .ok (some value) :=
    Json.decoded?_eq_some (trims.symm ▸ Json.readList_trimList reads)
  simp only [argumentsOf, inked, Bool.false_eq_true, if_false, read]
  rfl

theorem argumentsOf_value (untold : ∀ raw, value ≠ .text raw) (something : value ≠ .null) :
    argumentsOf spec value = .ok (argumentsOfValue spec value) := by
  cases value with
  | null => exact absurd rfl something
  | text raw => exact absurd rfl (untold raw)
  | bool | number | list | object => rfl

/-- A text that spells a value stands for the same arguments as the value itself, blanks around it or not, exactly if the
value is not null. As a value null stands for no arguments, and as a text for its own word. -/
theorem spelled_alike_iff (untold : ∀ raw, value ≠ .text raw) (reads : Json.readList text.toList = .ok value)
    (blank : Text.isBlankText before = true) (blankToo : Text.isBlankText after = true) :
    (argumentsOf spec (.text (before ++ text ++ after)) = argumentsOf spec value ↔ value ≠ .null) ∧
      (∃ arguments, argumentsOf spec (.text (before ++ text ++ after)) = .ok arguments) ∧
      (value = .null → argumentsOf spec (.text (before ++ text ++ after)) = .ok ["null"] ∧
        argumentsOf spec value = .ok []) := by
  rw [argumentsOf_spelled spec reads blank blankToo]
  have word : argumentsOfValue spec .null = ["null"] := rfl
  refine ⟨⟨?_, ?_⟩, ⟨_, rfl⟩, ?_⟩
  · rintro same rfl
    rw [word] at same
    cases same
  · exact fun something => (argumentsOf_value spec untold something).symm
  · rintro rfl
    exact ⟨congrArg Except.ok word, rfl⟩

end

def nested : Json := .object [("tail", .list [.bool true, .null]), ("head", .null)]

theorem nested_spelled_alike :
    Json.readList (Json.render nested).toList = .ok nested ∧
      argumentsOf (some Tool.joined.spec) (.text ("\u00a0\n" ++ Json.render nested ++ "\t ")) =
        argumentsOf (some Tool.joined.spec) nested := by
  have reads : Json.readList (Json.render nested).toList = .ok nested := by
    rw [Json.render, String.toList_ofList]
    exact Json.readList_written (by decide +kernel)
  have untold (raw : String) : nested ≠ .text raw := nofun
  have blank : Text.isBlankText "\u00a0\n" = true := by decide
  have blankToo : Text.isBlankText "\t " = true := by decide
  exact ⟨reads, (spelled_alike_iff (some Tool.joined.spec) untold reads blank blankToo).1.2 nofun⟩

def now : Tool.Spec := { name := "now" }

/-- Without arguments a call comes with null from a vendor that sends values, and cannot from one that sends texts. -/
theorem null_told_apart :
    Json.readList "null".toList = .ok .null ∧ argumentsOf (some now) .null = .ok [] ∧
      argumentsOf (some now) (.text "null") = .ok ["null"] ∧ now.accepts 0 = true ∧ now.accepts 1 = false := by
  have reads : Json.readList (Json.written .null) = .ok .null := Json.readList_written rfl
  exact ⟨reads, rfl, eq_ok_of_toOption (by decide +kernel), by decide, by decide⟩

section

variable {declared : List String} {fields others : Fields}

end

end Parley.Extraction

