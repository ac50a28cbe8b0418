import Parley.Extraction.Quoting

namespace Parley.Extraction

inductive Misfit where
  | unknownKeyword (key : String)
  | positionalAfterKeyword
  | missing (names : List String)
  | gap (given : List String) (leftOut : String)
  | unclosed
  | count (got : Nat) (signature wanted : String)
  deriving DecidableEq, Repr

def Misfit.reason : Misfit → String
  | unknownKeyword key => s!"uses unknown argument '{key}'"
  | positionalAfterKeyword => "has a positional argument after a keyword argument"
  | missing names => "is missing argument(s) " ++ ", ".intercalate names
  | gap given leftOut => "gives " ++ ", ".intercalate given ++ " but leaves out " ++ leftOut
  | unclosed => "has no closing parenthesis"
  | count got signature wanted => s!"has {Text.natText got} argument(s) where {signature} expects {wanted}"

def isNameStart (c : Char) : Bool := ('A' ≤ c && c ≤ 'Z') || ('a' ≤ c && c ≤ 'z') || c = '_'

def isNameChar (c : Char) : Bool := isNameStart c || Text.isAsciiDigit c

theorem isNameChar_cases {c : Char} (held : isNameChar c = true) :
    (0x30 ≤ c.toNat ∧ c.toNat ≤ 0x39) ∨ (0x41 ≤ c.toNat ∧ c.toNat ≤ 0x7A) := by
  simp only [isNameChar, isNameStart, Text.isAsciiDigit, Text.asciiDigit?, Bool.or_eq_true, Bool.and_eq_true,
    decide_eq_true_eq] at held
  obtain ((⟨least, greatest⟩ | ⟨least, greatest⟩) | rfl) | digit := held
  · have least : 0x41 ≤ c.toNat := least
    have greatest : c.toNat ≤ 0x5A := greatest
    omega
  · have least : 0x61 ≤ c.toNat := least
    have greatest : c.toNat ≤ 0x7A := greatest
    omega
  · decide
  · split at digit
    next bounds =>
      have least : 0x30 ≤ c.toNat := bounds.1
      have greatest : c.toNat ≤ 0x39 := bounds.2
      omega
    next => cases digit

theorem not_isBlank_of_isNameChar {c : Char} (held : isNameChar c = true) : Text.isBlank c = false := by
  have bounds := isNameChar_cases held
  simp only [Text.isBlank, Text.inRanges, Text.blankRanges, List.any_cons, List.any_nil, Bool.or_false,
    Bool.or_eq_false_iff, Bool.and_eq_false_iff, decide_eq_false_iff_not]
  omega

theorem ne_of_isNameChar {c other : Char} (held : isNameChar c = true) (barred : isNameChar other = false) :
    c ≠ other := by
  rintro rfl
  cases held.symm.trans barred

def keyword? (part : List Char) : Option (String × List Char) :=
  match part with
  | [] => none
  | c :: _ =>
      if isNameStart c then
        match (part.dropWhile isNameChar).dropWhile Text.isBlank with
        | '=' :: value => some (String.ofList (part.takeWhile isNameChar), value.dropWhile Text.isBlank)
        | _ => none
      else none

/-- The arguments read so far: positional ones in order, keywords with the latest value of each key. -/
structure Written where
  positional : List String := []
  keywords : Table String := []

def Written.add (spec : Tool.Spec) (written : Written) (part : List Char) : Except Misfit Written :=
  match keyword? part with
  | some (key, value) =>
      if spec.arguments.contains key then
        .ok { written with keywords := written.keywords.put key (String.ofList (unquote value)) }
      else .error (.unknownKeyword key)
  | none =>
      if written.keywords.isEmpty then
        .ok { written with positional := written.positional ++ [String.ofList (unquote part)] }
      else .error .positionalAfterKeyword

def Written.read (spec : Tool.Spec) : Written → List (List Char) → Except Misfit Written
  | written, [] => .ok written
  | written, part :: rest => do read spec (← written.add spec part) rest

/-- The keyword values of the arguments that follow the positional ones, up to the first that is not given. -/
def keywordRun (keywords : Table String) : List String → List String
  | [] => []
  | name :: rest =>
      match keywords.lookup name with
      | some value => value :: keywordRun keywords rest
      | none => []

def Written.values (spec : Tool.Spec) (written : Written) : Except Misfit (List String) :=
  if written.keywords.isEmpty then .ok written.positional
  else
    let values := written.positional ++ keywordRun written.keywords (spec.arguments.drop written.positional.length)
    let absent := spec.arguments.drop values.length
    let given := fun name => (written.keywords.lookup name).isSome
    let missing := (absent.take (spec.minArity - values.length).toNat).filter fun name => !given name
    let skipped := absent.filter given
    match missing, skipped with
    | [], [] => .ok values
    | [], skipped => .error (.gap skipped (absent.headD ""))
    | missing, _ => .error (.missing missing)

def boundArguments (spec : Tool.Spec) (inner : List Char) : Except Misfit (List String) := do
  (← Written.read spec {} (splitArguments inner)).values spec

def countMisfit? (spec : Tool.Spec) (arguments : List String) : Option Misfit :=
  if spec.accepts arguments.length then none
  else some (.count arguments.length spec.signature (Failure.wantedCount spec.minArity spec.arity))

end Parley.Extraction

