import Parley.Json.Basic
import Parley.Json.Units
import Parley.Text.Search
import Parley.Text.Numeral

/-!
Reading JSON text: tokens first, then a machine that keeps the containers still open on a stack and advances by
one token at a time. Besides the standard's grammar the words `NaN`, `Infinity` and `-Infinity` are numbers. Integers
with too many digits and containers too deep within others are out of bounds: they end the reading where they stand.
-/

namespace Parley.Json

def isGap (c : Char) : Bool := c = ' ' || c = '\t' || c = '\n' || c = '\r'

inductive Token where
  | openList
  | closeList
  | openObject
  | closeObject
  | comma
  | colon
  | atom (value : Json)
  /-- An integer of more digits than are read. -/
  | oversized (digits : Nat)
  /-- Text that is no token; nothing behind it is looked at. -/
  | junk

def escaped? : Char → Option Char
  | '"' => some '"'
  | '\\' => some '\\'
  | '/' => some '/'
  | 'b' => some '\x08'
  | 'f' => some '\x0C'
  | 'n' => some '\n'
  | 'r' => some '\r'
  | 't' => some '\t'
  | _ => none

def hexUnit? (a b c d : Char) : Option Nat := do
  let a ← Text.hexValue? a
  let b ← Text.hexValue? b
  let c ← Text.hexValue? c
  let d ← Text.hexValue? d
  some (((a * 16 + b) * 16 + c) * 16 + d)

/-- The units of a text up to its closing quote, and what follows the quote. -/
def scanUnits : List Char → Option (List Nat × List Char)
  | [] => none
  | '"' :: rest => some ([], rest)
  | '\\' :: 'u' :: a :: b :: c :: d :: rest =>
      match hexUnit? a b c d, scanUnits rest with
      | some unit, some (units, rest) => some (unit :: units, rest)
      | _, _ => none
  | '\\' :: e :: rest =>
      match escaped? e, scanUnits rest with
      | some c, some (units, rest) => some (c.toNat :: units, rest)
      | _, _ => none
  | c :: rest =>
      if c.toNat < 0x20 then none
      else match scanUnits rest with
        | some (units, rest) => some (c.toNat :: units, rest)
        | none => none

/-- The text up to a closing quote, and what follows the quote. An escape for a lone surrogate makes it malformed, as
`charsOfUnits?` says. -/
def scanText (cs : List Char) : Option (String × List Char) :=
  match scanUnits cs with
  | some (units, rest) => (charsOfUnits? units).map fun chars => (String.ofList chars, rest)
  | none => none

def leadingDigits (cs : List Char) : List Char := cs.takeWhile Text.isAsciiDigit

def afterDigits (cs : List Char) : List Char := cs.dropWhile Text.isAsciiDigit

/-- The whole part of a number: a zero alone, or digits that do not start with one. -/
def scanWhole : List Char → Option (List Char × List Char)
  | '0' :: rest => some (['0'], rest)
  | cs => if (leadingDigits cs).isEmpty then none else some (leadingDigits cs, afterDigits cs)

def scanFraction : List Char → List Char × List Char
  | '.' :: rest => if (leadingDigits rest).isEmpty then ([], '.' :: rest) else (leadingDigits rest, afterDigits rest)
  | cs => ([], cs)

def scanExponent : List Char → Option Int × List Char
  | [] => (none, [])
  | c :: rest =>
      if c = 'e' || c = 'E' then
        let (negative, body) := Text.takeSign rest
        if (leadingDigits body).isEmpty then (none, c :: rest)
        else
          let size : Int := Text.ofDigits ((leadingDigits body).filterMap Text.asciiDigit?)
          (some (if negative then -size else size), afterDigits body)
      else (none, c :: rest)

/-- A number without its sign. With a fraction or an exponent it is a float, else an integer. -/
def scanUnsigned (negative : Bool) (cs : List Char) : Option (Number × List Char) :=
  match scanWhole cs with
  | none => none
  | some (whole, rest) =>
      let (fraction, rest) := scanFraction rest
      let (exponent, rest) := scanExponent rest
      let digits := (whole ++ fraction).filterMap Text.asciiDigit?
      if fraction.isEmpty && exponent.isNone then
        let value : Int := Text.ofDigits digits
        some (.int (if negative then -value else value), rest)
      else
        let value := Text.scaled digits (exponent.getD 0 - fraction.length)
        some (.float (if negative then -value else value), rest)

def scanNumber : List Char → Option (Number × List Char)
  | '-' :: rest => scanUnsigned true rest
  | cs => scanUnsigned false cs

def words : List (List Char × Json) :=
  [("null".toList, .null), ("true".toList, .bool true), ("false".toList, .bool false),
    ("NaN".toList, .number (.float (0.0 / 0.0))), ("Infinity".toList, .number (.float (1.0 / 0.0))),
    ("-Infinity".toList, .number (.float (-1.0 / 0.0)))]

def scanWord (cs : List Char) : Option (Json × List Char) :=
  words.findSome? fun word => (Text.afterList? word.1 cs).map fun rest => (word.2, rest)

def numberToken : Number → Token
  | .int value =>
      if Text.isWritable value then .atom (.number (.int value)) else .oversized (Text.natDigits value.natAbs).length
  | .float value => .atom (.number (.float value))

def scanToken : List Char → Option (Token × List Char)
  | '[' :: rest => some (.openList, rest)
  | ']' :: rest => some (.closeList, rest)
  | '\x7b' :: rest => some (.openObject, rest)
  | '\x7d' :: rest => some (.closeObject, rest)
  | ',' :: rest => some (.comma, rest)
  | ':' :: rest => some (.colon, rest)
  | '"' :: rest => (scanText rest).map fun found => (.atom (.text found.1), found.2)
  | cs =>
      match scanWord cs with
      | some (value, rest) => some (.atom value, rest)
      | none => (scanNumber cs).map fun found => (numberToken found.1, found.2)

theorem scanUnits_shorter {cs : List Char} {found : List Nat × List Char} (h : scanUnits cs = some found) :
    found.2.length < cs.length := by
  fun_induction scanUnits cs generalizing found <;> simp_all <;> subst h <;> simp <;> omega

theorem scanText_shorter {cs rest : List Char} {text : String} (h : scanText cs = some (text, rest)) :
    rest.length < cs.length := by
  unfold scanText at h
  split at h
  · next units tail found =>
    obtain ⟨chars, _, same⟩ := Option.map_eq_some_iff.1 h
    obtain ⟨_, rfl⟩ := Prod.mk.inj same
    exact scanUnits_shorter found
  · simp at h

theorem afterList?_length {pattern cs rest : List Char} (h : Text.afterList? pattern cs = some rest) :
    rest.length + pattern.length = cs.length := by
  induction pattern generalizing cs with
  | nil => simp_all [Text.afterList?]
  | cons p pattern ih =>
    cases cs with
    | nil => simp [Text.afterList?] at h
    | cons c cs =>
      simp only [Text.afterList?] at h
      split at h
      · have := ih h
        simp; omega
      · simp at h

theorem scanWord_shorter {cs rest : List Char} {value : Json} (h : scanWord cs = some (value, rest)) :
    rest.length < cs.length := by
  obtain ⟨word, member, found⟩ := List.exists_of_findSome?_eq_some h
  obtain ⟨tail, after, same⟩ := Option.map_eq_some_iff.1 found
  obtain ⟨_, rfl⟩ := Prod.mk.inj same
  have length := afterList?_length after
  have positive : 0 < word.1.length := by
    simp only [words, List.mem_cons, List.not_mem_nil, or_false] at member
    rcases member with rfl | rfl | rfl | rfl | rfl | rfl <;> decide
  omega

theorem afterDigits_length (cs : List Char) : (leadingDigits cs).length + (afterDigits cs).length = cs.length := by
  rw [← List.length_append, leadingDigits, afterDigits, List.takeWhile_append_dropWhile]

theorem scanWhole_shorter {cs whole rest : List Char} (h : scanWhole cs = some (whole, rest)) :
    rest.length < cs.length := by
  unfold scanWhole at h
  split at h
  · simp_all
  · split at h
    · simp at h
    · next nonempty =>
      have length := afterDigits_length cs
      simp only [Option.some.injEq, Prod.mk.injEq] at h
      have positive : 0 < (leadingDigits cs).length := by
        simpa [List.isEmpty_iff, List.length_pos_iff] using nonempty
      rw [← h.2]; omega

theorem scanFraction_length (cs : List Char) : (scanFraction cs).2.length ≤ cs.length := by
  unfold scanFraction
  split
  · next rest =>
    split
    · simp
    · have := afterDigits_length rest
      simp; omega
  · simp

theorem takeSign_length (cs : List Char) : (Text.takeSign cs).2.length ≤ cs.length := by
  unfold Text.takeSign
  split <;> simp

theorem scanExponent_length (cs : List Char) : (scanExponent cs).2.length ≤ cs.length := by
  unfold scanExponent
  split
  · simp
  · next c rest =>
    have sign := takeSign_length rest
    have digits := afterDigits_length (Text.takeSign rest).2
    split
    · dsimp only
      split
      · simp
      · simp
        omega
    · simp

theorem scanUnsigned_shorter {negative : Bool} {cs rest : List Char} {number : Number}
    (h : scanUnsigned negative cs = some (number, rest)) : rest.length < cs.length := by
  unfold scanUnsigned at h
  split at h
  · simp at h
  · next whole tail found =>
    have start := scanWhole_shorter found
    have fraction := scanFraction_length tail
    have exponent := scanExponent_length (scanFraction tail).2
    dsimp only at h
    split at h <;> simp only [Option.some.injEq, Prod.mk.injEq] at h <;> rw [← h.2] <;> omega

theorem scanNumber_shorter {cs rest : List Char} {number : Number} (h : scanNumber cs = some (number, rest)) :
    rest.length < cs.length := by
  unfold scanNumber at h
  split at h
  · have := scanUnsigned_shorter h
    simp; omega
  · exact scanUnsigned_shorter h

theorem scanToken_shorter {cs rest : List Char} {token : Token} (h : scanToken cs = some (token, rest)) :
    rest.length < cs.length := by
  unfold scanToken at h
  split at h
  case h_7 tail =>
    obtain ⟨⟨text, after⟩, found, same⟩ := Option.map_eq_some_iff.1 h
    obtain ⟨_, rfl⟩ := Prod.mk.inj same
    have := scanText_shorter found
    simp; omega
  case h_8 =>
    split at h
    · next value after found =>
      simp only [Option.some.injEq, Prod.mk.injEq] at h
      rw [← h.2]
      exact scanWord_shorter found
    · obtain ⟨⟨number, after⟩, found, same⟩ := Option.map_eq_some_iff.1 h
      obtain ⟨_, rfl⟩ := Prod.mk.inj same
      exact scanNumber_shorter found
  all_goals
    simp only [Option.some.injEq, Prod.mk.injEq] at h
    simp [← h.2]

/-- The tokens of a text up to the first place where there is none. -/
def tokens (cs : List Char) : List Token :=
  match cs with
  | [] => []
  | c :: rest =>
      if isGap c then tokens rest
      else match _found : scanToken (c :: rest) with
        | none => [.junk]
        | some (token, rest) => token :: tokens rest
termination_by cs.length
decreasing_by
  · simp
  · exact scanToken_shorter _found

/-- A container that is still open: a list with the items before the current one, last first, or an object with
the fields before the current one and the current key. -/
inductive Frame where
  | list (before : List Json)
  | object (before : Fields) (key : String)

inductive Stage where
  | value
  | firstItem
  | firstKey
  | key (before : Fields)
  | colon (before : Fields) (key : String)
  | done (value : Json)

/-- The machine's state: its stage and the open containers, innermost first. -/
abbrev Reading := Stage × List Frame

inductive Defect where
  | malformed
  /-- An integer of more digits than are read. -/
  | oversized (digits : Nat)
  /-- A container within more containers than may be open. -/
  | tooDeep
  deriving DecidableEq, Repr

/-- The greatest number of containers that may be open at once. The library sets no such bound: this is what the
runtime's limit of a thousand nested calls leaves to the reader where the library calls it, and it is less where more
calls are under way. -/
def depthLimit : Nat := 990

def openIn (frames : List Frame) (stage : Stage) : Except Defect Reading :=
  if frames.length < depthLimit then .ok (stage, frames) else .error .tooDeep

def startValue (token : Token) (frames : List Frame) : Except Defect Reading :=
  match token with
  | .atom value => .ok (.done value, frames)
  | .openList => openIn frames .firstItem
  | .openObject => openIn frames .firstKey
  | .oversized digits => .error (.oversized digits)
  | _ => .error .malformed

def afterValue (value : Json) (token : Token) (frames : List Frame) : Except Defect Reading :=
  match token, frames with
  | .comma, .list before :: frames => .ok (.value, .list (value :: before) :: frames)
  | .closeList, .list before :: frames => .ok (.done (.list (value :: before).reverse), frames)
  | .comma, .object before key :: frames => .ok (.key (before.put key value), frames)
  | .closeObject, .object before key :: frames => .ok (.done (.object (before.put key value)), frames)
  | _, _ => .error .malformed

def advance (state : Reading) (token : Token) : Except Defect Reading :=
  match state with
  | (.value, frames) => startValue token frames
  | (.firstItem, frames) =>
      match token with
      | .closeList => .ok (.done (.list []), frames)
      | token => startValue token (.list [] :: frames)
  | (.firstKey, frames) =>
      match token with
      | .closeObject => .ok (.done (.object []), frames)
      | .atom (.text key) => .ok (.colon [] key, frames)
      | _ => .error .malformed
  | (.key before, frames) =>
      match token with
      | .atom (.text key) => .ok (.colon before key, frames)
      | _ => .error .malformed
  | (.colon before key, frames) =>
      match token with
      | .colon => .ok (.value, .object before key :: frames)
      | _ => .error .malformed
  | (.done value, frames) => afterValue value token frames

/-- The machine's state after a list of tokens. The first token that does not fit decides what is wrong. -/
def run (state : Reading) : List Token → Except Defect Reading
  | [] => .ok state
  | token :: rest => (advance state token).bind fun state => run state rest

def ended : Reading → Except Defect Json
  | (.done value, []) => .ok value
  | _ => .error .malformed

/-- The value that a list of characters spells, or why there is none. -/
def readList (cs : List Char) : Except Defect Json := (run (.value, []) (tokens cs)).bind ended

def parseList? (cs : List Char) : Option Json := (readList cs).toOption

def parse? (text : String) : Option Json := parseList? text.toList

theorem run_append (state : Reading) (first second : List Token) :
    run state (first ++ second) = (run state first).bind fun state => run state second := by
  induction first generalizing state with
  | nil => rfl
  | cons token rest ih =>
    simp only [List.cons_append, run]
    cases advance state token with
    | error _ => rfl
    | ok next => exact ih next

end Parley.Json

