import Parley.Extraction.Search
import Parley.Proofs.Failing

namespace Parley.Extraction

/-- A list of characters spells JSON that is out of bounds. -/
def OutOfBounds (cs : List Char) (failure : Failure) : Prop :=
  ∃ defect, Json.readList cs = .error defect ∧ defect ≠ .malformed ∧ failure = defect.failure

theorem OutOfBounds.foreign {cs : List Char} {failure : Failure} (out : OutOfBounds cs failure) :
    failure.isOwn = false := by
  obtain ⟨defect, _, _, rfl⟩ := out
  cases defect with
  | malformed | oversized | tooDeep => rfl

theorem decoded?_eq_error {cs : List Char} {failure : Failure} :
    Json.decoded? cs = .error failure ↔ OutOfBounds cs failure := by
  unfold Json.decoded? OutOfBounds
  cases Json.readList cs with
  | ok value => simp
  | error defect =>
    cases defect with
    | malformed => simp
    | oversized | tooDeep => simp [eq_comm]

theorem decoded?_eq_ok_none {cs : List Char} : Json.decoded? cs = .ok none ↔ Json.readList cs = .error .malformed := by
  unfold Json.decoded?
  cases Json.readList cs with
  | ok value => simp
  | error defect =>
    cases defect with
    | malformed | oversized | tooDeep => simp

/-- Arguments given as a text that spells JSON out of bounds. -/
def Overlong (arguments : Json) (failure : Failure) : Prop :=
  ∃ raw, arguments = .text raw ∧ Text.isBlankText raw = false ∧ OutOfBounds (Text.trimList raw.toList) failure

theorem argumentsOf_eq_error {spec : Option Tool.Spec} {arguments : Json} {failure : Failure} :
    argumentsOf spec arguments = .error failure ↔ Overlong arguments failure := by
  unfold Overlong
  cases arguments with
  | text raw =>
    simp only [argumentsOf, Json.text.injEq, exists_eq_left']
    split
    next blank => simp [blank]
    next written =>
      rw [bind_eq_error, decoded?_eq_error]
      simp only [Bool.eq_false_iff.2 written, true_and]
      refine or_iff_left ?_
      intro holds
      obtain ⟨decoded, _, failed⟩ := holds
      cases decoded with
      | none => cases failed
      | some value => cases failed
  | _ => simp [argumentsOf]

/-- A block of balanced braces that cannot be read: one of its readings is out of bounds and those before it are not
JSON, or it calls a function with arguments that are out of bounds. -/
def Unreadable (limit : Int) (table : List Tool.Spec) (block : List Char) (failure : Failure) : Prop :=
  isTooLong limit block = false ∧
    ((∃ before reading after, readings block = before ++ reading :: after ∧
        (∀ earlier ∈ before, Json.readList earlier = .error .malformed) ∧ OutOfBounds reading failure) ∨
      ∃ fields name arguments spec, payload? block = .ok (some fields) ∧
        describedCall? (.object fields) = some (name, arguments) ∧ specNamed? table name = some spec ∧
        Overlong arguments failure)

theorem payload?_eq_error {block : List Char} {failure : Failure} :
    payload? block = .error failure ↔
      ∃ before reading after, readings block = before ++ reading :: after ∧
        (∀ earlier ∈ before, Json.readList earlier = .error .malformed) ∧ OutOfBounds reading failure := by
  unfold payload?
  simp only [bind_eq_error, findSomeM?_eq_error, decoded?_eq_error, decoded?_eq_ok_none]
  refine or_iff_left ?_
  intro holds
  obtain ⟨value, _, failed⟩ := holds
  split at failed
  · cases failed
  · cases failed

theorem writtenCall?_eq_ok {limit : Int} {block : List Char} {called : String × Json} :
    writtenCall? limit block = .ok (some called) ↔
      isTooLong limit block = false ∧
        ∃ fields, payload? block = .ok (some fields) ∧ describedCall? (.object fields) = some called := by
  unfold writtenCall?
  cases isTooLong limit block with
  | true => simp
  | false =>
    simp only [Bool.false_eq_true, if_false, true_and]
    cases payload? block with
    | error failure => simp [Except.map]
    | ok payload =>
      cases payload with
      | none => simp [Except.map]
      | some fields => simp [Except.map]

theorem writtenCall?_eq_error {limit : Int} {block : List Char} {failure : Failure} :
    writtenCall? limit block = .error failure ↔ isTooLong limit block = false ∧ payload? block = .error failure := by
  unfold writtenCall?
  cases isTooLong limit block with
  | true => simp
  | false => simp [map_eq_error]

theorem jsonHit?_eq_error {limit : Int} {table : List Tool.Spec} {block : List Char} {failure : Failure} :
    jsonHit? limit table block = .error failure ↔ Unreadable limit table block failure := by
  unfold jsonHit? Unreadable
  rw [bind_eq_error, writtenCall?_eq_error, payload?_eq_error, and_or_left]
  refine or_congr_right ?_
  constructor
  · intro holds
    obtain ⟨written, read, failed⟩ := holds
    cases written with
    | none => cases failed
    | some called =>
      obtain ⟨name, arguments⟩ := called
      obtain ⟨short, fields, payload, described⟩ := writtenCall?_eq_ok.1 read
      cases named : specNamed? table name with
      | none =>
        simp only [named] at failed
        cases failed
      | some spec =>
        simp only [named, bind_eq_error, argumentsOf_eq_error] at failed
        obtain overlong | ⟨_, _, failed⟩ := failed
        · exact ⟨short, fields, name, arguments, spec, payload, described, named, overlong⟩
        · cases failed
  · intro holds
    obtain ⟨short, fields, name, arguments, spec, payload, described, named, overlong⟩ := holds
    refine ⟨some (name, arguments), writtenCall?_eq_ok.2 ⟨short, fields, payload, described⟩, ?_⟩
    simp only [named, bind_eq_error, argumentsOf_eq_error]
    exact .inl overlong

/-- A block that is no call that fits: the search goes on after it. -/
def Passes (limit : Int) (table : List Tool.Spec) (block : List Char) : Prop :=
  ∃ hit, jsonHit? limit table block = .ok hit ∧ hit.bind Hit.call? = none

theorem jsonHits_eq_error {limit : Int} {table : List Tool.Spec} {blocks : List (List Char)} {failure : Failure} :
    jsonHits limit table blocks = .error failure ↔
      ∃ before block after, blocks = before ++ block :: after ∧ (∀ earlier ∈ before, Passes limit table earlier) ∧
        Unreadable limit table block failure := by
  induction blocks with
  | nil => simp [jsonHits]
  | cons block rest ih =>
    have goesOn : Passes limit table block →
        (jsonHits limit table (block :: rest) = .error failure ↔ jsonHits limit table rest = .error failure) := by
      intro holds
      obtain ⟨hit, read, unfit⟩ := holds
      cases hit with
      | none => simp only [jsonHits, read]
      | some hit =>
        have unfit : hit.call?.isSome = false := by simpa using unfit
        simp only [jsonHits, read, unfit, Bool.false_eq_true, if_false, map_eq_error]
    constructor
    · intro failed
      by_cases passes : Passes limit table block
      · obtain ⟨before, next, after, rfl, all, unreadable⟩ := ih.1 ((goesOn passes).1 failed)
        refine ⟨block :: before, next, after, rfl, ?_, unreadable⟩
        intro earlier either
        obtain _ | ⟨_, member⟩ := either
        · exact passes
        · exact all earlier member
      · cases read : jsonHit? limit table block with
        | error other =>
          simp only [jsonHits, read, Except.error.injEq] at failed
          obtain rfl := failed
          exact ⟨[], block, rest, rfl, by simp, jsonHit?_eq_error.1 read⟩
        | ok hit =>
          cases hit with
          | none => exact absurd ⟨none, read, rfl⟩ passes
          | some hit =>
            cases fits : hit.call? with
            | none => exact absurd ⟨some hit, read, fits⟩ passes
            | some call =>
              simp only [jsonHits, read, fits, Option.isSome_some, if_true] at failed
              cases failed
    · intro holds
      obtain ⟨before, next, after, same, all, unreadable⟩ := holds
      cases before with
      | nil =>
        obtain ⟨rfl, rfl⟩ := List.cons.inj same
        simp only [jsonHits, jsonHit?_eq_error.2 unreadable]
      | cons head before =>
        obtain ⟨rfl, rfl⟩ := List.cons.inj same
        refine (goesOn (all block (.head _))).2 (ih.2 ⟨before, next, after, rfl, fun earlier member => ?_, unreadable⟩)
        exact all earlier (.tail _ member)

/-- The ways in which a search fails, other than by a call that names no function offered. -/
inductive Unsearchable (limit : Int) (reading : Reading) (table : List Tool.Spec) : Failure → Prop where
  | listed {items : List Json} {arguments : Json} {others : List (Json × Json)}
      (calls : reading.calls = (.list items, arguments) :: others) :
      Unsearchable limit reading table (.foreign .wrongType "unhashable type: 'list'")
  | structured {fields : Fields} {arguments : Json} {others : List (Json × Json)}
      (calls : reading.calls = (.object fields, arguments) :: others) :
      Unsearchable limit reading table (.foreign .wrongType "unhashable type: 'dict'")
  | overlong {name : String} {arguments : Json} {others : List (Json × Json)} {spec : Tool.Spec} {failure : Failure}
      (calls : reading.calls = (.text name, arguments) :: others) (offers : specNamed? table name = some spec)
      (overlong : Overlong arguments failure) : Unsearchable limit reading table failure
  | unreadable {before after : List (List Char)} {block : List Char} {failure : Failure}
      (silent : reading.calls = []) (offers : table.isEmpty = false)
      (blocks : braceBlocks reading.text.toList = before ++ block :: after)
      (passed : ∀ earlier ∈ before, Passes limit table earlier) (unreadable : Unreadable limit table block failure) :
      Unsearchable limit reading table failure

theorem Overlong.foreign {arguments : Json} {failure : Failure} (overlong : Overlong arguments failure) :
    failure.isOwn = false := by
  obtain ⟨_, _, _, out⟩ := overlong
  exact out.foreign

/-- What makes a search fail so is never the library's own failure. -/
theorem Unsearchable.foreign {limit : Int} {reading : Reading} {table : List Tool.Spec} {failure : Failure}
    (search : Unsearchable limit reading table failure) : failure.isOwn = false := by
  cases search with
  | listed | structured => rfl
  | overlong _ _ overlong => exact overlong.foreign
  | unreadable _ _ _ _ unreadable =>
    obtain ⟨_, ⟨_, _, _, _, _, out⟩ | ⟨_, _, _, _, _, _, _, overlong⟩⟩ := unreadable
    · exact out.foreign
    · exact overlong.foreign

theorem named_eq_ok {table : List Tool.Spec} {name : Json} {found : String × Tool.Spec} :
    named table name = .ok found ↔ name = .text found.1 ∧ specNamed? table found.1 = some found.2 := by
  obtain ⟨text, spec⟩ := found
  cases name with
  | text called =>
    cases offers : specNamed? table called with
    | none =>
      simp only [named, offers, Json.text.injEq, reduceCtorEq, false_iff, not_and]
      intro same
      obtain rfl := same
      simp [offers]
    | some other =>
      simp only [named, offers, Except.ok.injEq, Prod.mk.injEq, Json.text.injEq]
      refine and_congr_right ?_
      intro same
      obtain rfl := same
      simp [offers]
  | _ => simp [named]

theorem named_eq_error {table : List Tool.Spec} {name : Json} {failure : Failure}
    (other : ∀ name available, failure ≠ .unknownFunction name available) :
    named table name = .error failure ↔
      (∃ items, name = .list items ∧ failure = .foreign .wrongType "unhashable type: 'list'") ∨
      (∃ fields, name = .object fields ∧ failure = .foreign .wrongType "unhashable type: 'dict'") := by
  cases name with
  | text called =>
    cases offers : specNamed? table called with
    | none => simpa [named, offers] using fun same => other _ _ same.symm
    | some spec => simp [named, offers]
  | list | object => simp [named, eq_comm]
  | null | bool | number => simpa [named] using fun same => other _ _ same.symm

theorem searchText_eq_error {limit : Int} {table : List Tool.Spec} {text : String} {failure : Failure} :
    searchText limit table text = .error failure ↔
      ∃ before block after, braceBlocks text.toList = before ++ block :: after ∧
        (∀ earlier ∈ before, Passes limit table earlier) ∧ Unreadable limit table block failure :=
  map_eq_error.trans jsonHits_eq_error

theorem text_of_blocks {text : String} {before after : List (List Char)} {block : List Char}
    (blocks : braceBlocks text.toList = before ++ block :: after) : text.isEmpty = false := by
  cases empty : text.isEmpty with
  | false => rfl
  | true =>
    rw [String.isEmpty_iff.1 empty] at blocks
    cases before with
    | nil => cases blocks
    | cons => cases blocks

section

variable {limit : Int} {reading : Reading} {specs : List Tool.Spec} {failure : Failure}

theorem searchText_of_silent (silent : reading.calls = []) :
    (search limit reading specs).1 = .error failure ↔
      (offered specs).isEmpty = false ∧ searchText limit (offered specs) reading.text = .error failure := by
  simp only [search, silent]
  cases none : (offered specs).isEmpty with
  | true => simp
  | false =>
    cases empty : reading.text.isEmpty with
    | false => simp
    | true =>
      have searched : searchText limit (offered specs) reading.text ≠ .error failure := by
        intro failed
        obtain ⟨before, block, after, blocks, _⟩ := searchText_eq_error.1 failed
        exact Bool.false_ne_true ((text_of_blocks blocks).symm.trans empty)
      simpa using searched

/-- Without a call in the vendor's own field, a search fails with the first block that it cannot read. -/
theorem search_silent_eq_error (silent : reading.calls = []) :
    (search limit reading specs).1 = .error failure ↔ Unsearchable limit reading (offered specs) failure := by
  rw [searchText_of_silent silent, searchText_eq_error]
  constructor
  · intro holds
    obtain ⟨offers, before, block, after, blocks, passed, unreadable⟩ := holds
    exact .unreadable silent offers blocks passed unreadable
  · intro unsearchable
    cases unsearchable with
    | listed same | structured same | overlong same => cases silent.symm.trans same
    | unreadable _ offers blocks passed unreadable => exact ⟨offers, _, _, _, blocks, passed, unreadable⟩

/-- With a call in the vendor's own field, a search fails by the call's name or its arguments. -/
theorem search_called_eq_error {name arguments : Json} {others : List (Json × Json)}
    (calls : reading.calls = (name, arguments) :: others)
    (other : ∀ name available, failure ≠ .unknownFunction name available) :
    (search limit reading specs).1 = .error failure ↔ Unsearchable limit reading (offered specs) failure := by
  simp only [search, calls, bind_eq_error, named_eq_error other, argumentsOf_eq_error]
  constructor
  · intro either
    obtain (⟨items, rfl, rfl⟩ | ⟨fields, rfl, rfl⟩) | ⟨⟨text, spec⟩, found, overlong | ⟨_, _, failed⟩⟩ := either
    · exact .listed calls
    · exact .structured calls
    · obtain ⟨rfl, offers⟩ := named_eq_ok.1 found
      exact .overlong calls offers overlong
    · cases failed
  · intro unsearchable
    cases unsearchable with
    | listed same =>
      obtain ⟨⟨rfl, rfl⟩, rfl⟩ := by simpa using calls.symm.trans same
      exact .inl (.inl ⟨_, rfl, rfl⟩)
    | structured same =>
      obtain ⟨⟨rfl, rfl⟩, rfl⟩ := by simpa using calls.symm.trans same
      exact .inl (.inr ⟨_, rfl, rfl⟩)
    | overlong same offers overlong =>
      obtain ⟨⟨rfl, rfl⟩, rfl⟩ := by simpa using calls.symm.trans same
      exact .inr ⟨(_, _), named_eq_ok.2 ⟨rfl, offers⟩, .inl overlong⟩
    | unreadable silent => cases calls.symm.trans silent

theorem search_eq_error (other : ∀ name available, failure ≠ .unknownFunction name available) :
    (search limit reading specs).1 = .error failure ↔ Unsearchable limit reading (offered specs) failure := by
  cases calls : reading.calls with
  | nil => exact search_silent_eq_error calls
  | cons => exact search_called_eq_error calls other

end

end Parley.Extraction

