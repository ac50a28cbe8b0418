import Parley.Extraction.Search
import Parley.Proofs.Extraction.Braces
import Parley.Proofs.Failing

/-!
Where the blocks of braces of a text stand. Each opening brace from which on as many braces are closed as opened starts
one block, up to the first place where that is so. By counting from place to place, two blocks are apart or one stands
within the other, and so the order of their first braces puts a block before all that stand within it. The search for
a call goes through the blocks in that order.
-/

namespace Parley.Extraction

structure Span where
  start : Nat
  stop : Nat
  deriving DecidableEq, Repr

namespace Span

def text (cs : List Char) (span : Span) : List Char := (cs.drop span.start).take (span.stop - span.start)

/-- One stretch stands within another, and neither starts nor ends with it. -/
structure Within (inner outer : Span) : Prop where
  start : outer.start < inner.start
  stop : inner.stop < outer.stop

def Apart (first second : Span) : Prop := first.stop ≤ second.start ∨ second.stop ≤ first.start

end Span

def blockSpans (cs : List Char) : List Span :=
  (List.range cs.length).filterMap fun start =>
    (blockAt? (cs.drop start)).map fun block => ⟨start, start + block.length⟩

def braceCount (cs : List Char) (start stop : Nat) : Int := surplus (Span.text cs ⟨start, stop⟩)

/-- Counted from an opening brace on, the braces of a text are first in balance at the end of a stretch. -/
structure Returns (cs : List Char) (span : Span) : Prop where
  opens : cs[span.start]? = some '\x7b'
  filled : span.start < span.stop
  bounded : span.stop ≤ cs.length
  level : braceCount cs span.start span.stop = 0
  shortest : ∀ place, span.start < place → place < span.stop → braceCount cs span.start place ≠ 0

variable {cs : List Char}

theorem braceBlocks_eq_filterMap (cs : List Char) :
    braceBlocks cs = (List.range cs.length).filterMap fun start => blockAt? (cs.drop start) := by
  induction cs with
  | nil => rfl
  | cons c rest ih =>
    have later : ((fun start => blockAt? ((c :: rest).drop start)) ∘ Nat.succ) =
        fun start => blockAt? (rest.drop start) := rfl
    rw [braceBlocks, ih, List.length_cons, List.range_succ_eq_map, List.filterMap_cons, List.filterMap_map, later,
      List.drop_zero]
    cases blockAt? (c :: rest) with
    | none => rfl
    | some block => rfl

theorem text_of_prefix {block : List Char} {start : Nat} (leads : block <+: cs.drop start) :
    Span.text cs ⟨start, start + block.length⟩ = block := by
  rw [Span.text, Nat.add_sub_cancel_left]
  exact (List.prefix_iff_eq_take.1 leads).symm

theorem braceBlocks_eq_map (cs : List Char) : braceBlocks cs = (blockSpans cs).map (Span.text cs) := by
  rw [braceBlocks_eq_filterMap, blockSpans, List.map_filterMap]
  congr 1
  funext start
  cases found : blockAt? (cs.drop start) with
  | none => rfl
  | some block =>
    have stands := text_of_prefix (blockAt?_eq_some.1 found).1
    simp [stands]

theorem braceCount_add (cs : List Char) {start middle stop : Nat} (early : start ≤ middle) (late : middle ≤ stop) :
    braceCount cs start middle + braceCount cs middle stop = braceCount cs start stop := by
  have steps : stop - start = (middle - start) + (stop - middle) := by omega
  have place : start + (middle - start) = middle := by omega
  simp only [braceCount, Span.text]
  rw [steps, List.take_add, surplus_append, List.drop_drop, place]

theorem mem_blockSpans_iff_blockAt? {span : Span} : span ∈ blockSpans cs ↔
    ∃ block, blockAt? (cs.drop span.start) = some block ∧ span.stop = span.start + block.length := by
  rw [blockSpans, List.mem_filterMap]
  constructor
  · rintro ⟨start, _, found⟩
    obtain ⟨block, here, rfl⟩ := Option.map_eq_some_iff.1 found
    exact ⟨block, here, rfl⟩
  · rintro ⟨block, here, stop⟩
    refine ⟨span.start, List.mem_range.2 ?_, ?_⟩
    · refine Decidable.byContradiction fun beyond => ?_
      rw [List.drop_of_length_le (by omega)] at here
      cases here
    · rw [here, Option.map_some, ← stop]

/-- Where no block starts with an opening brace, more braces are open than closed from there on at every place. -/
theorem surplus_pos_of_closeBraces {depth : Nat} {before : List Char} (never : closeBraces depth cs = none)
    (leads : before <+: cs) : (0 : Int) < depth + 1 + surplus before := by
  induction cs generalizing depth before with
  | nil =>
    obtain rfl := List.prefix_nil.1 leads
    rw [surplus_nil]
    omega
  | cons c rest ih =>
    cases before with
    | nil =>
      rw [surplus_nil]
      omega
    | cons first before =>
      obtain ⟨rfl, leadsOn⟩ := List.cons_prefix_cons.1 leads
      obtain ⟨_, ends⟩ | ⟨next, level, goesOn⟩ := closeBraces_cons depth first rest
      · cases ends.symm.trans never
      · have later := ih (Option.map_eq_none_iff.1 (goesOn.symm.trans never)) leadsOn
        rw [surplus_cons]
        omega

theorem braceCount_pos_of_blockAt? {start place : Nat} (opens : cs[start]? = some '\x7b')
    (never : blockAt? (cs.drop start) = none) (later : start < place) : 0 < braceCount cs start place := by
  obtain ⟨inside, brace⟩ := List.getElem?_eq_some_iff.1 opens
  have rest : cs.drop start = '\x7b' :: cs.drop (start + 1) := by rw [List.drop_eq_getElem_cons inside, brace]
  have steps : place - start = (place - (start + 1)) + 1 := by omega
  rw [rest, blockAt?, if_pos rfl, Option.map_eq_none_iff] at never
  have above := surplus_pos_of_closeBraces never (List.take_prefix (place - (start + 1)) _)
  have change : braceChange '\x7b' = 1 := rfl
  rw [braceCount, Span.text, rest, steps, List.take_succ_cons, surplus_cons, change]
  omega

theorem braceCount_pos_of_mem {span : Span} {place : Nat} (held : span ∈ blockSpans cs) (later : span.start < place)
    (early : place < span.stop) : 0 < braceCount cs span.start place := by
  obtain ⟨block, found, stop⟩ := mem_blockSpans_iff_blockAt?.1 held
  obtain ⟨leads, closes⟩ := blockAt?_eq_some.1 found
  have front : Span.text cs ⟨span.start, place⟩ = block.take (place - span.start) := by
    have short : place - span.start ≤ block.length := by omega
    rw [Span.text, List.prefix_iff_eq_take.1 leads, List.take_take, Nat.min_eq_left short]
  rw [braceCount, front]
  refine closes.inside _ _ (List.take_append_drop _ _).symm (fun empty => ?_) (fun empty => ?_)
  · have length := congrArg List.length empty
    rw [List.length_take, List.length_nil] at length
    omega
  · have length := congrArg List.length empty
    rw [List.length_drop, List.length_nil] at length
    omega

theorem Returns.of_mem {span : Span} (held : span ∈ blockSpans cs) : Returns cs span := by
  obtain ⟨block, found, stop⟩ := mem_blockSpans_iff_blockAt?.1 held
  obtain ⟨leads, closes⟩ := blockAt?_eq_some.1 found
  have stands : Span.text cs span = block := by
    rw [← text_of_prefix leads, ← stop]
  have filled : 0 < block.length := by
    refine List.length_pos_iff.2 ?_
    rintro rfl
    exact not_closes_nil closes
  have fits := leads.length_le
  rw [List.length_drop] at fits
  refine ⟨?_, by omega, by omega, ?_, fun place later early => ?_⟩
  · obtain ⟨rest, whole⟩ := leads
    rw [← List.head?_drop, ← whole, List.head?_append, closes.opens]
    rfl
  · exact (congrArg surplus stands).trans closes.whole
  · exact Int.ne_of_gt (braceCount_pos_of_mem held later early)

/-- The blocks of a text stand exactly where the braces counted from an opening brace on are first in balance. -/
theorem mem_blockSpans {span : Span} : span ∈ blockSpans cs ↔ Returns cs span := by
  refine ⟨Returns.of_mem, fun returns => ?_⟩
  cases found : blockAt? (cs.drop span.start) with
  | none =>
    have above := braceCount_pos_of_blockAt? returns.opens found returns.filled
    rw [returns.level] at above
    omega
  | some block =>
    have held : (⟨span.start, span.start + block.length⟩ : Span) ∈ blockSpans cs :=
      mem_blockSpans_iff_blockAt?.2 ⟨block, found, rfl⟩
    -- Neither of the two places where the count is back at zero can come before the other.
    obtain early | same | late := Nat.lt_trichotomy span.stop (span.start + block.length)
    · have above := braceCount_pos_of_mem held returns.filled early
      rw [returns.level] at above
      omega
    · rwa [← same] at held
    · exact absurd (Returns.of_mem held).level (returns.shortest _ (Returns.of_mem held).filled late)

theorem pairwise_start (cs : List Char) : (blockSpans cs).Pairwise fun earlier later => earlier.start < later.start := by
  rw [blockSpans, List.pairwise_filterMap]
  refine List.pairwise_lt_range.imp fun before span here other there => ?_
  obtain ⟨_, _, rfl⟩ := Option.map_eq_some_iff.1 here
  obtain ⟨_, _, rfl⟩ := Option.map_eq_some_iff.1 there
  exact before

theorem exists_mem_of_level {start stop : Nat} (opens : cs[start]? = some '\x7b') (filled : start < stop)
    (sunk : braceCount cs start stop ≤ 0) : ∃ span ∈ blockSpans cs, span.start = start := by
  cases found : blockAt? (cs.drop start) with
  | none =>
    have above := braceCount_pos_of_blockAt? opens found filled
    omega
  | some block => exact ⟨⟨start, start + block.length⟩, mem_blockSpans_iff_blockAt?.2 ⟨block, found, rfl⟩, rfl⟩

section

variable {outer inner : Span} (around : outer ∈ blockSpans cs)

include around

/-- From a place within a block up to the block's end, more braces are closed than opened. -/
theorem braceCount_neg {place : Nat} (later : outer.start < place) (early : place < outer.stop) :
    braceCount cs place outer.stop < 0 := by
  have above := braceCount_pos_of_mem around later early
  have level := (Returns.of_mem around).level
  have parts := braceCount_add cs (Nat.le_of_lt later) (Nat.le_of_lt early)
  omega

/-- An opening brace within a block starts a block within it. -/
theorem exists_within {place : Nat} (later : outer.start < place) (early : place < outer.stop)
    (opens : cs[place]? = some '\x7b') : ∃ span ∈ blockSpans cs, span.start = place :=
  exists_mem_of_level opens early (Int.le_of_lt (braceCount_neg around later early))

/-- A block that starts within another ends within it. -/
theorem within_of_start (held : inner ∈ blockSpans cs) (later : outer.start < inner.start)
    (early : inner.start < outer.stop) : inner.Within outer := by
  refine ⟨later, Decidable.byContradiction fun beyond => ?_⟩
  have below := braceCount_neg around later early
  -- At the end of the outer block the count of the inner one would still be positive, or back at zero.
  by_cases same : inner.stop = outer.stop
  · have level := (Returns.of_mem held).level
    rw [same] at level
    omega
  · have above := braceCount_pos_of_mem held early (by omega)
    omega

/-- Of two blocks, the one that starts first ends before the other starts, or has the other within it. -/
theorem apart_or_within (held : inner ∈ blockSpans cs) (later : outer.start < inner.start) :
    outer.stop ≤ inner.start ∨ inner.Within outer := by
  by_cases early : inner.start < outer.stop
  · exact .inr (within_of_start around held later early)
  · exact .inl (Nat.le_of_not_lt early)

theorem eq_of_start (held : inner ∈ blockSpans cs) (same : outer.start = inner.start) : outer = inner := by
  obtain ⟨block, found, stop⟩ := mem_blockSpans_iff_blockAt?.1 around
  obtain ⟨other, again, stops⟩ := mem_blockSpans_iff_blockAt?.1 held
  rw [same, again] at found
  obtain rfl := Option.some.inj found
  cases outer
  cases inner
  simp_all

theorem precedes_within (held : inner ∈ blockSpans cs) (within : inner.Within outer) :
    ∃ front middle back, blockSpans cs = front ++ outer :: (middle ++ inner :: back) := by
  obtain ⟨front, rest, whole⟩ := List.append_of_mem around
  have ordered := pairwise_start cs
  rw [whole] at held ordered
  obtain early | among := List.mem_append.1 held
  · have before := (List.pairwise_append.1 ordered).2.2 _ early _ List.mem_cons_self
    exact absurd within.start (Nat.lt_asymm before)
  · obtain same | later := List.mem_cons.1 among
    · have start := within.start
      rw [same] at start
      exact absurd start (Nat.lt_irrefl _)
    · obtain ⟨middle, back, rfl⟩ := List.append_of_mem later
      exact ⟨front, middle, back, whole⟩

end

/-- The search goes through blocks in their order, and comes to later ones only if none of the earlier ones fits. -/
theorem jsonHits_append (limit : Int) (table : List Tool.Spec) (first second : List (List Char)) :
    jsonHits limit table (first ++ second) = (jsonHits limit table first).bind fun hits =>
      if hits.any fun hit => hit.call?.isSome then .ok hits else (jsonHits limit table second).map (hits ++ ·) := by
  induction first with
  | nil =>
    rw [List.nil_append, jsonHits]
    cases jsonHits limit table second with
    | error failure => rfl
    | ok hits => rfl
  | cons block rest ih =>
    rw [List.cons_append, jsonHits, jsonHits, ih]
    cases jsonHit? limit table block with
    | error failure => rfl
    | ok found =>
      cases found with
      | none => rfl
      | some hit =>
        dsimp only
        cases fits : hit.call?.isSome with
        | true => simp [Except.bind, fits]
        | false =>
          rw [if_neg Bool.false_ne_true, if_neg Bool.false_ne_true]
          cases jsonHits limit table rest with
          | error failure => rfl
          | ok hits =>
            cases any : hits.any fun hit => hit.call?.isSome with
            | true => simp [Except.bind, Except.map, fits, any]
            | false => cases jsonHits limit table second <;> simp [Except.bind, Except.map, fits, any]

/-- Any two blocks of a text are one, apart, or one within the other. -/
theorem eq_or_apart_or_within {first second : Span} (here : first ∈ blockSpans cs) (there : second ∈ blockSpans cs) :
    first = second ∨ first.Apart second ∨ second.Within first ∨ first.Within second := by
  obtain before | same | behind := Nat.lt_trichotomy first.start second.start
  · obtain apart | within := apart_or_within here there before
    · exact .inr (.inl (.inl apart))
    · exact .inr (.inr (.inl within))
  · exact .inl (eq_of_start here there same)
  · obtain apart | within := apart_or_within there here behind
    · exact .inr (.inl (.inr apart))
    · exact .inr (.inr (.inr within))

/-- The blocks of a text stand, in order, at the opening braces from which on the count of braces comes back to zero, each
as far as the first place where it does. Any two are apart or one is within the other, an opening brace within a block
starts a block within it, and a block comes before those within it: the search tries it first, and the others only if
neither it nor one before it fits. -/
theorem blocks_outermost_first (cs : List Char) :
    braceBlocks cs = (blockSpans cs).map (Span.text cs) ∧
    ((blockSpans cs).Pairwise fun earlier later => earlier.start < later.start) ∧
    (∀ span, span ∈ blockSpans cs ↔ Returns cs span) ∧
    (∀ start, (∃ span ∈ blockSpans cs, span.start = start) ↔
      cs[start]? = some '\x7b' ∧ ∃ stop, start < stop ∧ stop ≤ cs.length ∧ braceCount cs start stop = 0) ∧
    (∀ first ∈ blockSpans cs, ∀ second ∈ blockSpans cs,
      first = second ∨ first.Apart second ∨ second.Within first ∨ first.Within second) ∧
    (∀ outer ∈ blockSpans cs, ∀ place, outer.start < place → place < outer.stop → cs[place]? = some '\x7b' →
      ∃ inner ∈ blockSpans cs, inner.start = place ∧ inner.Within outer) ∧
    (∀ outer ∈ blockSpans cs, ∀ inner ∈ blockSpans cs, inner.Within outer →
      ∃ front middle back, blockSpans cs = front ++ outer :: (middle ++ inner :: back) ∧
        ∀ limit table, jsonHits limit table (braceBlocks cs) =
          (jsonHits limit table ((front ++ [outer]).map (Span.text cs))).bind fun hits =>
            if hits.any fun hit => hit.call?.isSome then .ok hits
            else (jsonHits limit table ((middle ++ inner :: back).map (Span.text cs))).map (hits ++ ·)) := by
  refine ⟨braceBlocks_eq_map cs, pairwise_start cs, fun span => mem_blockSpans, fun start => ⟨?_, ?_⟩,
    fun first here second there => eq_or_apart_or_within here there, ?_, ?_⟩
  · rintro ⟨span, held, rfl⟩
    have returns := Returns.of_mem held
    exact ⟨returns.opens, span.stop, returns.filled, returns.bounded, returns.level⟩
  · rintro ⟨opens, stop, filled, _, level⟩
    exact exists_mem_of_level opens filled (Int.le_of_eq level)
  · intro outer around place later early opens
    obtain ⟨inner, held, rfl⟩ := exists_within around later early opens
    exact ⟨inner, held, rfl, within_of_start around held later early⟩
  · intro outer around inner held within
    obtain ⟨front, middle, back, whole⟩ := precedes_within around held within
    refine ⟨front, middle, back, whole, fun limit table => ?_⟩
    have parts : braceBlocks cs =
        (front ++ [outer]).map (Span.text cs) ++ (middle ++ inner :: back).map (Span.text cs) := by
      rw [braceBlocks_eq_map, whole, ← List.map_append, List.append_assoc]
      rfl
    rw [parts, jsonHits_append]

/-- The first brace of this text is never closed. The block of the second comes before the one within it. -/
theorem nested_blocks_outermost_first :
    blockSpans "\x7b\x7b\"a\": \x7b1\x7d\x7d".toList = [⟨1, 11⟩, ⟨7, 10⟩] ∧
      ∃ inner ∈ blockSpans "\x7b\x7b\"a\": \x7b1\x7d\x7d".toList, inner.start = 7 ∧ inner.Within ⟨1, 11⟩ := by
  have spans : blockSpans "\x7b\x7b\"a\": \x7b1\x7d\x7d".toList = [⟨1, 11⟩, ⟨7, 10⟩] := by decide +kernel
  refine ⟨spans, ?_⟩
  obtain ⟨_, _, _, _, _, inside, _⟩ := blocks_outermost_first "\x7b\x7b\"a\": \x7b1\x7d\x7d".toList
  exact inside ⟨1, 11⟩ (by rw [spans]; decide) 7 (by decide) (by decide) (by decide)

end Parley.Extraction

