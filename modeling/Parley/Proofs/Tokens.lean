import Mathlib
import Parley.Usage

namespace Parley

namespace Usage

def tokens (usage : Usage) : Int × Int × Int := (usage.prompt, usage.completion, usage.total)

def completed (counts : Int × Int × Int) : Int × Int × Int :=
  (counts.1, counts.2.1, if counts.2.2 = 0 then counts.1 + counts.2.1 else counts.2.2)

/-- The total is filled in, as every usage has it that is reported. -/
def IsFilled (usage : Usage) : Prop := usage.filled = usage

theorem tokens_filled (usage : Usage) : usage.filled.tokens = completed usage.tokens := by
  by_cases zero : usage.total = 0
  · simp [filled, tokens, completed, zero]
  · simp [filled, tokens, completed, zero]

theorem tokens_add (left right : Usage) : (left + right).tokens = completed (left.tokens + right.tokens) :=
  tokens_filled _

theorem isFilled_filled (usage : Usage) : usage.filled.IsFilled := by
  unfold IsFilled filled
  by_cases zero : usage.total = 0
  · by_cases none : usage.prompt + usage.completion = 0
    · simp [zero, none]
    · simp [zero, none]
  · simp [zero]

theorem isFilled_add (left right : Usage) : (left + right).IsFilled := isFilled_filled _

theorem isFilled_sum (usages : List Usage) : (sum usages).IsFilled := by
  cases usages using List.reverseRecOn with
  | nil => rfl
  | append_singleton before usage =>
    rw [sum, List.foldl_append]
    exact isFilled_add _ _

theorem tokens_empty_add {usage : Usage} (filled : usage.IsFilled) : (({} : Usage) + usage).tokens = usage.tokens := by
  have none : ({} : Usage).tokens = 0 := rfl
  rw [tokens_add, none, zero_add, ← tokens_filled, filled]

theorem elapsed_filled (usage : Usage) : usage.filled.elapsed = usage.elapsed := by
  unfold filled
  split
  · rfl
  · rfl

theorem elapsed_add (left right : Usage) : (left + right).elapsed = left.elapsed + right.elapsed := elapsed_filled _

/-- Filling in the total makes no count negative, and hides none that is. -/
theorem completed_nonneg_iff {counts : Int × Int × Int} : 0 ≤ completed counts ↔ 0 ≤ counts := by
  obtain ⟨prompt, completion, total⟩ := counts
  simp only [completed, Prod.le_def, Prod.fst_zero, Prod.snd_zero]
  split
  next zero => omega
  next => rfl

theorem IsFilled.zero_of_total {usage : Usage} (filled : usage.IsFilled) (natural : 0 ≤ usage.tokens)
    (zero : usage.total = 0) : usage.tokens = 0 := by
  have same : usage.tokens = completed usage.tokens := by rw [← tokens_filled, filled]
  simp only [tokens, completed, zero, if_true, Prod.mk.injEq, true_and] at same
  simp only [tokens, Prod.le_def, Prod.fst_zero, Prod.snd_zero] at natural
  rw [tokens, zero, Prod.mk_eq_zero, Prod.mk_eq_zero]
  omega

/-- Where no count is negative, filling in the total of a sum changes nothing. -/
theorem tokens_add_of_natural {left right : Usage} (leftFilled : left.IsFilled) (rightFilled : right.IsFilled)
    (leftNatural : 0 ≤ left.tokens) (rightNatural : 0 ≤ right.tokens) :
    (left + right).tokens = left.tokens + right.tokens := by
  rw [tokens_add]
  by_cases zero : left.total + right.total = 0
  · have nonneg : 0 ≤ left.total ∧ 0 ≤ right.total := ⟨leftNatural.2.2, rightNatural.2.2⟩
    rw [leftFilled.zero_of_total leftNatural (by omega), rightFilled.zero_of_total rightNatural (by omega)]
    rfl
  · have total : (left.tokens + right.tokens).2.2 ≠ 0 := zero
    rw [completed, if_neg total]

/-- A usage is the sum of some others, added in any grouping. -/
inductive Sums : List Usage → Usage → Prop where
  | nothing : Sums [] {}
  | one (usage : Usage) : Sums [usage] usage
  | add {firsts seconds : List Usage} {left right : Usage} (first : Sums firsts left) (second : Sums seconds right) :
      Sums (firsts ++ seconds) (left + right)

theorem Sums.isFilled {usages : List Usage} {sum : Usage} (sums : Sums usages sum)
    (filled : ∀ usage ∈ usages, usage.IsFilled) : sum.IsFilled := by
  cases sums with
  | nothing => rfl
  | one => exact filled _ List.mem_cons_self
  | add => exact isFilled_add _ _

theorem Sums.tokens {usages : List Usage} {sum : Usage} (sums : Sums usages sum)
    (filled : ∀ usage ∈ usages, usage.IsFilled) (natural : ∀ usage ∈ usages, 0 ≤ usage.tokens) :
    0 ≤ sum.tokens ∧ sum.tokens = (usages.map Usage.tokens).sum := by
  induction sums with
  | nothing => exact ⟨le_rfl, rfl⟩
  | one usage => exact ⟨natural usage List.mem_cons_self, (List.sum_singleton).symm⟩
  | add first second left right =>
    rw [List.forall_mem_append] at filled natural
    obtain ⟨leftNatural, leftTokens⟩ := left filled.1 natural.1
    obtain ⟨rightNatural, rightTokens⟩ := right filled.2 natural.2
    have together := tokens_add_of_natural (first.isFilled filled.1) (second.isFilled filled.2) leftNatural rightNatural
    rw [together, List.map_append, List.sum_append, leftTokens, rightTokens]
    exact ⟨add_nonneg (leftTokens ▸ leftNatural) (rightTokens ▸ rightNatural), rfl⟩

theorem sums_sum (usages : List Usage) : Sums usages (Usage.sum usages) := by
  induction usages using List.reverseRecOn with
  | nil => exact .nothing
  | append_singleton before usage ih =>
    have grown : Usage.sum (before ++ [usage]) = Usage.sum before + usage := by
      rw [Usage.sum, List.foldl_append]
      rfl
    exact grown ▸ ih.add (.one usage)

end Usage

namespace Tally

def tokens (tally : Tally) : Int × Int × Int := (tally.prompt, tally.completion, tally.total)

def count (tally : Tally) (name : String) : Nat := (tally.functionCounts.lookup name).getD 0

def counted (tally : Tally) : Nat := (tally.functionCounts.map Prod.snd).sum

theorem tokens_record (tally : Tally) (usage : Usage) (function : Option String) :
    (tally.record usage function).tokens = tally.tokens + usage.tokens := rfl

theorem sum_bump (name : String) (counts : Table Nat) :
    ((bump name counts).map Prod.snd).sum = (counts.map Prod.snd).sum + 1 := by
  unfold bump
  induction counts with
  | nil => rfl
  | cons entry rest ih =>
    obtain ⟨other, count⟩ := entry
    by_cases same : other = name
    · subst same
      simp [Table.put]
      omega
    · have differ : (name == other) = false := by simpa using fun equal => same equal.symm
      simp only [Table.put, same, if_false, List.lookup_cons, differ, List.map_cons, List.sum_cons, ih, Nat.add_assoc]

theorem counted_record (tally : Tally) (usage : Usage) {function : Option String} (named : function ≠ some "") :
    (tally.record usage function).counted = tally.counted + function.toList.length := by
  cases function with
  | none => rfl
  | some name =>
    have filled : name.isEmpty = false := by simpa using named
    simp only [counted, record, filled]
    exact sum_bump name tally.functionCounts

theorem count_record (tally : Tally) (usage : Usage) (function : Option String) (name : String) :
    tally.count name ≤ (tally.record usage function).count name := by
  cases function with
  | none => exact le_rfl
  | some other =>
    by_cases empty : other.isEmpty
    · simp [count, record, empty]
    · by_cases same : name = other
      · subst same
        simp [count, record, empty, bump, Table.lookup_put_self]
      · simp [count, record, empty, bump, Table.lookup_put_of_ne _ _ same]

end Tally

end Parley

