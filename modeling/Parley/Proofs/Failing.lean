import Parley.Failure

namespace Parley

def Failure.isDelivery : Failure → Bool
  | .transport .. | .malformed .. => true
  | _ => false

variable {α β : Type}

theorem bind_eq_error {first : Except Failure α} {next : α → Except Failure β} {failure : Failure} :
    (first >>= next) = .error failure ↔
      first = .error failure ∨ ∃ value, first = .ok value ∧ next value = .error failure := by
  cases first with
  | error other => simp [bind, Except.bind]
  | ok value => simp [bind, Except.bind]

theorem bind_eq_ok {first : Except Failure α} {next : α → Except Failure β} {value : β} :
    (first >>= next) = .ok value ↔ ∃ middle, first = .ok middle ∧ next middle = .ok value := by
  cases first with
  | error other => simp [bind, Except.bind]
  | ok middle => simp [bind, Except.bind]

theorem map_eq_error {first : Except Failure α} {change : α → β} {failure : Failure} :
    first.map change = .error failure ↔ first = .error failure := by
  cases first with
  | error other => simp [Except.map]
  | ok value => simp [Except.map]

theorem map_eq_ok {first : Except Failure α} {change : α → β} {value : β} :
    first.map change = .ok value ↔ ∃ found, first = .ok found ∧ change found = value := by
  cases first with
  | error other => simp [Except.map]
  | ok found => simp [Except.map]

theorem mapError_eq_error {first : Except Failure α} {change : Failure → Failure} {failure : Failure} :
    first.mapError change = .error failure ↔ ∃ cause, first = .error cause ∧ change cause = failure := by
  cases first with
  | error other =>
    have changed : (Except.error other : Except Failure α).mapError change = .error (change other) := rfl
    simp [changed]
  | ok value =>
    have kept : (Except.ok value : Except Failure α).mapError change = .ok value := rfl
    simp [kept]

theorem foldlM_eq_error {step : β → α → Except Failure β} {start : β} {items : List α} {failure : Failure} :
    items.foldlM step start = .error failure ↔
      ∃ before item after state, items = before ++ item :: after ∧ before.foldlM step start = .ok state ∧
        step state item = .error failure := by
  induction items generalizing start with
  | nil => simp [pure, Except.pure]
  | cons item rest ih =>
    rw [List.foldlM_cons, bind_eq_error]
    constructor
    · intro either
      obtain failed | ⟨state, stepped, failed⟩ := either
      · exact ⟨[], item, rest, start, rfl, rfl, failed⟩
      · obtain ⟨before, next, after, last, rfl, folded, failed⟩ := ih.1 failed
        exact ⟨item :: before, next, after, last, rfl, by rw [List.foldlM_cons, stepped]; exact folded, failed⟩
    · intro holds
      obtain ⟨before, next, after, last, same, folded, failed⟩ := holds
      cases before with
      | nil =>
        obtain ⟨rfl, rfl⟩ := List.cons.inj same
        obtain rfl : start = last := Except.ok.inj folded
        exact .inl failed
      | cons head before =>
        obtain ⟨rfl, rfl⟩ := List.cons.inj same
        cases stepped : step start item with
        | error other =>
          rw [List.foldlM_cons, stepped] at folded
          cases folded
        | ok state =>
          rw [List.foldlM_cons, stepped] at folded
          exact .inr ⟨state, rfl, ih.2 ⟨before, next, after, last, rfl, folded, failed⟩⟩

theorem mapM_eq_error {read : α → Except Failure β} {items : List α} {failure : Failure} :
    items.mapM read = .error failure ↔
      ∃ before item after, items = before ++ item :: after ∧ (∀ earlier ∈ before, (read earlier).isOk = true) ∧
        read item = .error failure := by
  induction items with
  | nil => simp [pure, Except.pure]
  | cons item rest ih =>
    have ends : ∀ value : β, (do return value :: (← rest.mapM read) : Except Failure (List β)) = .error failure ↔
        rest.mapM read = .error failure := by
      intro value
      simp [bind_eq_error, pure, Except.pure]
    rw [List.mapM_cons, bind_eq_error]
    simp only [ends, ih]
    constructor
    · intro either
      obtain failed | ⟨value, done, before, next, after, rfl, all, failed⟩ := either
      · exact ⟨[], item, rest, rfl, by simp, failed⟩
      · refine ⟨item :: before, next, after, rfl, ?_, failed⟩
        intro earlier either
        obtain _ | ⟨_, member⟩ := either
        · rw [done]
          rfl
        · exact all earlier member
    · intro holds
      obtain ⟨before, next, after, same, all, failed⟩ := holds
      cases before with
      | nil =>
        obtain ⟨rfl, rfl⟩ := List.cons.inj same
        exact .inl failed
      | cons head before =>
        obtain ⟨rfl, rfl⟩ := List.cons.inj same
        have first := all item (.head _)
        cases done : read item with
        | error other =>
          rw [done] at first
          cases first
        | ok value =>
          exact .inr ⟨value, rfl, before, next, after, rfl, fun earlier member => all earlier (.tail _ member), failed⟩

theorem findSomeM?_eq_error {find : α → Except Failure (Option β)} {items : List α} {failure : Failure} :
    items.findSomeM? find = .error failure ↔
      ∃ before item after, items = before ++ item :: after ∧ (∀ earlier ∈ before, find earlier = .ok none) ∧
        find item = .error failure := by
  induction items with
  | nil => simp [pure, Except.pure]
  | cons item rest ih =>
    rw [List.findSomeM?_cons, bind_eq_error]
    constructor
    · intro either
      obtain failed | ⟨found, searched, failed⟩ := either
      · exact ⟨[], item, rest, rfl, by simp, failed⟩
      · cases found with
        | some value => cases failed
        | none =>
          obtain ⟨before, next, after, rfl, all, failed⟩ := ih.1 failed
          refine ⟨item :: before, next, after, rfl, ?_, failed⟩
          intro earlier either
          obtain _ | ⟨_, member⟩ := either
          · exact searched
          · exact all earlier member
    · intro holds
      obtain ⟨before, next, after, same, all, failed⟩ := holds
      cases before with
      | nil =>
        obtain ⟨rfl, rfl⟩ := List.cons.inj same
        exact .inl failed
      | cons head before =>
        obtain ⟨rfl, rfl⟩ := List.cons.inj same
        refine .inr ⟨none, all item (.head _), ih.2 ⟨before, next, after, rfl, fun earlier member => ?_, failed⟩⟩
        exact all earlier (.tail _ member)

theorem eq_ok_of_toOption {step : Except Failure α} {value : α} (returns : step.toOption = some value) :
    step = .ok value := by
  cases step with
  | error failure => cases returns
  | ok other => exact congrArg Except.ok (Option.some.inj returns)

/-- A step fails, if it does, only with failures of some kind. -/
def FailsOnly (kind : Failure → Prop) (step : Except Failure α) : Prop := ∀ failure, step = .error failure → kind failure

section

variable {kind : Failure → Prop}

theorem failsOnly_ok (value : α) : FailsOnly kind (Except.ok value) := fun _ failed => nomatch failed

theorem failsOnly_error {failure : Failure} (is : kind failure) : FailsOnly kind (.error failure : Except Failure α) := by
  intro other holds
  cases holds
  exact is

theorem FailsOnly.mono {wider : Failure → Prop} {step : Except Failure α} (only : FailsOnly kind step)
    (wide : ∀ failure, kind failure → wider failure) : FailsOnly wider step :=
  fun failure failed => wide failure (only failure failed)

theorem FailsOnly.bind {first : Except Failure α} {next : α → Except Failure β} (only : FailsOnly kind first)
    (then_ : ∀ value, FailsOnly kind (next value)) : FailsOnly kind (first >>= next) := by
  intro failure failed
  obtain failed | ⟨value, _, failed⟩ := bind_eq_error.1 failed
  · exact only failure failed
  · exact then_ value failure failed

theorem FailsOnly.map {first : Except Failure α} {change : α → β} (only : FailsOnly kind first) :
    FailsOnly kind (first.map change) :=
  fun failure failed => only failure (map_eq_error.1 failed)

theorem failsOnly_mapM {read : α → Except Failure β} (items : List α) (each : ∀ item, FailsOnly kind (read item)) :
    FailsOnly kind (items.mapM read) := by
  intro failure failed
  obtain ⟨_, item, _, _, _, failed⟩ := mapM_eq_error.1 failed
  exact each item failure failed

theorem failsOnly_foldlM {step : β → α → Except Failure β} (start : β) (items : List α)
    (each : ∀ state item, FailsOnly kind (step state item)) : FailsOnly kind (items.foldlM step start) := by
  intro failure failed
  obtain ⟨_, item, _, state, _, _, failed⟩ := foldlM_eq_error.1 failed
  exact each state item failure failed

theorem failsOnly_forM {check : α → Except Failure Unit} (items : List α) (each : ∀ item, FailsOnly kind (check item)) :
    FailsOnly kind (items.forM check) := by
  induction items with
  | nil => exact failsOnly_ok ()
  | cons item rest ih => exact (each item).bind fun _ => ih

end

end Parley

