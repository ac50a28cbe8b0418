import Parley.Proofs.Json.Blanks

namespace Parley.Json

/-- A step leaves so many containers open at most, and fails for their depth only if these are as many as may be. -/
def Bounded (most : Nat) : Except Defect Reading → Prop
  | .ok state => state.2.length ≤ most
  | .error .tooDeep => depthLimit ≤ most
  | .error _ => True

theorem Bounded.mono {most more : Nat} {step : Except Defect Reading} (bounded : Bounded most step) (le : most ≤ more) :
    Bounded more step := by
  cases step with
  | ok state => exact Nat.le_trans bounded le
  | error defect =>
    cases defect with
    | tooDeep => exact Nat.le_trans bounded le
    | _ => trivial

theorem bounded_openIn (frames : List Frame) (stage : Stage) : Bounded frames.length (openIn frames stage) := by
  unfold openIn
  split
  next => exact Nat.le_refl _
  next full => exact Nat.le_of_not_lt full

theorem bounded_startValue (token : Token) (frames : List Frame) : Bounded frames.length (startValue token frames) := by
  cases token with
  | openList | openObject => exact bounded_openIn _ _
  | atom value => exact Nat.le_refl _
  | _ => trivial

theorem bounded_afterValue (value : Json) (token : Token) (frames : List Frame) :
    Bounded frames.length (afterValue value token frames) := by
  unfold afterValue
  split
  · exact Nat.le_refl _
  · exact Nat.le_succ _
  · exact Nat.le_succ _
  · exact Nat.le_succ _
  · trivial

theorem bounded_advance (state : Reading) (token : Token) : Bounded (state.2.length + 1) (advance state token) := by
  obtain ⟨stage, frames⟩ := state
  cases stage with
  | value => exact (bounded_startValue token frames).mono (Nat.le_succ _)
  | firstItem =>
    unfold advance
    dsimp only
    split
    · exact Nat.le_succ _
    · exact bounded_startValue _ (.list [] :: frames)
  | firstKey =>
    unfold advance
    dsimp only
    split
    · exact Nat.le_succ _
    · exact Nat.le_succ _
    · trivial
  | key before =>
    unfold advance
    dsimp only
    split
    · exact Nat.le_succ _
    · trivial
  | colon before key =>
    unfold advance
    dsimp only
    split
    · exact Nat.le_refl _
    · trivial
  | done value => exact (bounded_afterValue value token frames).mono (Nat.le_succ _)

theorem bounded_run (state : Reading) (tokens : List Token) :
    Bounded (state.2.length + tokens.length) (run state tokens) := by
  induction tokens generalizing state with
  | nil => exact Nat.le_refl _
  | cons token rest ih =>
    have taken := bounded_advance state token
    rw [run]
    cases stepped : advance state token with
    | ok next =>
      rw [stepped] at taken
      have opened : next.2.length ≤ state.2.length + 1 := taken
      refine (ih next).mono ?_
      rw [List.length_cons]
      omega
    | error defect =>
      rw [stepped] at taken
      exact taken.mono (by rw [List.length_cons]; omega)

theorem length_tokens_le (cs : List Char) : (tokens cs).length ≤ cs.length := by
  induction cs using tokens.induct with
  | case1 => rw [tokens]; exact Nat.le_refl _
  | case2 c rest gap ih =>
    rw [tokens, if_pos gap]
    exact Nat.le_succ_of_le ih
  | case3 c rest solid none =>
    rw [tokens_of_not_scanToken solid none]
    exact Nat.succ_le_succ (Nat.zero_le _)
  | case4 c rest solid token after found ih =>
    rw [tokens_of_scanToken (Bool.eq_false_iff.2 solid) found, List.length_cons]
    exact Nat.succ_le_of_lt (Nat.lt_of_le_of_lt ih (scanToken_shorter found))

/-- A text that is too deep is no shorter than the greatest depth. -/
theorem depthLimit_le_of_readList {cs : List Char} (deep : readList cs = .error .tooDeep) : depthLimit ≤ cs.length := by
  have bounded := bounded_run (.value, []) (tokens cs)
  have short := length_tokens_le cs
  unfold readList at deep
  cases ran : run (.value, []) (tokens cs) with
  | ok state =>
    rw [ran] at deep
    have failed : ended state = .error .tooDeep := deep
    unfold ended at failed
    split at failed
    · cases failed
    · cases failed
  | error defect =>
    rw [ran] at deep bounded
    obtain rfl := Except.error.inj deep
    have long : depthLimit ≤ 0 + (tokens cs).length := bounded
    omega

end Parley.Json

