import Parley.Assistant

namespace Parley

/-- Where the loop of an exchange stands. The flag tells whether a call has already been carried out. -/
inductive Moment where
  /-- The next request is about to be handed over. -/
  | asking (exchange : Exchange) (followUp : Bool)
  /-- The request is out of the loop's hands, and this is what comes of it. -/
  | waiting (exchange : Exchange) (followUp : Bool) (answer : Except Failure Reply)
  | finished (exchange : Exchange) (ending : Ending)

def Moment.stepsLeft : Moment → Nat
  | asking _ false => 4
  | waiting _ false _ => 3
  | asking _ true => 2
  | waiting _ true _ => 1
  | finished _ _ => 0

namespace Assistant

def ended : Exchange × Ending → Moment
  | (exchange, ending) => .finished exchange ending

def resumed : Exchange × Option Ending → Moment
  | (exchange, some ending) => .finished exchange ending
  | (exchange, none) => .asking exchange true

def take (assistant : Assistant) (exchange : Exchange) (followUp : Bool) (answer : Except Failure Reply) : Moment :=
  match assistant.hear exchange answer with
  | (exchange, .error ending) => .finished exchange ending
  | (exchange, .ok reply) =>
      if followUp then ended (Assistant.answer (exchange.charge reply.usage none) reply)
      else resumed (assistant.consider exchange reply)

/-- One step of the loop. Only handing a request over touches the network. -/
def advance (assistant : Assistant) (dialogue : Dialogue) (moment : Moment) (network : Network) : Moment × Network :=
  match moment with
  | .asking exchange followUp =>
      let exchange := exchange.reach .requestSent
      let (answer, later) := assistant.provider.ask (assistant.question dialogue exchange followUp) network
      (.waiting exchange followUp answer, later)
  | .waiting exchange followUp answer => (assistant.take exchange followUp answer, network)
  | .finished exchange ending => (.finished exchange ending, network)

theorem stepsLeft_take (assistant : Assistant) (exchange : Exchange) (followUp : Bool)
    (answer : Except Failure Reply) :
    (assistant.take exchange followUp answer).stepsLeft < (Moment.waiting exchange followUp answer).stepsLeft := by
  unfold take
  split
  · cases followUp <;> simp [Moment.stepsLeft]
  · cases followUp with
    | true => exact Nat.one_pos
    | false =>
      simp only [Bool.false_eq_true, if_false]
      unfold resumed
      split <;> simp [Moment.stepsLeft]

theorem stepsLeft_advance (assistant : Assistant) (dialogue : Dialogue) (moment : Moment) (network : Network)
    (goesOn : moment.stepsLeft ≠ 0) : (assistant.advance dialogue moment network).1.stepsLeft < moment.stepsLeft := by
  cases moment with
  | asking exchange followUp => cases followUp <;> simp [advance, Moment.stepsLeft]
  | waiting exchange followUp answer => exact stepsLeft_take assistant exchange followUp answer
  | finished exchange ending => exact absurd rfl goesOn

def finish (assistant : Assistant) (dialogue : Dialogue) (started : Float) (moment : Moment) (network : Network) :
    Report :=
  match moment with
  | .finished exchange ending => report dialogue started exchange ending network
  | .asking exchange followUp =>
      let next := assistant.advance dialogue (.asking exchange followUp) network
      assistant.finish dialogue started next.1 next.2
  | .waiting exchange followUp answer =>
      let next := assistant.advance dialogue (.waiting exchange followUp answer) network
      assistant.finish dialogue started next.1 next.2
termination_by moment.stepsLeft
decreasing_by all_goals exact stepsLeft_advance _ _ _ _ (by cases followUp <;> simp [Moment.stepsLeft])

end Assistant

end Parley

