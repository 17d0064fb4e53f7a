import Mathlib.Tactic.TypeStar

/-!
# Loops with a break

A pass of a loop goes on in another state or ends the loop with a result. The
loop runs with a bound on its passes. The rule of total correctness says that
enough passes end it; a loop with more state than another one ends as it does.
-/

namespace WhileLoops

set_option autoImplicit false

variable {State Wider Out WiderOut : Type*}

inductive Pass (State Out : Type*) where
  | again (state : State)
  | ends (out : Out)

/-- The result of the loop, unless it takes `fuel` passes or more. -/
def whileLoop (body : State → Pass State Out) : Nat → State → Option Out
  | 0, _ => none
  | fuel + 1, state =>
      match body state with
      | .again next => whileLoop body fuel next
      | .ends out => some out

def Pass.map (view : Wider → State) (viewOut : WiderOut → Out) :
    Pass Wider WiderOut → Pass State Out
  | .again state => .again (view state)
  | .ends out => .ends (viewOut out)

/-- An invariant, a measure that each further pass lowers, and a relation of
state and result that holds where the loop ends and carries back over a pass. -/
theorem while_loop_total {body : State → Pass State Out} (invariant : State → Prop)
    (measure : State → Nat) (relation : State → Out → Prop)
    (ends : ∀ state out, invariant state → body state = .ends out → relation state out)
    (again : ∀ state next, invariant state → body state = .again next →
      invariant next ∧ measure next < measure state ∧
        ∀ out, relation next out → relation state out)
    {fuel : Nat} {state : State} (initial : invariant state) (enough : measure state < fuel) :
    ∃ out, whileLoop body fuel state = some out ∧ relation state out := by
  induction fuel generalizing state with
  | zero => cases enough
  | succ fuel induction =>
      cases pass : body state with
      | again next =>
          rcases again state next initial pass with ⟨kept, lower, carries⟩
          rcases induction kept (Nat.lt_of_lt_of_le lower (Nat.le_of_lt_succ enough)) with
            ⟨out, result, related⟩
          refine ⟨out, ?_, carries out related⟩
          simp only [whileLoop, pass]
          exact result
      | ends out =>
          refine ⟨out, ?_, ends state out initial pass⟩
          simp only [whileLoop, pass]

theorem while_loop_view {body : State → Pass State Out} {wider : Wider → Pass Wider WiderOut}
    {view : Wider → State} {viewOut : WiderOut → Out}
    (same : ∀ state, (wider state).map view viewOut = body (view state)) (fuel : Nat)
    (state : Wider) :
    (whileLoop wider fuel state).map viewOut = whileLoop body fuel (view state) := by
  induction fuel generalizing state with
  | zero => rfl
  | succ fuel induction =>
      have passes := same state
      cases pass : wider state with
      | again next =>
          rw [pass] at passes
          simp only [whileLoop, pass, ← passes, Pass.map]
          exact induction next
      | ends out =>
          rw [pass] at passes
          simp only [whileLoop, pass, ← passes, Pass.map, Option.map_some]

end WhileLoops
