/-! Loops without a bound of their own. A run takes fuel and has no result when it runs out;
a loop ends if some amount of fuel gives a result. -/
namespace Irpc.Foundation

/-- What one turn of a loop comes to. -/
inductive LoopTurn (State Result : Type) where
  | again (next : State)
  | ended (result : Result)

namespace LoopTurn

variable {State Result : Type} (turn : State → LoopTurn State Result)

def run : Nat → State → Option Result
  | 0, _ => none
  | fuel + 1, state =>
    match turn state with
    | .again next => run fuel next
    | .ended result => some result

def Ends (state : State) (result : Result) : Prop := ∃ fuel, run turn fuel state = some result

variable {turn} {state next : State} {result : Result}

theorem run_again (goes : turn state = .again next) (fuel : Nat) :
    run turn (fuel + 1) state = run turn fuel next := by
  simp [run, goes]

theorem Ends.now (stops : turn state = .ended result) : Ends turn state result :=
  ⟨1, by simp [run, stops]⟩

theorem Ends.later (goes : turn state = .again next) (rest : Ends turn next result) :
    Ends turn state result := by
  obtain ⟨fuel, ended⟩ := rest
  exact ⟨fuel + 1, (run_again goes fuel).trans ended⟩

theorem run_of_le {fuel more : Nat} (ended : run turn fuel state = some result) (enough : fuel ≤ more) :
    run turn more state = some result := by
  induction fuel generalizing more state with
  | zero => cases ended
  | succ fuel ih =>
    obtain ⟨more, rfl⟩ := Nat.exists_eq_add_of_lt enough
    cases goes : turn state with
    | again next =>
      rw [run_again goes] at ended ⊢
      exact ih ended (by omega)
    | ended last => simpa [run, goes] using ended

/-- A loop never ends where each turn keeps what makes it go on. -/
theorem run_eq_none_of_invariant {stuck : State → Prop}
    (keep : ∀ state, stuck state → ∃ next, turn state = .again next ∧ stuck next)
    (first : stuck state) (fuel : Nat) : run turn fuel state = none := by
  induction fuel generalizing state with
  | zero => rfl
  | succ fuel ih =>
    obtain ⟨next, goes, still⟩ := keep state first
    rw [run_again goes]
    exact ih still

end LoopTurn

end Irpc.Foundation
