import Irpc.Foundation.Bytes

/-! Writers that may refuse, and what has gone into them. A writer takes no more
than it is given, and says so when it takes less. -/
namespace Irpc.Foundation

/-- The answer of a writer to one write. -/
structure Written (State Error : Type) where
  count : Nat
  error : Option Error
  next : State

structure ByteWriter (State Error : Type) where
  write : State → Bytes → Written State Error
  count_le : ∀ state data, (write state data).count ≤ data.length
  short : ∀ state data, (write state data).error = none → (write state data).count = data.length

/-- A writer in use, with all bytes it has accepted. -/
structure Sink (State : Type) where
  state : State
  accepted : Bytes

namespace ByteWriter

variable {State Error : Type} (writer : ByteWriter State Error)

def put (sink : Sink State) (data : Bytes) : Written (Sink State) Error :=
  let written := writer.write sink.state data
  ⟨written.count, written.error, ⟨written.next, sink.accepted ++ data.take written.count⟩⟩

/-- One write after another, up to the first that fails. -/
def putAll : List Bytes → Sink State → Option Error × Sink State
  | [], sink => (none, sink)
  | data :: rest, sink =>
    match (writer.put sink data).error with
    | some err => (some err, (writer.put sink data).next)
    | none => putAll rest (writer.put sink data).next

def unlimited : ByteWriter Unit Error where
  write _ data := ⟨data.length, none, ()⟩
  count_le _ _ := Nat.le_refl _
  short _ _ _ := rfl

def AcceptsAll : Prop := ∀ state data, (writer.write state data).error = none

variable {writer} {sink : Sink State}

theorem length_put (writer : ByteWriter State Error) (sink : Sink State) (data : Bytes) :
    (writer.put sink data).next.accepted.length = sink.accepted.length + (writer.put sink data).count := by
  have fits := writer.count_le sink.state data
  simp [put, fits]

theorem accepted_put (passed : (writer.put sink data).error = none) :
    (writer.put sink data).next.accepted = sink.accepted ++ data := by
  simp [put, writer.short _ _ passed]

theorem count_put (passed : (writer.put sink data).error = none) :
    (writer.put sink data).count = data.length :=
  writer.short _ _ passed

theorem putAll_cons_of_passed (passed : (writer.put sink data).error = none) (rest : List Bytes) :
    writer.putAll (data :: rest) sink = writer.putAll rest (writer.put sink data).next := by
  simp [putAll, passed]

theorem putAll_cons_of_failed (failed : (writer.put sink data).error = some err) (rest : List Bytes) :
    writer.putAll (data :: rest) sink = (some err, (writer.put sink data).next) := by
  simp [putAll, failed]

theorem accepted_putAll (writer : ByteWriter State Error) (pieces : List Bytes) (sink : Sink State)
    (passed : (writer.putAll pieces sink).1 = none) :
    (writer.putAll pieces sink).2.accepted = sink.accepted ++ pieces.flatten := by
  induction pieces generalizing sink with
  | nil => simp [putAll]
  | cons data rest ih =>
    cases outcome : (writer.put sink data).error with
    | some err => simp [putAll_cons_of_failed outcome] at passed
    | none =>
      rw [putAll_cons_of_passed outcome] at passed ⊢
      rw [ih _ passed, accepted_put outcome, List.flatten_cons, List.append_assoc]

theorem length_le_putAll (writer : ByteWriter State Error) (pieces : List Bytes) (sink : Sink State) :
    sink.accepted.length ≤ (writer.putAll pieces sink).2.accepted.length := by
  induction pieces generalizing sink with
  | nil => exact Nat.le_refl _
  | cons data rest ih =>
    have grown := length_put writer sink data
    cases outcome : (writer.put sink data).error with
    | some err =>
      rw [putAll_cons_of_failed outcome]
      dsimp only
      omega
    | none =>
      rw [putAll_cons_of_passed outcome]
      have later := ih (writer.put sink data).next
      omega

/-- Writes that begin with a non-empty one leave the sink as it was exactly if the
first of them fails at once. -/
theorem length_putAll_eq_iff (writer : ByteWriter State Error) (nonempty : data ≠ []) (rest : List Bytes)
    (sink : Sink State) :
    (writer.putAll (data :: rest) sink).2.accepted.length = sink.accepted.length ↔
      (writer.put sink data).error ≠ none ∧ (writer.put sink data).count = 0 := by
  have grown := length_put writer sink data
  cases outcome : (writer.put sink data).error with
  | some err =>
    rw [putAll_cons_of_failed outcome]
    dsimp only
    simp only [ne_eq, reduceCtorEq, not_false_eq_true, true_and]
    omega
  | none =>
    have all := count_put outcome
    have some_data := List.length_pos_iff.mpr nonempty
    have later := length_le_putAll writer rest (writer.put sink data).next
    rw [putAll_cons_of_passed outcome]
    simp only [ne_eq, not_true_eq_false, false_and, iff_false]
    omega

theorem AcceptsAll.putAll (accepts : writer.AcceptsAll) (pieces : List Bytes) (sink : Sink State) :
    (writer.putAll pieces sink).1 = none := by
  induction pieces generalizing sink with
  | nil => rfl
  | cons data rest ih =>
    rw [putAll_cons_of_passed (accepts sink.state data)]
    exact ih _

end ByteWriter

end Irpc.Foundation
