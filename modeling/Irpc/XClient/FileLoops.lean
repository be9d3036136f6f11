import Irpc.Errors
import Irpc.Foundation.Loop
import Irpc.Foundation.Writer

/-! The transfer loops of `SendFile` and `DownloadFile`. Each turn begins with a `select` on the
context; its `Done` case is empty, so a turn that finds the context cancelled does nothing. -/
namespace Irpc.XClient

open Irpc.Foundation

def fileTransferBufferSize : Nat := 1024

/-- What the calls of one transfer meet, apart from the writer of the file's bytes. -/
structure Transfer (Conn : Type) where
  /-- The error of a step up to the connection: the file, the remote call, the dial. -/
  setup : Option GoError
  conn : ByteWriter Conn GoError
  connState : Conn
  token : Bytes
  /-- The reads that bring data: some of it, and never more than the buffer takes. -/
  chunks : List Bytes
  filled : ∀ chunk ∈ chunks, 0 < chunk.length ∧ chunk.length ≤ fileTransferBufferSize
  /-- The error of the read after them, `io.EOF` at the end of the file. -/
  last : GoError
  /-- How many turns begin before the context is cancelled. -/
  cancelAt : Option Nat

structure TransferPosition (Writer : Type) where
  turn : Nat
  rest : List Bytes
  sink : Sink Writer

/-- The error a function returns, and the bytes its writer has accepted. -/
abbrev TransferResult := Option GoError × Bytes

/-- `io.EOF` is no failure. -/
def unlessEOF (err : GoError) : Option GoError := if err = .eof then none else some err

namespace Transfer

variable {Conn Writer : Type} (transfer : Transfer Conn)

def done (turn : Nat) : Bool := transfer.cancelAt.any fun count => count ≤ turn

def read : List Bytes → Bytes × Option GoError
  | [] => ([], some transfer.last)
  | chunk :: _ => (chunk, none)

def sendTurn (pos : TransferPosition Conn) : LoopTurn (TransferPosition Conn) TransferResult :=
  if transfer.done pos.turn then .again { pos with turn := pos.turn + 1 }
  else
    match transfer.read pos.rest with
    | (_, some err) => .ended (unlessEOF err, pos.sink.accepted)
    | (data, none) =>
      if data.length = 0 then .ended (none, pos.sink.accepted)
      else
        let written := transfer.conn.put pos.sink data
        match written.error with
        | some err => .ended (unlessEOF err, written.next.accepted)
        | none => .again ⟨pos.turn + 1, pos.rest.tail, written.next⟩

def downloadTurn (saveTo : ByteWriter Writer GoError) (pos : TransferPosition Writer) :
    LoopTurn (TransferPosition Writer) TransferResult :=
  if transfer.done pos.turn then .again { pos with turn := pos.turn + 1 }
  else
    let (data, er) := transfer.read pos.rest
    let (ew, sink) :=
      if 0 < data.length then ((saveTo.put pos.sink data).error, (saveTo.put pos.sink data).next)
      else (none, pos.sink)
    match ew, er with
    | some ew, _ => .ended (some ew, sink.accepted)
    | none, some er => .ended (unlessEOF er, sink.accepted)
    | none, none => .again ⟨pos.turn + 1, pos.rest.tail, sink⟩

def tokenSent : Written (Sink Conn) GoError := transfer.conn.put ⟨transfer.connState, []⟩ transfer.token

/-- The steps before the loop, down to the token. -/
def opened : Option GoError × Sink Conn :=
  match transfer.setup with
  | some err => (some err, ⟨transfer.connState, []⟩)
  | none => (transfer.tokenSent.error, transfer.tokenSent.next)

/-- `SendFile`, whose bytes go to the connection after the token. -/
def sendFile (fuel : Nat) : Option TransferResult :=
  match transfer.opened with
  | (some err, conn) => some (some err, conn.accepted)
  | (none, conn) => LoopTurn.run transfer.sendTurn fuel ⟨0, transfer.chunks, conn⟩

/-- `DownloadFile` into a writer in the given state. -/
def downloadFile (saveTo : ByteWriter Writer GoError) (state : Writer) (fuel : Nat) : Option TransferResult :=
  match transfer.opened with
  | (some err, _) => some (some err, [])
  | (none, _) => LoopTurn.run (transfer.downloadTurn saveTo) fuel ⟨0, transfer.chunks, ⟨state, []⟩⟩

/-- The turn in which a loop comes to its end: the first one whose write fails, or the one
that finds nothing more to read. -/
def lastTurn (writer : ByteWriter Writer GoError) : List Bytes → Sink Writer → Nat
  | [], _ => 0
  | chunk :: rest, sink =>
    match (writer.put sink chunk).error with
    | some _ => 0
    | none => lastTurn writer rest (writer.put sink chunk).next + 1

def Unopened : Prop := transfer.setup ≠ none ∨ transfer.tokenSent.error ≠ none

/-- The context is cancelled, if at all, after the last `select` of the loop. -/
def Undisturbed (writer : ByteWriter Writer GoError) (sink : Sink Writer) : Prop :=
  ∀ count, transfer.cancelAt = some count → lastTurn writer transfer.chunks sink < count

/-- No step of the transfer fails. -/
structure Flawless (writer : ByteWriter Writer GoError) (sink : Sink Writer) : Prop where
  opened : ¬ transfer.Unopened
  read : transfer.last = .eof
  written : (writer.putAll transfer.chunks sink).1 = none

/-- What a transfer function owes its caller, where its loop starts with `sink` and the bytes
`before` are in the writer already: it ends; undisturbed and without a failure it returns nil
and everything is written; disturbed, it returns an error. -/
structure Sound (writer : ByteWriter Writer GoError) (sink : Sink Writer) (before : Bytes)
    (function : Nat → Option TransferResult) : Prop where
  ends : ∃ fuel result, function fuel = some result
  complete : transfer.Undisturbed writer sink → transfer.Flawless writer sink →
    ∃ fuel, function fuel = some (none, before ++ transfer.chunks.flatten)
  cancelled : ¬ transfer.Undisturbed writer sink →
    ∀ fuel result, function fuel = some result → result.1 ≠ none

/-- One turn of either loop while its reads bring data; `refused` is what becomes of the error
of a write. -/
def exchange (writer : ByteWriter Writer GoError) (refused : GoError → Option GoError)
    (pos : TransferPosition Writer) : LoopTurn (TransferPosition Writer) TransferResult :=
  if transfer.done pos.turn then .again { pos with turn := pos.turn + 1 }
  else
    match pos.rest with
    | [] => .ended (unlessEOF transfer.last, pos.sink.accepted)
    | chunk :: rest =>
      match (writer.put pos.sink chunk).error with
      | some err => .ended (refused err, (writer.put pos.sink chunk).next.accepted)
      | none => .again ⟨pos.turn + 1, rest, (writer.put pos.sink chunk).next⟩

/-- The loop of `turn` exchanges while its reads bring data. -/
def Exchanges (writer : ByteWriter Writer GoError) (refused : GoError → Option GoError)
    (turn : TransferPosition Writer → LoopTurn (TransferPosition Writer) TransferResult) : Prop :=
  ∀ pos, (∀ chunk ∈ pos.rest, 0 < chunk.length) → turn pos = transfer.exchange writer refused pos

theorem exchanges_sendTurn : transfer.Exchanges transfer.conn unlessEOF transfer.sendTurn := by
  intro pos filled
  obtain ⟨turn, rest, sink⟩ := pos
  cases rest with
  | nil => rfl
  | cons chunk rest =>
    have data : chunk.length ≠ 0 := Nat.pos_iff_ne_zero.mp (filled chunk List.mem_cons_self)
    simp only [sendTurn, exchange, read, data, ↓reduceIte, List.tail_cons]

theorem exchanges_downloadTurn (saveTo : ByteWriter Writer GoError) :
    transfer.Exchanges saveTo some (transfer.downloadTurn saveTo) := by
  intro pos filled
  obtain ⟨turn, rest, sink⟩ := pos
  cases rest with
  | nil => rfl
  | cons chunk rest =>
    have data : 0 < chunk.length := filled chunk List.mem_cons_self
    simp only [downloadTurn, exchange, read, data, ↓reduceIte, List.tail_cons]
    cases (saveTo.put sink chunk).error <;> rfl

variable {transfer}

theorem done_iff {turn : Nat} :
    transfer.done turn = true ↔ ∃ count, transfer.cancelAt = some count ∧ count ≤ turn := by
  simp [done, Option.any_eq_true]

theorem done_eq_false {turn : Nat} (calm : ∀ count, transfer.cancelAt = some count → turn < count) :
    transfer.done turn = false := by
  rw [Bool.eq_false_iff, ne_eq, done_iff]
  rintro ⟨count, cancelled, early⟩
  exact absurd (calm count cancelled) (Nat.not_lt.mpr early)

theorem lastTurn_cons_of_passed {writer : ByteWriter Writer GoError} {chunk : Bytes} {sink : Sink Writer}
    (passed : (writer.put sink chunk).error = none) (rest : List Bytes) :
    lastTurn writer (chunk :: rest) sink = lastTurn writer rest (writer.put sink chunk).next + 1 := by
  simp [lastTurn, passed]

theorem lastTurn_cons_of_failed {writer : ByteWriter Writer GoError} {chunk : Bytes} {sink : Sink Writer}
    (failed : (writer.put sink chunk).error = some err) (rest : List Bytes) :
    lastTurn writer (chunk :: rest) sink = 0 := by
  simp [lastTurn, failed]

section Loop

variable {writer : ByteWriter Writer GoError} {refused : GoError → Option GoError}
  {turn : TransferPosition Writer → LoopTurn (TransferPosition Writer) TransferResult}

/-- A loop that meets no cancellation ends, and has written what it read unless something fails. -/
theorem Exchanges.ends (exchanges : transfer.Exchanges writer refused turn) (rest : List Bytes)
    (filled : ∀ chunk ∈ rest, 0 < chunk.length) (number : Nat) (sink : Sink Writer)
    (calm : ∀ count, transfer.cancelAt = some count → number + lastTurn writer rest sink < count) :
    ∃ result, LoopTurn.Ends turn ⟨number, rest, sink⟩ result ∧
      (transfer.last = .eof → (writer.putAll rest sink).1 = none →
        result = (none, sink.accepted ++ rest.flatten)) := by
  -- on the reads still to come, of which each turn takes one
  induction rest generalizing number sink with
  | nil =>
    have going : transfer.done number = false := done_eq_false calm
    have stops := exchanges ⟨number, [], sink⟩ filled
    simp only [exchange, going] at stops
    refine ⟨_, .now stops, ?_⟩
    intro eof _
    simp [unlessEOF, eof]
  | cons chunk rest ih =>
    have going : transfer.done number = false :=
      done_eq_false fun count cancelled => Nat.lt_of_le_of_lt (Nat.le_add_right _ _) (calm count cancelled)
    have moves := exchanges ⟨number, chunk :: rest, sink⟩ filled
    simp only [exchange, going] at moves
    cases outcome : (writer.put sink chunk).error with
    | some err =>
      rw [outcome] at moves
      refine ⟨_, .now moves, ?_⟩
      intro _ passed
      simp [ByteWriter.putAll_cons_of_failed outcome] at passed
    | none =>
      rw [outcome] at moves
      rw [lastTurn_cons_of_passed outcome] at calm
      have later : ∀ count, transfer.cancelAt = some count →
          number + 1 + lastTurn writer rest (writer.put sink chunk).next < count := by
        intro count cancelled
        have bound := calm count cancelled
        omega
      obtain ⟨result, ended, written⟩ :=
        ih (fun other member => filled other (List.mem_cons_of_mem _ member)) (number + 1) _ later
      refine ⟨result, .later moves ended, ?_⟩
      intro eof passed
      rw [ByteWriter.putAll_cons_of_passed outcome] at passed
      rw [written eof passed, ByteWriter.accepted_put outcome, List.flatten_cons, List.append_assoc]

/-- The loop does not get to its last turn before the context is cancelled. -/
def Caught (count : Nat) (writer : ByteWriter Writer GoError) (pos : TransferPosition Writer) : Prop :=
  (∀ chunk ∈ pos.rest, 0 < chunk.length) ∧ count ≤ pos.turn + lastTurn writer pos.rest pos.sink

/-- A caught loop takes another turn and stays caught: it makes the exchanges before the
cancellation, and nothing after it. -/
theorem Exchanges.caught (exchanges : transfer.Exchanges writer refused turn)
    (cancelled : transfer.cancelAt = some count) (pos : TransferPosition Writer) (caught : Caught count writer pos) :
    ∃ next, turn pos = .again next ∧ Caught count writer next := by
  obtain ⟨number, rest, sink⟩ := pos
  obtain ⟨filled, early⟩ := caught
  have moves := exchanges ⟨number, rest, sink⟩ filled
  by_cases found : count ≤ number
  · have waits : transfer.done number = true := done_iff.mpr ⟨count, cancelled, found⟩
    simp only [exchange, waits] at moves
    refine ⟨_, moves, filled, ?_⟩
    dsimp only at early ⊢
    omega
  · have going : transfer.done number = false := by
      apply done_eq_false
      intro other same
      rw [cancelled, Option.some.injEq] at same
      omega
    simp only [exchange, going] at moves
    cases rest with
    | nil => exact absurd early found
    | cons chunk rest =>
      dsimp only at early moves
      cases outcome : (writer.put sink chunk).error with
      | some err =>
        rw [lastTurn_cons_of_failed outcome] at early
        exact absurd early found
      | none =>
        rw [outcome] at moves
        rw [lastTurn_cons_of_passed outcome] at early
        refine ⟨_, moves, fun other member => filled other (List.mem_cons_of_mem _ member), ?_⟩
        dsimp only
        omega

theorem not_sound_of_endless {sink : Sink Writer} {function : Nat → Option TransferResult}
    (endless : ∀ fuel, function fuel = none) : ¬ transfer.Sound writer sink before function := by
  intro sound
  obtain ⟨fuel, result, ended⟩ := sound.ends
  exact Option.some_ne_none result (ended.symm.trans (endless fuel))

/-- What the loop owes is kept exactly if no cancellation reaches it. -/
theorem Exchanges.sound_iff (exchanges : transfer.Exchanges writer refused turn) (sink : Sink Writer) :
    transfer.Sound writer sink sink.accepted (fun fuel => LoopTurn.run turn fuel ⟨0, transfer.chunks, sink⟩) ↔
      transfer.Undisturbed writer sink := by
  have filled : ∀ chunk ∈ transfer.chunks, 0 < chunk.length := fun chunk member =>
    (transfer.filled chunk member).1
  constructor
  · intro sound count cancelled
    by_contra early
    have caught : Caught count writer ⟨0, transfer.chunks, sink⟩ := ⟨filled, by dsimp only; omega⟩
    exact not_sound_of_endless (LoopTurn.run_eq_none_of_invariant (exchanges.caught cancelled) caught) sound
  · intro undisturbed
    have calm : ∀ count, transfer.cancelAt = some count →
        0 + lastTurn writer transfer.chunks sink < count := by
      intro count cancelled
      rw [Nat.zero_add]
      exact undisturbed count cancelled
    obtain ⟨result, ⟨fuel, ended⟩, written⟩ := exchanges.ends transfer.chunks filled 0 sink calm
    refine ⟨⟨fuel, result, ended⟩, ?_, fun disturbed => absurd undisturbed disturbed⟩
    intro _ flawless
    exact ⟨fuel, by rw [ended, written flawless.read flawless.written]⟩

end Loop

theorem opened_of_unopened (unopened : transfer.Unopened) :
    ∃ err conn, transfer.opened = (some err, conn) := by
  unfold opened
  cases early : transfer.setup with
  | some err => exact ⟨err, _, rfl⟩
  | none =>
    have refused : transfer.tokenSent.error ≠ none := unopened.resolve_left fun failed => failed early
    obtain ⟨err, token⟩ := Option.ne_none_iff_exists'.mp refused
    exact ⟨err, transfer.tokenSent.next, by rw [token]⟩

theorem opened_of_not_unopened (ready : ¬ transfer.Unopened) :
    transfer.opened = (none, transfer.tokenSent.next) := by
  obtain ⟨early, token⟩ := not_or.mp ready
  simp only [opened, not_not.mp early, not_not.mp token]

/-- A function that fails before its loop keeps everything it owes. -/
theorem sound_of_unopened {writer : ByteWriter Writer GoError} {sink : Sink Writer}
    {function : Nat → Option TransferResult} (unopened : transfer.Unopened)
    (fails : ∀ fuel, function fuel = some (some err, written)) (before : Bytes) :
    transfer.Sound writer sink before function := by
  refine ⟨⟨0, _, fails 0⟩, fun _ flawless => absurd unopened flawless.opened, ?_⟩
  intro _ fuel result ended
  rw [fails, Option.some.injEq] at ended
  rw [← ended]
  exact Option.some_ne_none err

theorem sendFile_sound_iff_of_ready (ready : ¬ transfer.Unopened) :
    transfer.Sound transfer.conn transfer.tokenSent.next transfer.token transfer.sendFile ↔
      transfer.Undisturbed transfer.conn transfer.tokenSent.next := by
  have loop : transfer.sendFile =
      fun fuel => LoopTurn.run transfer.sendTurn fuel ⟨0, transfer.chunks, transfer.tokenSent.next⟩ := by
    funext fuel
    simp only [sendFile, opened_of_not_unopened ready]
  have token : transfer.tokenSent.next.accepted = transfer.token :=
    ByteWriter.accepted_put (not_not.mp (not_or.mp ready).2)
  have sound := (exchanges_sendTurn transfer).sound_iff transfer.tokenSent.next
  rwa [token, ← loop] at sound

theorem downloadFile_sound_iff_of_ready (ready : ¬ transfer.Unopened) (saveTo : ByteWriter Writer GoError)
    (state : Writer) :
    transfer.Sound saveTo ⟨state, []⟩ [] (transfer.downloadFile saveTo state) ↔
      transfer.Undisturbed saveTo ⟨state, []⟩ := by
  have loop : transfer.downloadFile saveTo state =
      fun fuel => LoopTurn.run (transfer.downloadTurn saveTo) fuel ⟨0, transfer.chunks, ⟨state, []⟩⟩ := by
    funext fuel
    simp only [downloadFile, opened_of_not_unopened ready]
  rw [loop]
  exact (exchanges_downloadTurn transfer saveTo).sound_iff ⟨state, []⟩

/-- Both functions end as they should exactly if they fail before their loops, or the context
is not cancelled before the last `select`. -/
theorem file_transfer_sound_iff (transfer : Transfer Conn) (saveTo : ByteWriter Writer GoError) (state : Writer) :
    (transfer.Sound transfer.conn transfer.tokenSent.next transfer.token transfer.sendFile ↔
      transfer.Unopened ∨ transfer.Undisturbed transfer.conn transfer.tokenSent.next) ∧
    (transfer.Sound saveTo ⟨state, []⟩ [] (transfer.downloadFile saveTo state) ↔
      transfer.Unopened ∨ transfer.Undisturbed saveTo ⟨state, []⟩) := by
  by_cases unopened : transfer.Unopened
  · obtain ⟨err, conn, fails⟩ := opened_of_unopened unopened
    have send : ∀ fuel, transfer.sendFile fuel = some (some err, conn.accepted) := by
      intro fuel
      simp only [sendFile, fails]
    have download : ∀ fuel, transfer.downloadFile saveTo state fuel = some (some err, []) := by
      intro fuel
      simp only [downloadFile, fails]
    constructor
    · exact iff_of_true (sound_of_unopened unopened send _) (.inl unopened)
    · exact iff_of_true (sound_of_unopened unopened download _) (.inl unopened)
  · rw [sendFile_sound_iff_of_ready unopened, downloadFile_sound_iff_of_ready unopened]
    exact ⟨(or_iff_right unopened).symm, (or_iff_right unopened).symm⟩

/-- Two reads, with the context cancelled after the first. -/
def cutShort : Transfer Unit where
  setup := none
  conn := .unlimited
  connState := ()
  token := [7]
  chunks := [[1], [2]]
  filled := by decide
  last := .eof
  cancelAt := some 1

example : ({ cutShort with cancelAt := none } : Transfer Unit).sendFile 3 = some (none, [7, 1, 2]) := by decide

/-- The transfer that is cut short never ends, whatever time it is given. -/
theorem cancelled_transfer_spins :
    (∀ fuel, cutShort.sendFile fuel = none) ∧
    (∀ fuel, cutShort.downloadFile .unlimited () fuel = none) ∧
    ¬ cutShort.Sound cutShort.conn cutShort.tokenSent.next cutShort.token cutShort.sendFile ∧
    ¬ cutShort.Sound .unlimited ⟨(), []⟩ [] (cutShort.downloadFile .unlimited ()) := by
  have send : ∀ fuel, cutShort.sendFile fuel = none := by
    intro fuel
    exact LoopTurn.run_eq_none_of_invariant ((exchanges_sendTurn cutShort).caught rfl) ⟨by decide, by decide⟩ fuel
  have download : ∀ fuel, cutShort.downloadFile .unlimited () fuel = none := by
    intro fuel
    exact LoopTurn.run_eq_none_of_invariant ((exchanges_downloadTurn cutShort .unlimited).caught rfl)
      ⟨by decide, by decide⟩ fuel
  exact ⟨send, download, not_sound_of_endless send, not_sound_of_endless download⟩

end Transfer

end Irpc.XClient
