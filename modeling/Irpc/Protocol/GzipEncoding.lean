import Irpc.Foundation.System
import Irpc.Protocol.Encode

/-! Messages encoded with gzip by many goroutines at once. `util.Zip` returns a
reference to the bytes of a buffer it has already put back into its pool, and
`EncodeSlicePointer` copies them into the frame later. -/
namespace Irpc.Protocol

open Irpc.Foundation

structure Gzip where
  zip : Bytes → Bytes
  unzip : Bytes → Except GoError Bytes
  lossless : ∀ data, unzip (zip data) = .ok data

def Gzip.compressor (gzip : Gzip) : Compressor := ⟨fun data => .ok (gzip.zip data), gzip.unzip⟩

/-- A message to be encoded, with the order its metadata is visited in. -/
structure GzipJob where
  message : Message
  order : IterationOrder
  gzipped : message.header.compressType = .gzip

/-- The frame of a job with the given payload section. -/
def GzipJob.frame (job : GzipJob) (payload : Bytes) : Bytes :=
  Message.frame job.message.header job.message.servicePath job.message.serviceMethod
    (encodeMetadata job.order) payload

/-- Encoded alone, a job ends in the frame with its compressed payload. -/
theorem GzipJob.frameOf_eq {gzip : Gzip} {config : Config} (job : GzipJob)
    (registered : config.compressors .gzip = some gzip.compressor) :
    job.message.frameOf config job.order = job.frame (gzip.zip job.message.payload) := by
  have compressed : job.message.compress config = (job.message.header, gzip.zip job.message.payload) := by
    have compresses : CompressType.gzip ≠ CompressType.none := by decide
    rw [Message.compress, job.gzipped, if_neg compresses, registered]
    rfl
  rw [Message.frameOf, compressed, GzipJob.frame]

/-- Where the encoding of one message stands. Buffers and references are known
by the array they point into. -/
inductive GzipPhase where
  | idle
  | writing (array written : Nat)
  | zipped (array length : Nat)
  | framed (frame : Bytes)

/-- Arrays from `next` on are not allocated yet. -/
structure GzipState where
  arrays : Nat → Bytes
  next : Nat
  pool : List Nat
  phase : Nat → GzipPhase

inductive GzipEvent where
  | getBuffer (job pick : Nat)
  | write (job count slack : Nat)
  | putBuffer (job : Nat)
  | copy (job : Nat)

namespace GzipState

def empty : GzipState := ⟨fun _ => [], 0, [], fun _ => .idle⟩

def move (state : GzipState) (job : Nat) (phase : GzipPhase) : GzipState :=
  { state with phase := Function.update state.phase job phase }

def store (state : GzipState) (array : Nat) (content : Bytes) : GzipState :=
  { state with arrays := Function.update state.arrays array content }

/-- What the buffer holds after `count` more bytes of the compressed payload. -/
def filled (zipped array : Bytes) (written count : Nat) : Bytes :=
  array.take written ++ (zipped.drop written).take count

/-- A buffer too small for the bytes moves to a larger array and leaves the old
one as it is. -/
def write (state : GzipState) (job array slack : Nat) (content : Bytes) : GzipState :=
  if content.length ≤ (state.arrays array).length then
    (state.store array (content ++ (state.arrays array).drop content.length)).move job
      (.writing array content.length)
  else
    { (state.store state.next (content ++ List.replicate slack 0)).move job
        (.writing state.next content.length) with next := state.next + 1 }

def step (gzip : Gzip) (jobs : Nat → GzipJob) (state : GzipState) : GzipEvent → Option GzipState
  | .getBuffer job pick =>
    match state.phase job with
    | .idle =>
      match state.pool[pick]? with
      | some array => some { state.move job (.writing array 0) with pool := state.pool.eraseIdx pick }
      | none => some { (state.store state.next []).move job (.writing state.next 0) with
          next := state.next + 1 }
    | _ => none
  | .write job count slack =>
    match state.phase job with
    | .writing array written => some (state.write job array slack
        (filled (gzip.zip (jobs job).message.payload) (state.arrays array) written count))
    | _ => none
  | .putBuffer job =>
    match state.phase job with
    | .writing array written =>
      if written = (gzip.zip (jobs job).message.payload).length then
        some { state.move job (.zipped array written) with pool := array :: state.pool }
      else none
    | _ => none
  | .copy job =>
    match state.phase job with
    | .zipped array length =>
      some (state.move job (.framed ((jobs job).frame ((state.arrays array).take length))))
    | _ => none

def system (gzip : Gzip) (jobs : Nat → GzipJob) : System GzipState GzipEvent where
  initial state := state = empty
  step := step gzip jobs

/-- A step that writes in place writes into an array no message still has to
copy from. -/
def WritesUnreferenced (gzip : Gzip) (jobs : Nat → GzipJob) (state : GzipState) : GzipEvent → Prop
  | .write job count _ => ∀ array written, state.phase job = .writing array written →
    (filled (gzip.zip (jobs job).message.payload) (state.arrays array) written count).length ≤
      (state.arrays array).length →
    ∀ other length, state.phase other ≠ .zipped array length
  | _ => True

/-- What each phase promises about its own message. -/
def Sound (gzip : Gzip) (jobs : Nat → GzipJob) (state : GzipState) (job : Nat) : GzipPhase → Prop
  | .idle => True
  | .writing array written => array < state.next ∧ array ∉ state.pool ∧
    written ≤ (state.arrays array).length ∧
    (state.arrays array).take written <+: gzip.zip (jobs job).message.payload
  | .zipped array length => array < state.next ∧
    (state.arrays array).take length = gzip.zip (jobs job).message.payload
  | .framed frame => frame = (jobs job).frame (gzip.zip (jobs job).message.payload)

structure Inv (gzip : Gzip) (jobs : Nat → GzipJob) (state : GzipState) : Prop where
  sound : ∀ job, Sound gzip jobs state job (state.phase job)
  allocated : ∀ array ∈ state.pool, array < state.next
  distinct : state.pool.Nodup
  exclusive : ∀ job other array written remaining, state.phase job = .writing array written →
    state.phase other = .writing array remaining → job = other

variable {gzip : Gzip} {jobs : Nat → GzipJob} {state after : GzipState} {job : Nat} {phase : GzipPhase}

/-- A phase stays sound while its array keeps its content. -/
theorem Sound.frame (sound : Sound gzip jobs state job phase) (grows : state.next ≤ after.next)
    (kept : ∀ array amount, phase = .writing array amount ∨ phase = .zipped array amount →
      after.arrays array = state.arrays array)
    (out : ∀ array written, phase = .writing array written → array ∉ after.pool) :
    Sound gzip jobs after job phase := by
  cases phase with
  | idle => trivial
  | writing array written =>
    obtain ⟨low, -, fits, own⟩ := sound
    have same := kept array written (.inl rfl)
    exact ⟨by omega, out array written rfl, same ▸ fits, same ▸ own⟩
  | zipped array length =>
    obtain ⟨low, own⟩ := sound
    have same := kept array length (.inr rfl)
    exact ⟨by omega, same ▸ own⟩
  | framed frame => exact sound

/-- One job moves on. The arrays the other jobs write to or refer to keep their
content and stay out of the pool and of the job's hands. -/
theorem Inv.advance (inv : Inv gzip jobs state) (job : Nat)
    (phases : after.phase = Function.update state.phase job phase)
    (sound : Sound gzip jobs after job phase) (grows : state.next ≤ after.next)
    (kept : ∀ other, other ≠ job → ∀ array amount,
      state.phase other = .writing array amount ∨ state.phase other = .zipped array amount →
        after.arrays array = state.arrays array)
    (out : ∀ other, other ≠ job → ∀ array written, state.phase other = .writing array written →
      array ∉ after.pool)
    (alone : ∀ array written, phase = .writing array written → ∀ other, other ≠ job →
      ∀ remaining, state.phase other ≠ .writing array remaining)
    (allocated : ∀ array ∈ after.pool, array < after.next) (distinct : after.pool.Nodup) :
    Inv gzip jobs after where
  sound other := by
    by_cases same : other = job
    · subst same
      simpa [phases] using sound
    · rw [phases, Function.update_of_ne same]
      exact (inv.sound other).frame grows (kept other same) (out other same)
  allocated := allocated
  distinct := distinct
  exclusive first second array written remaining firstWrites secondWrites := by
    rw [phases] at firstWrites secondWrites
    by_cases isFirst : first = job
    · by_cases isSecond : second = job
      · rw [isFirst, isSecond]
      · subst isFirst
        rw [Function.update_self] at firstWrites
        rw [Function.update_of_ne isSecond] at secondWrites
        exact absurd secondWrites (alone array written firstWrites second isSecond remaining)
    · rw [Function.update_of_ne isFirst] at firstWrites
      by_cases isSecond : second = job
      · subst isSecond
        rw [Function.update_self] at secondWrites
        exact absurd firstWrites (alone array remaining secondWrites first isFirst written)
      · rw [Function.update_of_ne isSecond] at secondWrites
        exact inv.exclusive first second array written remaining firstWrites secondWrites

theorem Inv.writing (inv : Inv gzip jobs state) (writes : state.phase job = .writing array written) :
    Sound gzip jobs state job (.writing array written) := writes ▸ inv.sound job

theorem Inv.low (inv : Inv gzip jobs state)
    (uses : state.phase job = .writing array amount ∨ state.phase job = .zipped array amount) :
    array < state.next := by
  have sound := inv.sound job
  rcases uses with uses | uses
  all_goals
    rw [uses] at sound
    exact sound.1

/-- Continuing a prefix of the compressed payload gives a longer prefix. -/
theorem filled_isPrefix {zipped array : Bytes} (fits : written ≤ array.length)
    (own : array.take written <+: zipped) (count : Nat) :
    filled zipped array written count <+: zipped := by
  have start : array.take written = zipped.take written := by
    rw [List.prefix_iff_eq_take.mp own, List.length_take, min_eq_left fits]
  rw [filled, start, ← List.take_add]
  exact List.take_prefix _ _

theorem Inv.write (inv : Inv gzip jobs state) (writes : state.phase job = .writing array written)
    (count slack : Nat)
    (free : WritesUnreferenced gzip jobs state (.write job count slack)) :
    Inv gzip jobs (state.write job array slack
      (filled (gzip.zip (jobs job).message.payload) (state.arrays array) written count)) := by
  obtain ⟨low, out, fits, own⟩ := inv.writing writes
  have continued := filled_isPrefix fits own count
  have room := free array written writes
  generalize filled (gzip.zip (jobs job).message.payload) (state.arrays array) written count =
    content at continued room ⊢
  have others : ∀ other, other ≠ job → ∀ remaining, state.phase other ≠ .writing array remaining := by
    intro other different remaining shares
    exact different (inv.exclusive other job array remaining written shares writes)
  unfold GzipState.write
  split
  case isTrue inPlace =>
    refine inv.advance job rfl ?_ le_rfl ?_ ?_ ?_ inv.allocated inv.distinct
    · refine ⟨low, out, ?_, ?_⟩
      · simp [store, move]
      · simpa [store, move] using continued
    · intro other different used amount uses
      have apart : used ≠ array := by
        rintro rfl
        exact uses.elim (others other different amount) (room inPlace other amount)
      simp [store, move, apart]
    · intro other different used remaining uses
      have sound := inv.writing uses
      exact sound.2.1
    · rintro _ _ ⟨⟩
      exact others
  case isFalse =>
    refine inv.advance job rfl ?_ (Nat.le_succ _) ?_ ?_ ?_ ?_ inv.distinct
    · refine ⟨Nat.lt_succ_self _, ?_, ?_, ?_⟩
      · intro member
        exact absurd (inv.allocated _ member) (lt_irrefl _)
      · simp [store, move]
      · simpa [store, move] using continued
    · intro other different used amount uses
      have apart : used ≠ state.next := (inv.low uses).ne
      simp [store, move, apart]
    · intro other different used remaining uses
      exact (inv.writing uses).2.1
    · rintro _ _ ⟨⟩ other - remaining uses
      exact absurd (inv.low (.inl uses)) (lt_irrefl _)
    · intro used member
      exact (inv.allocated used member).trans (Nat.lt_succ_self _)

theorem Inv.takeBuffer (inv : Inv gzip jobs state) (job : Nat) (found : state.pool[pick]? = some array) :
    Inv gzip jobs { state.move job (.writing array 0) with pool := state.pool.eraseIdx pick } := by
  have member : array ∈ state.pool := List.mem_of_getElem? found
  refine inv.advance job rfl ?_ le_rfl ?_ ?_ ?_ ?_ (inv.distinct.eraseIdx pick)
  · refine ⟨inv.allocated array member, ?_, Nat.zero_le _, List.nil_prefix⟩
    intro again
    obtain ⟨index, apart, other⟩ := List.mem_eraseIdx_iff_getElem?.mp again
    have bound : index < state.pool.length := (List.getElem?_eq_some_iff.mp other).1
    exact apart ((List.getElem?_inj bound inv.distinct).mp (other.trans found.symm))
  · intros
    rfl
  · intro other different used remaining uses again
    exact (inv.writing uses).2.1 (List.mem_of_mem_eraseIdx again)
  · rintro _ _ ⟨⟩ other - remaining uses
    exact (inv.writing uses).2.1 member
  · intro used again
    exact inv.allocated used (List.mem_of_mem_eraseIdx again)

theorem Inv.newBuffer (inv : Inv gzip jobs state) (job : Nat) :
    Inv gzip jobs { (state.store state.next []).move job (.writing state.next 0) with
      next := state.next + 1 } := by
  refine inv.advance job rfl ?_ (Nat.le_succ _) ?_ ?_ ?_ ?_ inv.distinct
  · refine ⟨Nat.lt_succ_self _, ?_, Nat.zero_le _, List.nil_prefix⟩
    intro member
    exact absurd (inv.allocated _ member) (lt_irrefl _)
  · intro other different used amount uses
    have apart : used ≠ state.next := (inv.low uses).ne
    simp [store, move, apart]
  · intro other different used remaining uses
    exact (inv.writing uses).2.1
  · rintro _ _ ⟨⟩ other - remaining uses
    exact absurd (inv.low (.inl uses)) (lt_irrefl _)
  · intro used member
    exact (inv.allocated used member).trans (Nat.lt_succ_self _)

theorem Inv.putBuffer (inv : Inv gzip jobs state) (writes : state.phase job = .writing array written)
    (complete : written = (gzip.zip (jobs job).message.payload).length) :
    Inv gzip jobs { state.move job (.zipped array written) with pool := array :: state.pool } := by
  obtain ⟨low, out, fits, own⟩ := inv.writing writes
  refine inv.advance job rfl ?_ le_rfl ?_ ?_ ?_ ?_ (List.nodup_cons.mpr ⟨out, inv.distinct⟩)
  · refine ⟨low, own.eq_of_length ?_⟩
    rw [List.length_take, min_eq_left fits, complete]
  · intros
    rfl
  · intro other different used remaining uses member
    rcases List.mem_cons.mp member with rfl | member
    · exact different (inv.exclusive other job used remaining written uses writes)
    · exact (inv.writing uses).2.1 member
  · rintro _ _ ⟨⟩
  · exact List.forall_mem_cons.mpr ⟨low, inv.allocated⟩

theorem Inv.copy (inv : Inv gzip jobs state) (sound : Sound gzip jobs state job (.framed frame)) :
    Inv gzip jobs (state.move job (.framed frame)) := by
  refine inv.advance job rfl sound le_rfl ?_ ?_ ?_ inv.allocated inv.distinct
  · intros
    rfl
  · intro other different used remaining uses
    exact (inv.writing uses).2.1
  · rintro _ _ ⟨⟩

theorem Inv.step (inv : Inv gzip jobs state) (free : WritesUnreferenced gzip jobs state event)
    (moved : state.step gzip jobs event = some after) : Inv gzip jobs after := by
  cases event with
  | getBuffer job pick =>
    simp only [GzipState.step] at moved
    split at moved
    · split at moved
      case h_1 array found =>
        cases moved
        exact inv.takeBuffer job found
      case h_2 =>
        cases moved
        exact inv.newBuffer job
    · cases moved
  | write job count slack =>
    simp only [GzipState.step] at moved
    split at moved
    case h_1 array written writes =>
      cases moved
      exact inv.write writes count slack free
    case h_2 => cases moved
  | putBuffer job =>
    simp only [GzipState.step] at moved
    split at moved
    case h_1 array written writes =>
      obtain ⟨complete, ⟨⟩⟩ := Option.ite_none_right_eq_some.mp moved
      exact inv.putBuffer writes complete
    case h_2 => cases moved
  | copy job =>
    simp only [GzipState.step] at moved
    split at moved
    case h_1 array length refers =>
      cases moved
      have sound := inv.sound job
      rw [refers] at sound
      refine inv.copy ?_
      rw [Sound, sound.2]
    case h_2 => cases moved

/-- As long as no buffer is written while a message still has to copy from its
array, every frame carries the compression of its own payload: it is the frame
the message has when it is encoded alone. -/
theorem framed_own_payload
    (reached : (system gzip jobs).Reached (WritesUnreferenced gzip jobs) state)
    (framed : state.phase job = .framed frame) :
    frame = (jobs job).frame (gzip.zip (jobs job).message.payload) ∧
      gzip.unzip (gzip.zip (jobs job).message.payload) = .ok (jobs job).message.payload ∧
      ∀ config : Config, config.compressors .gzip = some gzip.compressor →
        frame = (jobs job).message.frameOf config (jobs job).order := by
  have inv : Inv gzip jobs state := by
    refine reached.invariant ?_ ?_
    · rintro _ rfl
      exact ⟨fun _ => trivial, by simp [empty], by simp [empty], by simp [empty]⟩
    · intro state event after inv free moved
      exact inv.step free moved
  have sound := inv.sound job
  rw [framed] at sound
  exact ⟨sound, gzip.lossless _, fun _ registered => sound.trans ((jobs job).frameOf_eq registered).symm⟩

/-- A stand-in for the library that only adds a first byte. -/
def markGzip : Gzip where
  zip data := 0x1f :: data
  unzip data := .ok data.tail
  lossless _ := rfl

def markJobs (job : Nat) : GzipJob where
  message :=
    { Message.newMessage with
      header := Header.fresh.setCompressType .gzip
      payload := [UInt8.ofNat job] }
  order := ∅
  gzipped := by
    show (Header.fresh.setCompressType .gzip).compressType = .gzip
    decide

/-- The second message reuses the buffer of the first after the first is copied. -/
theorem framed_own_payload_reuse :
    ∃ state frame, (system markGzip markJobs).Reached (WritesUnreferenced markGzip markJobs) state ∧
      state.phase 1 = .framed frame ∧
      frame = (markJobs 1).frame [0x1f, 1] := by
  have start : (system markGzip markJobs).Reached (WritesUnreferenced markGzip markJobs) empty :=
    .start rfl
  have first := (start.step (.getBuffer 0 0) trivial rfl).step (.write 0 2 6) (by
    rintro array written - - other length
    rcases other with _ | other <;> exact nofun) rfl
  have copied := (first.step (.putBuffer 0) trivial rfl).step (.copy 0) trivial rfl
  have second := (copied.step (.getBuffer 1 0) trivial rfl).step (.write 1 2 6) (by
    rintro array written - - other length
    rcases other with _ | _ | other <;> exact nofun) rfl
  have reached := (second.step (.putBuffer 1) trivial rfl).step (.copy 1) trivial rfl
  exact ⟨_, _, reached, rfl, (framed_own_payload reached rfl).1⟩

/-- The second message takes the buffer of the first before the first is copied. -/
theorem framed_other_payload :
    ∃ state frame, (system markGzip markJobs).play empty
        [.getBuffer 0 0, .write 0 2 6, .putBuffer 0, .getBuffer 1 0, .write 1 2 6, .copy 0] =
          some state ∧
      (system markGzip markJobs).Reachable state ∧ state.phase 0 = .framed frame ∧
      frame ≠ (markJobs 0).frame (markGzip.zip (markJobs 0).message.payload) := by
  have start : (system markGzip markJobs).Reachable empty := .start rfl
  have played : (system markGzip markJobs).play empty
      [.getBuffer 0 0, .write 0 2 6, .putBuffer 0, .getBuffer 1 0, .write 1 2 6, .copy 0] =
        some _ := rfl
  exact ⟨_, _, played, start.play played, rfl, by decide⟩

end GzipState

end Irpc.Protocol
