import Irpc.Foundation.System
import Irpc.Protocol.Decode

/-! The recycled messages. A message is either in the pool or held by the one
user it was handed to, who reaches it by a handle until it is freed. -/
namespace Irpc.Protocol

open Irpc.Foundation

structure MessagePool where
  pooled : List Message
  held : Nat → Option Message
  next : Nat

namespace MessagePool

def empty : MessagePool := ⟨[], fun _ => none, 0⟩

/-- The message handed out and the messages left. The pool may also make a new
message while it still has recycled ones. -/
def getPooledMsg (pool : MessagePool) (pick : Nat) : Message × List Message :=
  match pool.pooled[pick]? with
  | some message => (message, pool.pooled.eraseIdx pick)
  | none => (.newMessage, pool.pooled)

/-- Messages with a large read buffer are left to the garbage collector. -/
def freeMsg (pooled : List Message) (message : Message) : List Message :=
  if message.data.cap < 1024 then message.reset :: pooled else pooled

def hold (pool : MessagePool) (handle : Nat) (message : Option Message) : MessagePool :=
  { pool with held := Function.update pool.held handle message }

inductive Event where
  | getPooledMsg (pick : Nat)
  | edit (handle : Nat) (edit : Message.Edit)
  | clone (handle pick : Nat)
  | decode (handle : Nat) (reader : Reader)
  | freeMsg (handle : Nat)
  /-- The garbage collector empties the pool. -/
  | collect

/-- Hand out a message under a new handle, after `build` has worked on it. -/
def take (pool : MessagePool) (pick : Nat) (build : Message → Message) : MessagePool where
  pooled := (pool.getPooledMsg pick).2
  held := Function.update pool.held pool.next (some (build (pool.getPooledMsg pick).1))
  next := pool.next + 1

def step (config : Config) (pool : MessagePool) : Event → Option MessagePool
  | .getPooledMsg pick => some (pool.take pick id)
  | .edit handle edit => (pool.held handle).map fun message =>
    pool.hold handle (some (message.edit edit))
  | .clone handle pick => (pool.held handle).map fun message => pool.take pick message.clone
  | .decode handle reader => (pool.held handle).map fun message =>
    -- Nobody frees a message whose decoding panicked.
    pool.hold handle ((message.decode config reader).map Prod.fst)
  | .freeMsg handle => (pool.held handle).map fun message =>
    { pool.hold handle none with pooled := freeMsg pool.pooled message }
  | .collect => some { pool with pooled := [] }

def system (config : Config) : System MessagePool Event where
  initial pool := pool = empty
  step := step config

/-- What holds of every message in the pool and of every message in use. -/
structure All (pooled held : Message → Prop) (pool : MessagePool) : Prop where
  pooled : ∀ message ∈ pool.pooled, pooled message
  held : ∀ handle message, pool.held handle = some message → held message

section Invariant

variable {pooled held : Message → Prop} {pool next : MessagePool} {event : Event} {config : Config}

theorem All.getPooledMsg (all : All pooled held pool) (new : pooled .newMessage) (pick : Nat) :
    pooled (pool.getPooledMsg pick).1 ∧ ∀ message ∈ (pool.getPooledMsg pick).2, pooled message := by
  unfold MessagePool.getPooledMsg
  split
  case h_1 message found =>
    exact ⟨all.pooled _ (List.mem_of_getElem? found),
      fun other member => all.pooled _ (List.mem_of_mem_eraseIdx member)⟩
  case h_2 => exact ⟨new, all.pooled⟩

theorem All.hold (all : All pooled held pool) (handle : Nat) (change : Option Message)
    (keeps : ∀ message, change = some message → held message) :
    All pooled held (pool.hold handle change) where
  pooled := all.pooled
  held other message found := by
    by_cases same : other = handle
    · subst same
      exact keeps message (by simpa [MessagePool.hold] using found)
    · exact all.held other message (by simpa [MessagePool.hold, same] using found)

theorem All.take (all : All pooled held pool) (new : pooled .newMessage) (pick : Nat)
    (builds : ∀ message, pooled message → held (build message)) :
    All pooled held (pool.take pick build) where
  pooled := (all.getPooledMsg new pick).2
  held handle message found := by
    by_cases same : handle = pool.next
    · subst same
      have built : build (pool.getPooledMsg pick).1 = message := by
        simpa [MessagePool.take] using found
      exact built ▸ builds _ (all.getPooledMsg new pick).1
    · exact all.held handle message (by simpa [MessagePool.take, same] using found)

/-- The operations keep what they keep of each message they touch. -/
structure Kept (config : Config) (pooled held : Message → Prop) (event : Event) : Prop where
  new : pooled .newMessage
  taken : ∀ message, pooled message → held message
  edit : ∀ message edit, held message → held (Message.edit message edit)
  clone : ∀ message fresh, held message → pooled fresh → held (message.clone fresh)
  decode : ∀ handle message reader next rest err, event = .decode handle reader → held message →
    message.decode config reader = some (next, rest, err) → held next
  free : ∀ message, held message → message.data.cap < 1024 → pooled message.reset

theorem All.step (all : All pooled held pool) (kept : Kept config pooled held event)
    (moved : pool.step config event = some next) : All pooled held next := by
  cases event with
  | getPooledMsg pick =>
    cases moved
    exact all.take kept.new pick kept.taken
  | edit handle edit =>
    obtain ⟨message, found, rfl⟩ := Option.map_eq_some_iff.mp moved
    refine all.hold handle _ ?_
    rintro _ ⟨⟩
    exact kept.edit message edit (all.held handle message found)
  | clone handle pick =>
    obtain ⟨message, found, rfl⟩ := Option.map_eq_some_iff.mp moved
    exact all.take kept.new pick fun fresh clean =>
      kept.clone message fresh (all.held handle message found) clean
  | decode handle reader =>
    obtain ⟨message, found, rfl⟩ := Option.map_eq_some_iff.mp moved
    refine all.hold handle _ ?_
    intro decoded succeeded
    obtain ⟨⟨_, rest, err⟩, result, rfl⟩ := Option.map_eq_some_iff.mp succeeded
    exact kept.decode handle message reader _ rest err rfl (all.held handle message found) result
  | freeMsg handle =>
    obtain ⟨message, found, rfl⟩ := Option.map_eq_some_iff.mp moved
    have others := all.hold handle none (by rintro _ ⟨⟩)
    refine ⟨?_, others.held⟩
    simp only [MessagePool.freeMsg]
    split
    case isTrue small =>
      refine List.forall_mem_cons.mpr ⟨?_, all.pooled⟩
      exact kept.free message (all.held handle message found) small
    case isFalse => exact all.pooled
  | collect =>
    cases moved
    exact ⟨by simp, all.held⟩

end Invariant

/-- A step that decodes reads an empty stream or one that starts with the magic
number. -/
def ReadsMagic : MessagePool → Event → Prop
  | _, .decode _ reader => ∀ byte, reader.rest.head? = some byte → byte = magicNumber
  | _, _ => True

def Magic (message : Message) : Prop := message.header.first = magicNumber

theorem Magic.decode {message : Message} (magic : Magic message)
    (starts : ∀ byte, reader.rest.head? = some byte → byte = magicNumber)
    (decoded : message.decode config reader = some (after, rest, err)) : Magic after := by
  rw [Magic, Message.first_decode decoded]
  cases first : reader.rest.head? with
  | none => exact magic
  | some byte => exact starts byte first

theorem kept_clean (config : Config) (reads : ReadsMagic pool event) :
    Kept config Message.Clean Magic event where
  new := Message.clean_newMessage
  taken message clean := by
    rw [Magic, clean.header]
    rfl
  edit message edit magic := (message.first_edit edit).trans magic
  clone message fresh magic _ := (message.header.first_setCompressType .none).trans magic
  decode := by
    rintro handle message reader after rest err rfl magic decoded
    exact magic.decode reads decoded
  free message magic _ := message.clean_reset_iff.mpr magic

/-- In a run whose streams start with the magic number, recycled messages are
clean and no message loses its magic number. -/
theorem all_clean (reached : (system config).Reached ReadsMagic pool) :
    All Message.Clean Magic pool := by
  refine reached.invariant ?_ ?_
  · rintro _ rfl
    exact ⟨by simp [empty], by simp [empty]⟩
  · intro state event after all reads moved
    exact all.step (kept_clean config reads) moved

theorem kept_small (config : Config) (event : Event) :
    Kept config (fun message => message.data.cap < 1024) (fun _ => True) event where
  new := by decide
  taken _ _ := trivial
  edit _ _ _ := trivial
  clone _ _ _ _ := trivial
  decode _ _ _ _ _ _ _ _ _ := trivial
  free _ _ small := small

/-- Whatever happens, the pool only keeps messages with a small read buffer. -/
theorem all_small (reachable : (system config).Reachable pool) :
    All (fun message => message.data.cap < 1024) (fun _ => True) pool := by
  refine System.Reached.invariant reachable ?_ ?_
  · rintro _ rfl
    exact ⟨by simp [empty], by simp⟩
  · intro state event after all _ moved
    exact all.step (kept_small config event) moved

end MessagePool

end Irpc.Protocol
