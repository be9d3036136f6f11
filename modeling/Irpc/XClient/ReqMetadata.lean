import Irpc.Protocol.Message

/-! The metadata of requests. An `xClient` writes its token and the time that is left into
the map it finds in the context, which belongs to the caller. -/
namespace Irpc.XClient

open Irpc.Foundation Irpc.Protocol

def authKey : Bytes := utf8 "__AUTH"

def serverTimeoutKey : Bytes := utf8 "__ServerTimeout"

/-- An `xClient`, as far as its calls look at it before they select a server. -/
structure Caller where
  isShutdown : Bool
  auth : Bytes

structure CallContext where
  /-- The map under `ReqMetaDataKey`, if there is one. -/
  metadata : Option Metadata
  /-- The milliseconds until the deadline, if there is one. -/
  untilDeadline : Option Int

def setAuth (auth : Bytes) (metadata : Option Metadata) : Option Metadata :=
  if auth = [] then metadata else some ((metadata.getD ∅).insert authKey auth)

def setServerTimeout (untilDeadline : Option Int) (metadata : Option Metadata) : Option Metadata :=
  match untilDeadline with
  | some left => some ((metadata.getD ∅).insert serverTimeoutKey (utf8 (toString left)))
  | none => metadata

def writeMetadata (auth : Bytes) (untilDeadline : Option Int) (metadata : Option Metadata) : Option Metadata :=
  setServerTimeout untilDeadline (setAuth auth metadata)

/-- What a call does: the caller's map afterwards, and the metadata of its requests. Requests
that are sent with the same metadata count once. -/
structure Effect where
  callerMap : Option Metadata
  sent : List (Option Metadata)

/-- A `Go` that `Call` starts in Failbackup. The client may have been closed since, and less
time is left. -/
structure Start where
  isShutdown : Bool
  left : Int

/-- The milliseconds that are left at the start, if the context of the call has a deadline. -/
def Start.untilDeadline (start : Start) (deadline : Option Int) : Option Int := deadline.map fun _ => start.left

inductive Operation where
  /-- In every mode but Failbackup. -/
  | call
  /-- In Failbackup, with the one or two `Go`s that it comes to. -/
  | callBackup (starts : List Start)
  | go
  /-- With the metadata of the raw message. -/
  | sendRaw (metadata : Option Metadata)
  | broadcast
  | fork
  | inform

/-- The map after the `Go`s of a `Call`, and what they send. `Call` has made a map before if
there is something to write, so no `Go` makes one. -/
def goInTurn (auth : Bytes) (deadline : Option Int) (metadata : Option Metadata) :
    List Start → Option Metadata × List (Option Metadata)
  | [] => (metadata, [])
  | start :: later =>
    if start.isShutdown then goInTurn auth deadline metadata later
    else
      let written := writeMetadata auth (start.untilDeadline deadline) metadata
      let (last, sent) := goInTurn auth deadline written later
      (last, written :: sent)

namespace Operation

/-- The metadata of the requests of an operation. `Client.Go` sends the map itself, and
`Client.SendRaw` a copy in which the entries of the message take precedence. -/
def attach : Operation → Option Metadata → Option Metadata
  | .sendRaw raw, metadata => some (raw.getD ∅ ∪ metadata.getD ∅)
  | _, metadata => metadata

/-- A map of the caller is changed in place, a new one is not seen by the caller. -/
def run (operation : Operation) (caller : Caller) (context : CallContext) : Effect :=
  if caller.isShutdown then ⟨context.metadata, []⟩
  else
    let written := writeMetadata caller.auth context.untilDeadline context.metadata
    match operation with
    | .callBackup starts =>
      let (last, sent) := goInTurn caller.auth context.untilDeadline written starts
      ⟨context.metadata.bind fun _ => last, sent⟩
    | operation => ⟨context.metadata.bind fun _ => written, [operation.attach written]⟩

def lastWritten : Operation → Option Int → Option Int
  | .callBackup starts, deadline =>
    (starts.filter (!·.isShutdown)).getLast?.elim deadline fun start => start.untilDeadline deadline
  | _, deadline => deadline

end Operation

/-- What the call writes into the caller's map is there already. -/
def Harmless (operation : Operation) (caller : Caller) (context : CallContext) : Prop :=
  caller.isShutdown = true ∨ ∀ map, context.metadata = some map →
    (caller.auth ≠ [] → map.lookup authKey = some caller.auth) ∧
    ∀ left, operation.lastWritten context.untilDeadline = some left →
      map.lookup serverTimeoutKey = some (utf8 (toString left))

theorem insert_eq_self_iff {map : Metadata} {key value : Bytes} :
    map.insert key value = map ↔ map.lookup key = some value := by
  constructor
  · intro same
    rw [← same]
    exact Finmap.lookup_insert _
  · intro found
    apply Finmap.ext_lookup
    intro other
    by_cases here : other = key
    · subst here
      rw [Finmap.lookup_insert, found]
    · exact Finmap.lookup_insert_of_ne _ here

theorem insert_insert_eq_self_iff {map : Metadata} {first second value other : Bytes} (distinct : first ≠ second) :
    (map.insert first value).insert second other = map ↔
      map.lookup first = some value ∧ map.lookup second = some other := by
  constructor
  · intro same
    refine ⟨?_, ?_⟩
    · rw [← same, Finmap.lookup_insert_of_ne _ distinct, Finmap.lookup_insert]
    · rw [← same, Finmap.lookup_insert]
  · rintro ⟨has, also⟩
    rw [insert_eq_self_iff.mpr has, insert_eq_self_iff.mpr also]

theorem writeMetadata_eq_self_iff (auth : Bytes) (untilDeadline : Option Int) (map : Metadata) :
    writeMetadata auth untilDeadline (some map) = some map ↔
      (auth ≠ [] → map.lookup authKey = some auth) ∧
      ∀ left, untilDeadline = some left → map.lookup serverTimeoutKey = some (utf8 (toString left)) := by
  have distinct : authKey ≠ serverTimeoutKey := by decide
  unfold writeMetadata setAuth
  cases untilDeadline with
  | none => split <;> simp [setServerTimeout, insert_eq_self_iff, *]
  | some left => split <;> simp [setServerTimeout, insert_eq_self_iff, insert_insert_eq_self_iff distinct, *]

/-- What is written later replaces what has been written before. -/
theorem writeMetadata_start (auth : Bytes) (deadline : Option Int) (first second : Start)
    (metadata : Option Metadata) :
    writeMetadata auth (second.untilDeadline deadline)
        (writeMetadata auth (first.untilDeadline deadline) metadata) =
      writeMetadata auth (second.untilDeadline deadline) metadata := by
  have distinct : authKey ≠ serverTimeoutKey := by decide
  unfold writeMetadata setAuth
  cases deadline with
  | none => split <;> simp [setServerTimeout, Start.untilDeadline, Finmap.insert_insert, *]
  | some =>
    split <;> simp [setServerTimeout, Start.untilDeadline, Finmap.insert_insert,
      Finmap.insert_insert_of_ne _ distinct, *]

theorem goInTurn_eq (auth : Bytes) (deadline : Option Int) (first : Start) (metadata : Option Metadata)
    (starts : List Start) :
    goInTurn auth deadline (writeMetadata auth (first.untilDeadline deadline) metadata) starts =
      (writeMetadata auth (((starts.filter (!·.isShutdown)).getLast?.getD first).untilDeadline deadline) metadata,
        (starts.filter (!·.isShutdown)).map fun start =>
          writeMetadata auth (start.untilDeadline deadline) metadata) := by
  induction starts generalizing first with
  | nil => rfl
  | cons start later ih =>
    rw [goInTurn]
    cases closed : start.isShutdown with
    | true => simp [closed, ih]
    | false => simp [closed, writeMetadata_start, ih, List.getLast?_cons]

/-- In Failbackup each request carries the time that is left when it is sent, and the last
time stays in the map. -/
theorem run_callBackup (starts : List Start) (caller : Caller) (context : CallContext)
    (opened : caller.isShutdown = false) :
    (Operation.callBackup starts).run caller context =
      ⟨context.metadata.bind fun _ => writeMetadata caller.auth
          ((Operation.callBackup starts).lastWritten context.untilDeadline) context.metadata,
        (starts.filter (!·.isShutdown)).map fun start =>
          writeMetadata caller.auth (start.untilDeadline context.untilDeadline) context.metadata⟩ := by
  have own : (Start.mk false (context.untilDeadline.getD 0)).untilDeadline context.untilDeadline =
      context.untilDeadline := by
    cases context.untilDeadline <;> rfl
  have turns := goInTurn_eq caller.auth context.untilDeadline ⟨false, context.untilDeadline.getD 0⟩
    context.metadata starts
  rw [own] at turns
  simp only [Operation.run, opened, Bool.false_eq_true, if_false, turns, Operation.lastWritten]
  cases (starts.filter (!·.isShutdown)).getLast? with
  | none => rw [Option.getD_none, own, Option.elim_none]
  | some last => rfl

theorem run_callerMap (operation : Operation) (caller : Caller) (context : CallContext)
    (opened : caller.isShutdown = false) :
    (operation.run caller context).callerMap = context.metadata.bind fun _ =>
      writeMetadata caller.auth (operation.lastWritten context.untilDeadline) context.metadata := by
  cases operation with
  | callBackup starts => rw [run_callBackup starts caller context opened]
  | _ => simp [Operation.run, opened, Operation.lastWritten]

theorem callerMap_eq_iff (operation : Operation) (caller : Caller) (context : CallContext) :
    (operation.run caller context).callerMap = context.metadata ↔ Harmless operation caller context := by
  unfold Harmless
  cases shutdown : caller.isShutdown with
  | true => simp [Operation.run, shutdown]
  | false =>
    rw [run_callerMap operation caller context shutdown]
    cases found : context.metadata with
    | none => simp
    | some map => simpa using writeMetadata_eq_self_iff caller.auth _ map

/-- One of several calls that share a map. -/
structure Shared where
  operation : Operation
  caller : Caller
  untilDeadline : Option Int

/-- What is sent by calls that are made one after another with the same map. -/
def sentInTurn (metadata : Option Metadata) : List Shared → List (List (Option Metadata))
  | [] => []
  | call :: later =>
    let effect := call.operation.run call.caller ⟨metadata, call.untilDeadline⟩
    effect.sent :: sentInTurn effect.callerMap later

def sentAlone (metadata : Option Metadata) (call : Shared) : List (Option Metadata) :=
  (call.operation.run call.caller ⟨metadata, call.untilDeadline⟩).sent

/-- An operation leaves the caller's map as it is exactly if the token and the time left
that it writes (in Failbackup the one that it writes last) are there already. Calls that do
so send what they would send alone. -/
theorem callerMap_unchanged_iff (operation : Operation) (caller : Caller) (context : CallContext) :
    ((operation.run caller context).callerMap = context.metadata ↔ Harmless operation caller context) ∧
    ∀ calls : List Shared,
      (∀ call ∈ calls, Harmless call.operation call.caller ⟨context.metadata, call.untilDeadline⟩) →
      sentInTurn context.metadata calls = calls.map (sentAlone context.metadata) := by
  refine ⟨callerMap_eq_iff operation caller context, ?_⟩
  intro calls harmless
  induction calls with
  | nil => rfl
  | cons call later ih =>
    obtain ⟨here, rest⟩ := List.forall_mem_cons.mp harmless
    have kept := (callerMap_eq_iff call.operation call.caller _).mpr here
    rw [sentInTurn, kept, ih rest]
    rfl

/-- A call of a client that has a token and a deadline, and then one of a client that has
neither. -/
def carriedCalls : List Shared := [⟨.call, ⟨false, utf8 "token"⟩, some 500⟩, ⟨.go, ⟨false, []⟩, none⟩]

/-- What the first client writes into the map of the caller. -/
def carriedMetadata : Metadata := (Finmap.insert authKey (utf8 "token") ∅).insert serverTimeoutKey (utf8 "500")

theorem metadata_carried_over :
    sentInTurn (some ∅) carriedCalls = [[some carriedMetadata], [some carriedMetadata]] ∧
    carriedCalls.map (sentAlone (some ∅)) = [[some carriedMetadata], [some ∅]] ∧
    carriedMetadata ≠ ∅ := by
  refine ⟨rfl, rfl, ?_⟩
  intro empty
  have found : carriedMetadata.lookup serverTimeoutKey = some (utf8 "500") := Finmap.lookup_insert _
  rw [empty, Finmap.lookup_empty] at found
  cases found

end Irpc.XClient
