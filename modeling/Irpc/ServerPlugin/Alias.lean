import Irpc.Protocol.Message

/-! Aliases of services. A plugin renames a request when it was read, and has a method that
is meant to undo this before the response is written. -/
namespace Irpc.ServerPlugin

open Irpc.Foundation Irpc.Protocol

/-- What a hook leaves behind: the messages it may have changed, and its error. -/
structure Written where
  req : Message
  res : Option Message
  err : Option GoError

/-- A method of a plugin. The signature belongs to it, so that a method with the name of a
hook and without its last parameter is another method. -/
inductive Method where
  /-- `PostReadRequest(ctx, *Message, error) error`. -/
  | postReadRequest (run : Message → Option GoError → Message × Option GoError)
  /-- `PreWriteResponse(ctx, *Message, *Message, error) error`. -/
  | preWriteResponse (run : Message → Option Message → Option GoError → Written)
  /-- `PreWriteResponse(ctx, *Message, *Message) error`. -/
  | preWriteResponseWithoutError (run : Message → Option Message → Written)

/-- A plugin is known to its container by its methods. -/
abbrev Plugin := List Method

def asPostReadRequestPlugin (plugin : Plugin) : Option (Message → Option GoError → Message × Option GoError) :=
  plugin.findSome? fun
    | .postReadRequest run => some run
    | _ => none

def asPreWriteResponsePlugin (plugin : Plugin) :
    Option (Message → Option Message → Option GoError → Written) :=
  plugin.findSome? fun
    | .preWriteResponse run => some run
    | _ => none

def doPostReadRequest : List Plugin → Message → Option GoError → Message × Option GoError
  | [], r, _ => (r, none)
  | plugin :: rest, r, e =>
    match asPostReadRequestPlugin plugin with
    | none => doPostReadRequest rest r e
    | some run => if (run r e).2.isSome then run r e else doPostReadRequest rest (run r e).1 e

def doPreWriteResponse : List Plugin → Message → Option Message → Option GoError → Written
  | [], req, res, _ => ⟨req, res, none⟩
  | plugin :: rest, req, res, err =>
    match asPreWriteResponsePlugin plugin with
    | none => doPreWriteResponse rest req res err
    | some run =>
      let written := run req res err
      if written.err.isSome then written else doPreWriteResponse rest written.req written.res err

def aliasAppliedKey : Bytes := utf8 "__aliasAppliedKey"

structure AliasPair where
  servicePath : Bytes
  serviceMethod : Bytes
  deriving DecidableEq

def AliasPair.key (pair : AliasPair) : Bytes := pair.servicePath ++ utf8 "." ++ pair.serviceMethod

def service (message : Message) : AliasPair := ⟨message.servicePath, message.serviceMethod⟩

structure AliasPlugin where
  aliases : Bytes → Option AliasPair
  reverseAliases : Bytes → Option AliasPair

namespace AliasPlugin

def new : AliasPlugin := ⟨fun _ => none, fun _ => none⟩

/-- `Alias`, with the alias and the service it stands for. -/
def setAlias (plugin : AliasPlugin) (name target : AliasPair) : AliasPlugin :=
  ⟨Function.update plugin.aliases name.key (some target), Function.update plugin.reverseAliases target.key (some name)⟩

/-- The table that such calls of `Alias` make, from the first to the last. -/
def ofCalls (calls : List (AliasPair × AliasPair)) : AliasPlugin :=
  calls.foldl (fun plugin call => plugin.setAlias call.1 call.2) new

def postReadRequest (plugin : AliasPlugin) (r : Message) : Message :=
  match plugin.aliases (service r).key with
  | none => r
  | some pm =>
    { r with
      servicePath := pm.servicePath
      serviceMethod := pm.serviceMethod
      metadata := some ((r.metadata.getD ∅).insert aliasAppliedKey (utf8 "true")) }

def rename (pm : AliasPair) (message : Message) : Message :=
  { message with servicePath := pm.servicePath, serviceMethod := pm.serviceMethod }

def preWriteResponse (plugin : AliasPlugin) (r : Message) (res : Option Message) : Written :=
  if (r.metadata.bind (·.lookup aliasAppliedKey)).getD [] ≠ utf8 "true" then ⟨r, res, none⟩
  else
    match plugin.reverseAliases (service r).key with
    | none => ⟨r, res, none⟩
    | some pm =>
      ⟨{ rename pm r with metadata := r.metadata.map (·.erase aliasAppliedKey) }, res.map (rename pm), none⟩

def plugin (plugin : AliasPlugin) : Plugin :=
  [.postReadRequest fun r _ => (plugin.postReadRequest r, none), .preWriteResponseWithoutError plugin.preWriteResponse]

theorem foldl_update (entries : List α) (key : α → Bytes) (value : α → β) (table : Bytes → Option β) (name : Bytes) :
    entries.foldl (fun table entry => Function.update table (key entry) (some (value entry))) table name =
      ((entries.reverse.find? fun entry => key entry = name).map value).or (table name) := by
  induction entries generalizing table with
  | nil => simp
  | cons first rest ih =>
    rw [List.foldl_cons, ih, List.reverse_cons, List.find?_append]
    cases rest.reverse.find? fun entry => key entry = name with
    | some entry => rfl
    | none =>
      by_cases same : key first = name
      · simp [same]
      · simp [same, Function.update_of_ne (Ne.symm same)]

theorem aliases_foldl (calls : List (AliasPair × AliasPair)) (plugin : AliasPlugin) :
    (calls.foldl (fun plugin call => plugin.setAlias call.1 call.2) plugin).aliases =
      calls.foldl (fun (table : Bytes → Option AliasPair) call => Function.update table call.1.key (some call.2))
        plugin.aliases := by
  induction calls generalizing plugin with
  | nil => rfl
  | cons first rest ih => exact ih _

/-- The last alias with this name counts. -/
theorem aliases_ofCalls (calls : List (AliasPair × AliasPair)) (name : Bytes) :
    (ofCalls calls).aliases name = (calls.reverse.find? fun call => call.1.key = name).map Prod.snd := by
  rw [ofCalls, aliases_foldl]
  exact (foldl_update calls _ _ _ name).trans Option.or_none

theorem aliases_ofCalls_eq_none (calls : List (AliasPair × AliasPair)) (name : Bytes) :
    (ofCalls calls).aliases name = none ↔ ∀ call ∈ calls, call.1.key ≠ name := by
  rw [aliases_ofCalls, Option.map_eq_none_iff, List.find?_eq_none]
  simp

def marker (message : Message) : Option Bytes := message.metadata.bind (·.lookup aliasAppliedKey)

/-- The messages are about the service the client asked for, and nothing is left of the alias. -/
structure Restored (sent : Message) (written : Written) : Prop where
  req : service written.req = service sent
  unmarked : marker written.req = none
  res : ∀ res ∈ written.res, service res = service sent ∧ marker res = none

/-- A request is read, its response is cloned from it, and the response hook runs. -/
def roundTrip (plugins : List Plugin) (pooled sent : Message) (err : Option GoError) : Written :=
  let r := (doPostReadRequest plugins sent none).1
  doPreWriteResponse plugins r (some (r.clone pooled)) err

/-- Nothing of the plugin runs before the response is written. -/
theorem roundTrip_eq (plugin : AliasPlugin) (pooled sent : Message) (err : Option GoError) :
    roundTrip [plugin.plugin] pooled sent err =
      ⟨plugin.postReadRequest sent, some ((plugin.postReadRequest sent).clone pooled), none⟩ := rfl

theorem marker_postReadRequest {plugin : AliasPlugin} {sent : Message} {pm : AliasPair}
    (found : plugin.aliases (service sent).key = some pm) :
    marker (plugin.postReadRequest sent) = some (utf8 "true") := by
  rw [postReadRequest, found]
  exact Finmap.lookup_insert _

/-- A request comes back as it was sent just when no alias was set for it. -/
theorem restored_iff (calls : List (AliasPair × AliasPair)) {pooled sent : Message} (unmarked : marker sent = none)
    (clean : pooled.metadata = none) (err : Option GoError) :
    Restored sent (roundTrip [(ofCalls calls).plugin] pooled sent err) ↔
      ∀ call ∈ calls, call.1.key ≠ (service sent).key := by
  rw [← aliases_ofCalls_eq_none, roundTrip_eq]
  cases found : (ofCalls calls).aliases (service sent).key with
  | none =>
    have same : (ofCalls calls).postReadRequest sent = sent := by rw [postReadRequest, found]
    rw [same]
    refine iff_of_true ⟨rfl, unmarked, ?_⟩ rfl
    rintro res ⟨⟩
    exact ⟨rfl, by simp [marker, Message.clone, clean]⟩
  | some pm =>
    refine iff_of_false ?_ (by simp)
    intro restored
    cases (marker_postReadRequest found).symm.trans restored.unmarked

/-- The alias of a service, and requests for the alias and for another service. -/
def mulAlias : AliasPair × AliasPair := (⟨utf8 "Math", utf8 "Times"⟩, ⟨utf8 "Arith", utf8 "Mul"⟩)

def request (name : AliasPair) : Message := rename name .newMessage

theorem restored_iff_unaliased :
    Restored (request ⟨utf8 "Math", utf8 "Add"⟩)
      (roundTrip [(ofCalls [mulAlias]).plugin] .newMessage (request ⟨utf8 "Math", utf8 "Add"⟩) none) :=
  (restored_iff [mulAlias] rfl rfl none).mpr (by decide)

/-- A request for the alias and its response keep the name of the service. -/
theorem alias_not_restored :
    let written := roundTrip [(ofCalls [mulAlias]).plugin] .newMessage (request mulAlias.1) none
    marker (request mulAlias.1) = none ∧ service (request mulAlias.1) ≠ service written.req ∧
      written.res.map service = some mulAlias.2 ∧ marker written.req = some (utf8 "true") := by
  have found : (ofCalls [mulAlias]).aliases (service (request mulAlias.1)).key = some mulAlias.2 := rfl
  exact ⟨rfl, by decide, rfl, marker_postReadRequest found⟩

/-- Called by hand, the response hook restores the name of the last alias that was set for
the service, which need not be the one the client used. -/
theorem restored_preWriteResponse_iff {plugin : AliasPlugin} {pooled sent : Message} {pm : AliasPair}
    (found : plugin.aliases (service sent).key = some pm) (clean : pooled.metadata = none) :
    let r := plugin.postReadRequest sent
    Restored sent (plugin.preWriteResponse r (some (r.clone pooled))) ↔
      plugin.reverseAliases pm.key = some (service sent) := by
  intro r
  have marked : marker r = some (utf8 "true") := marker_postReadRequest found
  have target : service r = pm := by
    dsimp only [r]
    rw [postReadRequest, found]
    rfl
  have applied : ¬ (r.metadata.bind (·.lookup aliasAppliedKey)).getD [] ≠ utf8 "true" := by
    have marked : r.metadata.bind (·.lookup aliasAppliedKey) = some (utf8 "true") := marked
    simp [marked]
  rw [preWriteResponse, if_neg applied, target]
  cases back : plugin.reverseAliases pm.key with
  | none =>
    refine iff_of_false ?_ (by simp)
    intro restored
    cases marked.symm.trans restored.unmarked
  | some name =>
    rw [Option.some.injEq]
    constructor
    · exact fun restored => restored.req
    · intro same
      refine ⟨same, ?_, ?_⟩
      · cases r.metadata with
        | none => rfl
        | some entries => exact Finmap.lookup_erase _ _
      · rintro res ⟨⟩
        exact ⟨same, by simp [marker, rename, Message.clone, clean]⟩

end AliasPlugin

end Irpc.ServerPlugin
