import Irpc.Link.Delivery

/-! A remote call leaves the caller with what a local one would. -/
namespace Irpc.Client

open Irpc.Foundation Irpc.Protocol

namespace CallRecord

variable {record : CallRecord} {res : Message}

theorem TakenFrom.normal (taken : record.TakenFrom res (some none))
    (normal : res.header.messageStatusType ≠ .error) :
    record.error = none ∧ record.filled.getD [] = res.payload := by
  obtain ⟨outcome, err, answered, error, -, filled⟩ := taken
  rw [answer, if_neg normal] at answered
  have noted : (unused.noteMetadata res).error = none ∧ (unused.noteMetadata res).filled = none := by
    unfold noteMetadata
    split <;> exact ⟨rfl, rfl⟩
  rw [error, filled]
  by_cases empty : res.payload = []
  · have done : unused.answerNormal res (some none) = (unused.noteMetadata res, none) := by
      simp [answerNormal, unused, empty]
    rw [done] at answered
    cases answered
    rw [noted.1, noted.2, empty]
    exact ⟨rfl, rfl⟩
  · have done : unused.answerNormal res (some none) =
        ({ unused.noteMetadata res with filled := some res.payload }, none) := by
      simp [answerNormal, unused, empty]
    rw [done] at answered
    cases answered
    exact ⟨noted.1, rfl⟩

theorem TakenFrom.failed {decoded : Option (Option GoError)} {text : Bytes} (taken : record.TakenFrom res decoded)
    (failed : res.header.messageStatusType = .error)
    (stored : (res.metadata.getD ∅).lookup serviceErrorKey = some text) :
    record.error = some (.serviceError text) := by
  obtain ⟨outcome, err, answered, error, -, -⟩ := taken
  rw [answer, if_pos failed] at answered
  obtain ⟨left, ended, same⟩ := Option.map_eq_some_iff.mp answered
  cases same
  have present : res.metadata.getD ∅ ≠ ∅ := by
    intro empty
    rw [empty] at stored
    simp at stored
  have reported : responseError res unused.error = some (.serviceError text) := by
    rw [responseError, if_neg present, stored]
    rfl
  have typed : unused.invocation ≠ .sendRaw := by decide
  rw [error, ← reported]
  simp only [answerError, if_neg typed] at ended
  split at ended <;> cases ended <;> rfl

end CallRecord

end Irpc.Client

namespace Irpc.Link

open Irpc.Foundation Irpc.Protocol Irpc.Client Irpc.Server

variable {Value : Type} {setup : Setup Value} {link : Link Value} {call : Call Value}

/-- How a call is answered that no plugin of the server refuses. -/
theorem Served.handled {id : Nat} {arrival : Arrival} {request : Request} {sent res : Message}
    (served : Served setup link id arrival call request sent res) (accepted : request.verdict = .accepted)
    (allowed : request.auth = none) :
    setup.server.serveRequest request.pooled request.req request.resMetadata = some res := by
  have answers := served.answers
  simpa [handle, accepted, allowed, Handling.response] using answers

end Irpc.Link
