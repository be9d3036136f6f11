import Irpc.Foundation.Bytes

namespace Irpc

open Irpc.Foundation

/-- Error values. The named ones are those the source compares or switches on;
all others are known by their text only. A nil error is `none`. -/
inductive GoError where
  | eof
  | unexpectedEOF
  | canceled
  | deadlineExceeded
  | serviceError (text : Bytes)
  | plain (text : Bytes)
  deriving DecidableEq

def GoError.error : GoError → Bytes
  | .eof => utf8 "EOF"
  | .unexpectedEOF => utf8 "unexpected EOF"
  | .canceled => utf8 "context canceled"
  | .deadlineExceeded => utf8 "context deadline exceeded"
  | .serviceError text => text
  | .plain text => text

structure MultiError where
  errors : List GoError
  deriving DecidableEq

namespace MultiError

def empty : MultiError := ⟨[]⟩

/-- `fmt.Sprintf("%v", errors)`: the texts between brackets, blanks between them. -/
def error (multi : MultiError) : Bytes :=
  utf8 "[" ++ (utf8 " ").intercalate (multi.errors.map GoError.error) ++ utf8 "]"

def append (multi : MultiError) (err : GoError) : MultiError := ⟨multi.errors ++ [err]⟩

theorem intercalate_eq_nil_iff (texts : List Bytes) :
    (utf8 " ").intercalate texts = [] ↔ texts = [] ∨ texts = [[]] := by
  match texts with
  | [] => simp
  | [text] => simp
  | first :: second :: rest =>
    have blank : utf8 " " ≠ [] := by decide
    simp [List.intercalate, List.intersperse, blank]

/-- The text that stands for "no error" also stands for one error without a text. -/
theorem error_eq_brackets_iff (multi : MultiError) :
    multi.error = utf8 "[]" ↔ multi.errors = [] ∨ ∃ err, multi.errors = [err] ∧ err.error = [] := by
  have brackets : utf8 "[]" = utf8 "[" ++ [] ++ utf8 "]" := by decide
  rw [error, brackets, List.append_left_inj, List.append_right_inj, intercalate_eq_nil_iff]
  simp [List.map_eq_cons_iff]

theorem length_le_intercalate (blank : Bytes) (texts : List Bytes) (member : text ∈ texts) :
    text.length ≤ (blank.intercalate texts).length := by
  induction texts with
  | nil => cases member
  | cons first rest ih =>
    cases rest with
    | nil =>
      rw [List.mem_singleton.mp member]
      simp
    | cons second rest =>
      rw [List.intercalate_cons_cons, List.length_append, List.length_append]
      rcases List.mem_cons.mp member with same | member
      · rw [same]
        omega
      · have bound := ih member
        omega

/-- The text of the list is longer than that of each error in it. -/
theorem length_error_lt (multi : MultiError) (member : err ∈ multi.errors) :
    err.error.length < multi.error.length := by
  have bound := length_le_intercalate (utf8 " ") (multi.errors.map GoError.error)
    (List.mem_map_of_mem member)
  have opening : (utf8 "[").length = 1 := by decide
  rw [error, List.length_append, List.length_append]
  omega

end MultiError

end Irpc
