import FixtureDraft.Data.Value

/-!
# Outcomes of requests

A request is done, with data or without, or it failed, and then there is an error with a code
that programs understand and a message that people do.
-/

namespace FixtureDraft.Service

open FixtureDraft.Data

/-- What kind of error it is. -/
inductive ErrorCode
  | validationError
  | missingInput
  | fileNotFound
  | permissionDenied
  | fileTooLarge
  | invalidExtension
  | parseError
  | pipelineError
  | internalError
deriving DecidableEq, Repr

namespace ErrorCode

/-- The word for a code. -/
def word : ErrorCode → String
  | validationError => "validation_error"
  | missingInput => "missing_input"
  | fileNotFound => "file_not_found"
  | permissionDenied => "permission_denied"
  | fileTooLarge => "file_too_large"
  | invalidExtension => "invalid_extension"
  | parseError => "parse_error"
  | pipelineError => "pipeline_error"
  | internalError => "internal_error"

/-- All codes. -/
def all : List ErrorCode :=
  [validationError, missingInput, fileNotFound, permissionDenied, fileTooLarge,
   invalidExtension, parseError, pipelineError, internalError]

/-- The code that a word says, or else a complaint. -/
def ofWord (w : String) : Except String ErrorCode :=
  match all.find? (·.word == w) with
  | some code => .ok code
  | none => .error (Text.quote w ++ " is not a valid ErrorCode")

theorem ofWord_word (c : ErrorCode) : ofWord c.word = .ok c := by
  cases c <;> rfl

end ErrorCode

/-- An error. The details are named values. -/
structure ServiceError where
  code : ErrorCode
  message : String
  details : List (String × Value) := []
deriving Repr

/-- The error as a value. Details are left out if there are none. -/
def ServiceError.value (e : ServiceError) : Value :=
  .object ([("code", .text e.code.word), ("message", .text e.message)]
    ++ (if e.details.isEmpty then [] else [("details", .object e.details)]))

/-- How a request ends. -/
inductive Outcome (α : Type)
  | done (data : Option α)
  | failed (error : ServiceError)
deriving Repr

namespace Outcome

variable {α β : Type}

/-- Whether the request is done. -/
def success : Outcome α → Bool
  | done _ => true
  | failed _ => false

/-- The data, if there are any. -/
def data? : Outcome α → Option α
  | done data => data
  | failed _ => none

/-- The outcome with its data transformed. -/
def map (f : α → β) : Outcome α → Outcome β
  | done data => done (data.map f)
  | failed e => failed e

/-- The data, or a complaint that there are none. -/
def unwrap : Outcome α → Except String α
  | done (some data) => .ok data
  | done none => .error "Cannot unwrap failed result: Unknown error"
  | failed e => .error s!"Cannot unwrap failed result: {e.message}"

/-- The outcome as a value. -/
def value (show? : α → Value) : Outcome α → Value
  | done data => .object [("success", .truth true), ("data", (data.map show?).getD .null)]
  | failed e => .object [("success", .truth false), ("error", e.value)]

theorem map_id (o : Outcome α) : o.map id = o := by
  cases o <;> simp [map]

theorem map_map {γ : Type} (f : α → β) (g : β → γ) (o : Outcome α) :
    (o.map f).map g = o.map (g ∘ f) := by
  cases o <;> simp [map]

end Outcome

end FixtureDraft.Service
