import Mathlib.Data.List.Infix

/-! Identifiers and errors shared by the backend services. -/

namespace MpcKit.Backend

/-- Random v4 identifiers; a counter hands out a new one each time, so none repeats. -/
abbrev Uuid := Nat
/-- Milliseconds since the epoch. -/
abbrev Time := Nat
abbrev ObjectId := String
abbrev Bytes := List UInt8

/-- `text.includes(part)`. -/
def includes (text part : String) : Bool := decide (part.toList <:+: text.toList)

/-- The first UTF-16 code units. Half of a surrogate pair is stored as the replacement character. -/
def takeUnits : Nat → List Char → List Char
  | 0, _ => []
  | _, [] => []
  | count + 1, char :: rest =>
    if char.toNat < 0x10000 then char :: takeUnits count rest
    else match count with
      | 0 => [Char.ofNat 0xFFFD]
      | count + 1 => char :: takeUnits count rest

/-- `text.slice(0, count)`. -/
def slice (text : String) (count : Nat) : String := String.ofList (takeUnits count text.toList)

example : slice "𝄞 note" 3 = "𝄞 " := by decide

/-- The text without `0x`. -/
def bare : List Char → List Char
  | '0' :: 'x' :: rest => rest
  | text => text

def addressLength (text : List Char) : Nat := (text.takeWhile (fun char => char ≠ ':')).length

/-- The tag with all 64 digits of its address. -/
def padAddress (text : List Char) : List Char := List.replicate (64 - addressLength text) '0' ++ text

/-- What `normalizeStructTag` of the Sui SDK makes of a tag in lower case that has no type arguments. -/
def fullTag (tag : String) : String := String.ofList ('0' :: 'x' :: padAddress (bare tag.toList))

theorem addressLength_padAddress (text : List Char) : 64 ≤ addressLength (padAddress text) := by
  unfold padAddress
  rw [addressLength, List.takeWhile_append_of_pos (by simp), List.length_append, List.length_replicate, ← addressLength]
  omega

theorem fullTag_fullTag (tag : String) : fullTag (fullTag tag) = fullTag tag := by
  have full := addressLength_padAddress (bare tag.toList)
  rw [fullTag, fullTag, String.toList_ofList, bare, padAddress, Nat.sub_eq_zero_of_le full]
  rfl

/-- `shared/errors.ts`: the status and the stable code go to the client. -/
structure AppError where
  status : Nat
  message : String
  code : String
  deriving DecidableEq, Repr

namespace errors

def notFound (message code : String) : AppError := ⟨404, message, code⟩
def conflict (message code : String) : AppError := ⟨409, message, code⟩
def validation (message code : String) : AppError := ⟨400, message, code⟩
def paymentRequired (message code : String) : AppError := ⟨402, message, code⟩
def unprocessable (message code : String) : AppError := ⟨422, message, code⟩
def internal (message code : String) : AppError := ⟨500, message, code⟩
def notConfigured (what : String) : AppError := ⟨503, what ++ " not configured", "NOT_CONFIGURED"⟩
def unavailable (message code : String) : AppError := ⟨503, message, code⟩

end errors

/-- `shared/sui/tx-executor.ts`: how far a transaction got before it failed. -/
inductive TxFailurePhase where
  | preflight
  | reverted
  | unknown
  deriving DecidableEq, Repr

structure TxExecutorError where
  phase : TxFailurePhase
  message : String
  digest : Option String
  deriving DecidableEq, Repr

/-- What a `catch` clause can receive. `other` is any error of a library or of the driver. -/
inductive Thrown where
  | app (error : AppError)
  | tx (error : TxExecutorError)
  | other (name message : String)
  deriving DecidableEq, Repr

/-- `String(err)` of an error object: its name and message. -/
def Thrown.text : Thrown → String
  | .app error => "AppError: " ++ error.message
  | .tx error => "TxExecutorError: " ++ error.message
  | .other name message => name ++ ": " ++ message

/-- The phase a `catch` clause acts on; anything that is not a `TxExecutorError` is `unknown`. -/
def Thrown.phase : Thrown → TxFailurePhase
  | .tx error => error.phase
  | _ => .unknown

end MpcKit.Backend
