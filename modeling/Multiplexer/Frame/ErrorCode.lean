import Multiplexer.Text

/-!
Error codes. Ten numbers have a name; every other number is a code of its own.
-/

namespace Multiplexer

/-- What an error frame says about its cause. -/
inductive ErrorCode where
  | invalidSetup
  | unsupportedSetup
  | rejectedSetup
  | rejectedResume
  | connectionError
  | connectionClose
  | applicationError
  | rejected
  | canceled
  | invalid
  | other (code : UInt32)
deriving DecidableEq

def ErrorCode.toUInt32 : ErrorCode → UInt32
  | .invalidSetup => 0x0001
  | .unsupportedSetup => 0x0002
  | .rejectedSetup => 0x0003
  | .rejectedResume => 0x0004
  | .connectionError => 0x0101
  | .connectionClose => 0x0102
  | .applicationError => 0x0201
  | .rejected => 0x0202
  | .canceled => 0x0203
  | .invalid => 0x0204
  | .other code => code

/-- The codes that have a name. -/
def ErrorCode.named : List ErrorCode :=
  [.invalidSetup, .unsupportedSetup, .rejectedSetup, .rejectedResume, .connectionError,
    .connectionClose, .applicationError, .rejected, .canceled, .invalid]

/-- The code that a number stands for. -/
def ErrorCode.ofUInt32 (code : UInt32) : ErrorCode :=
  (ErrorCode.named.find? (fun c => c.toUInt32 = code)).getD (.other code)

def ErrorCode.name : ErrorCode → String
  | .invalidSetup => "InvalidSetup"
  | .unsupportedSetup => "UnsupportedSetup"
  | .rejectedSetup => "RejectedSetup"
  | .rejectedResume => "RejectedResume"
  | .connectionError => "ConnectionError"
  | .connectionClose => "ConnectionClose"
  | .applicationError => "ApplicationError"
  | .rejected => "Rejected"
  | .canceled => "Canceled"
  | .invalid => "Invalid"
  | .other code => s!"Other({code.toNat})"

/-- A number in upper-case hexadecimal with at least four digits. -/
def hexText (n : Nat) : String :=
  let digits := (Nat.toDigits 16 n).map Char.toUpper
  String.ofList (List.replicate (4 - digits.length) '0' ++ digits)

def ErrorCode.text (code : ErrorCode) : String :=
  s!"{code.name}(0x{hexText code.toUInt32.toNat})"

instance : Inhabited ErrorCode := ⟨.applicationError⟩

/-- No number is lost by giving it its name. -/
@[simp]
theorem ErrorCode.toUInt32_ofUInt32 (code : UInt32) :
    (ErrorCode.ofUInt32 code).toUInt32 = code := by
  unfold ErrorCode.ofUInt32
  cases h : ErrorCode.named.find? (fun c => c.toUInt32 = code) with
  | none => rfl
  | some c => simpa using List.find?_some h

end Multiplexer
