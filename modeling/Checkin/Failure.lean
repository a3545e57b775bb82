import Checkin.FileTree
import Checkin.Message.Validation
import Checkin.Text.Quoted

/-!
# Failures

Everything that can go wrong, by its cause, with the sentence that reports it. The command line reports
the failures of the check-in and of the system it runs on (`isReported`); any other one ends the program.
-/

namespace Checkin

/-- The two values that only a caller can supply. -/
inductive Supplied
  | id
  | lastUsed
deriving DecidableEq, Repr

/-- Why the BentoBox version is unknown. -/
inductive VersionFault
  | notInstalled
  | blank
  | notReturned
  /-- A version source of the caller's own says why. -/
  | reported (reason : String)
deriving DecidableEq, Repr

/-- Why a state file holds no usable value. -/
inductive StateFault
  | notFound (path : String)
  | empty (path : String)
  | notATimestamp (path : String) (value : String)
deriving DecidableEq, Repr

/-- A cause of failure. -/
inductive Failure
  /-- The builder was not given a value. -/
  | notSupplied (input : Supplied)
  /-- The builder was given values that make no message. -/
  | notCarried (report : Report)
  /-- A platform property has no value. -/
  | noProperty (key : String)
  | noVersion (fault : VersionFault)
  /-- A message was asked for outside the builder, or changed. -/
  | invalid (report : Report)
  | state (fault : StateFault)
  /-- The file system refuses a path; without one, it is the working directory. -/
  | system (fault : Fault) (path : Option String)
  | undecodable (fault : Text.Utf8Fault)
  /-- A whole number has more digits than a numeral may have. -/
  | tooManyDigits
  /-- A path starts in a home directory that is not known. -/
  | noHome
  | linkLoop (path : String)
  /-- A number that has to be a whole one is an infinity, or no number at all. -/
  | infiniteNumber
  | undefinedNumber
  /-- A value of another kind stands where there has to be a number. -/
  | notANumber (kind : String)
  /-- A variable's name holds an equals sign. -/
  | variableName
deriving DecidableEq, Repr

/-- The number by which the system knows a fault, if it is the system that finds it. -/
def Fault.number? : Fault → Option Nat
  | .notFound => some 2
  | .alreadyExists => some 17
  | .notADirectory => some 20
  | .isADirectory => some 21
  | .nameTooLong => some 36
  | .tooManyLinks => some 40
  | .embeddedNul | .linksTooDeep | .directoriesTooDeep => none

/-- The description of a fault. -/
def Fault.description : Fault → String
  | .notFound => "No such file or directory"
  | .alreadyExists => "File exists"
  | .notADirectory => "Not a directory"
  | .isADirectory => "Is a directory"
  | .nameTooLong => "File name too long"
  | .tooManyLinks => "Too many levels of symbolic links"
  | .embeddedNul => "embedded null byte"
  | .linksTooDeep => "maximum recursion depth exceeded"
  | .directoriesTooDeep => "maximum recursion depth exceeded while calling a Python object"

/-- The sentence that reports octets which are not UTF-8. -/
def Text.Utf8Fault.text (fault : Utf8Fault) : String :=
  let reason :=
    match fault.defect with
    | .start => "invalid start byte"
    | .continuation => "invalid continuation byte"
    | .truncated => "unexpected end of data"
  let place :=
    if fault.first = fault.last then
      "byte 0x" ++ String.ofList (hexDigits 2 fault.octet.toNat) ++ " in position " ++ numeral fault.first
    else "bytes in position " ++ numeral fault.first ++ "-" ++ numeral fault.last
  "'utf-8' codec can't decode " ++ place ++ ": " ++ reason

/-- The sentence that says why the version is unknown. -/
def VersionFault.text : VersionFault → String
  | .notInstalled => "Unable to read the version of 'kiji-bento' from package metadata"
  | .blank => "Package metadata for 'kiji-bento' has no version"
  | .notReturned => "BentoBox version source returned no version."
  | .reported reason => reason

/-- The sentence that says why a state file is of no use. -/
def StateFault.text : StateFault → String
  | .notFound path => "State file not found: " ++ path
  | .empty path => "State file is empty: " ++ path
  | .notATimestamp path value =>
    "State file " ++ path ++ " does not hold a timestamp: " ++ Text.quoted value

/-- The sentence that says which value was not supplied. -/
def Supplied.text : Supplied → String
  | .id => "User id not supplied to check-in message builder."
  | .lastUsed => "Last usage timestamp for kiji script not supplied to check-in message builder."

namespace Failure

/-- The sentence that reports a failure. -/
def text : Failure → String
  | notSupplied input => input.text
  | notCarried report => "Invalid check-in message content: " ++ report.text
  | noProperty key => "There was no value for system property: " ++ key
  | noVersion fault => fault.text
  | invalid report => report.text
  | state fault => fault.text
  | system fault path =>
    match fault.number? with
    | none => fault.description
    | some number =>
      let place :=
        match path with
        | some path => ": " ++ Text.quoted path
        | none => ""
      "[Errno " ++ Text.numeral number ++ "] " ++ fault.description ++ place
  | undecodable fault => fault.text
  | tooManyDigits =>
    "Exceeds the limit (4300 digits) for integer string conversion; "
      ++ "use sys.set_int_max_str_digits() to increase the limit"
  | noHome => "Could not determine home directory."
  | linkLoop path => "Symlink loop from " ++ Text.quoted path
  | infiniteNumber => "cannot convert float infinity to integer"
  | undefinedNumber => "cannot convert float NaN to integer"
  | notANumber kind => "%d format: a real number is required, not " ++ kind
  | variableName => "illegal environment variable name"

/-- Whether the command line reports the failure and goes on to exit in order. -/
def isReported : Failure → Bool
  | notSupplied _ | notCarried _ | noProperty _ | noVersion _ | state _ => true
  | system fault _ => fault.number?.isSome
  | _ => false

end Failure

/-- The whole part of a number, cut off toward zero. -/
def Binary64.wholePart (x : Binary64) : Except Failure Int :=
  match x.trunc? with
  | some n => .ok n
  | none => .error (if x = .nan then .undefinedNumber else .infiniteNumber)

end Checkin
