import Chip8.Arguments
import Chip8.Fault
import Chip8.Text.Quoted
import Chip8.Text.Shape

/-!
# Failures

Everything that can be refused or go wrong, with the text that reports it. Errors of the machine
itself are one family, `MachineError`: each has a kind, a text, and where they are known the program
counter and the word that was executed.
-/

namespace Chip8

/-- Why a file could not be read. -/
inductive FileError where
  | notFound
  | isDirectory
  | notDirectory
  | nameTooLong
deriving DecidableEq, Repr

namespace FileError

/-- The number by which the operating system knows the error. -/
def number : FileError → Nat
  | notFound => 2
  | isDirectory => 21
  | notDirectory => 20
  | nameTooLong => 36

def all : List FileError := [notFound, isDirectory, notDirectory, nameTooLong]

/-- The error with a number. -/
def ofNumber? (number : Nat) : Option FileError :=
  all.find? (·.number == number)

def reason : FileError → String
  | notFound => "No such file or directory"
  | isDirectory => "Is a directory"
  | notDirectory => "Not a directory"
  | nameTooLong => "File name too long"

/-- The report of the operating system about a name. -/
def message (error : FileError) (name : String) : String :=
  "[Errno " ++ Text.digits error.number ++ "] " ++ error.reason ++ ": " ++ Text.quoted name

end FileError

/-- The kinds of machine errors. -/
inductive ErrorKind where
  /-- Any error of the machine that has no kind of its own. -/
  | general
  /-- A program could not be read or does not fit. -/
  | load
  | decode
  | stackOverflow
  | stackUnderflow
  | address
  | keypad
deriving DecidableEq, Repr

namespace ErrorKind

/-- The name of a kind in reports. -/
def name : ErrorKind → String
  | general => "Chip8Error"
  | load => "RomLoadError"
  | decode => "DecodeError"
  | stackOverflow => "StackOverflowError"
  | stackUnderflow => "StackUnderflowError"
  | address => "AddressError"
  | keypad => "KeypadError"

def all : List ErrorKind :=
  [general, load, decode, stackOverflow, stackUnderflow, address, keypad]

/-- The kind with a name. -/
def ofName? (name : String) : Option ErrorKind :=
  all.find? (·.name == name)

/-- Whether errors of a kind are errors of the file system too. -/
def isFileError : ErrorKind → Bool
  | load => true
  | _ => false

end ErrorKind

structure MachineError where
  kind : ErrorKind
  text : String
  pc : Option Int := none
  opcode : Option Int := none
  /-- The error of the file system behind it. -/
  cause : Option FileError := none
deriving DecidableEq, Repr

namespace MachineError

/-- How an error is given by a caller. -/
def signature : Signature where
  parameters := ["message", "pc", "opcode"]
  needed := ["message"]

/-- The text, followed by word and address where both are known. -/
def message (error : MachineError) : String :=
  match error.pc, error.opcode with
  | some pc, some opcode =>
    error.text ++ " (opcode 0x" ++ Text.hex 4 opcode ++ " at 0x" ++ Text.hex 3 pc ++ ")"
  | _, _ => error.text

/-- Kind and message on one line. -/
def report (error : MachineError) : String :=
  error.kind.name ++ ": " ++ error.message

/-- The error of a fault at an address while a word was executed. -/
def ofFault (fault : Fault) (pc opcode : UInt16) : MachineError :=
  let build (kind : ErrorKind) (text : String) : MachineError :=
    { kind, text, pc := some pc.toNat, opcode := some opcode.toNat }
  match fault with
  | .unknownInstruction => build .decode "Unknown instruction"
  | .stackOverflow => build .stackOverflow "Stack overflow"
  | .stackUnderflow => build .stackUnderflow "Stack underflow"
  | .address => build .address "Memory access out of range"
  | .keypad => build .keypad "Keypad index out of range"
  | .unassigned code => build .general ("Unknown fault code " ++ Text.digits code.toNat)

/-- A host asked for addresses that are not in memory. -/
def outsideMemory (address : Int) (length : Nat) : MachineError where
  kind := .address
  text := "Address range 0x" ++ Text.hex 3 address ++ "+" ++ Text.digits length
    ++ " outside memory"

def emptyProgram : MachineError where
  kind := .load
  text := "ROM is empty"

def programTooLong (length capacity : Nat) : MachineError where
  kind := .load
  text := "ROM is " ++ Text.digits length ++ " bytes, at most " ++ Text.digits capacity
    ++ " fit in memory"

/-- The file of a program could not be read. -/
def unreadable (name : String) (cause : FileError) : MachineError where
  kind := .load
  text := "Cannot read ROM " ++ Text.quoted name ++ ": " ++ cause.message name
  cause := some cause

end MachineError

/-- Everything that can make an operation fail. -/
inductive Failure where
  | machine (error : MachineError)
  /-- A number does not fit where it is to go. -/
  | overflow
  /-- A byte was asked for and a number outside 0 to 255 was given. -/
  | notByte
  /-- Key states came in another shape than a row of sixteen. -/
  | keyShape (shape : List Nat)
  /-- Nested values whose parts do not have one shape. `shape` is as far as they agree. -/
  | unevenShape (shape : List Nat)
  /-- A frame came in another shape than a screen has. -/
  | frameShape (shape : List Nat)
  | unknownScheme (name : String) (known : List String)
  /-- A file name holds the character zero. -/
  | zeroInName
  /-- The clock gave no number. -/
  | noNumber
  /-- Nested values with more levels than are looked at. -/
  | tooManyLevels (limit : Nat)
  /-- The arguments of a call are too many, too few, unknown or given twice. -/
  | arguments
  /-- The beep handler failed. -/
  | handler (text : String)
deriving DecidableEq, Repr

namespace Failure

/-- A list of names in brackets, each between quotes. -/
def nameList (names : List String) : String :=
  "[" ++ ", ".intercalate (names.map Text.quoted) ++ "]"

/-- The report of a failure. Numbers and arguments that do not fit have none. -/
def message? : Failure → Option String
  | machine error => some error.message
  | overflow => none
  | notByte => some "bytes must be in range(0, 256)"
  | keyShape shape => some ("Expected 16 key states, got shape " ++ Text.shape shape)
  | unevenShape shape => some
      ("setting an array element with a sequence. The requested array has an inhomogeneous shape"
        ++ " after " ++ Text.digits shape.length ++ " dimensions. The detected shape was "
        ++ Text.shape shape ++ " + inhomogeneous part.")
  | frameShape shape => some ("Unexpected display shape " ++ Text.shape shape)
  | unknownScheme name known => some
      ("Unknown color scheme \x27" ++ name ++ "\x27. Available: " ++ nameList known)
  | zeroInName => some "embedded null byte"
  | noNumber => some "cannot convert float NaN to integer"
  | tooManyLevels limit => some
      ("setting an array element with a sequence. The requested array would exceed the maximum"
        ++ " number of dimension of " ++ Text.digits limit ++ ".")
  | arguments => none
  | handler text => some text

end Failure

/-- The values that the parameters of a signature take. -/
def Arguments.assign {ω : Type} (arguments : Arguments ω) (signature : Signature) :
    Except Failure (Assignment ω) :=
  match arguments.assign? signature with
  | some assignment => .ok assignment
  | none => .error .arguments

end Chip8
