/-
The command line.

`Arguments.parse?` accepts options before and behind the command's name: those that every command has in either place,
a command's own only behind it. An option stands at most once in each place, and its value stands behind it or after an
equals sign; where both places give the same one, the place behind the command's name wins.
-/
import MailboxCursor.Text.Numeral

namespace MailboxCursor

/-- a command with its own options -/
inductive CommandLine where
  | info
  | display (x y : Int32) (seconds : Nat)
  | hide
  | demo (steps : UInt32) (pause : Nat)
  | allocTest (count : UInt32)
deriving DecidableEq, Repr

structure Arguments where
  device : Option String
  memDevice : Option String
  emulated : Bool
  command : CommandLine
deriving DecidableEq, Repr

namespace Arguments

/-! ## Values -/

/-- a number with at most one sign before it -/
def integer? (s : String) : Option Int :=
  match s.toList with
  | '-' :: cs => (Numeral.digits? 10 0x8000000000000001 cs).map fun n => -(n : Int)
  | cs => (Numeral.unsigned? 10 0x8000000000000000 cs).map fun n => (n : Int)

def int32? (s : String) : Option Int32 :=
  (integer? s).bind fun n => if -0x80000000 ≤ n ∧ n < 0x80000000 then some (Int32.ofInt n) else none

def word? (s : String) : Option UInt32 :=
  (integer? s).bind fun n => if 0 ≤ n ∧ n < UInt32.size then some (UInt32.ofNat n.toNat) else none

/-- a count of up to 64 bits; no sign but `+` -/
def count? (s : String) : Option Nat :=
  Numeral.unsigned? 10 UInt64.size s.toList

/-- a path is any text but the empty one -/
def path? (s : String) : Option String :=
  if s.isEmpty then none else some s

/-! ## Options -/

/-- an option: its name, whether it has a value, and whether the value may start with a minus sign -/
structure Choice where
  name : String
  valued : Bool
  negative : Bool
deriving DecidableEq, Repr

/-- options of every command -/
def shared : List Choice :=
  [⟨"device", true, false⟩, ⟨"mem-device", true, false⟩, ⟨"emulated", false, false⟩]

/-- options given so far, with their values -/
abbrev Given := List (String × String)

def value? (given : Given) (name : String) : Option String :=
  (given.find? fun g => g.1 == name).map Prod.snd

/-- what one argument looks like, by its minus signs -/
inductive Shape where
  /-- two of them alone: no option comes after -/
  | terminator
  /-- a long option, and the value after its equals sign if it has one -/
  | option (name : String) (value : Option String)
  /-- one of them with something behind it; there are no short options -/
  | short
  | word
deriving DecidableEq, Repr

def shape (arg : String) : Shape :=
  match arg.toList with
  | ['-', '-'] => .terminator
  | '-' :: '-' :: cs =>
    let name := String.ofList (cs.takeWhile fun c => c != '=')
    match cs.dropWhile fun c => c != '=' with
    | [] => .option name none
    | _ :: value => .option name (some (String.ofList value))
  | '-' :: _ :: _ => .short
  | _ => .word

/-- the options at the front, and what is left: nothing, or everything from the first plain word on -/
def options? (choices : List Choice) : List String → Given → Option (Given × List String)
  | [], given => some (given, [])
  | arg :: rest, given =>
    match shape arg with
    | .terminator => if rest.isEmpty then some (given, []) else none
    | .short => none
    | .word => some (given, arg :: rest)
    | .option name value =>
      match choices.find? fun c => c.name == name with
      | none => none
      | some choice =>
        if (value? given name).isSome then none
        else if !choice.valued then
          if value.isSome then none else options? choices rest ((name, "") :: given)
        else
          match value with
          | some v => options? choices rest ((name, v) :: given)
          | none =>
            match rest with
            | [] => none
            | v :: rest =>
              if shape v = .word ∨ choice.negative then options? choices rest ((name, v) :: given) else none

/-- an option's value if it is given, read; or its default -/
def valueOr {α : Type} (given : Given) (name : String) (read : String → Option α) (default : α) : Option α :=
  match value? given name with
  | some s => read s
  | none => some default

/-! ## Commands -/

/-- the commands by name, with their own options -/
def commands : List (String × List Choice) :=
  [("info", []),
    ("show", [⟨"x", true, true⟩, ⟨"y", true, true⟩, ⟨"seconds", true, false⟩]),
    ("hide", []),
    ("demo", [⟨"steps", true, false⟩, ⟨"step-ms", true, false⟩]),
    ("alloc-test", [⟨"cycles", true, false⟩])]

def commandLine? (name : String) (given : Given) : Option CommandLine :=
  match name with
  | "info" => some .info
  | "show" => do
    let x ← valueOr given "x" int32? 0
    let y ← valueOr given "y" int32? 0
    let seconds ← valueOr given "seconds" count? 5
    return .display x y seconds
  | "hide" => some .hide
  | "demo" => do
    let steps ← valueOr given "steps" word? 64
    let pause ← valueOr given "step-ms" count? 16
    return .demo steps pause
  | "alloc-test" => do
    let count ← valueOr given "cycles" word? 16
    return .allocTest count
  | _ => none

/-- a path option, if it is given in either place -/
def pathOption? (inner outer : Given) (name : String) : Option (Option String) := do
  let outerPath ← valueOr outer name (fun s => (path? s).map some) none
  let innerPath ← valueOr inner name (fun s => (path? s).map some) none
  return innerPath <|> outerPath

/-- the whole command line -/
def parse? (args : List String) : Option Arguments := do
  let (outer, rest) ← options? shared args []
  match rest with
  | [] => none
  | name :: rest =>
    let (_, own) ← commands.find? fun c => c.1 == name
    let (inner, left) ← options? (shared ++ own) rest []
    if left.isEmpty then
      let device ← pathOption? inner outer "device"
      let memDevice ← pathOption? inner outer "mem-device"
      let command ← commandLine? name inner
      let emulated := (value? inner "emulated").isSome || (value? outer "emulated").isSome
      return ⟨device, memDevice, emulated, command⟩
    else none

end Arguments
end MailboxCursor
