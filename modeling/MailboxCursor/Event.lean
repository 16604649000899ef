/-
What the library reports while it works. An event is a line for the reader of a log; nothing depends on it.
-/

namespace MailboxCursor

inductive Level where
  | warn
  | info
  | debug
deriving DecidableEq, Repr

namespace Level

def name : Level → String
  | warn => "WARN"
  | info => "INFO"
  | debug => "DEBUG"

/-- how much detail a level stands for -/
def detail : Level → Nat
  | warn => 0
  | info => 1
  | debug => 2

end Level

structure Event where
  level : Level
  text : String
  /-- names and values shown after the text -/
  fields : List (String × String)
deriving DecidableEq, Repr

namespace Event

def warn (text : String) : Event := ⟨.warn, text, []⟩
def info (text : String) : Event := ⟨.info, text, []⟩
def debug (text : String) : Event := ⟨.debug, text, []⟩

/-- whether a log that shows `threshold` and everything graver shows this event -/
def visible (threshold : Level) (e : Event) : Bool :=
  e.level.detail ≤ threshold.detail

def line (e : Event) : String :=
  e.fields.foldl (fun s f => s ++ " " ++ f.1 ++ "=" ++ f.2) (e.level.name ++ " " ++ e.text)

end Event
end MailboxCursor
