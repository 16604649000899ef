/-
Files held in memory: what stands at a path, by the rules for looking one up. With a tree in place of the machine's files
a whole run of the program is a function of its input.

A tree knows what stands at some places; nothing stands anywhere else. `FileTree.find` walks a path name by name, and stops
at the first one that is too long, leads nowhere or is asked of something that is no directory. `FileTree.status` is what
the path comes to for a device file: what stands there, or why no node can be made there.
-/
import MailboxCursor.MailboxError
import MailboxCursor.Path

namespace MailboxCursor

/-- what can stand at a place -/
inductive Place where
  | directory
  /-- a file that can be opened; it is no mailbox and refuses every message with this cause -/
  | file (refusal : SystemError)
  /-- something that cannot be opened, with the cause -/
  | unopenable (cause : SystemError)
deriving DecidableEq, Repr

/-- what a path comes to for a device file -/
inductive PathStatus where
  | found (place : Place)
  /-- nothing, and no node can be made there -/
  | missing (cause : SystemError)
deriving DecidableEq, Repr

/-- the names that lead from the root to a place -/
abbrev Route := List (List Char)

structure FileTree where
  /-- places by their routes; the root need not be listed -/
  places : List (Route × Place)
  /-- where a path begins that does not begin at the root -/
  start : Route
deriving DecidableEq, Repr

namespace FileTree

/-- bytes of the longest name in a directory -/
def maxNameBytes : Nat := 255

/-- bytes of the longest path -/
def maxPathBytes : Nat := 4095

/-- what stands at the end of a route -/
def place? (tree : FileTree) (route : Route) : Option Place :=
  if route = [] then some .directory else (tree.places.find? fun p => p.1 == route).map Prod.snd

/-- one name further; an empty name and a single dot stay, two dots go back, and from the root to the root -/
def step (tree : FileTree) (route : Route) (name : List Char) : Except SystemError Route :=
  match tree.place? route with
  | some .directory =>
    if name = [] ∨ name = ['.'] then .ok route
    else if name = ['.', '.'] then .ok route.dropLast
    else if maxNameBytes < (String.ofList name).utf8ByteSize then .error .nameTooLong
    else if (tree.place? (route ++ [name])).isSome then .ok (route ++ [name])
    else .error .notFound
  | _ => .error .notDirectory

/-- where a path leads; the empty one leads nowhere -/
def find (tree : FileTree) (path : String) : Except SystemError Route :=
  if path.isEmpty then .error .notFound
  else if maxPathBytes < path.utf8ByteSize then .error .nameTooLong
  else (Path.pieces path.toList).foldlM tree.step (if Path.isRooted path then [] else tree.start)

/-- why no node can be made at a path that leads nowhere: a file stands there already if only slashes at the end are
wrong with the path, and else it is why the path leads nowhere -/
def obstacle (tree : FileTree) (path : String) (cause : SystemError) : SystemError :=
  match cause, tree.find (Path.withoutEndSlashes path) with
  | .notDirectory, .ok _ => .alreadyExists
  | _, _ => cause

def status (tree : FileTree) (path : String) : PathStatus :=
  match tree.find path with
  | .error cause => .missing (tree.obstacle path cause)
  | .ok route =>
    match tree.place? route with
    | some place => .found place
    | none => .missing .notFound

end FileTree
end MailboxCursor
