/-
Paths of device files. Two paths name the same file wherever they have the same components: doubled and trailing slashes
do not count, nor does a lone dot behind the start.
-/

namespace MailboxCursor.Path

/-- the pieces between slashes -/
def pieces : List Char → List (List Char)
  | [] => [[]]
  | c :: cs =>
    if c = '/' then [] :: pieces cs
    else
      match pieces cs with
      | [] => [[c]]
      | p :: ps => (c :: p) :: ps

def isRooted (path : String) : Bool :=
  path.toList.head? == some '/'

def withoutEndSlashes (path : String) : String :=
  String.ofList (path.toList.reverse.dropWhile fun c => c == '/').reverse

/-- components of a path: whether it starts at the root, and the names in order -/
def components (path : String) : Bool × List (List Char) :=
  let parts := pieces path.toList
  let names := parts.filter fun p => !p.isEmpty && p != ['.']
  (isRooted path, if parts.head? == some ['.'] then ['.'] :: names else names)

def same (a b : String) : Bool :=
  components a == components b

end MailboxCursor.Path
