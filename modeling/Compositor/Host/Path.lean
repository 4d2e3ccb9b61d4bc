set_option autoImplicit false

/-!
# Paths

A path is a text with slashes between the names. Paths are put together as texts; nothing is
simplified.

## Main definitions

* `Path.pieces` — what stands between the slashes.
* `Path.isAbsolute`, `Path.join` — paths below a directory.
* `Path.parent?`, `Path.fileName?` — a path without its last name, and that name.
-/

namespace Compositor.Path

/-- Splits characters at every slash. -/
def split : List Char → List (List Char)
  | [] => [[]]
  | c :: rest =>
    if c = '/' then [] :: split rest
    else
      match split rest with
      | [] => [[c]]
      | first :: others => (c :: first) :: others

/-- What stands between the slashes of a path. -/
def pieces (path : String) : List String :=
  (split path.toList).map String.ofList

/-- Whether a path starts from the root. -/
def isAbsolute (path : String) : Bool :=
  path.toList.head? == some '/'

/-- A path below a directory. A path that starts from the root stays as it is. -/
def join (base path : String) : String :=
  if isAbsolute path then path
  else if base.toList.getLast?.all (· == '/') then base ++ path
  else base ++ "/" ++ path

/-- Whether a piece leads nowhere else. -/
def isIdle (piece : String) : Bool :=
  piece = "" || piece = "."

/-- The pieces of a path from its last name on, backwards. -/
def backward (path : String) : List String :=
  (pieces path).reverse.dropWhile isIdle

/-- The path without its last name, if it has one. -/
def parent? (path : String) : Option String :=
  match backward path with
  | [] => none
  | _ :: above =>
    let left := above.dropWhile isIdle
    some (if left.isEmpty && isAbsolute path then "/" else "/".intercalate left.reverse)

/-- The last name of a path. A step to the directory above is no name. -/
def fileName? (path : String) : Option String :=
  match backward path with
  | [] => none
  | name :: _ => if name = ".." then none else some name

end Compositor.Path
