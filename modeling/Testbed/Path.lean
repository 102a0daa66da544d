/-!
# Slash-separated paths

Paths are handled by their text alone, never by asking a file system. `clean` gives the
shortest path naming the same place: no empty or `.` parts, each `..` cancelling the part
before it, and `..` at the root dropped. `join` cleans the non-empty parts put together, and
`within` places a path under a root so that no `..` of it climbs above that root.
-/

namespace Testbed.Path

/-- The parts of a path between its slashes, empty parts included. -/
def parts (path : String) : List String := (path.toList.splitOn '/').map String.ofList

/-- Applies the parts of a path in order to a stack of kept parts, most recent first. A `..`
removes a kept part; with none left it is kept itself, unless the path is rooted. -/
def resolve (rooted : Bool) : List String → List String → List String
  | kept, [] => kept
  | kept, part :: rest =>
    if part == "" || part == "." then resolve rooted kept rest
    else if part == ".." then
      match kept with
      | top :: below => if top == ".." then resolve rooted (".." :: kept) rest
                        else resolve rooted below rest
      | [] => if rooted then resolve rooted [] rest else resolve rooted [".."] rest
    else resolve rooted (part :: kept) rest

/-- The shortest equivalent path; `.` for the empty path. -/
def clean (path : String) : String :=
  let rooted := path.startsWith "/"
  let kept := (resolve rooted [] (parts path)).reverse
  let body := "/".intercalate kept
  if rooted then "/" ++ body
  else if body.isEmpty then "." else body

/-- The non-empty parts joined by slashes and cleaned; the empty path when all are empty. -/
def join (items : List String) : String :=
  match items.filter (· ≠ "") with
  | [] => ""
  | kept => clean ("/".intercalate kept)

/-- The last part of a path, trailing slashes ignored; `.` for the empty path and `/` for a
path of slashes only. -/
def base (path : String) : String :=
  if path.isEmpty then "."
  else
    let trimmed := (path.toList.reverse.dropWhile (· == '/')).reverse
    if trimmed.isEmpty then "/"
    else String.ofList (trimmed.reverse.takeWhile (· ≠ '/')).reverse

def dir (path : String) : String :=
  clean (String.ofList (path.toList.reverse.dropWhile (· ≠ '/')).reverse)

def climbs (path : String) : Bool := (parts path).contains ".."

def unsafeRootMessage : String := "root path provided to SecureJoin contains '..' components"

/-- Places `rel` under `root`: `rel` is read as if the root were `/`, so its `..` parts stop at
the root. A root with a `..` part is refused, and an empty root is `/`. -/
def within (root rel : String) : Except String String :=
  if climbs root then .error unsafeRootMessage
  else .ok (join [root, clean ("/" ++ rel)])

end Testbed.Path
