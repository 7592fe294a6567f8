import Hypermesh.PyStr
/-
`pathlib.Path` on the `str` form of paths, as the audit scripts use it: `/` (`join`), `relative_to`, `name` and
`suffix`. A path is the string `str(path)` prints, so a root directory carries no trailing `/` unless it is `/`.
Not modelled: `.` and `..` components and repeated separators, which the scripts never build.
-/

namespace Hypermesh.PyPath

/-- a directory as the prefix of the paths below it -/
def dirPrefix (d : String) : List Char := if d.toList.getLast? = some '/' then d.toList else d.toList ++ ['/']

/-- `Path(d) / rel`, for a relative `rel` whose trailing `/` `Path` drops -/
def join (d rel : String) : String := ⟨dirPrefix d ++ rel.toList.rdropWhile (· = '/')⟩

/-- `path.relative_to(root)`; `none` is the `ValueError` of a path not below the root -/
def relativeTo (root path : String) : Option String :=
  if path = root then some "." else
  if (dirPrefix root).isPrefixOf path.toList then some ⟨path.toList.drop (dirPrefix root).length⟩ else none

/-- `Path.name`: the last component -/
def name (path : String) : List Char := ((path.toList.splitOn '/').getLast?).getD []

/-- `Path.suffix`: the name from its last `.`, when that `.` is neither its first nor its last character -/
def suffix (path : String) : List Char :=
  match ((name path).enum.filter (·.2 = '.')).getLast? with
  | some (i, _) => if 0 < i ∧ i + 1 < (name path).length then (name path).drop i else []
  | none => []

end Hypermesh.PyPath
