-- SUMMARY: Paths as texts: segments, components, the path above, joining, and a command's directory.
import ScriptExec.Bytes

/-!
# Paths

A path is the byte string the system is given. Its segments are the texts between slashes; a segment
that is empty or `.` names nothing, except a leading `.`, which is kept. What remains are the
components.
-/

namespace ScriptExec

abbrev Path := Bytes

namespace Path

/-- The segment that stands for the directory itself. -/
def here : Bytes := [Byte.dot]

/-- The segment that stands for the directory above. -/
def above : Bytes := [Byte.dot, Byte.dot]

/-- The top directory. -/
def root : Path := [Byte.slash]

def isAbsolute : Path → Bool
  | b :: _ => b == Byte.slash
  | [] => false

/-- The texts between slashes, from the start of the path on. -/
def segments (path : Path) : List Bytes :=
  path.splitOn Byte.slash

/-- Whether a segment names nothing. -/
def isVoid (segment : Bytes) : Bool :=
  segment.isEmpty || segment == here

/-- Whether a relative path starts with a segment `.`, which counts as a component. -/
def startsHere (path : Path) : Bool :=
  path.head? == some Byte.dot && (path.length == 1 || path[1]? == some Byte.slash)

/-- The named components of a path: neither the root, nor a leading `.`, nor void segments. -/
def names (path : Path) : List Bytes :=
  path.segments.filter fun segment => !isVoid segment

/-- The number of components, the root and a leading `.` included. -/
def componentCount (path : Path) : Nat :=
  path.names.length + if path.isAbsolute || path.startsHere then 1 else 0

/-- Goes from one path to another: an absolute path replaces what was before it, a relative one is put
after a slash. -/
def join (base path : Path) : Path :=
  if path.isAbsolute then path
  else if base.isEmpty || base.getLast? == some Byte.slash then base ++ path
  else base ++ [Byte.slash] ++ path

/-- Goes along several names, one after the other. -/
def joinAll (base : Path) (segments : List Bytes) : Path :=
  segments.foldl join base

/-! ## The path above -/

/-- The last segment of a reversed text, still reversed, and what is left before its slash. -/
def lastSegment (reversed : Bytes) : Bytes × Bytes :=
  (reversed.takeWhile (· != Byte.slash), (reversed.dropWhile (· != Byte.slash)).drop 1)

theorem lastSegment_length_lt {reversed : Bytes} (h : reversed ≠ []) :
    (lastSegment reversed).2.length < reversed.length := by
  cases reversed with
  | nil => exact absurd rfl h
  | cons b rest =>
    have hle : ((b :: rest).dropWhile (· != Byte.slash)).length ≤ (b :: rest).length :=
      List.IsSuffix.length_le (List.dropWhile_suffix _)
    simp only [lastSegment, List.length_drop]
    simp only [List.length_cons] at *
    omega

/-- A reversed text without the void segments at its end. -/
def dropVoid (reversed : Bytes) : Bytes :=
  if _h : reversed = [] then []
  else if isVoid (lastSegment reversed).1 then dropVoid (lastSegment reversed).2
  else reversed
termination_by reversed.length
decreasing_by exact lastSegment_length_lt _h

/-- How many bytes stand before the named components: the slash of the root, or a leading `.`. -/
def bodyStart (path : Path) : Nat :=
  if path.isAbsolute || path.startsHere then 1 else 0

/-- The path without its last component, and nothing for the root and for the empty path. Void
segments at the end of either path are dropped; elsewhere the text stays as it is. -/
def parent? (path : Path) : Option Path :=
  match dropVoid (path.drop path.bodyStart).reverse with
  | [] => if path.startsHere then some [] else none
  | body => some (path.take path.bodyStart ++ (dropVoid (lastSegment body).2).reverse)

/-- The directory in which the last component of a path is looked up, as far as the text tells it, and
the root where the text leaves nothing. -/
def containingDir (path : Path) : Path :=
  match path.parent? with
  | some (b :: rest) => b :: rest
  | _ => root

end Path

end ScriptExec
