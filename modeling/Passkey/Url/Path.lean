/-
Passkey/Url/Path.lean

Paths.

A path is kept as text.  Its segments are added one after the other, so that a
segment of two dots can take back what stands before it.  In a path of local
files a letter with a colon names a drive, which is never taken back; the
vertical bar is an old spelling of that colon.
-/
import Passkey.Url.Percent
import Passkey.Url.Scheme

namespace Passkey.Url

/-! ### Drives -/

/-- Whether a segment names a drive, in either spelling. -/
def isDrive : List Char → Bool
  | [a, b] => a.isAlpha && (b == ':' || b == '|')
  | _ => false

/-- Whether a segment names a drive, with a colon. -/
def isPlainDrive (cs : List Char) : Bool :=
  isDrive cs && cs.getLast? == some ':'

/-- Whether a text starts with a segment that names a drive. -/
def startsWithDrive (cs : List Char) : Bool :=
  isDrive (cs.take 2) && (cs.drop 2).head?.all fun c => isSlash c || endsPath c

/-! ### Taking back -/

/-- The path up to its last slash, and the segment behind it. -/
def lastSegment (path : List Char) : List Char × List Char :=
  let segment := (path.reverse.takeWhile (· != '/')).reverse
  (path.take (path.length - segment.length), segment)

/-- Removes the last segment; a drive stays. -/
def dropSegment (k : SchemeKind) (path : List Char) : List Char :=
  let (front, segment) := lastSegment path
  if k = .file && isPlainDrive segment then path else front

/-- Removes the slash at the end, if a segment other than a drive stands before it. -/
def dropFinalSlash (path : List Char) : List Char :=
  match path.getLast? with
  | some '/' =>
    let (front, segment) := lastSegment path.dropLast
    if front.isEmpty || isDrive segment then path else path.dropLast
  | _ => path

/-! ### Adding segments -/

/-- The path with a slash at its end. -/
def withSlash (path : List Char) : List Char :=
  if path.getLast? = some '/' then path else path ++ ['/']

/-- The ways to write a single dot. -/
def oneDot : List String := [".", "%2e"]

/-- The ways to write a double dot. -/
def twoDots : List String := ["..", ".%2e", "%2e.", "%2e%2e"]

/-- A path that is being read.  A segment of it that names a drive leaves no place for a host. -/
structure PathSoFar where
  text : List Char
  hasDrive : Bool
deriving DecidableEq, Repr

/-- Adds a segment; `closed` tells whether a slash follows it. -/
def PathSoFar.add (k : SchemeKind) (p : PathSoFar) (segment : List Char) (closed : Bool) :
    PathSoFar :=
  let path :=
    if k = .file && isPlainDrive (p.text.drop 1) && !segment.isEmpty then p.text ++ ['/']
    else p.text
  let written := escape inPath segment
  let close (t : List Char) : List Char := if closed then t ++ ['/'] else t
  if twoDots.any (Text.sameAscii · (String.ofList written)) then
    let parent := dropSegment k (dropFinalSlash path)
    ⟨if closed then withSlash parent else parent, p.hasDrive⟩
  else if oneDot.any (Text.sameAscii · (String.ofList written)) then
    ⟨withSlash path, p.hasDrive⟩
  else if k = .file && isDrive written then
    ⟨close (path ++ written.take 1 ++ [':']), true⟩
  else ⟨close (path ++ written), p.hasDrive⟩

/-- Adds the segments of a text. -/
def PathSoFar.addAll (k : SchemeKind) (p : PathSoFar) (segment : List Char) :
    List Char → PathSoFar
  | [] => p.add k segment false
  | c :: rest =>
    if k.separates c then (p.add k segment true).addAll k [] rest
    else p.addAll k (segment ++ [c]) rest

/-- Reads a path that continues another one.  Returns the path, whether it names a drive, and
the query and fragment that follow. -/
def readPath (k : SchemeKind) (start : List Char) (cs : List Char) : PathSoFar × List Char :=
  let p := PathSoFar.addAll k ⟨start, false⟩ [] (cs.takeWhile (!endsPath ·))
  let text := if k = .file then '/' :: p.text.dropWhile (· == '/') else p.text
  (⟨text, p.hasDrive⟩, cs.dropWhile (!endsPath ·))

/-- Reads the path behind the part that names the host. -/
def readPathAfterHost (k : SchemeKind) (cs : List Char) : PathSoFar × List Char :=
  match cs with
  | [] => if k.isSpecial then readPath k ['/'] [] else (⟨[], false⟩, [])
  | c :: rest =>
    if k.separates c then readPath k ['/'] rest
    else if !k.isSpecial && endsPath c then (⟨[], false⟩, cs)
    else readPath k ['/'] cs

end Passkey.Url
