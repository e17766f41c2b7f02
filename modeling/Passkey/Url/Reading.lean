/-
Passkey/Url/Reading.lean

Reading an address, by itself or relative to another one.

A text with a scheme is an address by itself, except that the scheme of the
base without two slashes behind it is passed over.  A text without a scheme
takes from the base what it does not state: a fragment alone keeps everything
else, a query keeps the path, and a relative path replaces what follows the
last slash.
-/
import Passkey.Url
import Passkey.Url.Authority
import Passkey.Url.Path

namespace Passkey.Url

open Passkey.Text

/-! ### Query and fragment -/

/-- Reads the query and the fragment, each behind its mark. -/
def readEnd (special : Bool) (u : Url) (cs : List Char) : Url :=
  let fragmentOf (cs : List Char) : Option (List Char) :=
    match cs with
    | '#' :: rest => some (escape inFragment rest)
    | _ => none
  match cs with
  | '?' :: rest =>
    { u with
      query := some (escape (inQuery special) (rest.takeWhile (· != '#')))
      fragment := fragmentOf (rest.dropWhile (· != '#')) }
  | _ => { u with query := none, fragment := fragmentOf cs }

/-- The base with another path, query and fragment. -/
def withPath (k : SchemeKind) (u : Url) (r : PathSoFar × List Char) : Url :=
  readEnd k.isSpecial { u with path := r.1.text } r.2

/-! ### Hosts and their paths -/

/-- Reads what follows `//` after a scheme. -/
def readAfterSlashes? (scheme : String) (cs : List Char) : Option Url := do
  let (authority, rest) ← readAuthority? scheme cs
  let k := SchemeKind.of scheme
  some (withPath k ⟨scheme, some authority, [], none, none⟩ (readPathAfterHost k rest))

/-- Reads an address whose scheme is not special. -/
def readOther? (scheme : String) (cs : List Char) : Option Url :=
  match cs with
  | '/' :: '/' :: rest => readAfterSlashes? scheme rest
  | '/' :: rest => some (withPath .other ⟨scheme, none, [], none, none⟩ (readPath .other ['/'] rest))
  | _ =>
    let path := escape controls (cs.takeWhile (!endsPath ·))
    some (readEnd false ⟨scheme, none, path, none, none⟩ (cs.dropWhile (!endsPath ·)))

/-! ### Relative addresses -/

/-- Reads a text that starts with a query or a fragment, or is empty: the path of the base
stays.  A fragment alone keeps the query, too. -/
def readSamePath? (k : SchemeKind) (base : Url) (cs : List Char) : Option Url :=
  match cs with
  | [] => some { base with fragment := none }
  | '?' :: _ => some (readEnd k.isSpecial base cs)
  | '#' :: rest => some { base with fragment := some (escape inFragment rest) }
  | _ => none

/-- Reads a text relative to an address that is no local file. -/
def readRelative? (base : Url) (cs : List Char) : Option Url :=
  let k := SchemeKind.of base.scheme
  match readSamePath? k base cs with
  | some u => some u
  | none =>
    match cs.takeWhile isSlash with
    | [] =>
      let front := dropSegment k base.path
      let start := if front.isEmpty then ['/'] else front
      some (withPath k base (readPath k start cs))
    | [_] => some (withPath k base (readPath k ['/'] (cs.drop 1)))
    | ['/', '/'] => readAfterSlashes? base.scheme (cs.drop 2)
    | '/' :: '/' :: _ => readAfterSlashes? base.scheme (cs.drop 2)
    | _ => readAfterSlashes? base.scheme (cs.dropWhile isSlash)

/-! ### Local files -/

/-- The scheme of local files. -/
def fileScheme : String := "file"

/-- A local file on a host, which may be empty. -/
def fileUrl (host : List Char) (r : PathSoFar × List Char) : Url :=
  withPath .file ⟨fileScheme, some host, [], none, none⟩ r

/-- The host that means this computer. -/
def localHost : Host := .name "localhost".toList

/-- Reads what follows `file://`.  A drive leaves no place for a host. -/
def readFileHost? (cs : List Char) : Option Url :=
  let endsHost (c : Char) : Bool := isSlash c || endsPath c
  let hostText := cs.takeWhile (!endsHost ·)
  if isDrive hostText then some (fileUrl [] (readPath .file ['/'] cs))
  else
    let rest := cs.dropWhile (!endsHost ·)
    let path := readPath .file ['/'] rest
    if hostText.isEmpty then some (fileUrl [] path)
    else
      match readHost? hostText with
      | none => none
      | some host =>
        let host := if host = localHost || path.1.hasDrive then [] else host.text
        some (fileUrl host path)

/-- The first segment of a path. -/
def firstSegment (path : List Char) : List Char :=
  (path.drop 1).takeWhile (· != '/')

/-- Reads a path from the root: the drive or else the host of the base stays, unless the path
names a drive. -/
def readFileRoot (base : Option Url) (cs : List Char) : Url :=
  match base with
  | none => fileUrl [] (readPath .file [] cs)
  | some b =>
    let drive := firstSegment b.path
    if startsWithDrive (cs.drop 1) then fileUrl [] (readPath .file [] cs)
    else if isPlainDrive drive then fileUrl [] (readPath .file ('/' :: drive) cs)
    else fileUrl (b.authority.getD []) (readPath .file [] cs)

/-- Reads the address of a local file, relative to another one if there is one. -/
def readFile? (base : Option Url) (cs : List Char) : Option Url :=
  match cs.takeWhile isSlash with
  | _ :: _ :: _ => readFileHost? (cs.drop 2)
  | [_] => some (readFileRoot base cs)
  | [] =>
    match base with
    | none => some (fileUrl [] (readPath .file ['/'] cs))
    | some b =>
      match readSamePath? .file b cs with
      | some u => some u
      | none =>
        if startsWithDrive cs then some (fileUrl [] (readPath .file ['/'] cs))
        else some (withPath .file b (readPath .file (dropSegment .file b.path) cs))

/-! ### Whole texts -/

/-- Reads what follows the colon of a scheme. -/
def readAfterScheme? (base : Option Url) (scheme : String) (cs : List Char) : Option Url :=
  let sameBase := base.filter (·.scheme = scheme)
  match SchemeKind.of scheme with
  | .file => readFile? sameBase cs
  | .special =>
    match cs.takeWhile isSlash, sameBase with
    | _ :: _ :: _, _ => readAfterSlashes? scheme (cs.dropWhile isSlash)
    | _, some b => readRelative? b cs
    | _, none => readAfterSlashes? scheme (cs.dropWhile isSlash)
  | .other => readOther? scheme cs

/-- Reads a text without a scheme. -/
def readWithoutScheme? (base : Option Url) (cs : List Char) : Option Url :=
  match base with
  | none => none
  | some b =>
    match cs with
    | '#' :: rest => some { b with fragment := some (escape inFragment rest) }
    | _ =>
      if !b.canBeBase then none
      else if SchemeKind.of b.scheme = .file then readFile? (some b) cs
      else readRelative? b cs

/-- Whether the character is dropped at the ends of an address. -/
def isMargin (c : Char) : Bool :=
  c.toNat ≤ 0x20

/-- Whether the character is dropped wherever it stands in an address. -/
def isLineMark (c : Char) : Bool :=
  c == '\t' || c == '\n' || c == '\r'

/-- The text of an address as it is read: without its margins and without line marks. -/
def cleaned (s : String) : List Char :=
  let cs := s.toList.dropWhile isMargin
  (cs.reverse.dropWhile isMargin).reverse.filter (!isLineMark ·)

/-- Reads an address, relative to another one if there is one. -/
def read? (base : Option Url) (s : String) : Option Url :=
  let cs := cleaned s
  match readScheme? cs with
  | some (scheme, rest) => readAfterScheme? base scheme rest
  | none => readWithoutScheme? base cs

end Passkey.Url
