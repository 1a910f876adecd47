import SyntaxSpans.Files.Snapshot
import SyntaxSpans.Text.Split

set_option autoImplicit false

/- Files kept in memory. A path is followed part by part from the top directory; every part but the
last has to lead through a directory. What lies above the top is not known to hold anything. -/
namespace SyntaxSpans

/-- A place by the names that lead to it from the top. -/
abbrev Place := List (List Char)

inductive Item where
  | file (bytes : Bytes)
  | directory

/-- Items by place; of two at one place the first counts. The top is a directory without being
listed. -/
structure Volume where
  items : List (Place × Item)

namespace Volume

def empty : Volume := ⟨[]⟩

def item? (volume : Volume) (place : Place) : Option Item :=
  if place = [] then some .directory else volume.items.lookup place

def nameLimit : Nat := 255

def pathLimit : Nat := 4095

/-- Follows the parts of a path from a place, or from outside if there is none. An empty part and a
dot stay, two dots lead upward, and above the top is outside. A name is looked up in a directory,
where it may turn out to be too long for any. -/
def follow (volume : Volume) : Option Place → List (List Char) → Except IoFault (Option Place)
  | place, [] => .ok place
  | none, part :: parts =>
      if part = [] ∨ part = ['.'] ∨ part = ['.', '.'] then volume.follow none parts
      else .error (if nameLimit < Utf8.size part then .nameTooLong else .notFound)
  | some place, part :: parts =>
      match volume.item? place with
      | none => .error .notFound
      | some (.file _) => .error .notDirectory
      | some .directory =>
          if part = [] ∨ part = ['.'] then volume.follow (some place) parts
          else if part = ['.', '.'] then
            volume.follow (if place = [] then none else some place.dropLast) parts
          else if nameLimit < Utf8.size part then .error .nameTooLong
          else volume.follow (some (place ++ [part])) parts

/-- The place that a path leads to. The empty path leads nowhere, and a slash in front outside. What
can be no path at all is refused before anything is looked up. -/
def locate (volume : Volume) (path : String) : Except IoFault (Option Place) :=
  if path.toList.contains '\x00' then .error .nulInName
  else if pathLimit < Utf8.size path.toList then .error .nameTooLong
  else
    match splitAtEvery '/' path.toList with
    | [] | [[]] => .error .notFound
    | [] :: parts => volume.follow none parts
    | parts => volume.follow (some []) parts

def read (volume : Volume) : Snapshot := fun path =>
  match volume.locate path with
  | .error cause => .error cause
  | .ok none => .error .isDirectory
  | .ok (some place) =>
      match volume.item? place with
      | none => .error .notFound
      | some .directory => .error .isDirectory
      | some (.file bytes) => .ok bytes

/-- The place that a part of a path leads to from another, whether or not anything is there. -/
def advance (place : Place) (part : List Char) : Place :=
  if part = [] ∨ part = ['.'] then place
  else if part = ['.', '.'] then place.dropLast
  else place ++ [part]

/-- The places that a path passes through, and the place that it names. -/
def trail (path : String) : List Place × Place :=
  (splitAtEvery '/' path.toList).foldl (fun (passed, place) part =>
    (passed ++ [place], advance place part)) ([], [])

def makeDirectories (volume : Volume) (places : List Place) : Volume :=
  let missing := places.filter fun place => (volume.item? place).isNone
  ⟨volume.items ++ missing.map fun place => (place, .directory)⟩

/-- Puts an item at a path, and directories at all places that the path passes through. A directory
that is there already keeps what is in it. -/
def write (volume : Volume) (path : String) (item : Item) : Volume :=
  let (passed, place) := trail path
  let reached := volume.makeDirectories passed
  match item with
  | .directory => reached.makeDirectories [place]
  | .file _ => ⟨(place, item) :: reached.items.filter fun entry => entry.1 != place⟩

/-- Takes away what a path leads to, and what is below it. -/
def remove (volume : Volume) (path : String) : Volume :=
  match volume.locate path with
  | .ok (some place) => ⟨volume.items.filter fun entry => !place.isPrefixOf entry.1⟩
  | _ => volume

end Volume

end SyntaxSpans
