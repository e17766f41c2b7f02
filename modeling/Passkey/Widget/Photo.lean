/-
Passkey/Widget/Photo.lean

The field for a profile photo: either the photo with an icon that deletes it,
or a placeholder.  Deleting ticks a hidden checkbox that is submitted with
the form; picking a file previews it and unticks the box.
-/
namespace Passkey.Widget

/-- What the photo field shows once the visitor has touched it. -/
inductive PhotoState where
  /-- Marked for deletion; the placeholder shows. -/
  | removed
  /-- A freshly picked file is previewed. -/
  | previewing
deriving DecidableEq, Repr

namespace PhotoState

/-- The state after the file input changed.  Emptying the picker changes nothing. -/
def afterChange (hasFile : Bool) : Option PhotoState :=
  if hasFile then some previewing else none

/-- Whether the photo is displayed. -/
def contentVisible (s : PhotoState) : Bool :=
  s == previewing

/-- Whether the placeholder is displayed. -/
def placeholderVisible (s : PhotoState) : Bool :=
  !s.contentVisible

/-- Whether the delete checkbox is ticked. -/
def deleteChecked (s : PhotoState) : Bool :=
  s == removed

/-- Whether the file input is emptied. -/
def clearsField (s : PhotoState) : Bool :=
  s == removed

end PhotoState

/-- What the visitor does to the photo field. -/
inductive PhotoEvent where
  | delete
  | pick
  | cancel
deriving DecidableEq, Repr

/-- The state after an event; before the first delete or pick there is none. -/
def PhotoEvent.apply (state : Option PhotoState) : PhotoEvent → Option PhotoState
  | delete => some .removed
  | pick => (PhotoState.afterChange true).or state
  | cancel => (PhotoState.afterChange false).or state

/-- The states after each of several events. -/
def photoHistory (state : Option PhotoState) : List PhotoEvent → List (Option PhotoState)
  | [] => []
  | e :: rest => e.apply state :: photoHistory (e.apply state) rest

end Passkey.Widget
