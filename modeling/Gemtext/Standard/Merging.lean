import Gemtext.Settings.Setting
import Gemtext.Text.Lowercase

/-!
# Merging settings

`Setting.put` adds a setting to a group: groups are merged name by name, and anything else takes the
place of what was there.  `Setting.setAt` does so where the steps of a key lead to, and makes the
groups and lists on the way if they are missing.  Names are kept in small letters.
-/

namespace Gemtext

namespace Setting

/-- The setting of the given name in a group. -/
def get? (name : Text) (s : Setting) : Option Setting :=
  s.entries.lookup name.lower

/-- The entries with one of them replaced, or added at the end. -/
def replace (name : Text) (value : Setting) : List (Text × Setting) → List (Text × Setting)
  | [] => [(name, value)]
  | (n, v) :: rest => if n = name then (n, value) :: rest else (n, v) :: replace name value rest

/-- A group with a setting in it, in place of the one of the same name.  Anything but a group
counts as an empty one. -/
def set (name : Text) (s value : Setting) : Setting :=
  .group (replace name.lower value s.entries)

mutual

/-- A group with a setting in it.  If it is a group itself, it is merged with the one of the same
name. -/
def put (name : Text) (s : Setting) : Setting → Setting
  | .group entries => s.set name (putAll ((s.get? name).getD (.group [])) entries)
  | value => s.set name value

/-- A group with settings in it, in order. -/
def putAll (s : Setting) : List (Text × Setting) → Setting
  | [] => s
  | (name, value) :: entries => putAll (put name s value) entries

end

/-- The items of a list; anything else has none. -/
def items : Setting → List Setting
  | list _ items => items
  | _ => []

/-- The file that a list comes from. -/
def listOrigin? : Setting → Option Text
  | list origin _ => origin
  | _ => none

/-- The items with the one at a place changed; empty ones are added as far as they are missing. -/
def changeItem (f : Setting → Setting) (index : Int) (items : List Setting) : List Setting :=
  let place := if 0 ≤ index then index.toNat else items.length - index.natAbs
  let items := items ++ List.replicate (place + 1 - items.length) .empty
  items.modify place f

/-- Set the setting that a key leads to. -/
def setAt (value : Setting) : List KeyStep → Setting → Setting
  | [], _ => value
  | [.name name], s => s.put name value
  | .name name :: step :: steps, s =>
    s.set name (setAt value (step :: steps) ((s.get? name).getD .empty))
  | .place index :: steps, s =>
    .list s.listOrigin? (changeItem (setAt value steps) index s.items)

end Setting

end Gemtext
