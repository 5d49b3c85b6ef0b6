import DocPress.Disk.Basic

/-!
# Changes

What differs between a tree before and after: the files and directories that are new or hold
something else, and those that are gone. Paths are relative to the tree, and the path of a
directory ends with a slash.
-/

namespace DocPress

/-- A path and the bytes of the file there; a directory has none. -/
abbrev Item := Text × Option (List UInt8)

mutual

/-- Everything below a node, where `above` leads to the node. -/
def Node.itemsFrom (above : Text) : Node → List Item
  | .file _ => []
  | .dir entries => itemsOfEntries above entries

/-- The entries of a directory and everything below them. -/
def Node.itemsOfEntries (above : Text) : List (Text × Node) → List Item
  | [] => []
  | (name, .file bytes) :: es => (above ++ name, some bytes) :: itemsOfEntries above es
  | (name, .dir entries) :: es =>
    let path := above ++ name ++ ['/']
    (path, none) :: itemsOfEntries path entries ++ itemsOfEntries above es

end

/-- Everything below a node. -/
def Node.items (x : Node) : List Item := x.itemsFrom []

/-- What differs between two trees. -/
structure Changes where
  written : List Item
  removed : List Text

namespace Changes

/-- The order of items by their paths. -/
def le (a b : Item) : Bool := Text.le a.1 b.1

/-- The items of `xs` that are not in `ys`, both in order. The sum of the lengths is enough
fuel. -/
def missingFrom : (fuel : Nat) → List Item → List Item → List Item
  | 0, xs, _ => xs
  | _ + 1, [], _ => []
  | _ + 1, xs, [] => xs
  | fuel + 1, x :: xs, y :: ys =>
    if x = y then missingFrom fuel xs ys
    else if x.1 = y.1 then x :: missingFrom fuel xs ys
    else if le x y then x :: missingFrom fuel xs (y :: ys)
    else missingFrom fuel (x :: xs) ys

/-- What differs between the tree before and the tree after, in the order of the paths. -/
def between (before after : Node) : Changes :=
  let old := before.items.mergeSort le
  let new := after.items.mergeSort le
  let fuel := old.length + new.length
  let paths (items : List Item) : List Item := items.map fun item => (item.1, none)
  { written := missingFrom fuel new old
    removed := (missingFrom fuel (paths old) (paths new)).map (·.1) }

end Changes
end DocPress
