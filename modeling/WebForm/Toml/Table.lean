import WebForm.Toml.Value
/-!
# TOML tables under construction

A document builds its tables statement by statement, and some tables may not be built further: a
table is defined by one header only, a dotted key does not add to a table that has a header, and
nothing adds to a complete value. So every table remembers how it came to be.
-/

set_option autoImplicit false

namespace WebForm.Toml

/-- How a table came to be. -/
inductive Origin where
  /-- By a header of its own. -/
  | header
  /-- On the way to the table of a header. -/
  | passed
  /-- On the way to a member with a dotted key. -/
  | dotted
deriving DecidableEq, Repr

/-- What stands under a key. -/
inductive Entry where
  /-- A value that is complete. -/
  | value (v : Value)
  | table (origin : Origin) (members : List (String × Entry))
  /-- The elements of an array of tables: the last one, and those before it in reverse. -/
  | tables (last : List (String × Entry)) (before : List (List (String × Entry)))

/-- The members of a table under construction. -/
abbrev Members := List (String × Entry)

/-- Puts an entry under a key, in place of the one that is there. -/
def putEntry (name : String) (entry : Entry) : Members → Members
  | [] => [(name, entry)]
  | (k, old) :: rest =>
    if k = name then (k, entry) :: rest else (k, old) :: putEntry name entry rest

/-! ## Members -/

/-- Adds a member by the path to its table and the last part of its key. No table on the way may
have a header, and the member must be new in its table. `open_` tells whether this table takes
members: it does at the start of the key and where it came from dotted keys. -/
def addMember (open_ : Bool) (path : List String) (last : String) (v : Value)
    (members : Members) : Option Members :=
  match path with
  | [] =>
    match members.lookup last with
    | none => if open_ then some (putEntry last (.value v) members) else none
    | some _ => none
  | name :: path =>
    match members.lookup name with
    | none => (addMember true path last v []).map fun inner =>
        putEntry name (.table .dotted inner) members
    | some (.table .header _) => none
    | some (.table origin inner) =>
      (addMember (origin = .dotted) path last v inner).map fun inner =>
        putEntry name (.table origin inner) members
    | some (.tables element before) => (addMember false path last v element).map fun element =>
        putEntry name (.tables element before) members
    | some (.value _) => none

/-- Splits off the last part of a key. -/
def splitLast (first : String) : List String → List String × String
  | [] => ([], first)
  | next :: rest =>
    let (path, last) := splitLast next rest
    (first :: path, last)

/-- Adds a member under a key of at least one part. -/
def addKey (parts : List String) (v : Value) (members : Members) : Option Members :=
  match parts with
  | [] => none
  | first :: rest =>
    let (path, last) := splitLast first rest
    addMember true path last v members

/-! ## Headers -/

/-- Changes the table at the path of a header. Tables that are missing on the way are made, and an
array of tables stands for its last element. -/
def changeAt (change : Members → Option Members) : List String → Members → Option Members
  | [], members => change members
  | name :: path, members =>
    match members.lookup name with
    | none => (changeAt change path []).map fun inner =>
        putEntry name (.table .passed inner) members
    | some (.table origin inner) => (changeAt change path inner).map fun inner =>
        putEntry name (.table origin inner) members
    | some (.tables element before) => (changeAt change path element).map fun element =>
        putEntry name (.tables element before) members
    | some (.value _) => none

/-- Defines a table by a header; it may have been passed before, but not more. -/
def defineTable (name : String) (members : Members) : Option Members :=
  match members.lookup name with
  | none => some (putEntry name (.table .header []) members)
  | some (.table .passed inner) => some (putEntry name (.table .header inner) members)
  | some _ => none

/-- Starts a new element of an array of tables. -/
def defineElement (name : String) (members : Members) : Option Members :=
  match members.lookup name with
  | none => some (putEntry name (.tables [] []) members)
  | some (.tables element before) => some (putEntry name (.tables [] (element :: before)) members)
  | some _ => none

/-- Handles a header of at least one part. -/
def addHeader (define : String → Members → Option Members) (parts : List String)
    (members : Members) : Option Members :=
  match parts with
  | [] => none
  | first :: rest =>
    let (path, last) := splitLast first rest
    changeAt (define last) path members

/-! ## Values -/

mutual

/-- What an entry stands for. -/
def Entry.toValue : Entry → Value
  | .value v => v
  | .table _ members => .table (membersToValues members)
  | .tables last before => .array (tablesToValues before ++ [.table (membersToValues last)])
termination_by structural e => e

/-- What the members of a table stand for. -/
def membersToValues : List (String × Entry) → List (String × Value)
  | [] => []
  | (name, entry) :: rest => (name, entry.toValue) :: membersToValues rest
termination_by structural ms => ms

/-- What the earlier elements of an array of tables stand for, given the last one first. -/
def tablesToValues : List (List (String × Entry)) → List Value
  | [] => []
  | members :: rest => tablesToValues rest ++ [.table (membersToValues members)]
termination_by structural ts => ts

end

end WebForm.Toml
