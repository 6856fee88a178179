import Courier.Toml.Scalar

/-!
# TOML documents

A document is a tree of tables, written in any order: a header opens a table, a line adds a member to the
table that is open, and a key of several parts goes through tables on its way. Tables have a memory of
how they came to be, for a table is opened once, and one that was made on the way by a key is not opened
at all. Members keep the order in which they came; a table that is opened after it was passed through
comes anew.

`ofText?` reads a document into a draft, from which values are decoded.
-/

set_option autoImplicit false
set_option relaxedAutoImplicit false

namespace Courier.Toml

/-- How a table came to be. -/
inductive Origin where
  /-- By its header. -/
  | header
  /-- On the way to a table below it. -/
  | passed
  /-- On the way of a key of several parts. -/
  | dotted
  deriving DecidableEq

/-- A part of a document. -/
inductive Node where
  | scalar (value : Scalar)
  | array (items : List Node)
  /-- A table between braces, or one in it that a key of several parts made. -/
  | inlineTable (dotted : Bool) (members : List (String × Node))
  | table (origin : Origin) (members : List (String × Node))
  /-- An array of tables, each with a header of its own. -/
  | tables (items : List (List (String × Node)))

/-- The members of a table. -/
abbrev Members := List (String × Node)

/-- The member of a key. -/
def member? (key : String) (members : Members) : Option Node :=
  (members.find? fun m => m.1 = key).map Prod.snd

/-- Puts a member in the place of the one with its key, or at the end. -/
def setMember (key : String) (node : Node) : Members → Members
  | [] => [(key, node)]
  | (k, n) :: rest => if k = key then (k, node) :: rest else (k, n) :: setMember key node rest

/-- The members without that of a key. -/
def dropMember (key : String) (members : Members) : Members :=
  members.filter fun m => m.1 ≠ key

/-- Works on the table that a path leads to, through tables that are made where they are missing. Of an
array of tables the path goes through the last one. -/
def descend {α : Type} (dotted : Bool) (work : Option Origin → Members → Option (α × Members)) :
    List String → Option Origin → Members → Option (α × Members)
  | [], origin, members => work origin members
  | key :: path, _, members => do
    match member? key members with
    | none =>
      let origin := if dotted then .dotted else .passed
      let (a, below) ← descend dotted work path (some origin) []
      return (a, setMember key (.table origin below) members)
    | some (.table origin below) =>
      if dotted ∧ origin = .header then none
      else
        let (a, below) ← descend dotted work path (some origin) below
        return (a, setMember key (.table origin below) members)
    | some (.tables items) =>
      match items.getLast? with
      | none => none
      | some last =>
        let (a, last) ← descend dotted work path none last
        return (a, setMember key (.tables (items.dropLast ++ [last])) members)
    | some _ => none

/-- Adds a line to a table. A key of several parts does not add to a table that came to be in another
way. -/
def addLine (path : List String) (value : Node) (members : Members) : Option Members :=
  match path.getLast? with
  | none => none
  | some key =>
    let line (origin : Option Origin) (members : Members) : Option (Unit × Members) :=
      if 1 < path.length ∧ origin ≠ some .dotted ∨ (member? key members).isSome then none
      else some ((), members ++ [(key, value)])
    (descend true line path.dropLast none members).map Prod.snd

/-- Works on the members of a table between braces that a path leads to. -/
def descendInline (work : Members → Option Members) :
    List String → Members → Option Members
  | [], members => work members
  | key :: path, members => do
    match member? key members with
    | none =>
      let below ← descendInline work path []
      return setMember key (.inlineTable true below) members
    | some (.inlineTable true below) =>
      let below ← descendInline work path below
      return setMember key (.inlineTable true below) members
    | some _ => none

/-- Adds a member to a table between braces. -/
def addInline (path : List String) (value : Node) (members : Members) : Option Members :=
  match path.getLast? with
  | none => none
  | some key =>
    descendInline (fun members =>
      if (member? key members).isSome then none else some (members ++ [(key, value)]))
      path.dropLast members

/-! ### Values -/

/-- The text after blanks, comments and line ends. -/
def skipTrivia : Nat → List Char → List Char
  | 0, cs => cs
  | fuel + 1, cs =>
    let rest := skipComment (skipBlanks cs)
    match lineEnd? rest with
    | some rest => skipTrivia fuel rest
    | none => rest

mutual

/-- Reads a value at a level of nesting. -/
def value : Nat → Nat → Reader Node
  | 0, _, _ => none
  | fuel + 1, level, cs =>
    match cs with
    | '"' :: _ | '\'' :: _ => (string cs).map fun (s, rest) => (.scalar (.string s), rest)
    | '[' :: rest =>
      if level + 1 < depthLimit then
        (items fuel (level + 1) (skipTrivia rest.length rest)).map fun (ns, rest) =>
          (.array ns, rest)
      else none
    | '\x7b' :: rest =>
      if level + 1 < depthLimit then
        match skipBlanks rest with
        | '\x7d' :: rest => some (.inlineTable false [], rest)
        | rest =>
          (inlineMembers fuel (level + 1) [] rest).map fun (ms, rest) =>
            (.inlineTable false ms, rest)
      else none
    | _ => (word cs).map fun (s, rest) => (.scalar s, rest)

/-- Reads the items of an array up to its bracket. -/
def items : Nat → Nat → Reader (List Node)
  | 0, _, _ => none
  | fuel + 1, level, cs =>
    match cs with
    | ']' :: rest => some ([], rest)
    | _ => do
      let (item, rest) ← value fuel level cs
      match skipTrivia rest.length rest with
      | ',' :: rest =>
        let (others, rest) ← items fuel level (skipTrivia rest.length rest)
        return (item :: others, rest)
      | ']' :: rest => return ([item], rest)
      | _ => none

/-- Reads the members of a table between braces up to its brace. -/
def inlineMembers : Nat → Nat → Members → Reader Members
  | 0, _, _, _ => none
  | fuel + 1, level, members, cs => do
    let (path, rest) ← key cs
    let ((), rest) ← mark '=' rest
    let (node, rest) ← value fuel level (skipBlanks rest)
    let members ← addInline path node members
    match skipBlanks rest with
    | ',' :: rest => inlineMembers fuel level members rest
    | '\x7d' :: rest => return (members, rest)
    | _ => none

end

/-! ### Documents -/

/-- A document being read: its tables, and the table that is open. -/
structure Reading where
  root : Members := []
  /-- The path of the open table; the top has none. -/
  path : List String := []
  /-- The open table is one of an array of tables. -/
  inArray : Bool := false
  /-- The members of the open table. -/
  current : Members := []

namespace Reading

/-- Puts the open table into the tree. -/
def close (r : Reading) : Option Members :=
  match r.path.getLast? with
  | none => some r.current
  | some key =>
    let put (_ : Option Origin) (members : Members) : Option (Unit × Members) :=
      match r.inArray, member? key members with
      | true, some (.tables items) =>
        some ((), setMember key (.tables (items ++ [r.current])) members)
      | false, none => some ((), members ++ [(key, .table .header r.current)])
      | _, _ => none
    (descend false put r.path.dropLast none r.root).map Prod.snd

/-- Opens a table. One that was only passed through keeps the tables below it. -/
def openTable (r : Reading) (path : List String) : Option Reading := do
  let root ← r.close
  let key ← path.getLast?
  let take (_ : Option Origin) (members : Members) : Option (Members × Members) :=
    match member? key members with
    | none => some ([], members)
    | some (.table .passed below) => some (below, dropMember key members)
    | some _ => none
  let (current, root) ← descend false take path.dropLast none root
  return { root, path, current }

/-- Opens a new table of an array of tables. -/
def openItem (r : Reading) (path : List String) : Option Reading := do
  let root ← r.close
  let key ← path.getLast?
  let make (_ : Option Origin) (members : Members) : Option (Unit × Members) :=
    match member? key members with
    | none => some ((), members ++ [(key, .tables [])])
    | some (.tables _) => some ((), members)
    | some _ => none
  let ((), root) ← descend false make path.dropLast none root
  return { root, path, inArray := true }

end Reading

/-- A header after its first bracket. -/
def header (r : Reading) (cs : List Char) : Option (Reading × List Char) :=
  match cs with
  | '[' :: rest => do
    let (path, rest) ← key rest
    let ((), rest) ← mark ']' rest
    let ((), rest) ← mark ']' rest
    let rest ← lineRest? rest
    return (← r.openItem path, rest)
  | _ => do
    let (path, rest) ← key cs
    let ((), rest) ← mark ']' rest
    let rest ← lineRest? rest
    return (← r.openTable path, rest)

/-- A line with a key and a value. -/
def line (r : Reading) (cs : List Char) : Option (Reading × List Char) := do
  let (path, rest) ← key cs
  let ((), rest) ← mark '=' rest
  let rest := skipBlanks rest
  let (node, rest) ← value (2 * rest.length + 1) 0 rest
  let rest ← lineRest? rest
  return ({ r with current := ← addLine path node r.current }, rest)

/-- Reads the lines of a document. -/
def lines : Nat → Reading → List Char → Option Members
  | 0, _, _ => none
  | fuel + 1, r, cs =>
    match skipBlanks cs with
    | [] => r.close
    | '[' :: rest =>
      match header r rest with
      | some (r, rest) => lines fuel r rest
      | none => none
    | c :: rest =>
      if c = '#' ∨ c = '\n' ∨ c = '\r' then
        match lineRest? (c :: rest) with
        | some rest => lines fuel r rest
        | none => none
      else
        match line r (c :: rest) with
        | some (r, rest) => lines fuel r rest
        | none => none

mutual

/-- The draft of a part. -/
def Node.toDraft : Node → Json.Draft
  | .scalar (.string s) => .string s
  | .scalar (.integer n) => .number (.int n)
  | .scalar (.float x) => .number (.float x)
  | .scalar (.bool b) => .bool b
  | .scalar (.datetime s) => .object [(.ok "$__toml_private_datetime", .string s)] none
  | .array ns => .array (draftItems ns) none
  | .inlineTable _ ms => .object (draftMembers ms) none
  | .table _ ms => .object (draftMembers ms) none
  | .tables items => .array (draftTables items) none

/-- The drafts of the items. -/
def draftItems : List Node → List Json.Draft
  | [] => []
  | n :: rest => n.toDraft :: draftItems rest

/-- The drafts of the members. -/
def draftMembers : List (String × Node) → List (Except Json.Flaw String × Json.Draft)
  | [] => []
  | (key, n) :: rest => (.ok key, n.toDraft) :: draftMembers rest

/-- The drafts of the tables of an array. -/
def draftTables : List (List (String × Node)) → List Json.Draft
  | [] => []
  | ms :: rest => .object (draftMembers ms) none :: draftTables rest

end

/-- Reads a document; a byte order mark before it does not count. -/
def ofText? (text : String) : Option Json.Draft :=
  let cs :=
    match text.toList with
    | '\ufeff' :: rest => rest
    | cs => cs
  (lines (cs.length + 1) {} cs).map fun members => .object (draftMembers members) none

end Courier.Toml
