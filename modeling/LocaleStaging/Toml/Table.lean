import LocaleStaging.Toml.Value

/-!
Building tables. A key can be given once, and a table can be defined once: by a header, or by keys
with dots, or between braces. Tables that headers only mention can still get a header of their own.
-/

namespace LocaleStaging.Toml

abbrev Table := TableKind × Entries

def setKey (entries : Entries) (key : String) (value : Value) : Entries :=
  match entries with
  | [] => [(key, value)]
  | entry :: rest =>
    if entry.1 = key then (key, value) :: rest else entry :: setKey rest key value

/-- Edits the table that keys lead to, and makes the tables on the way that are missing. Keys with
dots make tables of their own kind, and do not go into a table that has a header. -/
def descend (dotted : Bool) (edit : Table → Except Fault Table) :
    List String → Table → Except Fault Table
  | [], table => edit table
  | key :: rest, (kind, entries) =>
    match entries.lookup key with
    | none => do
      let (inner, values) ← descend dotted edit rest (if dotted then .dotted else .implied, [])
      return (kind, setKey entries key (.table inner values))
    | some (.table inner values) =>
      if inner = .braces ∨ dotted ∧ inner = .header then .error .duplicateKey
      else do
        let (inner, values) ← descend dotted edit rest (inner, values)
        return (kind, setKey entries key (.table inner values))
    | some (.tables elements) => do
      let (_, values) ← descend dotted edit rest (.header, elements.getLast?.getD [])
      return (kind, setKey entries key (.tables (elements.dropLast ++ [values])))
    | some _ => .error .duplicateKey

def addPair (keys : List String) (value : Value) (table : Table) : Except Fault Table :=
  let path := keys.dropLast
  let dotted := !path.isEmpty
  let add : Table → Except Fault Table := fun (kind, entries) =>
    let key := keys.getLast?.getD ""
    if (kind == .dotted) != dotted ∨ (entries.lookup key).isSome then .error .duplicateKey
    else .ok (kind, setKey entries key value)
  descend dotted add path table

def addTable (keys : List String) (table : Table) : Except Fault Table :=
  let add : Table → Except Fault Table := fun (kind, entries) =>
    let key := keys.getLast?.getD ""
    match entries.lookup key with
    | none => .ok (kind, setKey entries key (.table .header []))
    | some (.table .implied values) => .ok (kind, setKey entries key (.table .header values))
    | some _ => .error .duplicateKey
  descend false add keys.dropLast table

def addElement (keys : List String) (table : Table) : Except Fault Table :=
  let add : Table → Except Fault Table := fun (kind, entries) =>
    let key := keys.getLast?.getD ""
    match entries.lookup key with
    | none => .ok (kind, setKey entries key (.tables [[]]))
    | some (.tables elements) => .ok (kind, setKey entries key (.tables (elements ++ [[]])))
    | some _ => .error .duplicateKey
  descend false add keys.dropLast table

inductive Statement where
  | pair (keys : List String) (value : Value)
  | header (keys : List String)
  | element (keys : List String)

def buildFrom (current : List String) (table : Table) : List Statement → Except Fault Table
  | [] => .ok table
  | .pair keys value :: rest => do
    buildFrom current (← descend false (addPair keys value) current table) rest
  | .header keys :: rest => do buildFrom keys (← addTable keys table) rest
  | .element keys :: rest => do buildFrom keys (← addElement keys table) rest

def build (statements : List Statement) : Except Fault Entries :=
  (buildFrom [] (.header, []) statements).map Prod.snd

def ofPairs (pairs : List (List String × Value)) : Except Fault Value := do
  let (_, entries) ← pairs.foldlM (fun table pair => addPair pair.1 pair.2 table) (.braces, [])
  return .table .braces entries

end LocaleStaging.Toml
