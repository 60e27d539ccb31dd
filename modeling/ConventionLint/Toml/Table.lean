import ConventionLint.Toml.Value

/-! Tables while a document is read. A table knows how it came about, since a table may be given only
once: by its own header, by the dotted keys of another table, or by the header of a table within it. -/

namespace ConventionLint.Toml

inductive Origin where
  | given
  | byDottedKey
  | byInnerHeader
  deriving DecidableEq, Repr

inductive Item where
  | value (v : Value)
  | table (origin : Origin) (entries : List (String × Item))
  | tables (rows : List (List (String × Item)))

abbrev Items := List (String × Item)

namespace Item

mutual

def freeze : Item → Value
  | .value v => v
  | .table _ es => .table (freezeEntries es)
  | .tables rows => .array (freezeRows rows)

def freezeEntries : List (String × Item) → List (String × Value)
  | [] => []
  | (k, i) :: es => (k, freeze i) :: freezeEntries es

def freezeRows : List (List (String × Item)) → List Value
  | [] => []
  | r :: rs => .table (freezeEntries r) :: freezeRows rs

end

end Item

namespace Items

def get? (es : Items) (key : String) : Option Item := (es.find? fun e => e.1 == key).map Prod.snd

def set (key : String) (i : Item) : Items → Items
  | [] => [(key, i)]
  | (k, j) :: es => if k == key then (k, i) :: es else (k, j) :: set key i es

def updateLast (f : Items → Option Items) : List Items → Option (List Items)
  | [] => none
  | [r] => (f r).map fun r => [r]
  | r :: rs => (updateLast f rs).map fun rs => r :: rs

def add (key : String) (v : Value) (es : Items) : Option Items :=
  match es.get? key with
  | none => some (es.set key (.value v))
  | some _ => none

/-- A value for a dotted key. The tables on the way have to come from dotted keys of the same table. -/
def addDotted (key : String) (v : Value) : List String → Items → Option Items
  | [], es => es.add key v
  | k :: ks, es =>
    match es.get? k with
    | none => (addDotted key v ks []).map fun sub => es.set k (.table .byDottedKey sub)
    | some (.table .byDottedKey sub) =>
      (addDotted key v ks sub).map fun sub => es.set k (.table .byDottedKey sub)
    | some (.table .byInnerHeader sub) =>
      if ks.isEmpty then none
      else (addDotted key v ks sub).map fun sub => es.set k (.table .byInnerHeader sub)
    | some (.tables rows) =>
      if ks.isEmpty then none
      else (updateLast (addDotted key v ks) rows).map fun rows => es.set k (.tables rows)
    | _ => none

def updateAt (f : Items → Option Items) : List String → Items → Option Items
  | [], es => f es
  | k :: ks, es =>
    match es.get? k with
    | none => (updateAt f ks []).map fun sub => es.set k (.table .byInnerHeader sub)
    | some (.table o sub) => (updateAt f ks sub).map fun sub => es.set k (.table o sub)
    | some (.tables rows) => (updateLast (updateAt f ks) rows).map fun rows => es.set k (.tables rows)
    | some (.value _) => none

/-- A header gives a table, which may so far only have come about by headers of tables within it. -/
def openTable (key : String) (es : Items) : Option Items :=
  match es.get? key with
  | none => some (es.set key (.table .given []))
  | some (.table .byInnerHeader sub) => some (es.set key (.table .given sub))
  | _ => none

def addRow (key : String) (es : Items) : Option Items :=
  match es.get? key with
  | none => some (es.set key (.tables [[]]))
  | some (.tables rows) => some (es.set key (.tables (rows ++ [[]])))
  | _ => none

end Items

end ConventionLint.Toml
