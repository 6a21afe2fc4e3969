import NoteVault.Filter.Basic
import NoteVault.Value.Decode

/-! What a base declares: properties, formulas and views with their filters. -/

namespace NoteVault

inductive PropertyKind where
  | note
  | file
  | formula
  | unknown
  deriving DecidableEq, Repr

structure Property where
  key : Text
  kind : PropertyKind
  displayName : Option Text
  valueType : Option Text
  deriving DecidableEq, Repr

structure View where
  name : Text
  kind : Text
  limit : Option Nat
  order : List Text
  filter : Option Filter
  description : Option Text
  deriving Repr

structure Schema where
  base : Text
  properties : List Property
  formulas : Formulas
  views : List View
  filter : Option Filter
  deriving Repr

namespace Schema

def empty : Schema := ⟨[], [], .empty, [], none⟩

/-- The view of a name, or the first one if no name is given. -/
def view? (s : Schema) : Option Text → Option View
  | some name => s.views.find? fun v => v.name == name
  | none => s.views.head?

end Schema

namespace Spec

/-- The first of some fields of a record that is a text. -/
def firstText? (v : Value) (names : List Text) : Option Text :=
  match v with
  | .record _ => names.findSome? fun name => (v.get? name).bind Value.text?
  | _ => none

/-- The first of some fields that is there at all. -/
def firstField? (v : Value) (names : List Text) : Option Value := names.findSome? v.get?

def displayName? (v : Value) : Option Text :=
  firstText? v ["displayName", "display_name", "name"]

def kindOf (key : Text) : PropertyKind :=
  if Text.isBlankText key then .unknown
  else if Text.beginsWith "file." key then .file
  else .note

def propertyOf (key : Text) (v : Value) : Property :=
  ⟨key, kindOf key, displayName? v, firstText? v ["type", "valueType", "value_type"]⟩

/-- The fields of a section of a base, if it is a record. -/
def section? (spec : Value) (name : Text) : Option (List (Text × Value)) :=
  (spec.get? name).bind Decode.fields?

def properties (spec : Value) : List Property :=
  ((section? spec "properties").getD []).map fun (k, v) => propertyOf k v

/-- The text of a formula, which may stand in a record. -/
def expression? : Value → Option Text
  | .text t => some t
  | .record fs => firstText? (.record fs) ["expression", "formula", "value"]
  | .null => none
  | v => some v.display

/-- The formulas of a base as they are declared: their names, texts and values. -/
def declared (spec : Value) : List (Text × Text × Value) :=
  ((section? spec "formulas").getD []).filterMap fun (k, v) =>
    (expression? v).map fun e => (k, e, v)

def formulas (spec : Value) : Formulas :=
  .ofList ((declared spec).map fun (k, e, _) => (k, .text e))

/-- The key of the property that shows a formula. -/
def formulaKey (name : Text) : Text := "formula.".toList ++ name

/-- Some properties with that of a formula, which takes the place of a declared one. -/
def withFormula (ps : List Property) (name : Text) (v : Value) : List Property :=
  let key := formulaKey name
  match ps with
  | [] => [⟨key, .formula, displayName? v, some "formula"⟩]
  | p :: ps =>
    if p.key == key then
      { p with kind := .formula, valueType := some "formula",
               displayName := (displayName? v).or p.displayName } :: ps
    else p :: withFormula ps name v

def isDescending (direction : Text) : Bool :=
  Text.alike direction "desc" || Text.alike direction "descending"

/-- A sort key of a view: a text that begins with `-` if the order is descending. -/
def orderKey? : Value → Option Text
  | .null => none
  | .record fs =>
    (firstText? (.record fs) ["property", "column", "key", "field"]).map fun key =>
      match firstText? (.record fs) ["direction", "dir", "order"] with
      | some d => if isDescending d then '-' :: key else key
      | none => key
  | v => some v.display

def order (view : Value) : List Text :=
  match firstField? view ["order", "sort"] with
  | some (.list vs) => vs.filterMap orderKey?
  | some v => (orderKey? v).toList
  | none => []

def filter? (v : Value) : Option Filter :=
  (firstField? v ["filters", "filter"]).bind Filter.ofValue?

/-- The view that a record at a place in the list of views writes. -/
def viewOf? (index : Nat) (v : Value) : Option View :=
  match v with
  | .record _ => some
    { name := (firstText? v ["name"]).getD ("View ".toList ++ Text.ofNat (index + 1))
      kind := (firstText? v ["type"]).getD "table"
      limit := (v.get? "limit").bind Decode.nat?
      order := order v
      filter := filter? v
      description := firstText? v ["description"] }
  | _ => none

def viewsFrom : Nat → List Value → List View
  | _, [] => []
  | i, v :: vs => (viewOf? i v).toList ++ viewsFrom (i + 1) vs

def views (spec : Value) : List View :=
  viewsFrom 0 (((spec.get? "views").bind Value.list?).getD [])

/-- The schema of a base with a key. Sections that are missing or of another shape are empty. -/
def schema (base : Text) (spec : Value) : Schema :=
  { base
    properties := (declared spec).foldl (fun ps (k, _, v) => withFormula ps k v) (properties spec)
    formulas := formulas spec
    views := views spec
    filter := filter? spec }

end Spec

end NoteVault
