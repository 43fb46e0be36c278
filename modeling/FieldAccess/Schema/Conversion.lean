import FieldAccess.Policy.FieldRecord
import FieldAccess.Schema.Document

/-!
# Conversion of schema documents

The field records that a provider submits by means of a schema document. The owner of a field is
found out in four steps, of which the first that applies counts: the submission names an owner for
the path of the field; the field names one; the field says that its provider owns it; and otherwise
the owner is unknown. A field whose owner is unknown is never taken to be the provider's.

## Main definitions

* `OwnerResolution` – the step by which an owner was found.
* `convert` – the records of a list of fields.
* `SchemaSubmission.convert` – the records of a submitted document.
-/

namespace FieldAccess.Schema

open Text

/-- The step by which the owner of a field was found. -/
inductive OwnerResolution where
  | overridden
  | declared
  | provider
  | unresolved
  deriving Repr, DecidableEq, Inhabited

namespace OwnerResolution

/-- The spelling of a step. -/
def name : OwnerResolution → String
  | overridden => "override"
  | declared => "annotation"
  | provider => "provider"
  | unresolved => "unresolved"

/-- The spelling of a step as a title. -/
def title : OwnerResolution → String
  | overridden => "Override"
  | declared => "Annotation"
  | provider => "Provider"
  | unresolved => "Unresolved"

/-- All steps. -/
def all : List OwnerResolution := [overridden, declared, provider, unresolved]

end OwnerResolution

/-- What is reported about a converted field. -/
structure ConvertedField where
  fieldName : String
  resolution : OwnerResolution
  consentRequired : Bool
  deriving Repr, DecidableEq, Inhabited

/-- The records of a schema document, and what is reported about each. -/
structure Conversion where
  records : List FieldRecord
  fields : List ConvertedField
  deriving Repr, DecidableEq, Inhabited

/-- The fields whose owner could not be found out. -/
def Conversion.unresolved (conversion : Conversion) : List String :=
  (conversion.fields.filter fun field => field.resolution == .unresolved).map (·.fieldName)

/-- A text without the blanks around it, unless nothing is left of it. -/
def nonBlank (text : Option String) : Option String :=
  (text.map trimmed).filter (· ≠ "")

/-- Owners that a submission names, by the paths of fields. -/
abbrev FieldOwners := List (String × String)

/-- The owner of a field, and the step by which it was found. -/
def resolveOwner (field : FieldDirective) (provider : String) (owners : FieldOwners) :
    Option String × OwnerResolution :=
  match nonBlank (owners.lookup field.path) with
  | some owner => (some owner, .overridden)
  | none =>
    match nonBlank field.owner with
    | some owner => (some owner, .declared)
    | none => if field.isOwner then (some provider, .provider) else (none, .unresolved)

/-- The record of a field. -/
def toRecord (field : FieldDirective) (provider : String) (owners : FieldOwners) : FieldRecord :=
  let owner := (resolveOwner field provider owners).1
  let isOwner := owner == some provider
  { fieldName := field.path
    displayName := nonBlank field.displayName
    description := nonBlank field.description
    source := (field.source.bind Provenance.ofName?).getD .fallback
    isOwner
    accessControl := (field.accessControl.bind AccessControl.ofName?).getD .restricted
    owner := if isOwner then none else some ((owner.map Owner.mk).getD .unknown) }

/-- What is reported about a field. -/
def toConverted (field : FieldDirective) (provider : String) (owners : FieldOwners) :
    ConvertedField :=
  let record := toRecord field provider owners
  { fieldName := field.path
    resolution := (resolveOwner field provider owners).2
    consentRequired := record.accessControl == .restricted && !record.isOwner }

/-- The records of a list of fields. -/
def convert (fields : List FieldDirective) (provider : String) (owners : FieldOwners) :
    Conversion where
  records := fields.map fun field => toRecord field provider owners
  fields := fields.map fun field => toConverted field provider owners

end FieldAccess.Schema
