import FieldAccess.Format.Codec
import FieldAccess.Schema.Conversion

/-!
# Schema fields in documents

How the fields of a schema document, and what is reported about them, are read from documents and
written.

## Main definitions

* `FieldDirective.codec` – fields of a schema document.
* `ConvertedField.codec` – what is reported about a converted field.
-/

namespace FieldAccess.Schema

open Format

/-- Fields of a schema document. -/
def FieldDirective.codec : Codec FieldDirective :=
  .record "FieldDirective"
    (.cons (.required "name" .text) <|
     .cons (.required "fieldType" .text) <|
     .cons (.required "parentType" .text) <|
     .cons (.optional "accessControl" .text) <|
     .cons (.optional "source" .text) <|
     .cons (.required "isOwner" .flag) <|
     .cons (.optional "owner" .text) <|
     .cons (.optional "description" .text) <|
     .cons (.optional "displayName" .text) .nil)
    (fun (name, fieldType, parentType, accessControl, source, isOwner, owner, description,
        displayName, ()) =>
      { name, fieldType, parentType, accessControl, source, isOwner, owner, description,
        displayName })
    (fun d => (d.name, d.fieldType, d.parentType, d.accessControl, d.source, d.isOwner, d.owner,
      d.description, d.displayName, ()))

/-- The step by which an owner was found. -/
def OwnerResolution.codec : Codec OwnerResolution :=
  .choice OwnerResolution.all OwnerResolution.name

/-- What is reported about a converted field. -/
def ConvertedField.codec : Codec ConvertedField :=
  .record "ConvertedField"
    (.cons (.required "fieldName" .text) <|
     .cons (.required "ownerResolution" OwnerResolution.codec) <|
     .cons (.required "consentRequired" .flag) .nil)
    (fun (fieldName, resolution, consentRequired, ()) => { fieldName, resolution, consentRequired })
    (fun field => (field.fieldName, field.resolution, field.consentRequired, ()))

end FieldAccess.Schema
