import SceneCatalog.Attribute
import SceneCatalog.Filter
import SceneCatalog.Json.Decode
import SceneCatalog.Page

/-!
Criteria, filters, page requests and performer attributes as they are sent in JSON.
-/
namespace SceneCatalog

open Json

def Modifier.ofDraft : Draft → Except Fault Modifier := Draft.asName Modifier.ofName?

def Criterion.ofDraft : Draft → Except Fault Criterion :=
  Draft.asRecord ["value", "modifier"] fun fields =>
    Criterion.mk <$> fields.get "value" (.default []) (Draft.asList Draft.asUuid)
      <*> fields.get "modifier" .refused Modifier.ofDraft

def Filter.ofDraft : Draft → Except Fault Filter :=
  Draft.asRecord ["title", "studios", "performers", "tags"] fun fields =>
    Filter.mk <$> fields.get "title" (.default none) (Draft.asNullable Draft.asString)
      <*> fields.get "studios" (.default none) (Draft.asNullable Criterion.ofDraft)
      <*> fields.get "performers" (.default none) (Draft.asNullable Criterion.ofDraft)
      <*> fields.get "tags" (.default none) (Draft.asNullable Criterion.ofDraft)

def PageSpec.ofDraft : Draft → Except Fault PageSpec :=
  Draft.asRecord ["page", "per_page"] fun fields =>
    PageSpec.mk <$> fields.get "page" (.default none) (Draft.asNullable Draft.asUInt32)
      <*> fields.get "per_page" (.default none) (Draft.asNullable Draft.asUInt32)

def PerformerAttributes.ofDraft : Draft → Except Fault PerformerAttributes :=
  let field (fields : Fields) (name : String) : Located (Option String) :=
    fields.get name (.defaultInObject none) (Draft.asNullable Draft.asString)
  Draft.asRecord ["gender", "hair_color", "eye_color", "ethnicity", "breast_type"] fun fields =>
    PerformerAttributes.mk <$> field fields "gender" <*> field fields "hair_color"
      <*> field fields "eye_color" <*> field fields "ethnicity" <*> field fields "breast_type"

end SceneCatalog
