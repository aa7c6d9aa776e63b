/-
References: where a marked element came from, as the id of its template and its line. A reference always has a
non-empty id and a line of at least one; fields that come from outside are checked, and every field that fails is
reported.

`ofJson_toJson`: the fields of a reference are accepted and give it back.
-/
import SourceMark.Json.Value
import SourceMark.Text.Raw
import SourceMark.Validation

namespace SourceMark

/-- where a marked element came from -/
structure Reference where
  templateId : Text
  line : Nat
  templateId_ne : templateId ≠ []
  line_pos : 0 < line

namespace Reference

def checkTemplateId : Option Json → Except Problem { id : Text // id ≠ [] }
  | none => .error .missing
  | some (.text (c :: rest)) => .ok ⟨c :: rest, by simp⟩
  | some (.text []) => .error .emptyString
  | some _ => .error .notString

def checkLine : Option Json → Except Problem { line : Nat // 0 < line }
  | none => .error .missing
  | some (.int n) => if h : 0 < n then .ok ⟨n.toNat, by omega⟩ else .error .belowOne
  | some _ => .error .notInteger

def templateIdField : Text := "template_id".toList

def lineField : Text := "line".toList

/-- the reference of two fields, or the errors of those that fail -/
def ofFields (templateId line : Option Json) : Except (List FieldError) Reference :=
  match checkTemplateId templateId, checkLine line with
  | .ok id, .ok line => .ok ⟨id.1, line.1, id.2, line.2⟩
  | .error p, .ok _ => .error [⟨templateIdField, none, p⟩]
  | .ok _, .error q => .error [⟨lineField, none, q⟩]
  | .error p, .error q => .error [⟨templateIdField, none, p⟩, ⟨lineField, none, q⟩]

/-- the reference of an id from outside and a line, or the errors of those that fail -/
def ofRaw (templateId : RawText) (line : Int) : Except (List FieldError) Reference :=
  match templateId.toText?, checkLine (some (.int line)) with
  | some id, _ => ofFields (some (.text id)) (some (.int line))
  | none, .ok _ => .error [⟨templateIdField, none, .notUnicode⟩]
  | none, .error p => .error [⟨templateIdField, none, .notUnicode⟩, ⟨lineField, none, p⟩]

/-- the reference that a value holds, or the errors of its fields; further members are ignored -/
def ofJson : Json → Except (List FieldError) Reference
  | .object members => ofFields (Json.member? templateIdField members) (Json.member? lineField members)
  | _ => .error [⟨[], none, .notReference⟩]

def toJson (r : Reference) : Json :=
  .object [(templateIdField, .text r.templateId), (lineField, .int r.line)]

theorem ofJson_toJson (r : Reference) : ofJson r.toJson = .ok r := by
  obtain ⟨id, line, hid, hline⟩ := r
  have h₁ : Json.member? templateIdField [(templateIdField, .text id), (lineField, .int line)] = some (.text id) := by
    rfl
  have h₂ : Json.member? lineField [(templateIdField, Json.text id), (lineField, .int line)] = some (.int line) := by
    rfl
  cases id with
  | nil => exact absurd rfl hid
  | cons c rest => simp [ofJson, toJson, h₁, h₂, ofFields, checkTemplateId, checkLine, hline]

end Reference

end SourceMark
