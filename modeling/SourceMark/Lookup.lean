/-
Looking up a token: the reference that it holds, and the file of the template that the reference names.

`lookup_eq_ok`: what a lookup finds is what the token says, at a path that is a file.
-/
import SourceMark.Event
import SourceMark.TemplateId
import SourceMark.Token

namespace SourceMark

/-- a reference whose template was found -/
structure Located where
  reference : Reference
  path : Text

inductive LookupError where
  | invalidReference
  | notFound (templateId : Text)
  deriving DecidableEq

namespace LookupError

def message : LookupError → Text
  | .invalidReference => "Invalid source reference".toList
  | .notFound templateId => "File not found: ".toList ++ templateId

/-- the event of a lookup under so many roots that fails -/
def event? (roots : Nat) : LookupError → Option Event
  | .invalidReference => none
  | .notFound templateId => some (.notFound templateId roots)

end LookupError

/-- the file that a token leads to -/
def lookup (files : FileSystem) (token : Json) (roots : List Text) (extension : Text) : Except LookupError Located :=
  match Token.ofJson? token with
  | none => .error .invalidReference
  | some reference =>
    match TemplateId.toPath? files reference.templateId roots extension with
    | none => .error (.notFound reference.templateId)
    | some path => .ok ⟨reference, path⟩

theorem lookup_eq_ok {files : FileSystem} {token : Json} {roots : List Text} {extension : Text} {located : Located}
    (h : lookup files token roots extension = .ok located) :
    Token.ofJson? token = some located.reference ∧ files.isFile located.path = true := by
  unfold lookup at h
  split at h
  · simp at h
  · next reference hreference =>
    split at h
    · simp at h
    · next path hpath =>
      simp only [Except.ok.injEq] at h
      exact ⟨by simp [hreference, ← h], by simpa [← h] using List.find?_some hpath⟩

end SourceMark
