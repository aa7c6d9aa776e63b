/-
Tokens: references written so that an attribute value can hold them. A token is the base64 form of the compact JSON of
a reference. Reading a token refuses whatever is not such a form of a valid reference, blanks around it apart.
-/
import SourceMark.Bytes.Base64
import SourceMark.Json.Reader
import SourceMark.Reference
import SourceMark.Text.Blank

namespace SourceMark

def Reference.token (r : Reference) : Text :=
  Base64.encode (Utf8.encode r.toJson.render)

namespace Token

/-- the reference that a token holds -/
def read? (token : Text) : Option Reference :=
  match Base64.decode? (Text.strip token) with
  | none => none
  | some bytes =>
    match Utf8.decode bytes with
    | .error _ => none
    | .ok payload =>
      match Json.read? payload with
      | none => none
      | some value => (Reference.ofJson value).toOption

/-- the reference that a value from outside holds, when it is a text and that text a token -/
def ofJson? : Json → Option Reference
  | .text token => read? token
  | _ => none

end Token

end SourceMark
