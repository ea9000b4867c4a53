import Mathlib.Algebra.GroupWithZero.Nat
import Velkir.JsonText
import Velkir.Redaction

/-!
# Redacting log fields

A structured field is redacted in its JSON. An escape hides a secret there, but whoever decodes the
text reads it.
-/

namespace Velkir.LogFields

open JsonText Replace Logging

def redactedWord : Text := Text.ofChars ['R', 'E', 'D', 'A', 'C', 'T', 'E', 'D']

def redactedPlaceholder : Text := .char '[' :: (redactedWord ++ [.char ']'])

/-- The text with these secrets redacted. -/
def redactString (s : Text) (tokens : List Text) : Text := redactWith redactedPlaceholder s tokens

/-- A marshaler may be missing or nil, fail, or fill a map to be rendered. -/
inductive Marshaler
  | absent
  | fails
  | fields (value : Option Json)

/-- What a field holds. A value for which the encoder fails is `none`. -/
inductive Payload
  | string (s : Text)
  | error (message : Option Text)
  | stringer (text : Option Text)
  | reflect (value : Option Json)
  | objectMarshaler (marshaler : Marshaler)
  | other

/-- A key and a payload. -/
structure Field where
  key : Text
  payload : Payload

/-- The number of bytes. -/
def byteLength (s : Text) : Nat :=
  (s.map fun | .char c => c.utf8Size | .stray _ => 1).sum

/-- Long enough to be registered. -/
def Registered (token : Text) : Prop := minTokenLen ≤ byteLength token

instance (token : Text) : Decidable (Registered token) := inferInstanceAs (Decidable (_ ≤ _))

section Verbatim

variable {token : Text} {tokens : List Text} {text : Text}

theorem Registered.ne_nil (registered : Registered token) : token ≠ [] := by
  rintro rfl
  exact absurd registered (by decide)

end Verbatim

section Emitted

variable {token text : Text} {tokens strings : List Text} {f : Field}

end Emitted

end Velkir.LogFields
