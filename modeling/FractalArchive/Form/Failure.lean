/-!
# Unreadable forms

Why no fields are read from a request.
-/

namespace FractalArchive

/-- Why a form is not read. -/
inductive FormFailure where
  /-- The body is not said to be a form. -/
  | notAForm
  /-- The body of a URL-encoded form is too long. -/
  | tooLong
  /-- The content type of a multipart form has no boundary. -/
  | noBoundary
  /-- A multipart form is broken, within the text of this field if one is given. -/
  | broken (field : Option String)
  deriving DecidableEq, Repr

namespace FormFailure

/-- What a message says of an unreadable form. -/
def message : FormFailure → String
  | .notAForm => "event=form_read module=http status=rejected kind=urlencoded " ++
      "reason=Form requests must have `Content-Type: application/x-www-form-urlencoded`"
  | .tooLong => "event=form_read module=http status=rejected kind=urlencoded " ++
      "reason=Failed to buffer the request body: length limit exceeded"
  | .noBoundary => "event=form_read module=http status=rejected kind=multipart " ++
      "reason=Invalid `boundary` for `multipart/form-data` request"
  | .broken none => "event=form_read module=http status=error kind=multipart " ++
      "error=Error parsing `multipart/form-data` request"
  | .broken (some field) => "event=form_read module=http status=error kind=multipart field=" ++
      field ++ " error=Error parsing `multipart/form-data` request"

end FormFailure

end FractalArchive
