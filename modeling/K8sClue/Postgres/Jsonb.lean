import K8sClue.Python.Value

/-! How PostgreSQL reads a `jsonb` column. -/

namespace K8sClue.Postgres

open Python

/-- `value -> key`; `NULL` where there is no object or no such key. -/
def field (value : Option PyValue) (key : String) : Option PyValue :=
  value.bind fun known => lookup known.mapping (.str key)

/-- `value #>> '{}'`, the text of a JSON value: `null` has none, and what is no text, boolean or
integer is rendered by the database.
-/
def asText (render : PyValue → String) (value : Option PyValue) : Option String :=
  value.bind fun known =>
    match known with
    | .scalar .none => none
    | .scalar (.str text) => some text
    | .scalar (.bool true) => some "true"
    | .scalar (.bool false) => some "false"
    | .scalar (.int number) => some (toString number)
    | other => some (render other)

/-- `value ->> key`. -/
def textField (render : PyValue → String) (value : Option PyValue) (key : String) : Option String :=
  asText render (field value key)

end K8sClue.Postgres
