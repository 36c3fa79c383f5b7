import K8sClue.Python.Value

/-! Python's conversions of decoded JSON: `str`, `dict` and iteration. -/

namespace K8sClue.Python

/-- The entries of a `dict`, in insertion order. -/
abbrev PyDict := List (PyScalar × PyValue)

def PyDict.get (entries : PyDict) (key : String) : PyValue := (PyValue.dict entries).get key

variable (py : Runtime)

def Runtime.strOf : PyValue → String
  | .scalar (.str value) => value
  | value => py.str value

def Runtime.strOr (value : PyValue) (default : String) : String :=
  if value.truthy then py.strOf value else default

/-- `str(value) if value is not None else None`. -/
def Runtime.optionalStr : PyValue → Option String
  | .scalar .none => none
  | value => some (py.strOf value)

/-- What a loop over a value walks through; `none` is the `TypeError` of other values. -/
def iterate : PyValue → Option (List PyValue)
  | .list items => some items
  | .dict entries => some (entries.map (fun entry => .scalar entry.1))
  | .scalar (.str value) =>
    some (value.toList.map fun char => .scalar (.str (String.ofList [char])))
  | .scalar _ => none

/-- An item of a sequence that `dict` takes for an entry: two values, the first hashable. -/
def pairOf (item : PyValue) : Option (PyScalar × PyValue) :=
  match iterate item with
  | some [.scalar key, value] => some (key, value)
  | _ => none

/-- `dict(value)`: a copy of a mapping, or the pairs of a sequence; otherwise an error. -/
def dictOf : PyValue → Option PyDict
  | .dict entries => some entries
  | value => do
      let items ← iterate value
      let pairs ← items.mapM pairOf
      return pairs.foldl (fun entries pair => setItem entries pair.1 pair.2) []

def dictOrEmpty (value : PyValue) : Option PyDict :=
  if value.truthy then dictOf value else some []

end K8sClue.Python
