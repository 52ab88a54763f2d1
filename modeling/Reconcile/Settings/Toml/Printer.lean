import Reconcile.Json

/-! # Writing settings files

    A table is written as a settings file, a line for each of its entries: the name in quotes, an
    equals sign and the value.  Tables further in are written inline.  Texts and numbers look as
    they do in JSON.  The format has no word for null, so that a file with one is unreadable. -/

namespace Reconcile.Toml

mutual

/-- A value on one line. -/
def render : Json → String
  | .array items => "[" ++ ", ".intercalate (renderItems items) ++ "]"
  | .object members => "\x7b" ++ ", ".intercalate (renderMembers members) ++ "\x7d"
  | v => v.compact

/-- The items of a list, each as text. -/
def renderItems : List Json → List String
  | [] => []
  | v :: vs => render v :: renderItems vs

/-- The entries of a table, each as text. -/
def renderMembers : List (String × Json) → List String
  | [] => []
  | (name, v) :: ms => (Json.quote name ++ " = " ++ render v) :: renderMembers ms

end

/-- The file with the entries of a table. -/
def renderFile (members : List (String × Json)) : String :=
  String.join ((renderMembers members).map (· ++ "\n"))

end Reconcile.Toml
