import TypedClient.Api.Basic
import TypedClient.Text.Split
import TypedClient.Text.Uppercase

/-!
# Verbs

The verb of a method is found inside the verb of its operation: the first of the verbs, in a fixed
order, whose name occurs in the upper case of the text. A text without any of them counts as `GET`.
-/

namespace TypedClient.Api

namespace Verb

/-- The verbs in the order in which they are looked for. -/
def all : List Verb := [.get, .post, .put, .patch, .delete]

/-- The name of a verb. -/
def name : Verb → String
  | .get => "GET"
  | .post => "POST"
  | .put => "PUT"
  | .patch => "PATCH"
  | .delete => "DELETE"

/-- The name of a verb in lower case, which is the name of its decorator. -/
def decorator : Verb → String
  | .get => "get"
  | .post => "post"
  | .put => "put"
  | .patch => "patch"
  | .delete => "delete"

end Verb

/-- The verb found in a text. -/
def Verb.find (s : String) : Verb :=
  let up := (Text.upper s).toList
  (Verb.all.find? fun v => Text.occurs v.name.toList up).getD .get

end TypedClient.Api
