/-
  Descriptions. Options, stores and settings describe themselves on one line: the name of the
  kind, then the fields in braces. A description that keeps fields to itself ends in two dots.
-/
namespace WebhookGuard.Text

/-- The one-line description of a value of the kind `name` with the given fields. -/
def record (name : String) (fields : List (String × String)) (withheld : Bool) : String :=
  let shown := fields.map fun field => field.1 ++ ": " ++ field.2
  let parts := if withheld then shown ++ [".."] else shown
  name ++ " \x7b " ++ ", ".intercalate parts ++ " \x7d"

end WebhookGuard.Text
