/-!
# Texts within texts
-/

namespace ScriptRoster.Text

/-- Whether a text stands within another. -/
def isWithin (part whole : List Char) : Bool :=
  match whole with
  | [] => part.isEmpty
  | _ :: rest => part.isPrefixOf whole || isWithin part rest

end ScriptRoster.Text
