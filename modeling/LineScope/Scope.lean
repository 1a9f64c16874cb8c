import LineScope.Language

/-!
# Scopes

Which node kinds a reader would call a scope, and by what word.
-/
namespace LineScope.Scope

/-- The words for scopes and the node kinds each stands for. -/
def labels : Language → List (String × List String)
  | .python =>
    [("function", ["function_definition", "lambda"]),
     ("class", ["class_definition"]),
     ("decorated definition", ["decorated_definition"]),
     ("block", ["if_statement", "for_statement", "while_statement", "with_statement",
       "try_statement", "match_statement"])]
  | .rust =>
    [("function", ["function_item", "closure_expression"]),
     ("struct", ["struct_item", "union_item"]),
     ("enum", ["enum_item"]),
     ("trait", ["trait_item"]),
     ("impl", ["impl_item"]),
     ("module", ["mod_item"]),
     ("macro", ["macro_definition"]),
     ("block", ["if_expression", "match_expression", "loop_expression", "for_expression",
       "while_expression", "unsafe_block", "async_block"])]
  | .csharp =>
    [("class", ["class_declaration"]),
     ("struct", ["struct_declaration"]),
     ("interface", ["interface_declaration"]),
     ("record", ["record_declaration"]),
     ("enum", ["enum_declaration"]),
     ("namespace", ["namespace_declaration"]),
     ("method", ["method_declaration", "local_function_statement", "lambda_expression"]),
     ("constructor", ["constructor_declaration"]),
     ("property", ["property_declaration"])]

/-- The word for a node kind, where it is a scope (`scope_label`). -/
def label? (language : Language) (kind : String) : Option String :=
  ((labels language).find? fun entry => entry.2.contains kind).map (·.1)

end LineScope.Scope
