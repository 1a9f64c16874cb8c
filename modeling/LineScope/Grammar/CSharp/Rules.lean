import LineScope.Grammar.Rule
import LineScope.Text.Identifier

/-!
# The grammar of C#

Declarations, statements, patterns, expressions and directives, as rules over tokens. Names of rules and
fields are those of the nodes; a rule whose name begins with an underscore makes no node.
-/
namespace LineScope.Grammar.CSharp

open Rule

/-- A rule one or more times, with commas between. -/
def commaSep1 (r : Rule) : Rule := sepBy1 "," r

/-- A rule any number of times, with commas between. -/
def commaSep (r : Rule) : Rule := opt (commaSep1 r)

/-! ## Precedences

How strongly constructs bind: the higher, the more strongly. -/

namespace Level

def generic : Int := 19
def dot : Int := 18
def invocation : Int := 18
def postfixed : Int := 18
def unary : Int := 17
def cast : Int := 17
def range : Int := 16
def switch : Int := 15
def withed : Int := 14
def times : Int := 13
def plus : Int := 12
def shift : Int := 11
def relational : Int := 10
def equal : Int := 9
def and : Int := 8
def xor : Int := 7
def or : Int := 6
def logicalAnd : Int := 5
def logicalOr : Int := 4
def coalescing : Int := 3
def conditional : Int := 2
def assign : Int := 1
def select : Int := 0

end Level

/-! ## Directives -/

def directive (name : String) : Rule := as ("#" ++ name) (.token ("#" ++ name))

/-- The end of a line that a directive stands on. -/
def lineEnd : Rule := .token "line end"

/-- Parts of a text that are there under a condition. -/
def conditional (suffix : String) (precedence : Int) (content : Rule) : List (String × Rule) :=
  let renamed (name : String) : Rule :=
    if suffix = "" then ref name else as name (ref (name ++ suffix))
  let alternative := role "alternative" (opt (any [renamed "preproc_else", renamed "preproc_elif"]))
  let condition := [role "condition" (ref "_preproc_expression"), lineEnd]
  [("preproc_if" ++ suffix, prec precedence (all (
      [directive "if"] ++ condition ++ [content, alternative, directive "endif"]))),
    ("preproc_else" ++ suffix, prec precedence (all [directive "else", content])),
    ("preproc_elif" ++ suffix, prec precedence (all (
      [directive "elif"] ++ condition ++ [content, alternative])))]

/-! ## Declarations -/

def attributes : Rule := many (ref "_attribute_list")

def modifiers : Rule := many (ref "modifier")

def name : Rule := role "name" (ref "identifier")

def type : Rule := role "type" (ref "type")

def typeParameters : Rule := role "type_parameters" (opt (ref "type_parameter_list"))

def parameters : Rule := role "parameters" (ref "parameter_list")

/-- What a declaration may demand of its types. -/
def constraints : Rule := many (ref "type_parameter_constraints_clause")

/-- The parts between the name of a type and its body. -/
def typeHead (base : Rule) : List Rule :=
  [many (any [ref "type_parameter_list", ref "parameter_list", base]), constraints]

/-- Whole texts, namespaces and attributes. -/
def units : List (String × Rule) := [
  ("compilation_unit", all [opt (ref "shebang_directive"), many (ref "_top_level_item")]),
  ("_top_level_item", prec 2 (any [ref "_top_level_item_no_statement", ref "global_statement"])),
  ("_top_level_item_no_statement", any [
    ref "extern_alias_directive", ref "using_directive", ref "global_attribute",
    as "preproc_if" (ref "preproc_if_in_top_level"), ref "_namespace_member_declaration",
    ref "file_scoped_namespace_declaration"]),
  ("global_statement", prec 1 (ref "statement")),
  ("extern_alias_directive", all ["extern", "alias", name, ";"]),
  ("using_directive", all [
    opt "global", "using", any [
      all [opt "unsafe", name, "=", ref "type"],
      all [opt "static", opt "unsafe", ref "_name"]], ";"]),
  ("global_attribute", all [
    "[", any ["assembly", "module"], ":", commaSep (ref "attribute"), opt ",", "]"]),
  ("attribute", all [role "name" (ref "_name"), opt (ref "attribute_argument_list")]),
  ("attribute_argument_list", all ["(", commaSep (ref "attribute_argument"), ")"]),
  ("attribute_argument", prec (-1) (all [
    optAll [ref "identifier", any [":", "="]], ref "expression"])),
  ("attribute_list", all [
    "[", opt (ref "attribute_target_specifier"), commaSep1 (ref "attribute"), opt ",", "]"]),
  ("_attribute_list", any [
    ref "attribute_list", as "preproc_if" (ref "preproc_if_in_attribute_list")]),
  ("attribute_target_specifier", all [
    any ["field", "event", "method", "param", "property", "return", "type"], ":"]),
  ("_namespace_member_declaration", any [ref "namespace_declaration", ref "type_declaration"]),
  ("namespace_declaration", all [
    "namespace", role "name" (ref "_name"), role "body" (ref "declaration_list"),
    ref "_optional_semi"]),
  ("file_scoped_namespace_declaration", all ["namespace", role "name" (ref "_name"), ";"])]

def typeDeclarations : List (String × Rule) := [
  ("type_declaration", any [
    ref "class_declaration", ref "struct_declaration", ref "enum_declaration",
    ref "interface_declaration", ref "delegate_declaration", ref "record_declaration"]),
  ("class_declaration", all [ref "_class_declaration_initializer", ref "_optional_semi"]),
  ("_class_declaration_initializer", all (
    [attributes, modifiers, .text "class", name] ++ typeHead (ref "base_list") ++
    [role "body" (ref "declaration_list")])),
  ("struct_declaration", all [ref "_struct_declaration_initializer", ref "_optional_semi"]),
  ("_struct_declaration_initializer", all (
    [attributes, modifiers, opt "ref", .text "struct", name] ++ typeHead (ref "base_list") ++
    [role "body" (ref "declaration_list")])),
  ("enum_declaration", all [ref "_enum_declaration_initializer", ref "_optional_semi"]),
  ("_enum_declaration_initializer", all [
    attributes, modifiers, "enum", name, opt (ref "base_list"),
    role "body" (ref "enum_member_declaration_list")]),
  ("enum_member_declaration_list", all [
    "\x7b", commaSep (any [
      ref "enum_member_declaration",
      as "preproc_if" (ref "preproc_if_in_enum_member_declaration")]), opt ",", "\x7d"]),
  ("enum_member_declaration", all [
    attributes, name, optAll ["=", role "value" (ref "expression")]]),
  ("interface_declaration", all [ref "_interface_declaration_initializer", ref "_optional_semi"]),
  ("_interface_declaration_initializer", all [
    attributes, modifiers, "interface", name,
    role "type_parameters" (many (ref "type_parameter_list")), opt (ref "base_list"),
    constraints, role "body" (ref "declaration_list")]),
  ("delegate_declaration", all [ref "_delegate_declaration_initializer", ";"]),
  ("_delegate_declaration_initializer", all [
    attributes, modifiers, "delegate", type, name, typeParameters, parameters, constraints]),
  ("record_declaration", all [
    ref "_record_declaration_initializer",
    any [all [role "body" (ref "declaration_list"), ref "_optional_semi"], ";"]]),
  ("_record_declaration_initializer", all [
    attributes, modifiers, "record", opt (any ["class", "struct"]), name,
    opt (ref "type_parameter_list"), opt (ref "parameter_list"),
    opt (as "base_list" (ref "record_base")), constraints]),
  ("record_base", any [
    all [":", commaSep1 (ref "_name")],
    all [":", ref "primary_constructor_base_type", optAll [",", commaSep1 (ref "_name")]]]),
  ("primary_constructor_base_type", all [role "type" (ref "_name"), ref "argument_list"]),
  ("modifier", right 0 (any (
    ["abstract", "async", "const", "extern", "file", "fixed", "internal", "new", "override",
      "partial", "private", "protected", "public", "readonly", "required", "sealed", "static",
      "unsafe", "virtual", "volatile"].map .text))),
  ("type_parameter_list", all ["<", commaSep1 (ref "type_parameter"), ">"]),
  ("type_parameter", all [attributes, opt (any ["in", "out"]), name]),
  ("base_list", all [":", commaSep1 (all [ref "type", opt (ref "argument_list")])]),
  ("type_parameter_constraints_clause", all [
    "where", ref "identifier", ":", commaSep1 (ref "type_parameter_constraint")]),
  ("type_parameter_constraint", any [
    all ["class", opt "?"], "struct", "notnull", "unmanaged", ref "constructor_constraint",
    type]),
  ("constructor_constraint", all ["new", "(", ")"])]

/-- The body of a property or an indexer. -/
def accessors : Rule := role "accessors" (ref "accessor_list")

/-- A value computed by an arrow. -/
def arrowValue : Rule := all [role "value" (ref "arrow_expression_clause"), ";"]

/-- The interface that a member may be of. -/
def ofInterface : Rule := opt (ref "explicit_interface_specifier")

def members : List (String × Rule) := [
  ("operator_declaration", all [
    attributes, modifiers, type, ofInterface, "operator", opt "checked",
    role "operator" (any (
      ["!", "~", "++", "--", "true", "false", "+", "-", "*", "/", "%", "^", "|", "&", "<<", ">>",
        ">>>", "==", "!=", ">", "<", ">=", "<="].map .text)),
    parameters, ref "_function_body"]),
  ("conversion_operator_declaration", all [
    attributes, modifiers, any ["implicit", "explicit"], ofInterface, "operator", opt "checked",
    type, parameters, ref "_function_body"]),
  ("declaration_list", all ["\x7b", many (ref "declaration"), "\x7d"]),
  ("declaration", any [
    ref "class_declaration", ref "struct_declaration", ref "enum_declaration",
    ref "delegate_declaration", ref "field_declaration", ref "method_declaration",
    ref "event_declaration", ref "event_field_declaration", ref "record_declaration",
    ref "constructor_declaration", ref "destructor_declaration", ref "indexer_declaration",
    ref "interface_declaration", ref "namespace_declaration", ref "operator_declaration",
    ref "conversion_operator_declaration", ref "property_declaration", ref "using_directive",
    ref "preproc_if"]),
  ("field_declaration", all [attributes, modifiers, ref "variable_declaration", ";"]),
  ("constructor_declaration", all [
    ref "_constructor_declaration_initializer", ref "_function_body"]),
  ("_constructor_declaration_initializer", all [
    attributes, modifiers, name, parameters, opt (ref "constructor_initializer")]),
  ("destructor_declaration", all [
    attributes, opt "extern", "~", name, parameters, ref "_function_body"]),
  ("method_declaration", all [
    attributes, modifiers, role "returns" (ref "type"), ofInterface, name, typeParameters,
    parameters, constraints, ref "_function_body"]),
  ("event_declaration", all [
    attributes, modifiers, "event", type, ofInterface, name, any [accessors, ";"]]),
  ("event_field_declaration", weigh 1 (all [
    attributes, modifiers, "event", ref "variable_declaration", ";"])),
  ("accessor_list", all ["\x7b", many (ref "accessor_declaration"), "\x7d"]),
  ("accessor_declaration", all [
    attributes, modifiers,
    role "name" (any ["get", "set", "add", "remove", "init", ref "identifier"]),
    ref "_function_body"]),
  ("indexer_declaration", all [
    attributes, modifiers, type, ofInterface, "this",
    role "parameters" (ref "bracketed_parameter_list"), any [accessors, arrowValue]]),
  ("bracketed_parameter_list", all ["[", commaSep (ref "parameter"), "]"]),
  ("property_declaration", all [
    attributes, modifiers, type, ofInterface, name, any [
      all [accessors, optAll ["=", role "value" (ref "expression"), ";"]], arrowValue]]),
  ("explicit_interface_specifier", prec Level.dot (all [ref "_name", "."])),
  ("parameter_list", all [
    "(", commaSep (any [ref "parameter", ref "_parameter_array"]), ")"]),
  ("_parameter_type_with_modifiers", all [
    many (left 0 (as "modifier" (any ["this", "scoped", "ref", "out", "in", "readonly"]))),
    type]),
  ("parameter", all [
    attributes, opt (ref "_parameter_type_with_modifiers"), name,
    optAll ["=", ref "expression"]]),
  ("_parameter_array", all [
    attributes, "params", role "type" (any [ref "array_type", ref "nullable_type"]), name]),
  ("constructor_initializer", all [":", any ["base", "this"], ref "argument_list"]),
  ("argument_list", all ["(", commaSep (ref "argument"), ")"]),
  ("tuple_pattern", all [
    "(", commaSep1 (any [name, ref "discard", ref "tuple_pattern"]), ")"]),
  ("argument", prec 1 (all [
    optAll [name, ":"], opt (any ["ref", "out", "in"]),
    any [ref "expression", ref "declaration_expression"]])),
  ("block", all ["\x7b", many (ref "statement"), "\x7d"]),
  ("arrow_expression_clause", all ["=>", ref "expression"]),
  ("_function_body", any [
    role "body" (ref "block"), all [role "body" (ref "arrow_expression_clause"), ";"], ";"]),
  ("variable_declaration", all [type, commaSep1 (ref "variable_declarator")]),
  ("using_variable_declaration", all [
    type, commaSep1 (as "variable_declarator" (ref "using_variable_declarator"))]),
  ("variable_declarator", all [
    any [name, ref "tuple_pattern"], opt (ref "bracketed_argument_list"),
    optAll ["=", ref "expression"]]),
  ("using_variable_declarator", all [name, optAll ["=", ref "expression"]]),
  ("bracketed_argument_list", all ["[", commaSep1 (ref "argument"), opt ",", "]"])]

/-! ## Types -/

def types : List (String × Rule) := [
  ("_name", any [ref "alias_qualified_name", ref "qualified_name", ref "_simple_name"]),
  ("alias_qualified_name", all [
    role "alias" (ref "identifier"), "::", role "name" (ref "_simple_name")]),
  ("_simple_name", any [ref "identifier", ref "generic_name"]),
  ("qualified_name", prec Level.dot (all [
    role "qualifier" (ref "_name"), ".", role "name" (ref "_simple_name")])),
  ("generic_name", all [ref "identifier", ref "type_argument_list"]),
  ("type_argument_list", all ["<", any [many ",", commaSep1 (ref "type")], ">"]),
  ("type", any [
    ref "implicit_type", ref "array_type", ref "_name", ref "nullable_type", ref "pointer_type",
    ref "function_pointer_type", ref "predefined_type", ref "tuple_type", ref "ref_type",
    ref "scoped_type"]),
  ("implicit_type", weigh 1 "var"),
  ("array_type", all [
    role "type" (ref "_array_base_type"), role "rank" (ref "array_rank_specifier")]),
  ("_array_base_type", any [
    ref "array_type", ref "_name", ref "nullable_type", ref "pointer_type",
    ref "function_pointer_type", ref "predefined_type", ref "tuple_type"]),
  ("array_rank_specifier", all ["[", commaSep (opt (ref "expression")), "]"]),
  ("nullable_type", all [role "type" (ref "_nullable_base_type"), "?"]),
  ("_nullable_base_type", any [
    ref "array_type", ref "_name", ref "predefined_type", ref "tuple_type"]),
  ("pointer_type", all [role "type" (ref "_pointer_base_type"), "*"]),
  ("_pointer_base_type", any [
    ref "_name", ref "nullable_type", ref "pointer_type", ref "function_pointer_type",
    ref "predefined_type", ref "tuple_type"]),
  ("function_pointer_type", all [
    "delegate", "*", opt (ref "calling_convention"), "<",
    many (all [ref "function_pointer_parameter", ","]), role "returns" (ref "type"), ">"]),
  ("calling_convention", any [
    "managed",
    all ["unmanaged", optAll ["[", commaSep1 (any [
      "Cdecl", "Stdcall", "Thiscall", "Fastcall", ref "identifier"]), "]"]]]),
  ("function_pointer_parameter", all [
    opt (any ["ref", "out", "in"]), role "type" (ref "_ref_base_type")]),
  ("predefined_type", .token "predefined_type"),
  ("ref_type", all ["ref", opt "readonly", type]),
  ("_ref_base_type", any [
    ref "implicit_type", ref "_name", ref "nullable_type", ref "array_type", ref "pointer_type",
    ref "function_pointer_type", ref "predefined_type", ref "tuple_type"]),
  ("scoped_type", all ["scoped", role "type" (ref "_scoped_base_type")]),
  ("_scoped_base_type", any [ref "_name", ref "ref_type"]),
  ("tuple_type", all ["(", ref "tuple_element", ",", commaSep1 (ref "tuple_element"), ")"]),
  ("tuple_element", left 0 (all [type, role "name" (opt (ref "identifier"))]))]

/-! ## Statements -/

def condition : List Rule := ["(", role "condition" (ref "expression"), ")"]

/-- The statement that a statement governs. -/
def body : Rule := role "body" (ref "statement")

def statements : List (String × Rule) := [
  ("statement", any [
    ref "block", ref "break_statement", ref "checked_statement", ref "continue_statement",
    ref "do_statement", ref "empty_statement", ref "expression_statement", ref "fixed_statement",
    ref "for_statement", ref "return_statement", ref "lock_statement", ref "yield_statement",
    ref "switch_statement", ref "throw_statement", ref "try_statement", ref "unsafe_statement",
    ref "using_statement", ref "foreach_statement", ref "goto_statement",
    ref "labeled_statement", ref "if_statement", ref "while_statement",
    ref "local_declaration_statement", ref "local_function_statement",
    as "preproc_if" (ref "preproc_if_in_top_level")]),
  ("break_statement", all ["break", ";"]),
  ("checked_statement", all [any ["checked", "unchecked"], ref "block"]),
  ("continue_statement", all ["continue", ";"]),
  ("do_statement", all ([.text "do", body, .text "while"] ++ condition ++ [.text ";"])),
  ("empty_statement", ";"),
  ("expression_statement", all [ref "_expression_statement_expression", ";"]),
  ("fixed_statement", all ["fixed", "(", ref "variable_declaration", ")", body]),
  ("for_statement", all [ref "_for_statement_conditions", body]),
  ("_for_statement_conditions", all [
    "for", "(", role "initializer" (opt (any [
      ref "variable_declaration", commaSep1 (ref "expression")])), ";",
    role "condition" (opt (ref "expression")), ";",
    role "update" (opt (commaSep1 (ref "expression"))), ")"]),
  ("foreach_statement", all [ref "_foreach_statement_initializer", body]),
  ("_foreach_statement_initializer", all [
    opt "await", "foreach", "(", any [
      all [type, role "left" (any [ref "identifier", ref "tuple_pattern"])],
      role "left" (ref "expression")], "in", role "right" (ref "expression"), ")"]),
  ("goto_statement", all ["goto", opt (any ["case", "default"]), opt (ref "expression"), ";"]),
  ("if_statement", right 0 (all (
    [.text "if"] ++ condition ++ [role "consequence" (ref "statement"),
      optAll ["else", role "alternative" (ref "statement")]]))),
  ("labeled_statement", all [ref "identifier", ":", ref "statement"]),
  ("lock_statement", all ["lock", "(", ref "expression", ")", body]),
  ("return_statement", all ["return", opt (ref "expression"), ";"]),
  ("switch_statement", all [
    "switch", any [
      all ["(", role "value" (ref "expression"), ")"],
      role "value" (ref "tuple_expression")],
    role "body" (ref "switch_body")]),
  ("switch_body", all ["\x7b", many (ref "switch_section"), "\x7d"]),
  ("switch_section", left 0 (all [
    any [
      all ["case", any [
        ref "expression", all [ref "pattern", opt (ref "when_clause")]]],
      "default"], ":", many (ref "statement")])),
  ("throw_statement", all ["throw", opt (ref "expression"), ";"]),
  ("try_statement", all [
    "try", role "body" (ref "block"), many (ref "catch_clause"), opt (ref "finally_clause")]),
  ("catch_clause", all [
    "catch", many (any [ref "catch_declaration", ref "catch_filter_clause"]),
    role "body" (ref "block")]),
  ("catch_declaration", all ["(", type, role "name" (opt (ref "identifier")), ")"]),
  ("catch_filter_clause", all ["when", "(", ref "expression", ")"]),
  ("finally_clause", all ["finally", ref "block"]),
  ("unsafe_statement", all ["unsafe", ref "block"]),
  ("using_statement", all [
    opt "await", "using", "(", any [
      as "variable_declaration" (ref "using_variable_declaration"), ref "expression"], ")",
    body]),
  ("while_statement", all ([.text "while"] ++ condition ++ [body])),
  ("yield_statement", all ["yield", any [all ["return", ref "expression"], "break"], ";"]),
  ("local_declaration_statement", all [
    opt "await", opt "using", modifiers, ref "variable_declaration", ";"]),
  ("local_function_statement", all [ref "_local_function_declaration", ref "_function_body"]),
  ("_local_function_declaration", all [
    attributes, modifiers, type, name, typeParameters, parameters, constraints])]

/-! ## Patterns -/

def patterns : List (String × Rule) := [
  ("pattern", any [
    ref "constant_pattern", ref "declaration_pattern", ref "discard", ref "recursive_pattern",
    ref "var_pattern", ref "negated_pattern", ref "parenthesized_pattern",
    ref "relational_pattern", ref "or_pattern", ref "and_pattern", ref "list_pattern",
    ref "type_pattern"]),
  ("constant_pattern", any [
    ref "binary_expression", ref "default_expression", ref "interpolated_string_expression",
    ref "parenthesized_expression", ref "postfix_unary_expression",
    ref "prefix_unary_expression", ref "sizeof_expression", ref "tuple_expression",
    ref "typeof_expression", ref "member_access_expression", ref "invocation_expression",
    ref "cast_expression", ref "_simple_name", ref "literal"]),
  ("discard", "_"),
  ("parenthesized_pattern", all ["(", ref "pattern", ")"]),
  ("var_pattern", all ["var", ref "_variable_designation"]),
  ("type_pattern", right 0 type),
  ("list_pattern", all [
    "[", optAll [commaSep1 (any [ref "pattern", ".."]), opt ","], "]"]),
  ("recursive_pattern", left 0 (all [
    opt type, any [
      all [ref "positional_pattern_clause", opt (ref "property_pattern_clause")],
      ref "property_pattern_clause"],
    opt (ref "_variable_designation")])),
  ("positional_pattern_clause", prec 1 (all [
    "(", optAll [ref "subpattern", ",", commaSep1 (ref "subpattern")], ")"])),
  ("property_pattern_clause", prec 1 (all [
    "\x7b", commaSep (ref "subpattern"), opt ",", "\x7d"])),
  ("subpattern", all [optAll [ref "expression", ":"], ref "pattern"]),
  ("relational_pattern", any (["<", "<=", ">", ">="].map fun s => all [.text s, ref "expression"])),
  ("negated_pattern", all ["not", ref "pattern"]),
  ("and_pattern", left Level.and (all [
    role "left" (ref "pattern"), role "operator" "and", role "right" (ref "pattern")])),
  ("or_pattern", left Level.or (all [
    role "left" (ref "pattern"), role "operator" "or", role "right" (ref "pattern")])),
  ("declaration_pattern", all [type, ref "_variable_designation"]),
  ("_variable_designation", prec 1 (any [
    ref "discard", ref "parenthesized_variable_designation", name])),
  ("parenthesized_variable_designation", all ["(", commaSep (ref "_variable_designation"), ")"])]

/-! ## Expressions -/

/-- The operators between two expressions, with the level of each. -/
def binaryOperators : List Rule :=
  let table : List (Int × String) := [
    (Level.logicalAnd, "&&"), (Level.logicalOr, "||"), (Level.shift, ">>"), (Level.shift, ">>>"),
    (Level.shift, "<<"), (Level.and, "&"), (Level.xor, "^"), (Level.or, "|"), (Level.plus, "+"),
    (Level.plus, "-"), (Level.times, "*"), (Level.times, "/"), (Level.times, "%"),
    (Level.relational, "<"), (Level.relational, "<="), (Level.equal, "=="), (Level.equal, "!="),
    (Level.relational, ">="), (Level.relational, ">")]
  let row (operator : String) : Rule := all [
    role "left" (ref "expression"), role "operator" (.text operator),
    role "right" (ref "expression")]
  table.map (fun (level, operator) => left level (row operator)) ++
    [right Level.coalescing (row "??")]

/-- The operators that assign. -/
def assigning : List Rule :=
  ["=", "+=", "-=", "*=", "/=", "%=", "&=", "^=", "|=", "<<=", ">>=", ">>>=", "??="].map .text

/-- Modifiers of functions without a name. -/
def functionModifiers : Rule := many (prec (-1) (as "modifier" (any ["static", "async"])))

def expressions : List (String × Rule) := [
  ("expression", any [ref "non_lvalue_expression", ref "lvalue_expression"]),
  ("non_lvalue_expression", any [
    "base", ref "binary_expression", ref "interpolated_string_expression",
    ref "conditional_expression", ref "conditional_access_expression", ref "literal",
    ref "_expression_statement_expression", ref "is_expression", ref "is_pattern_expression",
    ref "as_expression", ref "cast_expression", ref "checked_expression",
    ref "switch_expression", ref "throw_expression", ref "default_expression",
    ref "lambda_expression", ref "with_expression", ref "sizeof_expression",
    ref "typeof_expression", ref "makeref_expression", ref "ref_expression",
    ref "reftype_expression", ref "refvalue_expression", ref "stackalloc_expression",
    ref "range_expression", ref "array_creation_expression",
    ref "anonymous_method_expression", ref "anonymous_object_creation_expression",
    ref "implicit_array_creation_expression", ref "implicit_object_creation_expression",
    ref "implicit_stackalloc_expression", ref "initializer_expression", ref "query_expression",
    as "preproc_if" (ref "preproc_if_in_expression")]),
  ("lvalue_expression", any [
    "this", ref "member_access_expression", ref "tuple_expression", ref "_simple_name",
    ref "element_access_expression",
    as "element_binding_expression" (ref "bracketed_argument_list"),
    as "prefix_unary_expression" (ref "_pointer_indirection_expression"),
    as "parenthesized_expression" (ref "_parenthesized_lvalue_expression")]),
  ("_expression_statement_expression", any [
    ref "assignment_expression", ref "invocation_expression", ref "postfix_unary_expression",
    ref "prefix_unary_expression", ref "await_expression", ref "object_creation_expression",
    ref "parenthesized_expression"]),
  ("assignment_expression", all [
    role "left" (ref "lvalue_expression"), role "operator" (any assigning),
    role "right" (ref "expression")]),
  ("binary_expression", any binaryOperators),
  ("postfix_unary_expression", prec Level.postfixed (any [
    all [ref "expression", "++"], all [ref "expression", "--"], all [ref "expression", "!"]])),
  ("prefix_unary_expression", prec Level.unary (all [
    any ["++", "--", "+", "-", "!", "~", "&", "^"], ref "expression"])),
  ("_pointer_indirection_expression", right Level.unary (all ["*", ref "lvalue_expression"])),
  ("query_expression", all [ref "from_clause", ref "_query_body"]),
  ("from_clause", all ["from", opt type, name, "in", ref "expression"]),
  ("_query_body", right 0 (all [
    many (ref "_query_clause"), ref "_select_or_group_clause",
    optAll ["into", ref "identifier", ref "_query_body"]])),
  ("_query_clause", any [
    ref "from_clause", ref "join_clause", ref "let_clause", ref "order_by_clause",
    ref "where_clause"]),
  ("join_clause", all [
    "join", ref "_join_header", ref "_join_body", opt (ref "join_into_clause")]),
  ("_join_header", all [opt type, ref "identifier", "in", ref "expression"]),
  ("_join_body", all ["on", ref "expression", "equals", ref "expression"]),
  ("join_into_clause", all ["into", ref "identifier"]),
  ("let_clause", all ["let", ref "identifier", "=", ref "expression"]),
  ("order_by_clause", all ["orderby", commaSep1 (ref "_ordering")]),
  ("_ordering", all [ref "expression", opt (any ["ascending", "descending"])]),
  ("where_clause", all ["where", ref "expression"]),
  ("_select_or_group_clause", any [ref "group_clause", ref "select_clause"]),
  ("group_clause", right Level.select (all [
    "group", ref "expression", "by", ref "expression"])),
  ("select_clause", right Level.select (all ["select", ref "expression"]))]

/-- Compound expressions. -/
def compounds : List (String × Rule) := [
  ("conditional_expression", right Level.conditional (all [
    role "condition" (ref "expression"), "?", role "consequence" (ref "expression"), ":",
    role "alternative" (ref "expression")])),
  ("conditional_access_expression", right Level.conditional (all [
    role "condition" (ref "expression"), "?", any [
      ref "member_binding_expression",
      as "element_binding_expression" (ref "bracketed_argument_list")]])),
  ("as_expression", prec Level.relational (all [
    role "left" (ref "expression"), role "operator" "as", role "right" (ref "type")])),
  ("is_expression", prec Level.relational (all [
    role "left" (ref "expression"), role "operator" "is", role "right" (ref "type")])),
  ("is_pattern_expression", prec Level.relational (all [
    role "expression" (ref "expression"), "is", role "pattern" (ref "pattern")])),
  ("cast_expression", prec Level.cast (weigh 1 (all [
    "(", type, ")", role "value" (ref "expression")]))),
  ("checked_expression", any [
    all ["checked", "(", ref "expression", ")"],
    all ["unchecked", "(", ref "expression", ")"]]),
  ("invocation_expression", prec Level.invocation (all [
    role "function" (ref "expression"), role "arguments" (ref "argument_list")])),
  ("switch_expression", prec Level.switch (all [
    ref "expression", "switch", ref "_switch_expression_body"])),
  ("_switch_expression_body", all [
    "\x7b", commaSep (ref "switch_expression_arm"), opt ",", "\x7d"]),
  ("switch_expression_arm", all [
    ref "pattern", opt (ref "when_clause"), "=>", ref "expression"]),
  ("when_clause", all ["when", ref "expression"]),
  ("await_expression", right Level.unary (all ["await", ref "expression"])),
  ("throw_expression", all ["throw", ref "expression"]),
  ("element_access_expression", prec Level.postfixed (all [
    role "expression" (ref "expression"), role "subscript" (ref "bracketed_argument_list")])),
  ("interpolated_string_expression", any [
    all [
      as "interpolation_start" (ref "interpolation_regular_start"),
      as "\"" (ref "interpolation_start_quote"), many (ref "_interpolated_string_content"),
      as "\"" (ref "interpolation_end_quote")],
    all [
      as "interpolation_start" (ref "interpolation_verbatim_start"),
      as "\"" (ref "interpolation_start_quote"),
      many (ref "_interpolated_verbatim_string_content"),
      as "\"" (ref "interpolation_end_quote")],
    all [
      as "interpolation_start" (ref "interpolation_raw_start"),
      as "interpolation_quote" (ref "interpolation_start_quote"),
      many (ref "_interpolated_raw_string_content"),
      as "interpolation_quote" (ref "interpolation_end_quote")]]),
  ("_interpolated_string_content", any [
    as "string_content" (ref "interpolation_string_content"), ref "escape_sequence",
    ref "interpolation"]),
  ("_interpolated_verbatim_string_content", any [
    as "string_content" (ref "interpolation_string_content"), ref "interpolation"]),
  ("_interpolated_raw_string_content", any [
    as "string_content" (ref "interpolation_string_content"), ref "interpolation"]),
  ("interpolation", all [
    as "interpolation_brace" (ref "interpolation_open_brace"), ref "expression",
    opt (ref "interpolation_alignment_clause"), opt (ref "interpolation_format_clause"),
    as "interpolation_brace" (ref "interpolation_close_brace")]),
  ("interpolation_alignment_clause", all [",", ref "expression"]),
  ("interpolation_format_clause", all [":", .token "format"]),
  ("member_access_expression", prec Level.dot (all [
    role "expression" (any [ref "expression", ref "predefined_type", ref "_name"]),
    any [".", "->"], role "name" (ref "_simple_name")])),
  ("member_binding_expression", all [".", role "name" (ref "_simple_name")]),
  ("object_creation_expression", right 0 (all [
    "new", type, role "arguments" (opt (ref "argument_list")),
    role "initializer" (opt (ref "initializer_expression"))])),
  ("parenthesized_expression", all ["(", ref "non_lvalue_expression", ")"]),
  ("_parenthesized_lvalue_expression", all ["(", ref "lvalue_expression", ")"]),
  ("lambda_expression", prec (-1) (all [
    ref "_lambda_expression_init", "=>", role "body" (any [ref "block", ref "expression"])])),
  ("_lambda_expression_init", prec (-1) (all [
    attributes, functionModifiers, opt type, role "parameters" (ref "_lambda_parameters")])),
  ("_lambda_parameters", prec (-1) (any [
    ref "parameter_list", as "implicit_parameter" (ref "identifier")])),
  ("array_creation_expression", weigh Level.unary (all [
    "new", role "type" (ref "array_type"), opt (ref "initializer_expression")])),
  ("anonymous_method_expression", all [
    functionModifiers, "delegate", role "parameters" (opt (ref "parameter_list")),
    ref "block"]),
  ("anonymous_object_creation_expression", all [
    "new", "\x7b", commaSep (ref "_anonymous_object_member_declarator"), opt ",", "\x7d"]),
  ("_anonymous_object_member_declarator", any [
    all [ref "identifier", "=", ref "expression"], ref "expression"]),
  ("implicit_array_creation_expression", all [
    "new", "[", many ",", "]", ref "initializer_expression"]),
  ("implicit_object_creation_expression", right 0 (all [
    "new", ref "argument_list", opt (ref "initializer_expression")])),
  ("implicit_stackalloc_expression", all ["stackalloc", "[", "]", ref "initializer_expression"]),
  ("initializer_expression", all ["\x7b", commaSep (ref "expression"), opt ",", "\x7d"]),
  ("declaration_expression", all [type, name]),
  ("default_expression", right 0 (all ["default", optAll ["(", type, ")"]])),
  ("with_expression", left Level.withed (all [ref "expression", "with", ref "_with_body"])),
  ("_with_body", all ["\x7b", commaSep (ref "with_initializer"), opt ",", "\x7d"]),
  ("with_initializer", all [ref "identifier", "=", ref "expression"]),
  ("sizeof_expression", all ["sizeof", "(", type, ")"]),
  ("typeof_expression", all ["typeof", "(", type, ")"]),
  ("makeref_expression", all ["__makeref", "(", ref "expression", ")"]),
  ("ref_expression", right 0 (all ["ref", ref "expression"])),
  ("reftype_expression", all ["__reftype", "(", ref "expression", ")"]),
  ("refvalue_expression", all [
    "__refvalue", "(", role "value" (ref "expression"), ",", type, ")"]),
  ("stackalloc_expression", left 0 (all [
    "stackalloc", role "type" (ref "array_type"), opt (ref "initializer_expression")])),
  ("range_expression", right Level.range (all [
    opt (ref "expression"), "..", opt (ref "expression")])),
  ("tuple_expression", all [
    "(", ref "argument", .many1 (all [",", ref "argument"]), ")"])]

/-! ## Literals -/

/-- The end of a line that says what the line is about. -/
def aboutLine (name : String) : String × Rule :=
  ("preproc_" ++ name, all [
    directive name, opt (role "content" (ref "preproc_arg")), lineEnd])

/-- A line with an argument. -/
def argumentLine (name : String) : String × Rule :=
  ("preproc_" ++ name, all [directive name, ref "preproc_arg", lineEnd])

/-- Literals and words. -/
def literals : List (String × Rule) := [
  ("literal", any [
    ref "null_literal", ref "character_literal", ref "integer_literal", ref "real_literal",
    ref "boolean_literal", ref "string_literal", ref "verbatim_string_literal",
    ref "raw_string_literal"]),
  ("null_literal", "null"),
  ("character_literal", all [
    "'", any [ref "character_literal_content", ref "escape_sequence"], "'"]),
  ("character_literal_content", .token "character content"),
  ("integer_literal", .token "integer"),
  ("real_literal", .token "real"),
  ("boolean_literal", any ["true", "false"]),
  ("string_literal", all [
    "\"", many (any [ref "string_literal_content", ref "escape_sequence"]), "\"",
    opt (ref "string_literal_encoding")]),
  ("string_literal_content", any [.token "string content", prec 2 (.token "unknown escape")]),
  ("string_literal_encoding", .token "encoding"),
  ("escape_sequence", .token "escape"),
  ("verbatim_string_literal", .token "verbatim string"),
  ("raw_string_literal", all [
    ref "raw_string_start", ref "raw_string_content", ref "raw_string_end",
    opt (.token "raw encoding")]),
  ("identifier", any [ref "_identifier_token", ref "_reserved_identifier"]),
  ("_identifier_token", .token "identifier"),
  ("_reserved_identifier", any (
    ["alias", "ascending", "by", "descending", "equals", "file", "from", "global", "group", "into",
      "join", "let", "notnull", "on", "orderby", "scoped", "select", "unmanaged", "var", "when",
      "where", "yield"].map .text))]

/-- The line that a file of its own can start with, and lines that direct the compiler. -/
def directives : List (String × Rule) := [
  ("preproc_arg", .token "argument"),
  ("_preproc_expression", any [
    ref "identifier", ref "boolean_literal", ref "integer_literal", ref "character_literal",
    as "unary_expression" (ref "preproc_unary_expression"),
    as "binary_expression" (ref "preproc_binary_expression"),
    as "parenthesized_expression" (ref "preproc_parenthesized_expression")]),
  ("preproc_parenthesized_expression", all ["(", ref "_preproc_expression", ")"]),
  ("preproc_unary_expression", left Level.unary (all [
    role "operator" "!", role "argument" (ref "_preproc_expression")])),
  ("preproc_binary_expression", any (
    [(Level.logicalOr, "||"), (Level.logicalAnd, "&&"), (Level.equal, "=="),
      (Level.equal, "!=")].map fun (level, operator) => left level (all [
        role "left" (ref "_preproc_expression"), role "operator" (.text operator),
        role "right" (ref "_preproc_expression")]))),
  aboutLine "region",
  aboutLine "endregion",
  ("preproc_line", all [
    directive "line", any [
      "default", "hidden", all [ref "integer_literal", opt (ref "string_literal")],
      all [
        "(", ref "integer_literal", ",", ref "integer_literal", ")", "-",
        "(", ref "integer_literal", ",", ref "integer_literal", ")",
        opt (ref "integer_literal"), ref "string_literal"]], lineEnd]),
  ("preproc_pragma", all [
    directive "pragma", any [
      all ["warning", any ["disable", "restore"],
        commaSep (any [ref "identifier", ref "integer_literal"])],
      all ["checksum", ref "string_literal", ref "string_literal", ref "string_literal"]],
    lineEnd]),
  ("preproc_nullable", all [
    directive "nullable", any ["enable", "disable", "restore"],
    opt (any ["annotations", "warnings"]), lineEnd]),
  argumentLine "error",
  argumentLine "warning",
  argumentLine "define",
  argumentLine "undef",
  ("shebang_directive", .token "shebang"),
  ("comment", .token "comment")]

/-- Code under conditions. -/
def conditions : List (String × Rule) :=
  conditional "" 0 (many (ref "declaration")) ++
  conditional "_in_top_level" 0 (many (any [
    ref "_top_level_item_no_statement", ref "statement"])) ++
  conditional "_in_expression" (-2) (opt (ref "expression")) ++
  conditional "_in_enum_member_declaration" 0 (opt (ref "enum_member_declaration")) ++
  conditional "_in_attribute_list" (-1) (opt (ref "attribute_list"))

/-! ## Tokens -/

def digits : Pattern := .any [
  .all [.digit, .many (.any [.digit, "_"]), .digit], .digit]

/-- How the type of a whole number is said. -/
def integerSuffix : Pattern := .opt (.any (
  ["u", "U", "l", "L", "ul", "UL", "uL", "Ul", "lu", "LU", "Lu", "lU"].map .text))

def exponent : Pattern := .all [
  .oneOf "eE", .opt (.oneOf "+-"), .digit, .many (.any [.digit, "_"])]

/-- The names of the encoding of a text. -/
def encoding : Pattern := .seq (.oneOf "uU") "8"

/-- A character of a name that is written by its number. -/
def numbered : List Pattern := [
  .seq "\\u" (.times 4 .hexDigit), .seq "\\U" (.times 8 .hexDigit)]

/-- A directive: blanks may stand between its number sign and its name. -/
def directiveToken (name : String) : String × Token :=
  ("#" ++ name, .ofPattern (.all ["#", .many (.oneOf " \t"), (name : Pattern)]))

/-- The tokens that patterns describe. -/
def tokens : List (String × Token) :=
  ["if", "else", "elif", "endif", "region", "endregion", "line", "pragma", "nullable", "error",
    "warning", "define", "undef"].map directiveToken ++ [
  ("line end", .ofPattern "\n"),
  ("argument", (Token.ofPattern (.seq (.one fun c => c != '\x00' && !Text.isWhite c) (.many (.any [
    .noneOf "/\n", .seq "/" (.noneOf "*"), .all ["\\", .opt "\r", "\n"]])))).withPrecedence (-1)),
  ("shebang", .ofPattern (.seq "#!" .line)),
  ("comment", .ofPattern (.any [
    .seq "//" (.many (.noneOf "\n\r")),
    .all ["/*", .many (.noneOf "*"), .many1 "*",
      .many (.all [.noneOf "/*", .many (.noneOf "*"), .many1 "*"]), "/"]])),
  ("predefined_type", .ofTexts [
    "bool", "byte", "char", "decimal", "double", "float", "int", "long", "object", "sbyte",
    "short", "string", "uint", "ulong", "ushort", "nint", "nuint", "void"]),
  ("format", .ofPattern (.many1 (.noneOf "\x7d\""))),
  ("character content", (Token.ofPattern (.noneOf "'\\")).joined),
  ("integer", .ofPattern (.seq
    (.any [
      digits,
      .all ["0", .oneOf "xX", .many (.any [.hexDigit, "_"]), .many1 .hexDigit],
      .all ["0", .oneOf "bB", .many (.oneOf "01_"), .many1 (.oneOf "01")]])
    integerSuffix)),
  ("real", .ofPattern (.any [
    .all [digits, ".", digits, .opt exponent, .opt (.oneOf "fFdDmM")],
    .all [".", digits, .opt exponent, .opt (.oneOf "fFdDmM")],
    .all [digits, exponent, .opt (.oneOf "fFdDmM")],
    .seq digits (.oneOf "fFdDmM")])),
  ("string content", (Token.ofPattern (.many1 (.noneOf "\"\\\n"))).withPrecedence 1 |>.joined),
  ("unknown escape", (Token.ofPattern (.seq "\\" (.noneOf "abefnrtv'\"\\?0"))).joined),
  ("encoding", (Token.ofPattern encoding).joined),
  ("raw encoding", .ofPattern encoding),
  ("escape", .ofPattern (.seq "\\" (.any [
    .all ["x", .times 2 .hexDigit, .upTo 2 .hexDigit],
    .seq "u" (.times 4 .hexDigit),
    .seq "U" (.times 8 .hexDigit),
    .oneOf "abefnrtv'\"\\?0"]))),
  ("verbatim string", .ofPattern (.all [
    "@\"", .many (.any [.noneOf "\"", "\"\""]), "\"", .opt encoding])),
  ("identifier", .ofPattern (.all [
    .opt "@", .any (.one (fun c => c == '_' || Text.isXidStart c) :: numbered),
    .many (.any (.one Text.isXidContinue :: numbered))]))]

/-- White space, and a mark of no width that counts as such. -/
def isGap (c : Char) : Bool := Text.isWhite c || c == '\uFEFF'

def grammar : RuleSet where
  rules := units ++ typeDeclarations ++ members ++ types ++ statements ++ patterns ++ expressions ++
    compounds ++ literals ++ conditions ++ directives
  tokens := tokens
  gap := isGap
  extras := ["comment"] ++
    ["region", "endregion", "line", "pragma", "nullable", "error", "warning", "define",
      "undef"].map ("preproc_" ++ ·)
  scanned := [
    ref "_optional_semi", ref "interpolation_regular_start", ref "interpolation_verbatim_start",
    ref "interpolation_raw_start", ref "interpolation_start_quote",
    ref "interpolation_end_quote", ref "interpolation_open_brace",
    ref "interpolation_close_brace", ref "interpolation_string_content",
    ref "raw_string_start", ref "raw_string_end", ref "raw_string_content"]
  unnamed := ["declaration", "expression", "non_lvalue_expression", "lvalue_expression",
    "literal", "statement", "type", "type_declaration", "pattern"]
  inlined := ["_namespace_member_declaration", "_nullable_base_type",
    "_parameter_type_with_modifiers", "_top_level_item_no_statement"]
  word := "_identifier_token"
  orders := [["_anonymous_object_member_declarator", "_simple_name"],
    ["block", "initializer_expression"]]

end LineScope.Grammar.CSharp
