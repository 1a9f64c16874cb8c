import LineScope.Grammar.Rule
import LineScope.Text.Identifier

/-!
# The grammar of Rust

Items, macros, types, patterns and expressions, as rules over tokens. Names of rules and fields are those
of the nodes; a rule whose name begins with an underscore makes no node.
-/
namespace LineScope.Grammar.Rust

open Rule

/-- A rule one or more times, with commas between. -/
def commaSep1 (r : Rule) : Rule := sepBy1 "," r

/-- A rule any number of times, with commas between. -/
def commaSep (r : Rule) : Rule := opt (commaSep1 r)

/-! ## Precedences

How strongly constructs bind: the higher, the more strongly. -/

namespace Level

def call : Int := 15
def field : Int := 14
def question : Int := 13
def unary : Int := 12
def cast : Int := 11
def multiplicative : Int := 10
def additive : Int := 9
def shift : Int := 8
def bitand : Int := 7
def bitxor : Int := 6
def bitor : Int := 5
def comparative : Int := 4
def and : Int := 3
def or : Int := 2
def range : Int := 1
def assign : Int := 0
def closure : Int := -1

end Level

def numericTypes : List String :=
  ["u8", "i8", "u16", "i16", "u32", "i32", "u64", "i64", "u128", "i128", "isize", "usize", "f32",
    "f64"]

/-- The types that have names of their own. -/
def primitive : Rule := any ((numericTypes ++ ["bool", "str", "char"]).map .text)

/-- The punctuation that may stand in a tree of tokens. -/
def punctuation : List String :=
  ["+", "-", "*", "/", "%", "^", "!", "&", "|", "&&", "||", "<<", ">>", "+=", "-=", "*=", "/=", "%=",
    "^=", "&=", "|=", "<<=", ">>=", "=", "==", "!=", ">", "<", ">=", "<=", "@", "_", ".", "..", "...",
    "..=", ",", ";", ":", "::", "->", "=>", "#", "?"]

/-- The words that may stand in a tree of tokens. -/
def tokenWords : List String :=
  ["'", "as", "async", "await", "break", "const", "continue", "default", "enum", "fn", "for", "gen",
    "if", "impl", "let", "loop", "match", "mod", "pub", "return", "static", "struct", "trait", "type",
    "union", "unsafe", "use", "where", "while"]

/-! ## Macros -/

def macroRules : Rule := all [many (all [ref "macro_rule", ";"]), opt (ref "macro_rule")]

/-- A rule any number of times in each kind of brackets. -/
def tree (r : Rule) : Rule :=
  any [all ["(", many r, ")"], all ["[", many r, "]"], all ["\x7b", many r, "\x7d"]]

def repetition (r : Rule) : Rule :=
  all ["$", "(", many r, ")", opt (.token "separator"), any ["+", "*", "?"]]

/-- Whole texts, statements and macros. -/
def macros : List (String × Rule) := [
  ("source_file", all [opt (ref "shebang"), many (ref "_statement")]),
  ("_statement", any [ref "expression_statement", ref "_declaration_statement"]),
  ("empty_statement", ";"),
  ("expression_statement", any [
    all [ref "_expression", ";"], prec 1 (ref "_expression_ending_with_block")]),
  ("_declaration_statement", any [
    ref "const_item", ref "macro_invocation", ref "macro_definition", ref "empty_statement",
    ref "attribute_item", ref "inner_attribute_item", ref "mod_item", ref "foreign_mod_item",
    ref "struct_item", ref "union_item", ref "enum_item", ref "type_item", ref "function_item",
    ref "function_signature_item", ref "impl_item", ref "trait_item", ref "associated_type",
    ref "let_declaration", ref "use_declaration", ref "extern_crate_declaration",
    ref "static_item"]),
  ("macro_definition", all [
    "macro_rules!", role "name" (any [ref "identifier", ref "_reserved_identifier"]), any [
      all ["(", macroRules, ")", ";"],
      all ["[", macroRules, "]", ";"],
      all ["\x7b", macroRules, "\x7d"]]]),
  ("macro_rule", all [
    role "left" (ref "token_tree_pattern"), "=>", role "right" (ref "token_tree")]),
  ("_token_pattern", any [
    ref "token_tree_pattern", ref "token_repetition_pattern", ref "token_binding_pattern",
    ref "metavariable", ref "_non_special_token"]),
  ("token_tree_pattern", tree (ref "_token_pattern")),
  ("token_binding_pattern", prec 1 (all [
    role "name" (ref "metavariable"), ":", role "type" (ref "fragment_specifier")])),
  ("token_repetition_pattern", repetition (ref "_token_pattern")),
  ("fragment_specifier", any (
    ["block", "expr", "expr_2021", "ident", "item", "lifetime", "literal", "meta", "pat", "pat_param",
      "path", "stmt", "tt", "ty", "vis"].map .text)),
  ("_tokens", any [
    ref "token_tree", ref "token_repetition", ref "metavariable", ref "_non_special_token"]),
  ("token_tree", tree (ref "_tokens")),
  ("token_repetition", repetition (ref "_tokens")),
  ("_non_special_token", any (
    [ref "_literal", ref "identifier", ref "mutable_specifier", ref "self", ref "super",
      ref "crate", as "primitive_type" primitive,
      right 0 (.many1 (any (punctuation.map .text)))] ++ tokenWords.map .text))]

/-! ## Declarations -/

def visibility : Rule := opt (ref "visibility_modifier")

/-- The parameters of types that a declaration may have. -/
def typeParameters : Rule := role "type_parameters" (opt (ref "type_parameters"))

def whereClause : Rule := opt (ref "where_clause")

def bodyOrNone : Rule := any [";", role "body" (ref "declaration_list")]

/-- A value that may be given. -/
def givenValue : Rule := optAll ["=", role "value" (ref "_expression")]

def signature : List Rule :=
  [visibility, opt (ref "function_modifiers"), "fn",
    role "name" (any [ref "identifier", ref "metavariable"]), typeParameters,
    role "parameters" (ref "parameters"), optAll ["->", role "return_type" (ref "_type")],
    whereClause]

def items : List (String × Rule) := [
  ("attribute_item", all ["#", "[", ref "attribute", "]"]),
  ("inner_attribute_item", all ["#", "!", "[", ref "attribute", "]"]),
  ("attribute", all [
    ref "_path", opt (any [
      all ["=", role "value" (ref "_expression")],
      role "arguments" (as "token_tree" (ref "delim_token_tree"))])]),
  ("mod_item", all [visibility, "mod", role "name" (ref "identifier"), bodyOrNone]),
  ("foreign_mod_item", all [visibility, ref "extern_modifier", bodyOrNone]),
  ("declaration_list", all ["\x7b", many (ref "_declaration_statement"), "\x7d"]),
  ("struct_item", all [
    visibility, "struct", role "name" (ref "_type_identifier"), typeParameters, any [
      all [whereClause, role "body" (ref "field_declaration_list")],
      all [role "body" (ref "ordered_field_declaration_list"), whereClause, ";"],
      ";"]]),
  ("union_item", all [
    visibility, "union", role "name" (ref "_type_identifier"), typeParameters, whereClause,
    role "body" (ref "field_declaration_list")]),
  ("enum_item", all [
    visibility, "enum", role "name" (ref "_type_identifier"), typeParameters, whereClause,
    role "body" (ref "enum_variant_list")]),
  ("enum_variant_list", all [
    "\x7b", commaSep (all [many (ref "attribute_item"), ref "enum_variant"]), opt ",", "\x7d"]),
  ("enum_variant", all [
    visibility, role "name" (ref "identifier"),
    role "body" (opt (any [
      ref "field_declaration_list", ref "ordered_field_declaration_list"])),
    givenValue]),
  ("field_declaration_list", all [
    "\x7b", commaSep (all [many (ref "attribute_item"), ref "field_declaration"]), opt ",",
    "\x7d"]),
  ("field_declaration", all [
    visibility, role "name" (ref "_field_identifier"), ":", role "type" (ref "_type")]),
  ("ordered_field_declaration_list", all [
    "(", commaSep (all [many (ref "attribute_item"), visibility, role "type" (ref "_type")]),
    opt ",", ")"]),
  ("extern_crate_declaration", all [
    visibility, "extern", ref "crate", role "name" (ref "identifier"),
    optAll ["as", role "alias" (ref "identifier")], ";"]),
  ("const_item", all [
    visibility, "const", role "name" (ref "identifier"), ":", role "type" (ref "_type"),
    givenValue, ";"]),
  ("static_item", all [
    visibility, "static", opt "ref", opt (ref "mutable_specifier"),
    role "name" (ref "identifier"), ":", role "type" (ref "_type"), givenValue, ";"]),
  ("type_item", all [
    visibility, "type", role "name" (ref "_type_identifier"), typeParameters, whereClause, "=",
    role "type" (ref "_type"), whereClause, ";"]),
  ("function_item", all (signature ++ [role "body" (ref "block")])),
  ("function_signature_item", all (signature ++ [.text ";"])),
  ("function_modifiers", .many1 (any [
    "async", "default", "const", "unsafe", ref "extern_modifier"])),
  ("where_clause", right 0 (all [
    "where", optAll [commaSep1 (ref "where_predicate"), opt ","]])),
  ("where_predicate", all [
    role "left" (any [
      ref "lifetime", ref "_type_identifier", ref "scoped_type_identifier", ref "generic_type",
      ref "reference_type", ref "pointer_type", ref "tuple_type", ref "array_type",
      ref "higher_ranked_trait_bound", as "primitive_type" primitive]),
    role "bounds" (ref "trait_bounds")]),
  ("impl_item", all [
    opt "unsafe", "impl", typeParameters, optAll [
      opt "!", role "trait" (any [
        ref "_type_identifier", ref "scoped_type_identifier", ref "generic_type"]), "for"],
    role "type" (ref "_type"), whereClause,
    any [role "body" (ref "declaration_list"), ";"]]),
  ("trait_item", all [
    visibility, opt "unsafe", "trait", role "name" (ref "_type_identifier"), typeParameters,
    role "bounds" (opt (ref "trait_bounds")), whereClause,
    role "body" (ref "declaration_list")]),
  ("associated_type", all [
    "type", role "name" (ref "_type_identifier"), typeParameters,
    role "bounds" (opt (ref "trait_bounds")), whereClause, ";"]),
  ("trait_bounds", all [":", sepBy1 "+" (any [
    ref "_type", ref "lifetime", ref "higher_ranked_trait_bound"])]),
  ("higher_ranked_trait_bound", all [
    "for", role "type_parameters" (ref "type_parameters"), role "type" (ref "_type")]),
  ("removed_trait_bound", all ["?", ref "_type"]),
  ("type_parameters", prec 1 (all [
    "<", commaSep1 (all [many (ref "attribute_item"), any [
      ref "lifetime", ref "metavariable", ref "_type_identifier",
      ref "constrained_type_parameter", ref "optional_type_parameter",
      ref "const_parameter"]]), opt ",", ">"])),
  ("const_parameter", all [
    "const", role "name" (ref "identifier"), ":", role "type" (ref "_type"),
    optAll ["=", role "value" (any [
      ref "block", ref "identifier", ref "_literal", ref "negative_literal"])]]),
  ("constrained_type_parameter", all [
    role "left" (any [ref "lifetime", ref "_type_identifier"]),
    role "bounds" (ref "trait_bounds")]),
  ("optional_type_parameter", prec 1 (all [
    role "name" (any [ref "_type_identifier", ref "constrained_type_parameter"]), "=",
    role "default_type" (ref "_type")])),
  ("let_declaration", all [
    "let", opt (ref "mutable_specifier"), role "pattern" (ref "_pattern"),
    optAll [":", role "type" (ref "_type")], givenValue,
    optAll ["else", role "alternative" (ref "block")], ";"])]

/-- Imports, parameters and visibility. -/
def imports : List (String × Rule) := [
  ("use_declaration", all [visibility, "use", role "argument" (ref "_use_clause"), ";"]),
  ("_use_clause", any [
    ref "_path", ref "use_as_clause", ref "use_list", ref "scoped_use_list",
    ref "use_wildcard"]),
  ("scoped_use_list", all [
    role "path" (opt (ref "_path")), "::", role "list" (ref "use_list")]),
  ("use_list", all ["\x7b", commaSep (any [ref "_use_clause"]), opt ",", "\x7d"]),
  ("use_as_clause", all [role "path" (ref "_path"), "as", role "alias" (ref "identifier")]),
  ("use_wildcard", all [optAll [opt (ref "_path"), "::"], "*"]),
  ("parameters", all [
    "(", commaSep (all [opt (ref "attribute_item"), any [
      ref "parameter", ref "self_parameter", ref "variadic_parameter", "_", ref "_type"]]),
    opt ",", ")"]),
  ("self_parameter", all [
    opt "&", opt (ref "lifetime"), opt (ref "mutable_specifier"), ref "self"]),
  ("variadic_parameter", all [
    opt (ref "mutable_specifier"), optAll [role "pattern" (ref "_pattern"), ":"], "..."]),
  ("parameter", all [
    opt (ref "mutable_specifier"), role "pattern" (any [ref "_pattern", ref "self"]), ":",
    role "type" (ref "_type")]),
  ("extern_modifier", all ["extern", opt (ref "string_literal")]),
  ("visibility_modifier", any [
    ref "crate", all ["pub", optAll [
      "(", any [ref "self", ref "super", ref "crate", all ["in", ref "_path"]], ")"]]])]

/-! ## Types -/

/-- What may be joined by a plus sign. -/
def bound : Rule := any [ref "lifetime", ref "_type", ref "use_bounds"]

def types : List (String × Rule) := [
  ("_type", any [
    ref "abstract_type", ref "reference_type", ref "metavariable", ref "pointer_type",
    ref "generic_type", ref "scoped_type_identifier", ref "tuple_type", ref "unit_type",
    ref "array_type", ref "function_type", ref "_type_identifier", ref "macro_invocation",
    ref "never_type", ref "dynamic_type", ref "bounded_type", ref "removed_trait_bound",
    as "primitive_type" primitive]),
  ("bracketed_type", all ["<", any [ref "_type", ref "qualified_type"], ">"]),
  ("qualified_type", all [role "type" (ref "_type"), "as", role "alias" (ref "_type")]),
  ("lifetime", prec 1 (all ["'", ref "identifier"])),
  ("array_type", all [
    "[", role "element" (ref "_type"), optAll [";", role "length" (ref "_expression")], "]"]),
  ("for_lifetimes", all ["for", "<", commaSep1 (ref "lifetime"), opt ",", ">"]),
  ("function_type", all [
    opt (ref "for_lifetimes"),
    prec Level.call (all [
      any [
        role "trait" (any [ref "_type_identifier", ref "scoped_type_identifier"]),
        all [opt (ref "function_modifiers"), "fn"]],
      role "parameters" (ref "parameters")]),
    optAll ["->", role "return_type" (ref "_type")]]),
  ("tuple_type", all ["(", commaSep1 (ref "_type"), opt ",", ")"]),
  ("unit_type", all ["(", ")"]),
  ("generic_function", prec 1 (all [
    role "function" (any [
      ref "identifier", ref "scoped_identifier", ref "field_expression"]), "::",
    role "type_arguments" (ref "type_arguments")])),
  ("generic_type", prec 1 (all [
    role "type" (any [
      ref "_type_identifier", ref "_reserved_identifier", ref "scoped_type_identifier"]),
    role "type_arguments" (ref "type_arguments")])),
  ("generic_type_with_turbofish", all [
    role "type" (any [ref "_type_identifier", ref "scoped_identifier"]), "::",
    role "type_arguments" (ref "type_arguments")]),
  ("bounded_type", left (-1) (all [bound, "+", bound])),
  ("use_bounds", all [
    "use", .token "opening angle", commaSep (any [ref "lifetime", ref "_type_identifier"]),
    opt ",", ">"]),
  ("type_arguments", all [
    .token "opening angle", commaSep1 (all [
      any [ref "_type", ref "type_binding", ref "lifetime", ref "_literal", ref "block"],
      opt (ref "trait_bounds")]), opt ",", ">"]),
  ("type_binding", all [
    role "name" (ref "_type_identifier"), role "type_arguments" (opt (ref "type_arguments")),
    "=", role "type" (ref "_type")]),
  ("reference_type", all [
    "&", opt (ref "lifetime"), opt (ref "mutable_specifier"), role "type" (ref "_type")]),
  ("pointer_type", all [
    "*", any ["const", ref "mutable_specifier"], role "type" (ref "_type")]),
  ("never_type", "!"),
  ("abstract_type", all [
    "impl", optAll ["for", ref "type_parameters"], role "trait" (prec 1 (any [
      ref "_type_identifier", ref "scoped_type_identifier", ref "removed_trait_bound",
      ref "generic_type", ref "function_type", ref "tuple_type", ref "bounded_type"]))]),
  ("dynamic_type", all ["dyn", role "trait" (prec 1 (any [
    ref "higher_ranked_trait_bound", ref "_type_identifier", ref "scoped_type_identifier",
    ref "generic_type", ref "function_type", ref "tuple_type"]))]),
  ("mutable_specifier", "mut")]

/-! ## Expressions -/

/-- The operators between two expressions, with the level of each. -/
def binaryOperators : List Rule :=
  let table : List (Int × List String) := [
    (Level.and, ["&&"]), (Level.or, ["||"]), (Level.bitand, ["&"]), (Level.bitor, ["|"]),
    (Level.bitxor, ["^"]), (Level.comparative, ["==", "!=", "<", "<=", ">", ">="]),
    (Level.shift, ["<<", ">>"]), (Level.additive, ["+", "-"]),
    (Level.multiplicative, ["*", "/", "%"])]
  table.map fun (level, operators) => left level (all [
    role "left" (ref "_expression"), role "operator" (any (operators.map .text)),
    role "right" (ref "_expression")])

/-- The operators that assign what they compute. -/
def assigning : List Rule :=
  ["+=", "-=", "*=", "/=", "%=", "&=", "|=", "^=", "<<=", ">>="].map .text

/-- Operators, calls and paths. -/
def operations : List (String × Rule) := [
  ("_expression_except_range", any [
    ref "unary_expression", ref "reference_expression", ref "try_expression",
    ref "binary_expression", ref "assignment_expression", ref "compound_assignment_expr",
    ref "type_cast_expression", ref "call_expression", ref "return_expression",
    ref "yield_expression", ref "_literal", left 0 (ref "identifier"),
    as "identifier" primitive, left 0 (ref "_reserved_identifier"), ref "self",
    ref "scoped_identifier", ref "generic_function", ref "await_expression",
    ref "field_expression", ref "array_expression", ref "tuple_expression",
    prec 1 (ref "macro_invocation"), ref "unit_expression", ref "break_expression",
    ref "continue_expression", ref "index_expression", ref "metavariable",
    ref "closure_expression", ref "parenthesized_expression", ref "struct_expression",
    ref "_expression_ending_with_block"]),
  ("_expression", any [ref "_expression_except_range", ref "range_expression"]),
  ("_expression_ending_with_block", any [
    ref "unsafe_block", ref "async_block", ref "gen_block", ref "try_block", ref "block",
    ref "if_expression", ref "match_expression", ref "while_expression", ref "loop_expression",
    ref "for_expression", ref "const_block"]),
  ("macro_invocation", all [
    role "macro" (any [ref "scoped_identifier", ref "identifier", ref "_reserved_identifier"]),
    "!", as "token_tree" (ref "delim_token_tree")]),
  ("delim_token_tree", tree (ref "_delim_tokens")),
  ("_delim_tokens", any [
    ref "_non_delim_token", as "token_tree" (ref "delim_token_tree")]),
  ("_non_delim_token", any [ref "_non_special_token", "$"]),
  ("scoped_identifier", all [
    role "path" (opt (any [
      ref "_path", ref "bracketed_type",
      as "generic_type" (ref "generic_type_with_turbofish")])), "::",
    role "name" (any [ref "identifier", ref "super"])]),
  ("scoped_type_identifier_in_expression_position", prec (-2) (all [
    role "path" (opt (any [
      ref "_path", as "generic_type" (ref "generic_type_with_turbofish")])), "::",
    role "name" (ref "_type_identifier")])),
  ("scoped_type_identifier", all [
    role "path" (opt (any [
      ref "_path", as "generic_type" (ref "generic_type_with_turbofish"), ref "bracketed_type",
      ref "generic_type"])), "::", role "name" (ref "_type_identifier")]),
  ("range_expression", left Level.range (any [
    all [ref "_expression", any ["..", "...", "..="], ref "_expression"],
    all [ref "_expression", ".."], all ["..", ref "_expression"], ".."])),
  ("unary_expression", prec Level.unary (all [any ["-", "*", "!"], ref "_expression"])),
  ("try_expression", prec Level.question (all [ref "_expression", "?"])),
  ("reference_expression", prec Level.unary (all [
    "&", any [
      all ["raw", any ["const", ref "mutable_specifier"]], opt (ref "mutable_specifier")],
    role "value" (ref "_expression")])),
  ("binary_expression", any binaryOperators),
  ("assignment_expression", left Level.assign (all [
    role "left" (ref "_expression"), "=", role "right" (ref "_expression")])),
  ("compound_assignment_expr", left Level.assign (all [
    role "left" (ref "_expression"), role "operator" (any assigning),
    role "right" (ref "_expression")])),
  ("type_cast_expression", left Level.cast (all [
    role "value" (ref "_expression"), "as", role "type" (ref "_type")])),
  ("return_expression", any [left 0 (all ["return", ref "_expression"]), prec (-1) "return"]),
  ("yield_expression", any [left 0 (all ["yield", ref "_expression"]), prec (-1) "yield"]),
  ("call_expression", prec Level.call (all [
    role "function" (ref "_expression_except_range"), role "arguments" (ref "arguments")])),
  ("arguments", all [
    "(", commaSep (all [many (ref "attribute_item"), ref "_expression"]), opt ",", ")"]),
  ("array_expression", all [
    "[", many (ref "attribute_item"), any [
      all [ref "_expression", ";", role "length" (ref "_expression")],
      all [commaSep (all [many (ref "attribute_item"), ref "_expression"]), opt ","]], "]"]),
  ("parenthesized_expression", all ["(", ref "_expression", ")"]),
  ("tuple_expression", all [
    "(", many (ref "attribute_item"), all [ref "_expression", ","],
    many (all [ref "_expression", ","]), opt (ref "_expression"), ")"]),
  ("unit_expression", all ["(", ")"]),
  ("struct_expression", all [
    role "name" (any [
      ref "_type_identifier",
      as "scoped_type_identifier" (ref "scoped_type_identifier_in_expression_position"),
      ref "generic_type_with_turbofish"]), role "body" (ref "field_initializer_list")]),
  ("field_initializer_list", all [
    "\x7b", commaSep (any [
      ref "shorthand_field_initializer", ref "field_initializer",
      ref "base_field_initializer"]), opt ",", "\x7d"]),
  ("shorthand_field_initializer", all [many (ref "attribute_item"), ref "identifier"]),
  ("field_initializer", all [
    many (ref "attribute_item"),
    role "field" (any [ref "_field_identifier", ref "integer_literal"]), ":",
    role "value" (ref "_expression")]),
  ("base_field_initializer", all ["..", ref "_expression"])]

/-- A label that may stand in front of a block or a loop. -/
def label : Rule := optAll [ref "label", ":"]

/-- Attributes in front of an arm. -/
def armAttributes : Rule := many (any [ref "attribute_item", ref "inner_attribute_item"])

def control : List (String × Rule) := [
  ("if_expression", right 0 (all [
    "if", role "condition" (ref "_condition"), role "consequence" (ref "block"),
    opt (role "alternative" (ref "else_clause"))])),
  ("let_condition", all [
    "let", role "pattern" (ref "_pattern"), "=",
    role "value" (left Level.and (ref "_expression"))]),
  ("_let_chain", left Level.and (any [
    all [ref "_let_chain", "&&", ref "let_condition"],
    all [ref "_let_chain", "&&", ref "_expression"],
    all [ref "let_condition", "&&", ref "_expression"],
    all [ref "let_condition", "&&", ref "let_condition"],
    all [ref "_expression", "&&", ref "let_condition"]])),
  ("_condition", any [
    ref "_expression", ref "let_condition", as "let_chain" (ref "_let_chain")]),
  ("else_clause", all ["else", any [ref "block", ref "if_expression"]]),
  ("match_expression", all [
    "match", role "value" (ref "_expression"), role "body" (ref "match_block")]),
  ("match_block", all [
    "\x7b", optAll [many (ref "match_arm"), as "match_arm" (ref "last_match_arm")], "\x7d"]),
  ("match_arm", right 0 (all [
    armAttributes, role "pattern" (ref "match_pattern"), "=>", any [
      all [role "value" (ref "_expression"), ","],
      role "value" (prec 1 (ref "_expression_ending_with_block"))]])),
  ("last_match_arm", all [
    armAttributes, role "pattern" (ref "match_pattern"), "=>", role "value" (ref "_expression"),
    opt ","]),
  ("match_pattern", all [
    ref "_pattern", optAll ["if", role "condition" (ref "_condition")]]),
  ("while_expression", all [
    label, "while", role "condition" (ref "_condition"), role "body" (ref "block")]),
  ("loop_expression", all [label, "loop", role "body" (ref "block")]),
  ("for_expression", all [
    label, "for", role "pattern" (ref "_pattern"), "in", role "value" (ref "_expression"),
    role "body" (ref "block")]),
  ("const_block", all ["const", role "body" (ref "block")]),
  ("closure_expression", prec Level.closure (all [
    opt "static", opt "async", opt "move", role "parameters" (ref "closure_parameters"), any [
      all [optAll ["->", role "return_type" (ref "_type")], role "body" (ref "block")],
      role "body" (any [ref "_expression", "_"])]])),
  ("closure_parameters", all ["|", commaSep (any [ref "_pattern", ref "parameter"]), "|"]),
  ("label", all ["'", ref "identifier"]),
  ("break_expression", left 0 (all ["break", opt (ref "label"), opt (ref "_expression")])),
  ("continue_expression", left 0 (all ["continue", opt (ref "label")])),
  ("index_expression", prec Level.call (all [ref "_expression", "[", ref "_expression", "]"])),
  ("await_expression", prec Level.field (all [ref "_expression", ".", "await"])),
  ("field_expression", prec Level.field (all [
    role "value" (ref "_expression"), ".",
    role "field" (any [ref "_field_identifier", ref "integer_literal"])])),
  ("unsafe_block", all ["unsafe", ref "block"]),
  ("async_block", all ["async", opt "move", ref "block"]),
  ("gen_block", all ["gen", opt "move", ref "block"]),
  ("try_block", all ["try", ref "block"]),
  ("block", all [label, "\x7b", many (ref "_statement"), opt (ref "_expression"), "\x7d"])]

/-! ## Patterns -/

/-- An end of a range of a pattern. -/
def rangeEnd : Rule := any [ref "_literal_pattern", ref "_path"]

def patterns : List (String × Rule) := [
  ("_pattern", any [
    ref "_literal_pattern", as "identifier" primitive, ref "identifier",
    ref "scoped_identifier", ref "generic_pattern", ref "tuple_pattern",
    ref "tuple_struct_pattern", ref "struct_pattern", ref "_reserved_identifier",
    ref "ref_pattern", ref "slice_pattern", ref "captured_pattern", ref "reference_pattern",
    ref "remaining_field_pattern", ref "mut_pattern", ref "range_pattern", ref "or_pattern",
    ref "const_block", ref "macro_invocation", "_"]),
  ("generic_pattern", all [
    any [ref "identifier", ref "scoped_identifier"], "::",
    role "type_arguments" (ref "type_arguments")]),
  ("tuple_pattern", all [
    "(", commaSep (any [ref "_pattern", ref "closure_expression"]), opt ",", ")"]),
  ("slice_pattern", all ["[", commaSep (ref "_pattern"), opt ",", "]"]),
  ("tuple_struct_pattern", all [
    role "type" (any [
      ref "identifier", ref "scoped_identifier",
      as "generic_type" (ref "generic_type_with_turbofish")]),
    "(", commaSep (ref "_pattern"), opt ",", ")"]),
  ("struct_pattern", all [
    role "type" (any [ref "_type_identifier", ref "scoped_type_identifier"]),
    "\x7b", commaSep (any [ref "field_pattern", ref "remaining_field_pattern"]), opt ",",
    "\x7d"]),
  ("field_pattern", all [
    opt "ref", opt (ref "mutable_specifier"), any [
      role "name" (as "shorthand_field_identifier" (ref "identifier")),
      all [role "name" (ref "_field_identifier"), ":", role "pattern" (ref "_pattern")]]]),
  ("remaining_field_pattern", ".."),
  ("mut_pattern", prec (-1) (all [ref "mutable_specifier", ref "_pattern"])),
  ("range_pattern", any [
    all [role "left" rangeEnd, any [
      all [any ["...", "..=", ".."], role "right" rangeEnd], ".."]],
    all [any ["..=", ".."], role "right" rangeEnd]]),
  ("ref_pattern", all ["ref", ref "_pattern"]),
  ("captured_pattern", all [ref "identifier", "@", ref "_pattern"]),
  ("reference_pattern", all ["&", opt (ref "mutable_specifier"), ref "_pattern"]),
  ("or_pattern", left (-2) (any [
    all [ref "_pattern", "|", ref "_pattern"], all ["|", ref "_pattern"]]))]

/-! ## Literals -/

/-- The literals. -/
def literalKinds : List Rule :=
  [ref "string_literal", ref "raw_string_literal", ref "char_literal", ref "boolean_literal",
    ref "integer_literal", ref "float_literal"]

/-- Literals, comments and words. -/
def literals : List (String × Rule) := [
  ("_literal", any literalKinds),
  ("_literal_pattern", any (literalKinds ++ [ref "negative_literal"])),
  ("negative_literal", all ["-", any [ref "integer_literal", ref "float_literal"]]),
  ("integer_literal", .token "integer"),
  ("string_literal", all [
    as "\"" (.token "opening quote"), many (any [ref "escape_sequence", ref "string_content"]),
    .token "closing quote"]),
  ("raw_string_literal", all [
    ref "_raw_string_literal_start", as "string_content" (ref "raw_string_literal_content"),
    ref "_raw_string_literal_end"]),
  ("char_literal", .token "char"),
  ("escape_sequence", .token "escape"),
  ("boolean_literal", any ["true", "false"]),
  ("comment", any [ref "line_comment", ref "block_comment"]),
  ("line_comment", all ["//", any [
    all [.token "slashes", .token "line"],
    all [ref "_line_doc_comment_marker", role "doc" (as "doc_comment" (ref "_line_doc_content"))],
    .token "plain line"]]),
  ("_line_doc_comment_marker", any [
    role "outer" (as "outer_doc_comment_marker" (ref "_outer_line_doc_comment_marker")),
    role "inner" (as "inner_doc_comment_marker" (ref "_inner_line_doc_comment_marker"))]),
  ("_inner_line_doc_comment_marker", .token "inner mark"),
  ("_outer_line_doc_comment_marker", .token "outer mark"),
  ("block_comment", all ["/*", opt (any [
    all [ref "_block_doc_comment_marker",
      opt (role "doc" (as "doc_comment" (ref "_block_comment_content")))],
    ref "_block_comment_content"]), "*/"]),
  ("_block_doc_comment_marker", any [
    role "outer" (as "outer_doc_comment_marker" (ref "_outer_block_doc_comment_marker")),
    role "inner" (as "inner_doc_comment_marker" (ref "_inner_block_doc_comment_marker"))]),
  ("_path", any [
    ref "self", as "identifier" primitive, ref "metavariable", ref "super", ref "crate",
    ref "identifier", ref "scoped_identifier", ref "_reserved_identifier"]),
  ("identifier", .token "identifier"),
  ("shebang", .token "shebang"),
  ("_reserved_identifier", as "identifier" (any ["default", "union", "gen", "raw"])),
  ("_type_identifier", as "type_identifier" (ref "identifier")),
  ("_field_identifier", as "field_identifier" (ref "identifier")),
  ("self", "self"),
  ("super", "super"),
  ("crate", "crate"),
  ("metavariable", .token "metavariable")]

/-! ## Tokens -/

def escaped : Pattern := .seq "\\" (.any [
  .noneOf "xu",
  .seq "u" (.times 4 .hexDigit),
  .all ["u\x7b", .many1 .hexDigit, "\x7d"],
  .seq "x" (.times 2 .hexDigit)])

/-- The tokens that patterns describe. -/
def tokens : List (String × Token) := [
  ("separator", .ofPattern (.many1 (.noneOf "+*?"))),
  ("opening angle", (Token.ofText "<").withPrecedence 1),
  ("integer", .ofPattern (.seq
    (.any [
      .seq .digit (.many (.any [.digit, "_"])),
      .seq "0x" (.many1 (.any [.hexDigit, "_"])),
      .seq "0b" (.many1 (.oneOf "01_")),
      .seq "0o" (.many1 (.any [.range '0' '7', "_"]))])
    (.opt (.any (numericTypes.map .text))))),
  ("opening quote", .ofPattern (.seq (.opt (.oneOf "bc")) "\"")),
  ("closing quote", (Token.ofText "\"").joined),
  ("char", .ofPattern (.all [
    .opt "b", "'", .opt (.any [escaped, .noneOf "\\'"]), "'"])),
  ("escape", (Token.ofPattern escaped).joined),
  ("slashes", (Token.ofPattern "//").withPrecedence 2 |>.joined),
  ("line", .ofPattern .line),
  ("plain line", (Token.ofPattern .line).withPrecedence 1 |>.joined),
  ("inner mark", (Token.ofText "!").withPrecedence 2 |>.joined),
  ("outer mark", (Token.ofText "/").withPrecedence 2 |>.joined),
  ("identifier", .ofPattern (.all [
    .opt "r#", .one fun c => c == '_' || Text.isXidStart c,
    .many (.one Text.isXidContinue)])),
  ("shebang", .ofPattern (.all [
    "#!", .many (.oneOf "\r\x0c\t\x0b "), .opt (.seq (.noneOf "[\n") .line), "\n"])),
  ("metavariable", .ofPattern (.all [
    "$", .one fun c => c.isAlpha || c == '_', .many (.one Text.isXidContinue)]))]

def grammar : RuleSet where
  rules := macros ++ items ++ imports ++ types ++ operations ++ control ++ patterns ++ literals
  tokens := tokens
  gap := Text.isWhite
  extras := ["line_comment", "block_comment"]
  scanned := [
    ref "string_content", ref "_raw_string_literal_start", ref "raw_string_literal_content",
    ref "_raw_string_literal_end", ref "float_literal", ref "_outer_block_doc_comment_marker",
    ref "_inner_block_doc_comment_marker", ref "_block_comment_content",
    ref "_line_doc_content", ref "_error_sentinel"]
  unnamed := ["_expression", "_type", "_literal", "_literal_pattern", "_declaration_statement",
    "_pattern"]
  inlined := ["_path", "_type_identifier", "_tokens", "_field_identifier", "_non_special_token",
    "_declaration_statement", "_reserved_identifier", "_expression_ending_with_block"]
  word := "identifier"
  orders := []

end LineScope.Grammar.Rust
