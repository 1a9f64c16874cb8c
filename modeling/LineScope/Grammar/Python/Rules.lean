import LineScope.Grammar.Rule
import LineScope.Text.Identifier

/-!
# The grammar of Python

Statements, patterns, types and expressions, as rules over tokens. Names of rules and fields are those of
the nodes; a rule whose name begins with an underscore makes no node.
-/
namespace LineScope.Grammar.Python

open Rule

/-- A rule one or more times, with commas between. -/
def commaSep1 (r : Rule) : Rule := sepBy1 "," r

/-! ## Precedences

How strongly constructs bind: the higher, the more strongly. -/

namespace Level

def lambda : Int := -2
def typedParameter : Int := -1
def conditional : Int := -1
def parenthesized : Int := 1
def or : Int := 10
def and : Int := 11
def not : Int := 12
def compare : Int := 13
def bitwiseOr : Int := 14
def bitwiseAnd : Int := 15
def xor : Int := 16
def shift : Int := 17
def plus : Int := 18
def times : Int := 19
def unary : Int := 20
def power : Int := 21
def call : Int := 22

end Level

/-! ## Statements -/

def importedNames : List Rule :=
  [ref "_import_list", all ["(", ref "_import_list", ")"]]

/-- Whole texts and statements on one line. -/
def simpleStatements : List (String × Rule) := [
  ("module", many (ref "_statement")),
  ("_statement", any [ref "_simple_statements", ref "_compound_statement"]),
  ("_simple_statements",
    all [sepBy1 ";" (ref "_simple_statement"), opt ";", ref "_newline"]),
  ("_simple_statement", any [
    ref "future_import_statement", ref "import_statement", ref "import_from_statement",
    ref "print_statement", ref "assert_statement", ref "expression_statement",
    ref "return_statement", ref "delete_statement", ref "raise_statement", ref "pass_statement",
    ref "break_statement", ref "continue_statement", ref "global_statement",
    ref "nonlocal_statement", ref "exec_statement", ref "type_alias_statement"]),
  ("import_statement", all ["import", ref "_import_list"]),
  ("import_prefix", .many1 "."),
  ("relative_import", all [ref "import_prefix", opt (ref "dotted_name")]),
  ("future_import_statement", all ["from", "__future__", "import", any importedNames]),
  ("import_from_statement", all [
    "from", role "module_name" (any [ref "relative_import", ref "dotted_name"]), "import",
    any (ref "wildcard_import" :: importedNames)]),
  ("_import_list", all [
    commaSep1 (role "name" (any [ref "dotted_name", ref "aliased_import"])), opt ","]),
  ("aliased_import", all [
    role "name" (ref "dotted_name"), "as", role "alias" (ref "identifier")]),
  ("wildcard_import", "*"),
  ("print_statement", any [
    prec 1 (all [
      "print", ref "chevron", many (all [",", role "argument" (ref "expression")]), opt ","]),
    prec (-3) (weigh (-1) (all [
      "print", commaSep1 (role "argument" (ref "expression")), opt ","]))]),
  ("chevron", all [">>", ref "expression"]),
  ("assert_statement", all ["assert", commaSep1 (ref "expression")]),
  ("expression_statement", any [
    ref "expression", all [commaSep1 (ref "expression"), opt ","], ref "assignment",
    ref "augmented_assignment", ref "yield"]),
  ("named_expression", all [
    role "name" (ref "_named_expression_lhs"), ":=", role "value" (ref "expression")]),
  ("_named_expression_lhs", any [ref "identifier", ref "keyword_identifier"]),
  ("return_statement", all ["return", opt (ref "_expressions")]),
  ("delete_statement", all ["del", ref "_expressions"]),
  ("_expressions", any [ref "expression", ref "expression_list"]),
  ("raise_statement", all [
    "raise", opt (ref "_expressions"), optAll ["from", role "cause" (ref "expression")]]),
  ("pass_statement", left 0 "pass"),
  ("break_statement", left 0 "break"),
  ("continue_statement", left 0 "continue")]

/-- The clauses that may follow the handlers of exceptions. -/
def afterHandlers : List Rule := [opt (ref "else_clause"), opt (ref "finally_clause")]

/-- Statements with bodies. -/
def compoundStatements : List (String × Rule) := [
  ("_compound_statement", any [
    ref "if_statement", ref "for_statement", ref "while_statement", ref "try_statement",
    ref "with_statement", ref "function_definition", ref "class_definition",
    ref "decorated_definition", ref "match_statement"]),
  ("if_statement", all [
    "if", role "condition" (ref "expression"), ":", role "consequence" (ref "_suite"),
    many (role "alternative" (ref "elif_clause")), opt (role "alternative" (ref "else_clause"))]),
  ("elif_clause", all [
    "elif", role "condition" (ref "expression"), ":", role "consequence" (ref "_suite")]),
  ("else_clause", all ["else", ":", role "body" (ref "_suite")]),
  ("match_statement", all [
    "match", commaSep1 (role "subject" (ref "expression")), opt ",", ":",
    role "body" (as "block" (ref "_match_block"))]),
  ("_match_block", any [
    all [ref "_indent", many (role "alternative" (ref "case_clause")), ref "_dedent"],
    ref "_newline"]),
  ("case_clause", all [
    "case", commaSep1 (ref "case_pattern"), opt ",", opt (role "guard" (ref "if_clause")), ":",
    role "consequence" (ref "_suite")]),
  ("for_statement", all [
    opt "async", "for", role "left" (ref "_left_hand_side"), "in",
    role "right" (ref "_expressions"), ":", role "body" (ref "_suite"),
    role "alternative" (opt (ref "else_clause"))]),
  ("while_statement", all [
    "while", role "condition" (ref "expression"), ":", role "body" (ref "_suite"),
    opt (role "alternative" (ref "else_clause"))]),
  ("try_statement", all [
    "try", ":", role "body" (ref "_suite"), any [
      all (.many1 (ref "except_clause") :: afterHandlers),
      all (.many1 (ref "except_group_clause") :: afterHandlers),
      ref "finally_clause"]]),
  ("except_clause", all [
    "except", optAll [ref "expression", optAll [any ["as", ","], ref "expression"]], ":",
    ref "_suite"]),
  ("except_group_clause", all [
    "except*", all [ref "expression", optAll ["as", ref "expression"]], ":", ref "_suite"]),
  ("finally_clause", all ["finally", ":", ref "_suite"]),
  ("with_statement", all [
    opt "async", "with", ref "with_clause", ":", role "body" (ref "_suite")]),
  ("with_clause", any [
    all [commaSep1 (ref "with_item"), opt ","],
    all ["(", commaSep1 (ref "with_item"), opt ",", ")"]]),
  ("with_item", weigh 1 (all [role "value" (ref "expression")])),
  ("function_definition", all [
    opt "async", "def", role "name" (ref "identifier"),
    role "type_parameters" (opt (ref "type_parameter")), role "parameters" (ref "parameters"),
    optAll ["->", role "return_type" (ref "type")], ":", role "body" (ref "_suite")]),
  ("parameters", all ["(", opt (ref "_parameters"), ")"]),
  ("lambda_parameters", ref "_parameters"),
  ("list_splat", all ["*", ref "expression"]),
  ("dictionary_splat", all ["**", ref "expression"]),
  ("global_statement", all ["global", commaSep1 (ref "identifier")]),
  ("nonlocal_statement", all ["nonlocal", commaSep1 (ref "identifier")]),
  ("exec_statement", all [
    "exec", role "code" (any [ref "string", ref "identifier"]),
    optAll ["in", commaSep1 (ref "expression")]]),
  ("type_alias_statement", weigh 1 (all [
    "type", role "left" (ref "type"), "=", role "right" (ref "type")])),
  ("class_definition", all [
    "class", role "name" (ref "identifier"),
    role "type_parameters" (opt (ref "type_parameter")),
    role "superclasses" (opt (ref "argument_list")), ":", role "body" (ref "_suite")]),
  ("type_parameter", all ["[", commaSep1 (ref "type"), opt ",", "]"]),
  ("parenthesized_list_splat", prec Level.parenthesized (all [
    "(", any [as "parenthesized_expression" (ref "parenthesized_list_splat"), ref "list_splat"],
    ")"])),
  ("argument_list", all [
    "(", opt (commaSep1 (any [
      ref "expression", ref "list_splat", ref "dictionary_splat",
      as "parenthesized_expression" (ref "parenthesized_list_splat"),
      ref "keyword_argument"])), opt ",", ")"]),
  ("decorated_definition", all [
    .many1 (ref "decorator"),
    role "definition" (any [ref "class_definition", ref "function_definition"])]),
  ("decorator", all ["@", ref "expression", ref "_newline"]),
  ("_suite", any [
    as "block" (ref "_simple_statements"), all [ref "_indent", ref "block"],
    as "block" (ref "_newline")]),
  ("block", all [many (ref "_statement"), ref "_dedent"]),
  ("expression_list", right 0 (all [
    ref "expression",
    any [",", all [.many1 (all [",", ref "expression"]), opt ","]]])),
  ("dotted_name", prec 1 (sepBy1 "." (ref "identifier")))]

/-! ## Patterns -/

/-- Patterns one or more times, perhaps none, in brackets. -/
def bracketed (opening closing : String) (r : Rule) : Rule :=
  all [.text opening, optAll [commaSep1 r, opt ","], .text closing]

/-- A number in a pattern. -/
def patternNumber : Rule := any [ref "integer", ref "float"]

/-- What a starred pattern binds. -/
def splatTarget : Rule :=
  any [ref "identifier", ref "keyword_identifier", ref "subscript", ref "attribute"]

def patterns : List (String × Rule) := [
  ("case_pattern", prec 1 (any [
    as "as_pattern" (ref "_as_pattern"), ref "keyword_pattern", ref "_simple_pattern"])),
  ("_simple_pattern", prec 1 (any [
    ref "class_pattern", ref "splat_pattern", ref "union_pattern",
    as "list_pattern" (ref "_list_pattern"), as "tuple_pattern" (ref "_tuple_pattern"),
    ref "dict_pattern", ref "string", ref "concatenated_string", ref "true", ref "false",
    ref "none", all [opt "-", patternNumber], ref "complex_pattern", ref "dotted_name", "_"])),
  ("_as_pattern", all [ref "case_pattern", "as", ref "identifier"]),
  ("union_pattern", right 0 (all [
    ref "_simple_pattern", .many1 (left 0 (all ["|", ref "_simple_pattern"]))])),
  ("_list_pattern", bracketed "[" "]" (ref "case_pattern")),
  ("_tuple_pattern", bracketed "(" ")" (ref "case_pattern")),
  ("dict_pattern", bracketed "\x7b" "\x7d" (any [ref "_key_value_pattern", ref "splat_pattern"])),
  ("_key_value_pattern", all [
    role "key" (ref "_simple_pattern"), ":", role "value" (ref "case_pattern")]),
  ("keyword_pattern", all [ref "identifier", "=", ref "_simple_pattern"]),
  ("splat_pattern", prec 1 (all [any ["*", "**"], any [ref "identifier", "_"]])),
  ("class_pattern", all [ref "dotted_name", bracketed "(" ")" (ref "case_pattern")]),
  ("complex_pattern", prec 1 (all [opt "-", patternNumber, any ["+", "-"], patternNumber])),
  ("_parameters", all [commaSep1 (ref "parameter"), opt ","]),
  ("_patterns", all [commaSep1 (ref "pattern"), opt ","]),
  ("parameter", any [
    ref "identifier", ref "typed_parameter", ref "default_parameter",
    ref "typed_default_parameter", ref "list_splat_pattern", ref "tuple_pattern",
    ref "keyword_separator", ref "positional_separator", ref "dictionary_splat_pattern"]),
  ("pattern", any [
    ref "identifier", ref "keyword_identifier", ref "subscript", ref "attribute",
    ref "list_splat_pattern", ref "tuple_pattern", ref "list_pattern"]),
  ("tuple_pattern", all ["(", opt (ref "_patterns"), ")"]),
  ("list_pattern", all ["[", opt (ref "_patterns"), "]"]),
  ("default_parameter", all [
    role "name" (any [ref "identifier", ref "tuple_pattern"]), "=",
    role "value" (ref "expression")]),
  ("typed_default_parameter", prec Level.typedParameter (all [
    role "name" (ref "identifier"), ":", role "type" (ref "type"), "=",
    role "value" (ref "expression")])),
  ("list_splat_pattern", all ["*", splatTarget]),
  ("dictionary_splat_pattern", all ["**", splatTarget]),
  ("as_pattern", left 0 (all [
    ref "expression", "as", role "alias" (as "as_pattern_target" (ref "expression"))]))]

/-! ## Expressions -/

/-- A binary operator between two rules. -/
def between (operand : Rule) (operator : String) : Rule :=
  all [role "left" operand, role "operator" operator, role "right" operand]

/-- The operators on numbers, with the level of each. -/
def binaryOperators : List Rule :=
  let operand := ref "primary_expression"
  let grouped (level : Int) (operators : List String) : List Rule :=
    operators.map fun o => left level (between operand o)
  grouped Level.plus ["+", "-"] ++ grouped Level.times ["*", "@", "/", "%", "//"] ++
  [right Level.power (between operand "**")] ++
  grouped Level.bitwiseOr ["|"] ++ grouped Level.bitwiseAnd ["&"] ++ grouped Level.xor ["^"] ++
  grouped Level.shift ["<<", ">>"]

/-- The operators that assign what they compute. -/
def assigning : List Rule :=
  ["+=", "-=", "*=", "/=", "@=", "//=", "%=", "**=", ">>=", "<<=", "&=", "^=", "|="].map .text

def comparing : List Rule :=
  ["<", "<=", "==", "!=", ">=", ">", "<>", "in", as "not in" (ref "_not_in"), "is",
    as "is not" (ref "_is_not")]

def operations : List (String × Rule) := [
  ("_expression_within_for_in_clause", any [
    ref "expression", as "lambda" (ref "lambda_within_for_in_clause")]),
  ("expression", any [
    ref "comparison_operator", ref "not_operator", ref "boolean_operator", ref "lambda",
    ref "primary_expression", ref "conditional_expression", ref "named_expression",
    ref "as_pattern"]),
  ("primary_expression", any [
    ref "await", ref "binary_operator", ref "identifier", ref "keyword_identifier", ref "string",
    ref "concatenated_string", ref "integer", ref "float", ref "true", ref "false", ref "none",
    ref "unary_operator", ref "attribute", ref "subscript", ref "call", ref "list",
    ref "list_comprehension", ref "dictionary", ref "dictionary_comprehension", ref "set",
    ref "set_comprehension", ref "tuple", ref "parenthesized_expression",
    ref "generator_expression", ref "ellipsis", as "list_splat" (ref "list_splat_pattern")]),
  ("not_operator", prec Level.not (all ["not", role "argument" (ref "expression")])),
  ("boolean_operator", any [
    left Level.and (between (ref "expression") "and"),
    left Level.or (between (ref "expression") "or")]),
  ("binary_operator", any binaryOperators),
  ("unary_operator", prec Level.unary (all [
    role "operator" (any ["+", "-", "~"]), role "argument" (ref "primary_expression")])),
  ("_not_in", all ["not", "in"]),
  ("_is_not", all ["is", "not"]),
  ("comparison_operator", left Level.compare (all [
    ref "primary_expression",
    .many1 (all [role "operators" (any comparing), ref "primary_expression"])])),
  ("lambda", prec Level.lambda (all [
    "lambda", role "parameters" (opt (ref "lambda_parameters")), ":",
    role "body" (ref "expression")])),
  ("lambda_within_for_in_clause", all [
    "lambda", role "parameters" (opt (ref "lambda_parameters")), ":",
    role "body" (ref "_expression_within_for_in_clause")]),
  ("assignment", all [
    role "left" (ref "_left_hand_side"), any [
      all ["=", role "right" (ref "_right_hand_side")],
      all [":", role "type" (ref "type")],
      all [":", role "type" (ref "type"), "=", role "right" (ref "_right_hand_side")]]]),
  ("augmented_assignment", all [
    role "left" (ref "_left_hand_side"), role "operator" (any assigning),
    role "right" (ref "_right_hand_side")]),
  ("_left_hand_side", any [ref "pattern", ref "pattern_list"]),
  ("pattern_list", all [
    ref "pattern", any [",", all [.many1 (all [",", ref "pattern"]), opt ","]]]),
  ("_right_hand_side", any [
    ref "expression", ref "expression_list", ref "assignment", ref "augmented_assignment",
    ref "pattern_list", ref "yield"]),
  ("yield", right 0 (all [
    "yield", any [all ["from", ref "expression"], opt (ref "_expressions")]]))]

def accesses : List (String × Rule) := [
  ("attribute", prec Level.call (all [
    role "object" (ref "primary_expression"), ".", role "attribute" (ref "identifier")])),
  ("subscript", prec Level.call (all [
    role "value" (ref "primary_expression"), "[",
    commaSep1 (role "subscript" (any [ref "expression", ref "slice"])), opt ",", "]"])),
  ("slice", all [
    opt (ref "expression"), ":", opt (ref "expression"), optAll [":", opt (ref "expression")]]),
  ("ellipsis", "..."),
  ("call", prec Level.call (all [
    role "function" (ref "primary_expression"),
    role "arguments" (any [ref "generator_expression", ref "argument_list"])])),
  ("typed_parameter", prec Level.typedParameter (all [
    any [ref "identifier", ref "list_splat_pattern", ref "dictionary_splat_pattern"], ":",
    role "type" (ref "type")])),
  ("type", any [
    prec 1 (ref "expression"), ref "splat_type", ref "generic_type", ref "union_type",
    ref "constrained_type", ref "member_type"]),
  ("splat_type", prec 1 (all [any ["*", "**"], ref "identifier"])),
  ("generic_type", prec 1 (all [
    any [ref "identifier", as "identifier" "type"], ref "type_parameter"])),
  ("union_type", left 0 (all [ref "type", "|", ref "type"])),
  ("constrained_type", right 0 (all [ref "type", ":", ref "type"])),
  ("member_type", all [ref "type", ".", ref "identifier"]),
  ("keyword_argument", all [
    role "name" (any [ref "identifier", ref "keyword_identifier"]), "=",
    role "value" (ref "expression")])]

def displays : List (String × Rule) := [
  ("list", all ["[", opt (ref "_collection_elements"), "]"]),
  ("set", all ["\x7b", ref "_collection_elements", "\x7d"]),
  ("tuple", all ["(", opt (ref "_collection_elements"), ")"]),
  ("dictionary", all [
    "\x7b", opt (commaSep1 (any [ref "pair", ref "dictionary_splat"])), opt ",", "\x7d"]),
  ("pair", all [role "key" (ref "expression"), ":", role "value" (ref "expression")]),
  ("list_comprehension", all [
    "[", role "body" (ref "expression"), ref "_comprehension_clauses", "]"]),
  ("dictionary_comprehension", all [
    "\x7b", role "body" (ref "pair"), ref "_comprehension_clauses", "\x7d"]),
  ("set_comprehension", all [
    "\x7b", role "body" (ref "expression"), ref "_comprehension_clauses", "\x7d"]),
  ("generator_expression", all [
    "(", role "body" (ref "expression"), ref "_comprehension_clauses", ")"]),
  ("_comprehension_clauses", all [
    ref "for_in_clause", many (any [ref "for_in_clause", ref "if_clause"])]),
  ("parenthesized_expression", prec Level.parenthesized (all [
    "(", any [ref "expression", ref "yield"], ")"])),
  ("_collection_elements", all [
    commaSep1 (any [
      ref "expression", ref "yield", ref "list_splat", ref "parenthesized_list_splat"]),
    opt ","]),
  ("for_in_clause", left 0 (all [
    opt "async", "for", role "left" (ref "_left_hand_side"), "in",
    role "right" (commaSep1 (ref "_expression_within_for_in_clause")), opt ","])),
  ("if_clause", all ["if", ref "expression"]),
  ("conditional_expression", right Level.conditional (all [
    ref "expression", "if", ref "expression", "else", ref "expression"]))]

/-- What may follow the expression of an interpolation. -/
def interpolationEnd : List Rule :=
  [opt (role "type_conversion" (ref "type_conversion")),
    opt (role "format_specifier" (ref "format_specifier")), "\x7d"]

/-- Literals and words. -/
def literals : List (String × Rule) := [
  ("concatenated_string", all [ref "string", .many1 (ref "string")]),
  ("string", all [
    ref "string_start", many (any [ref "interpolation", ref "string_content"]),
    ref "string_end"]),
  ("string_content", right 0 (.many1 (any [
    ref "escape_interpolation", ref "escape_sequence", ref "_not_escape_sequence",
    ref "_string_content"]))),
  ("interpolation",
    all ([.text "\x7b", role "expression" (ref "_f_expression"), opt "="] ++ interpolationEnd)),
  ("_f_expression", any [
    ref "expression", ref "expression_list", ref "pattern_list", ref "yield"]),
  ("escape_sequence", .token "escape_sequence"),
  ("_not_escape_sequence", .token "backslash"),
  ("format_specifier", all [
    ":", many (any [.token "format", as "interpolation" (ref "format_expression")])]),
  ("format_expression",
    all ([.text "\x7b", role "expression" (ref "expression")] ++ interpolationEnd)),
  ("type_conversion", .token "type_conversion"),
  ("integer", .token "integer"),
  ("float", .token "float"),
  ("identifier", .token "identifier"),
  ("keyword_identifier", any [
    prec (-3) (as "identifier" (any ["print", "exec", "async", "await"])),
    as "identifier" (any ["type", "match"])]),
  ("true", "True"),
  ("false", "False"),
  ("none", "None"),
  ("await", prec Level.unary (all ["await", ref "primary_expression"])),
  ("comment", .token "comment"),
  ("line_continuation", .token "line_continuation"),
  ("positional_separator", "/"),
  ("keyword_separator", "*")]

/-! ## Tokens -/

def digits : Pattern := .many1 (.seq (.many1 .digit) (.opt "_"))

/-- Digits of a base, with underscores before runs of them. -/
def digitsAfter (marks : List Pattern) (digit : Pattern) : Pattern :=
  .all [.any marks, .many1 (.seq (.opt "_") (.many1 digit)), .opt (.oneOf "Ll")]

def exponent : Pattern := .all [.oneOf "eE", .opt (.oneOf "+-"), digits]

/-- The tokens that patterns describe. -/
def tokens : List (String × Token) := [
  ("escape_sequence", (Token.ofPattern (.seq "\\" (.any [
    .seq "u" (.times 4 .hexDigit),
    .seq "U" (.times 8 .hexDigit),
    .seq "x" (.times 2 .hexDigit),
    .seq .digit (.upTo 2 .digit),
    .seq (.opt "\r") "\n",
    .oneOf "'\"abfrntv\\",
    .all ["N\x7b", .many1 (.noneOf "\x7d"), "\x7d"]]))).withPrecedence 1 |>.joined),
  ("backslash", (Token.ofText "\\").joined),
  ("format", (Token.ofPattern (.many1 (.noneOf "\x7b\x7d\n"))).withPrecedence 1),
  ("type_conversion", .ofPattern (.seq "!" (.range 'a' 'z'))),
  ("integer", .ofPattern (.any [
    digitsAfter ["0x", "0X"] .hexDigit,
    digitsAfter ["0o", "0O"] (.range '0' '7'),
    digitsAfter ["0b", "0B"] (.range '0' '1'),
    .seq digits (.any [.opt (.oneOf "Ll"), .opt (.oneOf "jJ")])])),
  ("float", .ofPattern (.seq
    (.any [
      .all [digits, ".", .opt digits, .opt exponent],
      .all [.opt digits, ".", digits, .opt exponent],
      .seq digits exponent])
    (.opt (.oneOf "jJ")))),
  ("identifier", .ofPattern (.seq
    (.one fun c => c == '_' || Text.isXidStart c)
    (.many (.one Text.isXidContinue)))),
  ("comment", .ofPattern (.seq "#" .line)),
  ("line_continuation", (Token.ofPattern
    (.seq "\\" (.any [.seq (.opt "\r") "\n", "\x00"]))).withPrecedence 1)]

/-- White space, and the marks of no width that count as such. -/
def isGap (c : Char) : Bool :=
  Text.isWhite c || c == '\uFEFF' || c == '\u2060' || c == '\u200B'

def grammar : RuleSet where
  rules := simpleStatements ++ compoundStatements ++ patterns ++ operations ++ accesses ++
    displays ++ literals
  tokens := tokens
  gap := isGap
  extras := ["comment", "line_continuation"]
  scanned := [
    ref "_newline", ref "_indent", ref "_dedent", ref "string_start", ref "_string_content",
    ref "escape_interpolation", ref "string_end", ref "comment", "]", ")", "\x7d", "except"]
  unnamed := ["_simple_statement", "_compound_statement", "expression", "primary_expression",
    "pattern", "parameter"]
  inlined := ["_simple_statement", "_compound_statement", "_suite", "_expressions",
    "_left_hand_side", "keyword_identifier"]
  word := "identifier"
  orders := []

end LineScope.Grammar.Python
