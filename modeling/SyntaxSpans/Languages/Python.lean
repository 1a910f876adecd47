import SyntaxSpans.Kinds.Registry
import SyntaxSpans.Languages.PythonContext

set_option autoImplicit false

namespace SyntaxSpans.Python

def grammar : Grammar where
  symbols :=
  [(1, "identifier"), (88, "ellipsis"), (89, "escape_sequence"), (92, "type_conversion"),
    (93, "integer"), (94, "float"), (96, "true"), (97, "false"), (98, "none"), (99, "comment"),
    (100, "line_continuation"), (104, "string_start"), (106, "escape_interpolation"),
    (107, "string_end"), (108, "module"), (111, "import_statement"), (112, "import_prefix"),
    (113, "relative_import"), (114, "future_import_statement"), (115, "import_from_statement"),
    (117, "aliased_import"), (118, "wildcard_import"), (119, "print_statement"), (120, "chevron"),
    (121, "assert_statement"), (122, "expression_statement"), (123, "named_expression"),
    (125, "return_statement"), (126, "delete_statement"), (127, "raise_statement"),
    (128, "pass_statement"), (129, "break_statement"), (130, "continue_statement"),
    (131, "if_statement"), (132, "elif_clause"), (133, "else_clause"), (134, "match_statement"),
    (135, "block"), (136, "case_clause"), (137, "for_statement"), (138, "while_statement"),
    (139, "try_statement"), (140, "except_clause"), (141, "except_group_clause"),
    (142, "finally_clause"), (143, "with_statement"), (144, "with_clause"), (145, "with_item"),
    (146, "function_definition"), (147, "parameters"), (148, "lambda_parameters"),
    (149, "list_splat"), (150, "dictionary_splat"), (151, "global_statement"),
    (152, "nonlocal_statement"), (153, "exec_statement"), (154, "type_alias_statement"),
    (155, "class_definition"), (156, "type_parameter"), (157, "parenthesized_list_splat"),
    (158, "argument_list"), (159, "decorated_definition"), (160, "decorator"), (161, "block"),
    (162, "expression_list"), (163, "dotted_name"), (164, "case_pattern"), (166, "as_pattern"),
    (167, "union_pattern"), (168, "list_pattern"), (169, "tuple_pattern"), (170, "dict_pattern"),
    (172, "keyword_pattern"), (173, "splat_pattern"), (174, "class_pattern"),
    (175, "complex_pattern"), (180, "tuple_pattern"), (181, "list_pattern"),
    (182, "default_parameter"), (183, "typed_default_parameter"), (184, "list_splat_pattern"),
    (185, "dictionary_splat_pattern"), (186, "as_pattern"), (190, "not_operator"),
    (191, "boolean_operator"), (192, "binary_operator"), (193, "unary_operator"),
    (196, "comparison_operator"), (197, "lambda"), (198, "lambda"), (199, "assignment"),
    (200, "augmented_assignment"), (201, "pattern_list"), (203, "yield"), (204, "attribute"),
    (205, "subscript"), (206, "slice"), (207, "call"), (208, "typed_parameter"), (209, "type"),
    (210, "splat_type"), (211, "generic_type"), (212, "union_type"), (213, "constrained_type"),
    (214, "member_type"), (215, "keyword_argument"), (216, "list"), (217, "set"), (218, "tuple"),
    (219, "dictionary"), (220, "pair"), (221, "list_comprehension"),
    (222, "dictionary_comprehension"), (223, "set_comprehension"), (224, "generator_expression"),
    (226, "parenthesized_expression"), (228, "for_in_clause"), (229, "if_clause"),
    (230, "conditional_expression"), (231, "concatenated_string"), (232, "string"),
    (233, "string_content"), (234, "interpolation"), (237, "format_specifier"), (238, "await"),
    (239, "positional_separator"), (240, "keyword_separator"), (273, "as_pattern_target"),
    (274, "format_expression")]

def table : Table where
  language := "python"
  declarations :=
    [(.classDef, "class_definition"), (.function, "function_definition"),
      (.field, "identifier"), (.field, "attribute")]
  comments := ["comment"]
  statementComments := ["expression_statement"]
  refined := [.property]
  rule := some contextRule

def registry : Registry := .build grammar table

end SyntaxSpans.Python
