import SyntaxSpans.Kinds.Registry

set_option autoImplicit false

namespace SyntaxSpans.Java

def grammar : Grammar where
  symbols :=
  [(1, "identifier"), (2, "decimal_integer_literal"), (3, "hex_integer_literal"),
    (4, "octal_integer_literal"), (5, "binary_integer_literal"),
    (6, "decimal_floating_point_literal"), (7, "hex_floating_point_literal"), (8, "true"),
    (9, "false"), (10, "character_literal"), (13, "string_fragment"), (19, "escape_sequence"),
    (20, "null_literal"), (75, "underscore_pattern"), (130, "boolean_type"), (131, "void_type"),
    (134, "this"), (135, "super"), (136, "line_comment"), (137, "block_comment"), (138, "program"),
    (141, "string_literal"), (144, "multiline_string_fragment"), (145, "string_interpolation"),
    (148, "cast_expression"), (149, "assignment_expression"), (150, "binary_expression"),
    (151, "instanceof_expression"), (152, "lambda_expression"), (153, "inferred_parameters"),
    (154, "ternary_expression"), (155, "unary_expression"), (156, "update_expression"),
    (158, "array_creation_expression"), (159, "dimensions_expr"),
    (160, "parenthesized_expression"), (161, "class_literal"), (162, "object_creation_expression"),
    (164, "field_access"), (165, "template_expression"), (166, "array_access"),
    (167, "method_invocation"), (168, "argument_list"), (169, "method_reference"),
    (170, "type_arguments"), (171, "wildcard"), (173, "dimensions"), (174, "switch_expression"),
    (175, "switch_block"), (176, "switch_block_statement_group"), (177, "switch_rule"),
    (178, "switch_label"), (179, "pattern"), (180, "type_pattern"), (181, "record_pattern"),
    (182, "record_pattern_body"), (183, "record_pattern_component"), (184, "guard"),
    (186, "block"), (187, "expression_statement"), (188, "labeled_statement"),
    (189, "assert_statement"), (190, "do_statement"), (191, "break_statement"),
    (192, "continue_statement"), (193, "return_statement"), (194, "yield_statement"),
    (195, "synchronized_statement"), (196, "throw_statement"), (197, "try_statement"),
    (198, "catch_clause"), (199, "catch_formal_parameter"), (200, "catch_type"),
    (201, "finally_clause"), (202, "try_with_resources_statement"),
    (203, "resource_specification"), (204, "resource"), (205, "if_statement"),
    (206, "while_statement"), (207, "for_statement"), (208, "enhanced_for_statement"),
    (210, "marker_annotation"), (211, "annotation"), (212, "annotation_argument_list"),
    (213, "element_value_pair"), (215, "element_value_array_initializer"),
    (217, "module_declaration"), (218, "module_body"), (220, "requires_module_directive"),
    (221, "requires_modifier"), (222, "exports_module_directive"), (223, "opens_module_directive"),
    (224, "uses_module_directive"), (225, "provides_module_directive"),
    (226, "package_declaration"), (227, "import_declaration"), (228, "asterisk"),
    (229, "enum_declaration"), (230, "enum_body"), (231, "enum_body_declarations"),
    (232, "enum_constant"), (233, "class_declaration"), (234, "modifiers"),
    (235, "type_parameters"), (236, "type_parameter"), (237, "type_bound"), (238, "superclass"),
    (239, "super_interfaces"), (240, "type_list"), (241, "permits"), (242, "class_body"),
    (243, "static_initializer"), (244, "constructor_declaration"), (246, "constructor_body"),
    (247, "explicit_constructor_invocation"), (248, "scoped_identifier"),
    (249, "field_declaration"), (250, "record_declaration"), (251, "annotation_type_declaration"),
    (252, "annotation_type_body"), (253, "annotation_type_element_declaration"),
    (255, "interface_declaration"), (256, "extends_interfaces"), (257, "interface_body"),
    (258, "constant_declaration"), (260, "variable_declarator"), (262, "array_initializer"),
    (265, "annotated_type"), (266, "scoped_type_identifier"), (267, "generic_type"),
    (268, "array_type"), (269, "integral_type"), (270, "floating_point_type"),
    (273, "formal_parameters"), (274, "formal_parameter"), (275, "receiver_parameter"),
    (276, "spread_parameter"), (277, "throws"), (278, "local_variable_declaration"),
    (279, "method_declaration"), (280, "compact_constructor_declaration"),
    (320, "type_identifier")]

def table : Table where
  language := "java"
  declarations :=
    [(.classDef, "class_declaration"), (.function, "method_declaration"),
      (.function, "constructor_declaration"), (.field, "field_declaration"),
      (.field, "constant_declaration")]
  comments := ["line_comment", "block_comment"]
  statementComments := []
  refined := []
  rule := none

def registry : Registry := .build grammar table

end SyntaxSpans.Java
