import SyntaxSpans.Kinds.Registry

set_option autoImplicit false

namespace SyntaxSpans.CSharp

def grammar : Grammar where
  symbols :=
  [(104, "predefined_type"), (126, "discard"), (169, "null_literal"),
    (171, "character_literal_content"), (172, "integer_literal"), (173, "real_literal"),
    (175, "string_literal_content"), (176, "escape_sequence"), (177, "string_literal_encoding"),
    (178, "verbatim_string_literal"), (185, "preproc_arg"), (203, "shebang_directive"),
    (204, "comment"), (206, "interpolation_start"), (207, "interpolation_start"),
    (208, "interpolation_start"), (211, "interpolation_brace"), (212, "interpolation_brace"),
    (213, "string_content"), (214, "raw_string_start"), (215, "raw_string_end"),
    (216, "raw_string_content"), (217, "compilation_unit"), (219, "global_statement"),
    (220, "extern_alias_directive"), (221, "using_directive"), (222, "global_attribute"),
    (223, "attribute"), (224, "attribute_argument_list"), (225, "attribute_argument"),
    (226, "attribute_list"), (228, "attribute_target_specifier"), (229, "namespace_declaration"),
    (230, "file_scoped_namespace_declaration"), (232, "class_declaration"),
    (234, "struct_declaration"), (236, "enum_declaration"), (238, "enum_member_declaration_list"),
    (239, "enum_member_declaration"), (240, "interface_declaration"),
    (242, "delegate_declaration"), (244, "record_declaration"), (246, "base_list"),
    (248, "primary_constructor_base_type"), (249, "modifier"), (250, "type_parameter_list"),
    (251, "type_parameter"), (252, "base_list"), (253, "type_parameter_constraints_clause"),
    (254, "type_parameter_constraint"), (255, "constructor_constraint"),
    (256, "operator_declaration"), (257, "conversion_operator_declaration"),
    (258, "declaration_list"), (260, "field_declaration"), (261, "constructor_declaration"),
    (263, "destructor_declaration"), (264, "method_declaration"), (265, "event_declaration"),
    (266, "event_field_declaration"), (267, "accessor_list"), (268, "accessor_declaration"),
    (269, "indexer_declaration"), (270, "bracketed_parameter_list"), (271, "property_declaration"),
    (272, "explicit_interface_specifier"), (273, "parameter_list"), (274, "parameter"),
    (276, "constructor_initializer"), (277, "argument_list"), (278, "tuple_pattern"),
    (279, "argument"), (280, "block"), (281, "arrow_expression_clause"),
    (283, "variable_declaration"), (284, "variable_declaration"), (285, "variable_declarator"),
    (286, "variable_declarator"), (287, "bracketed_argument_list"), (289, "alias_qualified_name"),
    (291, "qualified_name"), (292, "generic_name"), (293, "type_argument_list"),
    (295, "implicit_type"), (296, "array_type"), (298, "array_rank_specifier"),
    (299, "nullable_type"), (300, "pointer_type"), (302, "function_pointer_type"),
    (303, "calling_convention"), (304, "function_pointer_parameter"), (305, "ref_type"),
    (307, "scoped_type"), (309, "tuple_type"), (310, "tuple_element"), (312, "break_statement"),
    (313, "checked_statement"), (314, "continue_statement"), (315, "do_statement"),
    (316, "empty_statement"), (317, "expression_statement"), (318, "fixed_statement"),
    (319, "for_statement"), (321, "return_statement"), (322, "lock_statement"),
    (323, "yield_statement"), (324, "switch_statement"), (325, "switch_body"),
    (326, "switch_section"), (327, "throw_statement"), (328, "try_statement"),
    (329, "catch_clause"), (330, "catch_declaration"), (331, "catch_filter_clause"),
    (332, "finally_clause"), (333, "unsafe_statement"), (334, "using_statement"),
    (335, "foreach_statement"), (337, "goto_statement"), (338, "labeled_statement"),
    (339, "if_statement"), (340, "while_statement"), (341, "local_declaration_statement"),
    (342, "local_function_statement"), (345, "recursive_pattern"), (346, "constant_pattern"),
    (347, "invocation_expression"), (348, "invocation_expression"), (349, "parenthesized_pattern"),
    (350, "var_pattern"), (351, "type_pattern"), (352, "list_pattern"), (353, "recursive_pattern"),
    (354, "positional_pattern_clause"), (355, "property_pattern_clause"), (356, "subpattern"),
    (357, "relational_pattern"), (358, "negated_pattern"), (359, "and_pattern"),
    (360, "or_pattern"), (361, "declaration_pattern"), (363, "parenthesized_variable_designation"),
    (368, "assignment_expression"), (369, "binary_expression"), (370, "postfix_unary_expression"),
    (371, "prefix_unary_expression"), (372, "prefix_unary_expression"), (373, "query_expression"),
    (374, "from_clause"), (377, "join_clause"), (380, "join_into_clause"), (381, "let_clause"),
    (382, "order_by_clause"), (384, "where_clause"), (386, "group_clause"), (387, "select_clause"),
    (388, "conditional_expression"), (389, "conditional_access_expression"),
    (390, "as_expression"), (391, "is_expression"), (392, "is_pattern_expression"),
    (393, "cast_expression"), (394, "checked_expression"), (395, "invocation_expression"),
    (396, "switch_expression"), (398, "switch_expression_arm"), (399, "when_clause"),
    (400, "await_expression"), (401, "throw_expression"), (402, "element_access_expression"),
    (403, "interpolated_string_expression"), (407, "interpolation"),
    (408, "interpolation_alignment_clause"), (409, "interpolation_format_clause"),
    (410, "member_access_expression"), (411, "member_binding_expression"),
    (412, "object_creation_expression"), (413, "parenthesized_expression"),
    (414, "parenthesized_expression"), (415, "lambda_expression"),
    (418, "array_creation_expression"), (419, "anonymous_method_expression"),
    (420, "anonymous_object_creation_expression"), (422, "implicit_array_creation_expression"),
    (423, "implicit_object_creation_expression"), (424, "implicit_stackalloc_expression"),
    (425, "collection_expression"), (426, "collection_element"), (427, "expression_element"),
    (428, "spread_element"), (429, "initializer_expression"), (430, "declaration_expression"),
    (431, "default_expression"), (432, "with_expression"), (434, "with_initializer"),
    (435, "sizeof_expression"), (436, "typeof_expression"), (437, "makeref_expression"),
    (438, "ref_expression"), (439, "reftype_expression"), (440, "refvalue_expression"),
    (441, "stackalloc_expression"), (442, "range_expression"), (443, "tuple_expression"),
    (445, "character_literal"), (446, "string_literal"), (447, "raw_string_literal"),
    (448, "boolean_literal"), (449, "identifier"), (451, "preproc_if"), (452, "preproc_else"),
    (453, "preproc_elif"), (454, "preproc_if"), (455, "preproc_else"), (456, "preproc_elif"),
    (457, "preproc_if"), (458, "preproc_else"), (459, "preproc_elif"), (460, "preproc_if"),
    (461, "preproc_else"), (462, "preproc_elif"), (463, "preproc_if_in_attribute_list"),
    (464, "preproc_else"), (465, "preproc_elif"), (467, "parenthesized_expression"),
    (468, "unary_expression"), (469, "binary_expression"), (470, "preproc_region"),
    (471, "preproc_endregion"), (472, "preproc_line"), (473, "preproc_pragma"),
    (474, "preproc_nullable"), (475, "preproc_error"), (476, "preproc_warning"),
    (477, "preproc_define"), (478, "preproc_undef"), (530, "element_binding_expression"),
    (531, "implicit_parameter"), (532, "interpolation_quote")]

def table : Table where
  language := "csharp"
  declarations :=
    [(.classDef, "class_declaration"), (.function, "method_declaration"),
      (.property, "property_declaration"), (.field, "field_declaration"),
      (.namespaceDef, "namespace_declaration")]
  comments := ["comment"]
  statementComments := []
  refined := []
  rule := none

def registry : Registry := .build grammar table

end SyntaxSpans.CSharp
