import Literate.Text.Basic

/-! # The documents of the self test

A small document that uses everything a document can hold (replaced and appended blocks, filters,
protected delimiters, an include, extension code and conditions) and the document it includes. Tangling
it gives a program that binds one name, or one entry of a table, per thing that is tested. -/

namespace Literate.SelfTest

def documentLines : List String :=
  ["# mdtangle self test",
   "",
   "``` python !",
   "filters.register(\"shout\", LineFilter(lambda line: line.upper()))",
   "blocks[\"from-extension\"] = [\"from_extension = True\"]",
   "selftest_flag = True",
   "```",
   "",
   "``` python",
   "block_replacement = True",
   "replaced_block = False",
   "block_appendment = False",
   "⦅replaced-block⦆",
   "⦅appended-block⦆",
   "insertion_works_with_spaces = False",
   "⦅ spaced-insertion ⦆",
   "escaped_string = '\\⦅macro_description\\⦆'",
   "two_macros = \"⦅foo⦆ ⦅foo⦆\"",
   "string_with_backslash = \"⦅string-with-backslash | string_escape⦆\"",
   "some_text = ⦅some-text | double_quote⦆",
   "some_indented_text = \"⦅some-text | indent_lines⦆\"",
   "items = [⦅item-list | add_comma⦆]",
   "continued = ⦅continuation-list | indent_continuation⦆",
   "shouted = \"⦅shout-me | shout⦆\"",
   "included_string = \"⦅included-string⦆\"",
   "from_extension = False",
   "⦅from-extension⦆",
   "conditional_results = \x7b\x7d",
   "⦅conditional-checks⦆",
   "```",
   "",
   "``` python replaced-block",
   "replaced_block = False",
   "```",
   "",
   "``` python =replaced-block",
   "# this is the replacement",
   "replaced_block = True",
   "```",
   "",
   "``` python appended-block",
   "# appended code gets injected",
   "```",
   "",
   "``` python appended-block",
   "block_appendment = True",
   "```",
   "",
   "``` python spaced-insertion",
   "insertion_works_with_spaces = True",
   "```",
   "",
   "``` text foo",
   "foo",
   "```",
   "",
   "``` text string-with-backslash",
   "this string ends in \\.",
   "```",
   "",
   "``` text some-text",
   "some text",
   "```",
   "",
   "``` text item-list",
   "'item 1'",
   "'item 2'",
   "```",
   "",
   "``` text continuation-list",
   "(1 +",
   "2)",
   "```",
   "",
   "``` text shout-me",
   "quiet",
   "```",
   "",
   "``` text included-string",
   "I came from the main document",
   "```",
   "",
   "``` python conditional-checks",
   "! if True",
   "conditional_results[\"if-true-elsif-true\"] = \"if\"",
   "! elsif True",
   "conditional_results[\"if-true-elsif-true\"] = \"elsif\"",
   "! else",
   "conditional_results[\"if-true-elsif-true\"] = \"else\"",
   "! end",
   "! if selftest_flag",
   "conditional_results[\"if-true-elsif-false\"] = \"if\"",
   "! elsif False",
   "conditional_results[\"if-true-elsif-false\"] = \"elsif\"",
   "! else",
   "conditional_results[\"if-true-elsif-false\"] = \"else\"",
   "! end",
   "! if False",
   "conditional_results[\"if-false-elsif-true\"] = \"if\"",
   "! elsif selftest_flag",
   "conditional_results[\"if-false-elsif-true\"] = \"elsif\"",
   "! else",
   "conditional_results[\"if-false-elsif-true\"] = \"else\"",
   "! end",
   "! if False",
   "conditional_results[\"if-false-elsif-false\"] = \"if\"",
   "! elsif not selftest_flag",
   "conditional_results[\"if-false-elsif-false\"] = \"elsif\"",
   "! else",
   "conditional_results[\"if-false-elsif-false\"] = \"else\"",
   "! end",
   "! if True",
   "conditional_results[\"if-true-else\"] = \"if\"",
   "! else",
   "conditional_results[\"if-true-else\"] = \"else\"",
   "! end",
   "! if False",
   "conditional_results[\"if-false-else\"] = \"if\"",
   "! else",
   "conditional_results[\"if-false-else\"] = \"else\"",
   "! end",
   "```",
   "",
   "! include [Included replacements](selftest_include.lmd)"]

def includeLines : List String :=
  ["# Included by the self test",
   "",
   "``` text =included-string",
   "I came from selftest_include.lmd",
   "```"]

/-- The text of lines, each ended by a line feed. -/
def textOf (lines : List String) : Text := lines.flatMap fun line => line.toList ++ ['\n']

/-- The texts of the two documents. -/
structure Documents where
  document : Text := textOf documentLines
  included : Text := textOf includeLines

end Literate.SelfTest
