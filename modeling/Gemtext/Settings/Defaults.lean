import Gemtext.Settings.Basic

/-!
# The built-in settings

The settings that hold unless others are given, as values and as the text that they are read from.
-/

namespace Gemtext

namespace Settings

/-- The settings that hold unless others are given. -/
def default : Settings where
  render := {
    codeTag := []
    imgTag := "[IMG]".toList
    indent := ['2']
    asciiTable := false
    links := "newline".toList
    plain := false
    stripHtml := false
    baseUrl := []
    mdLinks := false
    tableTag := "table".toList
    checklist := true
    frontmatter := false
    maxTableWidth := 80 }
  output := {
    write := false
    dir := ['.'] }

/-- The lines of the built-in settings. -/
def defaultLines : List String := [
  "# Built-in md2gmi defaults.",
  "#",
  "# Every key can be overridden by `md2gmi.toml` in the working directory, by a file passed",
  "# with `--config`, or by the matching command line flag.",
  "",
  "[render]",
  "# Fence alt text for code blocks without a language",
  "code_tag = \"\"",
  "# Appended to image link lines, leave empty to omit",
  "img_tag = \"[IMG]\"",
  "# List indentation per nesting level: a number of spaces, or \"tab\"",
  "indent = \"2\"",
  "# Draw tables with ASCII characters instead of box drawing",
  "ascii_table = false",
  "# off | newline | paragraph | at-end | copy",
  "links = \"newline\"",
  "# Drop emphasis markers, code backticks and inline HTML",
  "plain = false",
  "# Drop all HTML",
  "strip_html = false",
  "# Prefix for links starting with \"/\"",
  "base_url = \"\"",
  "# Rewrite relative links to .md files into .gmi",
  "md_links = false",
  "# Fence alt text for tables",
  "table_tag = \"table\"",
  "# Task list items as ■ / □ instead of [x] / [ ]",
  "checklist = true",
  "# Remove a leading --- or +++ frontmatter block",
  "frontmatter = false",
  "# Maximum table width in columns, 0 for unlimited",
  "max_table_width = 80",
  "",
  "[output]",
  "# Write <name>.gmi files instead of printing to stdout",
  "write = false",
  "# Directory for written files",
  "dir = \".\""]

/-- The text of the built-in settings. -/
def defaultText : Text :=
  defaultLines.flatMap fun line => line.toList ++ ['\n']

end Settings

end Gemtext
