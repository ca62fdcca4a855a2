import Gemtext.Settings.Setting

/-!
# Keys of settings

The settings that are read, with the group that each of them stands in and its name there.
-/

namespace Gemtext

/-- A group of settings. -/
inductive SettingGroup where
  | render
  | output
  deriving DecidableEq, Repr

/-- The name of the group. -/
def SettingGroup.name : SettingGroup → Text
  | render => "render".toList
  | output => "output".toList

/-- A setting, by its key. -/
inductive SettingKey where
  | codeTag
  | imgTag
  | indent
  | asciiTable
  | links
  | plain
  | stripHtml
  | baseUrl
  | mdLinks
  | tableTag
  | checklist
  | frontmatter
  | maxTableWidth
  | write
  | dir
  deriving DecidableEq, Repr

namespace SettingKey

/-- All keys, in the order in which they are read. -/
def all : List SettingKey :=
  [codeTag, imgTag, indent, asciiTable, links, plain, stripHtml, baseUrl, mdLinks, tableTag,
    checklist, frontmatter, maxTableWidth, write, dir]

/-- The group that holds the setting. -/
def group : SettingKey → SettingGroup
  | write => .output
  | dir => .output
  | _ => .render

/-- The name of the setting in its group. -/
def name : SettingKey → Text
  | codeTag => "code_tag".toList
  | imgTag => "img_tag".toList
  | indent => "indent".toList
  | asciiTable => "ascii_table".toList
  | links => "links".toList
  | plain => "plain".toList
  | stripHtml => "strip_html".toList
  | baseUrl => "base_url".toList
  | mdLinks => "md_links".toList
  | tableTag => "table_tag".toList
  | checklist => "checklist".toList
  | frontmatter => "frontmatter".toList
  | maxTableWidth => "max_table_width".toList
  | write => "write".toList
  | dir => "dir".toList

/-- The key as it is written: the group and the name with a dot between them. -/
def path (k : SettingKey) : Text :=
  k.group.name ++ '.' :: k.name

end SettingKey

end Gemtext
