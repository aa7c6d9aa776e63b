/-
Settings: which tags are marked, how, and where the templates are. Their type holds what every accepted value keeps:
the marker's attribute has an attribute name, the component prefix is not empty, and the extension starts with a
point.

`normalizeTags_nodup`: tag names are kept once each.
-/
import SourceMark.Dialect.Language
import SourceMark.Text.Blank
import SourceMark.Text.Lower

namespace SourceMark

namespace AttributeName

/-- the characters an attribute name may start with -/
def isHead (c : Char) : Bool :=
  c.isAlpha || c == '_' || c == ':'

/-- the characters an attribute name may go on with -/
def isTail (c : Char) : Bool :=
  c.isAlphanum || c == '_' || c == ':' || c == '.' || c == '-'

/-- the text without a line feed at its end -/
def dropFinalNewline (text : Text) : Text :=
  if text.getLast? = some '\n' then text.dropLast else text

/-- whether a text is taken as an attribute name; a line feed at its end is overlooked -/
def accepts : Text → Bool
  | [] => false
  | c :: rest => isHead c && (dropFinalNewline rest).all isTail

end AttributeName

/-- each text of the list once, where it comes first -/
def distinct : List Text → List Text
  | [] => []
  | text :: texts => text :: (distinct texts).filter (· != text)

theorem distinct_nodup (texts : List Text) : (distinct texts).Nodup := by
  induction texts with
  | nil => exact List.nodup_nil
  | cons text texts ih => exact List.nodup_cons.2 ⟨by simp, ih.sublist List.filter_sublist⟩

/-- tag names in small letters without blanks around them, the empty ones left out and each one once -/
def normalizeTags (tags : List Text) : List Text :=
  distinct ((tags.map fun tag => Text.lower (Text.strip tag)).filter (!·.isEmpty))

theorem normalizeTags_nodup (tags : List Text) : (normalizeTags tags).Nodup :=
  distinct_nodup _

def defaultTags : List Text :=
  ["div", "section", "article", "header", "footer", "main", "aside", "nav", "form", "table", "ul", "ol", "li", "p",
    "h1", "h2", "h3", "h4", "h5", "h6", "button", "a", "span", "input", "textarea", "select", "label"].map String.toList

def defaultExtension : Text := ".blade.php".toList

/-- which tags are marked, how, and where the templates are -/
structure Settings where
  /-- whether templates are marked as they are loaded -/
  enabled : Bool := true
  /-- the marker's attribute -/
  attributeName : Text := "data-source".toList
  /-- the names of the plain tags to mark -/
  targetTags : List Text := defaultTags
  /-- whether component tags are marked too -/
  markComponents : Bool := true
  /-- what the names of component tags start with -/
  componentPrefix : Text := "x-".toList
  /-- the directories that hold templates -/
  templateRoots : List Text := []
  /-- the extension of template files -/
  templateExtension : Text := defaultExtension
  /-- the template language -/
  language : Language := .blade
  accepts_attributeName : AttributeName.accepts attributeName = true := by decide
  componentPrefix_ne : componentPrefix ≠ [] := by decide
  head?_templateExtension : templateExtension.head? = some '.' := by decide
  deriving DecidableEq

namespace Settings

/-- the settings that hold when nothing is said -/
def standard : Settings where

def checkedAttributeName (s : Settings) : { name : Text // AttributeName.accepts name = true } :=
  ⟨s.attributeName, s.accepts_attributeName⟩

def checkedPrefix (s : Settings) : { text : Text // text ≠ [] } :=
  ⟨s.componentPrefix, s.componentPrefix_ne⟩

def checkedExtension (s : Settings) : { text : Text // text.head? = some '.' } :=
  ⟨s.templateExtension, s.head?_templateExtension⟩

def dialect (s : Settings) : Dialect :=
  s.language.dialect

end Settings

end SourceMark
