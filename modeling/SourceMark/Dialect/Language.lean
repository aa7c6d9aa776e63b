/-
The template languages that settings can name, and the dialect of each.

`Language.ofName?_name`: each language is found under its own name.
-/
import SourceMark.Dialect.Basic
import SourceMark.Text.Blank
import SourceMark.Text.Lower

namespace SourceMark

/-- the template languages that settings can name -/
inductive Language where
  | blade
  | jinja
  deriving DecidableEq

namespace Language

def all : List Language := [.blade, .jinja]

def name : Language → Text
  | .blade => "blade".toList
  | .jinja => "jinja".toList

/-- the language that a text names, blanks around it and case apart -/
def ofName? (text : Text) : Option Language :=
  all.find? fun language => language.name == Text.lower (Text.strip text)

/-- the words that are directives in Blade -/
def bladeDirectives : List String := [
  "append", "auth", "aware", "break", "can", "canany", "cannot", "case", "checked", "choice", "class",
  "component", "context", "continue", "csrf", "dd", "default", "disabled", "dump", "each", "else", "elseif",
  "empty", "endPrependOnce", "endPushIf", "endPushOnce", "endauth", "endcan", "endcanany", "endcannot",
  "endcomponent", "endcontext", "endempty", "endenv", "enderror", "endfor", "endforeach", "endforelse",
  "endfragment", "endguest", "endif", "endisset", "endonce", "endphp", "endprepend", "endproduction",
  "endpush", "endsection", "endsession", "endslot", "endswitch", "endunless", "endverbatim", "endwhile",
  "entangle", "env", "error", "extends", "for", "foreach", "forelse", "fragment", "guest", "hasSection", "if",
  "include", "includeFirst", "includeIf", "includeUnless", "includeWhen", "inject", "isset", "js", "json",
  "lang", "livewire", "livewireScripts", "livewireStyles", "method", "once", "overwrite", "parent", "php",
  "prepend", "prependOnce", "production", "props", "push", "pushIf", "pushOnce", "readonly", "required",
  "section", "sectionMissing", "selected", "session", "show", "slot", "stack", "stop", "style", "switch",
  "this", "unless", "use", "verbatim", "vite", "viteReactRefresh", "while", "yield"]

/-- Blade: echoes in braces, inline code and comments, and directives with argument lists -/
def bladeDialect : Dialect where
  name := "blade".toList
  rawCodeMarkers := ["<?php".toList, "<?=".toList]
  unquotedMarkers := ["\x7b\x7b".toList, "\x7b!!".toList, "=>".toList]
  codeBlocks := [⟨"\x7b\x7b--".toList, "--\x7d\x7d".toList⟩, ⟨"\x7b\x7b".toList, "\x7d\x7d".toList⟩,
    ⟨"\x7b!!".toList, "!!\x7d".toList⟩, ⟨"<?php".toList, "?>".toList⟩, ⟨"<?=".toList, "?>".toList⟩]
  blockDirectives := [⟨"@php".toList, "@endphp".toList⟩]
  nestedRegions := [⟨"\x7b\x7b".toList, "\x7d\x7d".toList⟩, ⟨"\x7b!!".toList, "!!\x7d".toList⟩,
    ⟨"<?php".toList, "?>".toList⟩, ⟨"<?=".toList, "?>".toList⟩, ⟨"(".toList, ")".toList⟩]
  directivePrefix := some "@".toList
  directiveKeywords := bladeDirectives.map String.toList
  dynamicAttributes := true

/-- Jinja: expressions, statements and comments in braces -/
def jinjaDialect : Dialect where
  name := "jinja".toList
  unquotedMarkers := ["\x7b\x7b".toList, "\x7b%".toList, "\x7b#".toList]
  codeBlocks := [⟨"\x7b#".toList, "#\x7d".toList⟩, ⟨"\x7b\x7b".toList, "\x7d\x7d".toList⟩,
    ⟨"\x7b%".toList, "%\x7d".toList⟩]
  nestedRegions := [⟨"\x7b\x7b".toList, "\x7d\x7d".toList⟩, ⟨"\x7b%".toList, "%\x7d".toList⟩,
    ⟨"\x7b#".toList, "#\x7d".toList⟩, ⟨"(".toList, ")".toList⟩]

def dialect : Language → Dialect
  | .blade => bladeDialect
  | .jinja => jinjaDialect

/-- what is said about a name that no language has -/
def unknownMessage (text : Text) : Text :=
  "Unknown dialect '".toList ++ text ++ "'. Supported: [".toList ++
    Text.join ", ".toList (all.map fun language => '\'' :: language.name ++ ['\'']) ++ "]".toList

theorem ofName?_name (language : Language) : ofName? language.name = some language := by
  cases language <;> decide +kernel

end Language

end SourceMark
