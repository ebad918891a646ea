import PageEdit.Patch.Basic
import PageEdit.Text.Blank

/-!
# Patches in words

One line that says what a patch does. Long texts are cut and end in dots.
-/

namespace PageEdit.Patch

/-- Characters of a text that are shown. -/
def shownLimit : Nat := 30

/-- The beginning of a text, with dots if it goes on. -/
def shown (s : String) : String :=
  Text.cut shownLimit s ++ if shownLimit < s.length then "..." else ""

/-- What a patch does, in words. -/
def summary (p : Patch) : String :=
  let orBlank := fun (v : Option String) => v.getD ""
  let quoted := fun (v : Option String) => "\"" ++ orBlank v ++ "\""
  match p.action with
  | .addClass => "Add class " ++ quoted p.added? ++ " to " ++ p.selector
  | .removeClass => "Remove class " ++ quoted p.removed? ++ " from " ++ p.selector
  | .replaceClass =>
    "Replace class " ++ quoted p.oldValue ++ " with " ++ quoted p.newValue ++ " on " ++ p.selector
  | .setText => "Set text to \"" ++ shown (orBlank p.payload?) ++ "\" on " ++ p.selector
  | .setHtml => "Set HTML content on " ++ p.selector
  | .setAttribute => "Set attribute " ++ orBlank p.payload? ++ " on " ++ p.selector
  | .removeAttribute => "Remove attribute " ++ quoted p.value ++ " from " ++ p.selector
  | .setStyle => "Set style " ++ orBlank p.payload? ++ " on " ++ p.selector
  | .removeElement => "Remove element " ++ p.selector
  | .appendChild => "Append content to " ++ p.selector
  | .prependChild => "Prepend content to " ++ p.selector

end PageEdit.Patch
