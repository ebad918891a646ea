import PageEdit.Html.Markup
import PageEdit.Patch.Apply

/-!
# Undoing patches

The inverse of a patch is made from the first element that it picks, as that was just before. Inverses come
in the opposite order. Removing an element has none, and neither has a patch that fails.
-/

namespace PageEdit

open Html

namespace Inverse

/-- The classes that a change takes from an element, and those that it gives it. -/
def classChanges (present removed added : List String) : List String × List String :=
  let taken := removed.filter present.contains
  (taken, added.filter fun c => !present.contains c || taken.contains c)

/-- The patches that take back a change of classes. -/
def ofClasses (selector : String) (taken given : List String) : List Patch :=
  let text := fun classes => some (String.intercalate " " classes)
  match taken, given with
  | [], [] => []
  | [], _ => [{ Patch.bare selector .removeClass with oldValue := text given }]
  | _, [] => [{ Patch.bare selector .addClass with newValue := text taken }]
  | _, _ => [{ Patch.bare selector .replaceClass with oldValue := text given, newValue := text taken }]

/-- The patch that gives an attribute its old value again, or takes it away. -/
def ofAttribute (selector name : String) (old : Option String) : Patch :=
  match old with
  | some value =>
    { Patch.bare selector .setAttribute with
      value := some (Json.Value.object [(name, .text value)]).render }
  | none => { Patch.bare selector .removeAttribute with value := some name }

/-- The patches that take back a change of the element at a node. -/
def ofChange (selector : String) (e : Element) (node : Node) : Change → List Patch
  | .classes removed added =>
    let (taken, given) := classChanges e.classes removed added
    ofClasses selector taken given
  | .setText _ | .setHtml _ | .append _ | .prepend _ =>
    [{ Patch.bare selector .setHtml with value := some node.innerMarkup }]
  | .setAttributes pairs => pairs.map fun (name, _) => ofAttribute selector name (e.attribute? name)
  | .dropAttribute name =>
    match e.attribute? name with
    | some old => [ofAttribute selector name (some old)]
    | none => []
  | .style _ => [ofAttribute selector "style" (e.attribute? "style")]
  | .remove => []

end Inverse

/-- The patches that take back a patch on a page, if its selector picks an element there. -/
def Patch.inverse? (html : String) (p : Patch) : Option (List Patch) :=
  match p.selectors with
  | .error _ => none
  | .ok selectors =>
    match Css.select selectors (.ofHtml html) with
    | [] => none
    | place :: _ =>
      place.element?.map fun e =>
        -- a patch with a bad payload does not apply, so there is nothing to take back
        match p.change with
        | .ok change => Inverse.ofChange p.selector e place.node change
        | .error _ => []

/-- The patches that take back a list of patches on a page. -/
def rollback (html : String) : List Patch → List Patch
  | [] => []
  | p :: rest =>
    match p.inverse? html with
    | none => rollback html rest
    | some inverse =>
      match p.apply html with
      | .ok next => rollback next rest ++ inverse
      | .error _ => rollback html rest

end PageEdit
