import CanvasExport.Export.Component
/-!
# Export of layouts

A layout is exported with its height, the markers that say nothing about it as a layout, the templates
of a grid, and its components.
-/

namespace CanvasExport

/-- The kind of a container: the first of free, flex and grid that it is marked with, and else
free. -/
def LayoutKind.ofNode (n : Node) : LayoutKind :=
  if n.hasMarker Marker.free then .free
  else if n.hasMarker Marker.flex then .flex
  else if n.hasMarker Marker.grid then .grid
  else .free

/-- The markers that say that a node is a layout, and of which kind. -/
def Marker.layouts : List String := [container, free, flex, grid]

namespace Layout

/-- The class for the template of a grid along an axis. -/
def templateClass (n : Node) (axis : Axis) : Walk String :=
  let value := n.inline? axis.property
  match value.bind GridTemplate.cell? with
  | none => .fail (.malformedGridTemplate n.id axis value)
  | some size => do
      let token ← .request (.cell axis size)
      return axis.classStem ++ token

/-- The classes for the templates of a layout; only a grid has any. -/
def templateClasses (n : Node) : LayoutKind → Walk (List String)
  | .grid => .forEach (templateClass n) [.columns, .rows]
  | _ => return []

/-- Exports a layout and the components marked in it. -/
def ofNode (registry : Registry) (n : Node) : Walk Layout := do
  let kind := LayoutKind.ofNode n
  let height ← .request (.spacing (Pixels.round (n.computedPixels? "height")))
  let templates ← templateClasses n kind
  let components ← .forEach (Component.ofNode registry kind) (n.childrenMarked Marker.component)
  let markers := n.markers.filter (!Marker.layouts.contains ·)
  return { kind, classes := ("h-" ++ height) :: markers ++ templates, components }

end Layout

end CanvasExport
