import Wireframe.Value.Basic

/-! # Glyphs

The inline drawings of the icons. A name without a drawing gets the drawing of a fallback.
-/

namespace Wireframe

inductive GlyphError where
  | unknownFallback (name : String)
  | notAKey (name : Value)

namespace Glyph

def stroked (body : String) : String :=
  r#"<svg width="20" height="20" viewBox="0 0 24 24" fill="none" stroke="currentColor" stroke-width="2">"#
    ++ body ++ "</svg>"

def filled (body : String) : String :=
  r#"<svg width="20" height="20" viewBox="0 0 24 24" fill="currentColor">"# ++ body ++ "</svg>"

def table : List (String × String) := [
  ("heart", stroked (String.join [
    r#"<path d="M20.84 4.61a5.5 5.5 0 0 0-7.78 0L12 5.67l-1.06-1.06a5.5 5.5 0 0 0-7.78 7.78l1.06 1.06L12 21.23l7.78-7.78 1.06-1.06a5.5 5.5 0 0 0 0-7.78z"/>"#])),
  ("cart", stroked (String.join [
    r#"<circle cx="9" cy="21" r="1"/>"#,
    r#"<circle cx="20" cy="21" r="1"/>"#,
    r#"<path d="M1 1h4l2.68 13.39a2 2 0 0 0 2 1.61h9.72a2 2 0 0 0 2-1.61L23 6H6"/>"#])),
  ("user", stroked (String.join [
    r#"<path d="M20 21v-2a4 4 0 0 0-4-4H8a4 4 0 0 0-4 4v2"/>"#,
    r#"<circle cx="12" cy="7" r="4"/>"#])),
  ("settings", stroked (String.join [
    r#"<circle cx="12" cy="12" r="3"/>"#,
    r#"<path d="M12 1v4M12 19v4M4.22 4.22l2.83 2.83M16.95 16.95l2.83 2.83M1 12h4M19 12h4M4.22 19.78l2.83-2.83M16.95 7.05l2.83-2.83"/>"#])),
  ("bell", stroked (String.join [
    r#"<path d="M18 8A6 6 0 0 0 6 8c0 7-3 9-3 9h18s-3-2-3-9"/>"#,
    r#"<path d="M13.73 21a2 2 0 0 1-3.46 0"/>"#])),
  ("home", stroked (String.join [
    r#"<path d="M3 9l9-7 9 7v11a2 2 0 0 1-2 2H5a2 2 0 0 1-2-2z"/>"#,
    r#"<polyline points="9 22 9 12 15 12 15 22"/>"#])),
  ("search", stroked (String.join [
    r#"<circle cx="11" cy="11" r="8"/>"#,
    r#"<path d="M21 21l-4.35-4.35"/>"#])),
  ("menu", stroked (String.join [
    r#"<line x1="3" y1="12" x2="21" y2="12"/>"#,
    r#"<line x1="3" y1="6" x2="21" y2="6"/>"#,
    r#"<line x1="3" y1="18" x2="21" y2="18"/>"#])),
  ("back", stroked (String.join [
    r#"<polyline points="15 18 9 12 15 6"/>"#])),
  ("arrow-left", stroked (String.join [
    r#"<line x1="19" y1="12" x2="5" y2="12"/>"#,
    r#"<polyline points="12 19 5 12 12 5"/>"#])),
  ("arrow-right", stroked (String.join [
    r#"<line x1="5" y1="12" x2="19" y2="12"/>"#,
    r#"<polyline points="12 5 19 12 12 19"/>"#])),
  ("send", stroked (String.join [
    r#"<line x1="22" y1="2" x2="11" y2="13"/>"#,
    r#"<polygon points="22 2 15 22 11 13 2 9 22 2"/>"#])),
  ("plus", stroked (String.join [
    r#"<line x1="12" y1="5" x2="12" y2="19"/>"#,
    r#"<line x1="5" y1="12" x2="19" y2="12"/>"#])),
  ("close", stroked (String.join [
    r#"<line x1="18" y1="6" x2="6" y2="18"/>"#,
    r#"<line x1="6" y1="6" x2="18" y2="18"/>"#])),
  ("trash", stroked (String.join [
    r#"<polyline points="3 6 5 6 21 6"/>"#,
    r#"<path d="M19 6v14a2 2 0 0 1-2 2H7a2 2 0 0 1-2-2V6m3 0V4a2 2 0 0 1 2-2h4a2 2 0 0 1 2 2v2"/>"#])),
  ("edit", stroked (String.join [
    r#"<path d="M11 4H4a2 2 0 0 0-2 2v14a2 2 0 0 0 2 2h14a2 2 0 0 0 2-2v-7"/>"#,
    r#"<path d="M18.5 2.5a2.121 2.121 0 0 1 3 3L12 15l-4 1 1-4 9.5-9.5z"/>"#])),
  ("check", stroked (String.join [
    r#"<polyline points="20 6 9 17 4 12"/>"#])),
  ("mail", stroked (String.join [
    r#"<path d="M4 4h16c1.1 0 2 .9 2 2v12c0 1.1-.9 2-2 2H4c-1.1 0-2-.9-2-2V6c0-1.1.9-2 2-2z"/>"#,
    r#"<polyline points="22,6 12,13 2,6"/>"#])),
  ("lock", stroked (String.join [
    r#"<rect x="3" y="11" width="18" height="11" rx="2" ry="2"/>"#,
    r#"<path d="M7 11V7a5 5 0 0 1 10 0v4"/>"#])),
  ("calendar", stroked (String.join [
    r#"<rect x="3" y="4" width="18" height="18" rx="2" ry="2"/>"#,
    r#"<line x1="16" y1="2" x2="16" y2="6"/>"#,
    r#"<line x1="8" y1="2" x2="8" y2="6"/>"#,
    r#"<line x1="3" y1="10" x2="21" y2="10"/>"#])),
  ("clock", stroked (String.join [
    r#"<circle cx="12" cy="12" r="10"/>"#,
    r#"<polyline points="12 6 12 12 16 14"/>"#])),
  ("star", filled (String.join [
    r#"<polygon points="12 2 15.09 8.26 22 9.27 17 14.14 18.18 21.02 12 17.77 5.82 21.02 7 14.14 2 9.27 8.91 8.26 12 2"/>"#]))]

def drawing? (name : String) : Option String := table.lookup name

/-- The drawing for a value that should be a name; any value that names none gets the fallback. -/
def svg (name : Value) (fallback : String) : Except GlyphError String :=
  match drawing? fallback with
  | none => .error (.unknownFallback fallback)
  | some usual =>
      match name with
      | .string name => .ok ((drawing? name).getD usual)
      | name => if name.truthy && !name.isKey then .error (.notAKey name) else .ok usual

end Glyph

end Wireframe
