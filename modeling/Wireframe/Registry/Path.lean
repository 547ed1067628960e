import Wireframe.Tree.Place
import Wireframe.Registry.Validation

/-! # Paths of issues

The path of an issue, `elements[i].children[j]` and so on, is read back as the list of indices that
lead from a screen to an element. `Screen.sites` lists the elements of a screen with these indices.
-/

namespace Wireframe

structure Site where
  screenId : Option String
  place : List Nat
  element : Element

namespace Screen

variable {α : Type}

def elementAt? (screen : Screen α) (place : List Nat) : Option Element :=
  Tree.among? screen.elements place

/-- Every element of a screen, nested ones included, in preorder. -/
def sites (screen : Screen α) : List Site :=
  (Tree.locatedFrom 0 screen.elements).map fun site => ⟨screen.id, site.1, site.2⟩

theorem map_element_sites (screen : Screen α) :
    screen.sites.map (·.element) = screen.elements.flatMap Tree.subtrees := by
  rw [sites, List.map_map, ← Tree.map_snd_locatedFrom fun t _ => Tree.map_snd_located t]
  rfl

theorem nodup_place_sites (screen : Screen α) : (screen.sites.map (·.place)).Nodup := by
  rw [sites, List.map_map]
  exact Tree.nodup_locatedFrom fun t _ => Tree.nodup_located t

theorem elementAt?_of_mem_sites {screen : Screen α} {site : Site} (h : site ∈ screen.sites) :
    screen.elementAt? site.place = some site.element := by
  obtain ⟨located, hlocated, rfl⟩ := List.mem_map.mp h
  exact Tree.among?_of_mem (fun t _ site hsite => Tree.subtree?_of_mem_located hsite) hlocated

theorem screenId_of_mem_sites {screen : Screen α} {site : Site} (h : site ∈ screen.sites) :
    site.screenId = screen.id := by
  obtain ⟨located, -, rfl⟩ := List.mem_map.mp h
  rfl

end Screen

namespace Registry

def closedIndex? (text : List Char) : Option Nat :=
  let digits := text.takeWhile (·.isDigit)
  if digits ≠ [] ∧ text.dropWhile (·.isDigit) = [']'] then some (Nat.ofDigitChars 10 digits 0)
  else none

def segmentIndex? (collection : String) (segment : List Char) : Option Nat :=
  let opening := (collection ++ "[").toList
  if opening.isPrefixOf segment then closedIndex? (segment.drop opening.length) else none

/-- The indices that a path names: one among the elements of a screen, then one for each level of
children. -/
def readPath? (path : String) : Option (List Nat) :=
  match path.toList.splitOn '.' with
  | [] => none
  | first :: rest => do
      let index ← segmentIndex? "elements" first
      let below ← rest.mapM (segmentIndex? "children")
      return index :: below

def rejects (registry : Registry) (e : Element) : Bool :=
  match registry.checkElement e with
  | .ok (.error _) => true
  | _ => false

def rejected {α : Type} (registry : Registry) (spec : Spec α) : List Site :=
  (spec.screens.flatMap Screen.sites).filter fun site => registry.rejects site.element

end Registry

end Wireframe
