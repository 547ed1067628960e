import Wireframe.Plan.Resolve
import Wireframe.Proofs.Json.Sound
import Wireframe.Proofs.Markup.ReadBack
import Wireframe.Proofs.Preview.Sketch

/-! # What a preview trusts

Every tag and attribute key of a preview is a word of the library's own, and the only markup that is
written as it stands is a drawing of the icon table. What an element says goes into texts, classes
and attribute values, which are escaped and read back as they were.
-/

namespace Wireframe

/-- A node whose tag and attribute keys are words and whose trusted markup, if any, is a drawing of
the icon table. -/
structure MarkupHead.IsTrusted (head : MarkupHead) : Prop where
  tag : Tag.isName head.tag = true
  keys : ∀ entry ∈ head.attributes, Tag.isName entry.1 = true
  raw : head.raw = none ∨ ∃ entry ∈ Glyph.table, head.raw = some entry.2

def Markup.IsTrusted (node : Markup) : Prop := ∀ head ∈ node.preorder, head.IsTrusted

theorem Markup.isTrusted_node {head : MarkupHead} {nodes : List Markup} :
    IsTrusted (.node head nodes) ↔ head.IsTrusted ∧ ∀ node ∈ nodes, node.IsTrusted := by
  simp only [IsTrusted, Tree.preorder_node, List.forall_mem_cons, List.forall_mem_flatMap]

namespace MarkupHead

theorem IsTrusted.plain {head : MarkupHead} (tag : Tag.isName head.tag = true)
    (attributes : head.attributes = []) (raw : head.raw = none) : head.IsTrusted :=
  ⟨tag, by simp [attributes], .inl raw⟩

theorem IsTrusted.setAttribute {head : MarkupHead} (h : head.IsTrusted) {key : String}
    (hkey : Tag.isName key = true) (value : String) : (head.setAttribute key value).IsTrusted := by
  refine ⟨h.tag, fun entry hentry => ?_, h.raw⟩
  rcases Members.mem_put hentry with hentry | rfl
  · exact h.keys entry hentry
  · exact hkey

end MarkupHead

namespace Glyph

theorem mem_table_of_drawing? {name drawing : String} (h : drawing? name = some drawing) :
    (name, drawing) ∈ table :=
  Table.mem_of_entry? h

/-- Whatever a glyph is asked for by, what is given is a drawing of the table. -/
theorem svg_mem_table {name : Value} {fallback drawing : String}
    (h : svg name fallback = .ok drawing) : ∃ entry ∈ table, entry.2 = drawing := by
  unfold svg at h
  cases husual : drawing? fallback with
  | none => simp [husual] at h
  | some usual =>
      have hfallback := mem_table_of_drawing? husual
      simp only [husual] at h
      split at h
      · rename_i name
        cases hnamed : drawing? name with
        | none =>
            simp only [hnamed, Option.getD_none, Except.ok.injEq] at h
            exact ⟨_, hfallback, h⟩
        | some named =>
            simp only [hnamed, Option.getD_some, Except.ok.injEq] at h
            exact ⟨_, mem_table_of_drawing? hnamed, h⟩
      · split at h
        · cases h
        · exact ⟨_, hfallback, Except.ok.inj h⟩

end Glyph

namespace Preview

variable {plan : PlanHead} {node : Markup} {screenId : String} {selection : Selection}

theorem isName_div : Tag.isName "div" = true := by decide +kernel

theorem isName_span : Tag.isName "span" = true := by decide +kernel

theorem isName_button : Tag.isName "button" = true := by decide +kernel

theorem isName_label : Tag.isName "label" = true := by decide +kernel

/-! ## Sketches -/

theorem leaf_trusted {head : MarkupHead} (tag : Tag.isName head.tag = true)
    (attributes : head.attributes = []) (raw : head.raw = none) :
    (Markup.leaf head).IsTrusted := by
  rw [Markup.leaf, Markup.isTrusted_node]
  exact ⟨.plain tag attributes raw, by simp⟩

theorem span_trusted (className : String) (text : Value) : (span className text).IsTrusted :=
  leaf_trusted isName_span rfl rfl

theorem glyph_trusted {name : Value} {fallback drawing : String}
    (h : glyph name fallback = .ok drawing) {head : MarkupHead}
    (tag : Tag.isName head.tag = true) (attributes : head.attributes = [])
    (raw : head.raw = some drawing) : head.IsTrusted := by
  unfold glyph at h
  cases hsvg : Glyph.svg name fallback with
  | error cause => simp [hsvg, Except.mapError] at h
  | ok found =>
      obtain ⟨entry, hentry, heq⟩ := Glyph.svg_mem_table hsvg
      rw [hsvg] at h
      cases h
      exact ⟨tag, by simp [attributes], .inr ⟨entry, hentry, by rw [raw, heq]⟩⟩

theorem labels_trusted {tag className : String} {labels : List Markup}
    (hname : Tag.isName tag = true) (h : ShowsLabel tag className plan labels) :
    ∀ label ∈ labels, label.IsTrusted := by
  cases h with
  | missing => simp
  | present => simpa using leaf_trusted hname rfl rfl

theorem SketchForm.isTrusted (h : SketchForm plan node) : node.IsTrusted := by
  cases h with
  | container => exact leaf_trusted isName_div rfl rfl
  | text =>
      refine leaf_trusted ?_ rfl rfl
      dsimp only
      split
      · exact isName_span
      · exact isName_div
  | cardAction => exact leaf_trusted isName_button rfl rfl
  | button => exact leaf_trusted isName_div rfl rfl
  | input kind labelled drawn =>
      refine Markup.isTrusted_node.mpr ⟨.plain isName_div rfl rfl, ?_⟩
      rw [List.forall_mem_append, List.forall_mem_cons, List.forall_mem_singleton]
      exact ⟨labels_trusted isName_label labelled,
        Markup.isTrusted_node.mpr ⟨glyph_trusted drawn isName_span rfl rfl, by simp⟩,
        span_trusted _ _⟩
  | cardImage => exact leaf_trusted isName_div rfl rfl
  | image =>
      exact Markup.isTrusted_node.mpr ⟨.plain isName_div rfl rfl, by simpa using span_trusted _ _⟩
  | thumbnail => exact leaf_trusted isName_div rfl rfl
  | icon kind drawn labelled =>
      exact Markup.isTrusted_node.mpr
        ⟨glyph_trusted drawn isName_div rfl rfl, labels_trusted isName_span labelled⟩
  | divider => exact leaf_trusted isName_div rfl rfl
  | spacer => exact leaf_trusted isName_div rfl rfl
  | switch =>
      exact Markup.isTrusted_node.mpr
        ⟨.plain isName_div rfl rfl, by simpa using leaf_trusted isName_div rfl rfl⟩

/-! ## Roots -/

theorem markHead_trusted {head : MarkupHead} (h : head.IsTrusted) :
    (markHead screenId selection plan head).IsTrusted := by
  unfold markHead
  split
  · refine .setAttribute (.setAttribute ?_ (by decide +kernel) _) (by decide +kernel) _
    exact ⟨h.tag, h.keys, h.raw⟩
  · exact h

theorem layoutHead_trusted {head : MarkupHead} (h : head.IsTrusted) :
    (layoutHead plan head).IsTrusted := by
  unfold layoutHead
  split
  · split
    · exact h.setAttribute (by decide +kernel) _
    · exact h
  · split
    · exact ⟨h.tag, h.keys, h.raw⟩
    · exact h

theorem mapRoot_trusted {f : MarkupHead → MarkupHead}
    (hf : ∀ head, head.IsTrusted → (f head).IsTrusted) (h : node.IsTrusted) :
    Markup.IsTrusted (node.mapRoot f) := by
  obtain ⟨head, nodes⟩ := node
  rw [Markup.isTrusted_node] at h
  exact Markup.isTrusted_node.mpr ⟨hf head h.1, h.2⟩

/-- Whatever plan is drawn, every node of its preview is trusted. -/
theorem materialize_trusted {tree : Plan}
    (h : (target screenId selection).materialize tree = .ok node) : node.IsTrusted := by
  induction tree using Tree.induct generalizing node with
  | node plan parts ih =>
      cases hkind : plan.isContainer with
      | false =>
          obtain ⟨bare, hbare, rfl⟩ := (Target.materialize_leaf_ok_iff hkind).mp h
          obtain ⟨drawn, hdrawn, rfl⟩ := Except.map_ok_iff.mp hbare
          have htrusted := (sketchForm_of_bareLeaf hdrawn).isTrusted
          exact mapRoot_trusted (fun _ => layoutHead_trusted)
            (mapRoot_trusted (fun _ => markHead_trusted) htrusted)
      | true =>
          obtain ⟨nodes, bare, hnodes, hbare, rfl⟩ :=
            (Target.materialize_container_ok_iff hkind).mp h
          obtain ⟨classes, -, rfl⟩ := Except.map_ok_iff.mp hbare
          refine mapRoot_trusted (fun _ => layoutHead_trusted) (Markup.isTrusted_node.mpr ⟨?_, ?_⟩)
          · exact markHead_trusted (.plain isName_div rfl rfl)
          · intro below hbelow
            obtain ⟨part, hpart, hmade⟩ := exists_of_forall₂_of_mem hnodes hbelow
            exact ih part hpart hmade

end Preview

end Wireframe
