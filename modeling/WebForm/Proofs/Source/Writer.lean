import WebForm.Source.Style
/-!
# Writers

Source text that is written from front to end. A writer knows the style and the text so far; what it
has written cannot be told apart into lines any more. It writes one line after the other, and it
takes over text that another writer of the same style has written.

A writer that writes lines has written what the style makes of them, behind what was there, so that
text which is taken over is as good as the lines that it was made of.
-/

set_option autoImplicit false

namespace WebForm.Source

/-! ## How lines are laid out -/

/-- Lines as a unit of indentation and a line end lay them out: each is its indentation and its
text, of which an empty line has none, and the line end. -/
def layOut (unit ending : String) (ls : List Line) : String :=
  String.join (ls.map fun l =>
    (if l.text = "" then "" else String.join (List.replicate l.depth unit) ++ l.text) ++ ending)

/-- A style lays lines out with its own unit and line end. -/
theorem Style.lines_eq_layOut (style : Style) (ls : List Line) :
    style.lines ls = layOut style.indent.unit style.lineEnding.text ls := by
  have hline : ∀ l : Line, style.line l =
      (if l.text = "" then "" else
        String.join (List.replicate l.depth style.indent.unit) ++ l.text) ++
          style.lineEnding.text := by
    intro l
    rw [Style.line]
    by_cases hempty : l.text = ""
    · rw [if_pos (String.isEmpty_iff.mpr hempty), if_pos hempty, String.empty_append]
    · rw [if_neg (hempty ∘ String.isEmpty_iff.mp), if_neg hempty, Indent.steps]
  rw [Style.lines, layOut]
  exact congrArg String.join (List.map_congr_left fun l _ => hline l)

example : Style.lines ⟨.tabs, .crlf⟩ [⟨0, "a"⟩, .blank, ⟨2, "b"⟩] = "a\r\n\r\n\t\tb\r\n" := by
  decide

/-- Lines that are written leave some text, if only their ends. -/
theorem Style.lines_eq_empty_iff (style : Style) {ls : List Line} :
    style.lines ls = "" ↔ ls = [] := by
  have hend : style.lineEnding.text ≠ "" := by
    cases style.lineEnding <;> decide
  have hline : ∀ l : Line, style.line l ≠ "" := by
    intro l h
    rw [Style.line] at h
    split at h
    · exact hend h
    · exact hend (String.append_eq_empty_iff.mp h).2
  cases ls with
  | nil => exact iff_of_true rfl rfl
  | cons l rest =>
    refine iff_of_false (fun h => ?_) (List.cons_ne_nil _ _)
    rw [Style.lines, List.map_cons, String.join_cons] at h
    exact hline l (String.append_eq_empty_iff.mp h).1

/-! ## Writing -/

/-- Text that is being written in a style. -/
structure Writer where
  style : Style
  text : String := ""

namespace Writer

/-- Writes a line. An empty one has no indentation. -/
def line (w : Writer) (depth : Nat) (text : String) : Writer :=
  let indented := if text.isEmpty then w.text else w.text ++ w.style.indent.steps depth ++ text
  { w with text := indented ++ w.style.lineEnding.text }

/-- Writes an empty line. -/
def blank (w : Writer) : Writer := w.line 0 ""

/-- Takes over text that has been written in the same style. -/
def append (w : Writer) (text : String) : Writer := { w with text := w.text ++ text }

/-- Writes lines one after the other. -/
def lines (w : Writer) (ls : List Line) : Writer := ls.foldl (fun w l => w.line l.depth l.text) w

variable {w : Writer} {ls ms : List Line}

@[simp] theorem lines_nil : w.lines [] = w := rfl

theorem lines_cons {l : Line} : w.lines (l :: ls) = (w.line l.depth l.text).lines ls := rfl

@[simp] theorem lines_append : w.lines (ls ++ ms) = (w.lines ls).lines ms := by
  rw [lines, List.foldl_append]
  rfl

theorem line_eq_lines {depth : Nat} {text : String} : w.line depth text = w.lines [⟨depth, text⟩] :=
  rfl

theorem blank_eq_lines : w.blank = w.lines [.blank] := rfl

theorem line_eq_append {depth : Nat} {text : String} :
    w.line depth text = w.append (w.style.line ⟨depth, text⟩) := by
  rw [line, append, Style.line]
  by_cases hempty : text.isEmpty = true
  · rw [if_pos hempty, if_pos hempty]
  · rw [if_neg hempty, if_neg hempty, String.append_assoc, String.append_assoc, String.append_assoc]

/-- Lines are written as the style writes them, behind the text so far. -/
theorem lines_eq_append : w.lines ls = w.append (w.style.lines ls) := by
  induction ls generalizing w with
  | nil => rw [lines_nil, Style.lines_nil, append, String.append_empty]
  | cons l rest ih =>
    rw [lines_cons, ih, line_eq_append]
    simp only [append, Style.lines, List.map_cons, String.join_cons, String.append_assoc]

@[simp] theorem style_lines : (w.lines ls).style = w.style := by
  rw [lines_eq_append]
  rfl

/-- A new writer writes what the style makes of lines. -/
theorem text_lines_new (style : Style) (ls : List Line) :
    (lines { style := style } ls).text = style.lines ls := by
  rw [lines_eq_append, append, String.empty_append]

end Writer

end WebForm.Source
