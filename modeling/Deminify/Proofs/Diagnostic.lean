import Deminify.Diagnostic
import Deminify.Program
import Deminify.Proofs.Text.Parts

/-!
# Positions and code frames

An offset of a text has a line and a column, counted from one for a reader (`Deminify.lineColumn`) and from zero for
a node (`Deminify.Program.position`), and a frame shows the lines around it (`Deminify.codeFrame`). **All three agree
with the lines of the text** (`Deminify.positions_agree`): line and column lead back to the offset, and the caret of
the frame stands below the character at the offset.

All of it is read off one cut of the text at the offset (`Deminify.IsCut`): the lines above, what the line has in
front of the offset and behind it, and the lines below.

## Where frames stop

A frame shows so many lines on either side of the one in question. With fewer than none it shows nothing, not even
that line (`Deminify.codeFrame_of_neg`).
-/

namespace Deminify

open Text

/-! ### The text around an offset -/

/-- **A text cut at an offset**: the lines above the one that the offset is in, what this line has in front of the
offset and behind it, and the lines below. -/
structure IsCut (text : String) (offset : Nat) (above : List String) (left right : List Char)
    (below : List String) : Prop where
  lines : Text.lines text = above ++ String.ofList (left ++ right) :: below
  sum : (above.map fun line => line.length + 1).sum + left.length = offset
  row : ((text.toList.take offset).filter (· == '\n')).length = above.length
  column : ((text.toList.take offset).reverse.takeWhile (· != '\n')).length = left.length
  behind : right <+: text.toList.drop offset

section Cut

variable {text : String} {offset : Nat} {above below : List String} {left right : List Char}

/-- What stands in front of an offset: lines that are closed, and the front of an open one. -/
theorem exists_closed (cs : List Char) : ∃ front left, cs = front ++ left ∧ '\n' ∉ left ∧
    (front = [] ∨ ∃ vs, front = vs ++ ['\n']) ∧ (cs.reverse.takeWhile (· != '\n')).length = left.length := by
  refine ⟨(cs.reverse.dropWhile (· != '\n')).reverse, (cs.reverse.takeWhile (· != '\n')).reverse, ?_, ?_, ?_, ?_⟩
  · rw [← List.reverse_append, List.takeWhile_append_dropWhile, List.reverse_reverse]
  · intro h
    simpa using List.all_eq_true.mp List.all_takeWhile _ (List.mem_reverse.mp h)
  · have hnot := List.head?_dropWhile_not (· != '\n') cs.reverse
    cases hrest : cs.reverse.dropWhile (· != '\n') with
    | nil => exact .inl rfl
    | cons c rest =>
      rw [hrest] at hnot
      refine .inr ⟨rest.reverse, ?_⟩
      rw [List.reverse_cons, show c = '\n' by simpa using hnot]
  · rw [List.length_reverse]

/-- **A text can be cut at each of its offsets.** -/
theorem exists_isCut (h : offset ≤ text.length) : ∃ above left right below, IsCut text offset above left right below := by
  obtain ⟨front, left, hcs, hleft, hclosed, hcolumn⟩ := exists_closed (text.toList.take offset)
  obtain ⟨parts, hparts, hcount, hsum⟩ := exists_parts_of_closed hclosed
  obtain ⟨right, below, hbelow⟩ := List.exists_cons_of_ne_nil (List.splitOn_ne_nil '\n' (text.toList.drop offset))
  have hlength : front.length + left.length = offset := by
    rw [← List.length_append, ← hcs, List.length_take, String.length_toList, Nat.min_eq_left h]
  refine ⟨parts.map String.ofList, left, right, below.map String.ofList, ?_, ?_, ?_, hcolumn, ?_⟩
  · rw [Text.lines, partsAt, ← List.take_append_drop offset text.toList, hcs, List.append_assoc, hparts,
      splitOn_append_of_not_mem hleft, hbelow, List.modifyHead_cons, List.map_append, List.map_cons]
  · rw [List.map_map, ← hlength, ← hsum]
    simp only [Function.comp_def, String.length_ofList]
  · rw [← List.count_eq_length_filter, hcs, List.count_append, List.count_eq_zero.mpr hleft, Nat.add_zero, ← hcount,
      List.length_map]
  · exact prefix_of_splitOn_cons hbelow

namespace IsCut

theorem line (h : IsCut text offset above left right below) :
    (Text.lines text)[above.length]? = some (String.ofList (left ++ right)) := by
  rw [h.lines, List.getElem?_append_right (Nat.le_refl _), Nat.sub_self, List.getElem?_cons_zero]

theorem lineColumn (h : IsCut text offset above left right below) :
    Deminify.lineColumn text offset = (above.length + 1, left.length + 1) := by
  rw [Deminify.lineColumn, Int.toNat_natCast, h.row, h.column]

theorem position (h : IsCut text offset above left right below) (hle : offset ≤ text.length) :
    Program.position text offset = ⟨above.length, left.length⟩ := by
  have hin : offsetIn text.length offset = offset := by
    rw [offsetIn, if_neg (by omega), Int.toNat_natCast, Nat.min_eq_right hle]
  have hlength : (text.toList.take offset).length = offset := by
    rw [List.length_take, String.length_toList, Nat.min_eq_left hle]
  rw [Program.position, hin, h.row, h.column, hlength]
  congr
  omega

/-- What the line has behind the offset is what the text has there. -/
theorem getElem?_line (h : IsCut text offset above left right below) (hin : left.length < (left ++ right).length) :
    ∃ c, (left ++ right)[left.length]? = some c ∧ text.toList[offset]? = some c := by
  obtain ⟨rest, hrest⟩ := h.behind
  cases right with
  | nil => simp at hin
  | cons c right =>
    refine ⟨c, by simp, ?_⟩
    have hdrop := congrArg (·[0]?) hrest
    rw [List.getElem?_drop, Nat.add_zero] at hdrop
    exact hdrop.symm

end IsCut

end Cut

/-! ### The lines of a frame -/

/-- What stands in front of a line in a frame. -/
def lineHead (mark : String) (number : Nat) : String := mark ++ " " ++ padLeft 5 (toString number) ++ " | "

/-- The line with the caret: it stands behind as many characters as the line above it has up to the column. -/
def caretLine (width : Nat) (column : Int) : String :=
  String.ofList (List.replicate (width - 2) ' ') ++ "| " ++ String.ofList (List.replicate (column - 1).toNat ' ') ++ "^"

section Frame

variable {lines : List String} {line : Nat} {column : Int} {number : Nat}

theorem frameLines_self : frameLines lines.toArray line (some column) line =
    [lineHead ">" line ++ (lines[line - 1]?).getD "", caretLine (lineHead ">" line).length column] := by
  simp [frameLines, lineHead, caretLine]

theorem frameLines_of_ne (h : number ≠ line) : frameLines lines.toArray line (some column) number =
    [lineHead " " number ++ (lines[number - 1]?).getD ""] := by
  have hne : ((number : Int) == line) = false := beq_eq_false_iff_ne.mpr (by omega)
  simp [frameLines, lineHead, hne]

theorem newLine_not_mem_lineHead {mark : String} (h : '\n' ∉ mark.toList) : '\n' ∉ (lineHead mark number).toList := by
  have hdigits : '\n' ∉ Nat.toDigits 10 number := fun hmem =>
    absurd (Nat.isDigit_of_mem_toDigits (by decide) (by decide) hmem) (by decide)
  simp [lineHead, padLeft, h, hdigits, List.mem_replicate]

theorem two_le_length_lineHead (mark : String) : 2 ≤ (lineHead mark number).length := by
  rw [lineHead, String.length_append, show " | ".length = 3 from rfl]
  omega

theorem toList_caretLine (width : Nat) : (caretLine width column).toList =
    List.replicate (width - 2) ' ' ++ '|' :: ' ' :: List.replicate (column - 1).toNat ' ' ++ ['^'] := by
  simp [caretLine]

theorem count_caretLine (width : Nat) : (caretLine width column).toList.count '^' = 1 := by
  simp [toList_caretLine, List.count_append, List.count_replicate]

theorem head?_caretLine (width : Nat) : (caretLine width column).toList.head? ≠ some '>' := by
  rw [toList_caretLine]
  cases width - 2 with
  | zero => simp
  | succ k => simp [List.replicate_succ]

/-- **The caret stands below its column.** -/
theorem getElem?_caretLine {width : Nat} (h : 2 ≤ width) :
    (caretLine width column).toList[width + (column - 1).toNat]? = some '^' := by
  rw [toList_caretLine, List.getElem?_append_right]
  all_goals
    simp only [List.length_append, List.length_cons, List.length_replicate]
  · rw [show width + (column - 1).toNat - (width - 2 + ((column - 1).toNat + 1 + 1)) = 0 by omega,
      List.getElem?_cons_zero]
  · omega

/-- No line of a frame is broken. -/
theorem newLine_not_mem_frameLines (h : ∀ l ∈ lines, '\n' ∉ l.toList) :
    ∀ l ∈ frameLines lines.toArray line (some column) number, '\n' ∉ l.toList := by
  have htext (mark : String) (hmark : '\n' ∉ mark.toList) :
      '\n' ∉ (lineHead mark number ++ (lines[number - 1]?).getD "").toList := by
    rw [String.toList_append, List.mem_append, not_or]
    refine ⟨newLine_not_mem_lineHead hmark, ?_⟩
    cases hl : lines[number - 1]? with
    | none => simp
    | some l => exact h l (List.mem_of_getElem? hl)
  by_cases hline : number = line
  · subst hline
    rw [frameLines_self]
    intro l hl
    rcases List.mem_cons.mp hl with rfl | hl
    · exact htext ">" (by decide)
    · rw [List.mem_singleton.mp hl, toList_caretLine]
      simp [List.mem_replicate]
  · rw [frameLines_of_ne hline]
    intro l hl
    rw [List.mem_singleton.mp hl]
    exact htext " " (by decide)

/-- The lines around the one in question have no mark. -/
theorem head?_of_mem_frameLines (h : number ≠ line) :
    ∀ l ∈ frameLines lines.toArray line (some column) number, l.toList.head? = some ' ' := by
  rw [frameLines_of_ne h]
  intro l hl
  rw [List.mem_singleton.mp hl]
  simp [lineHead]

/-- The numbers of lines in a frame: those above a line, the line, and those below. -/
theorem numbers_eq {first last : Nat} (hfirst : first ≤ line) (hlast : line ≤ last) :
    (List.range (last + 1 - first)).map (first + ·) =
      List.range' first (line - first) ++ line :: List.range' (line + 1) (last - line) := by
  rw [← List.range'_eq_map_range, ← List.range'_succ,
    show last + 1 - first = (line - first) + (last - line + 1) by omega, ← List.range'_append]
  congr 2
  omega

end Frame

/-- **The lines of a frame around a line of the text**: the line and its caret, and around them lines without a
mark. -/
theorem lines_codeFrame {source text : String} {line : Nat} {column radius : Int} (hradius : 0 ≤ radius)
    (hline : 1 ≤ line) (htext : (Text.lines source)[line - 1]? = some text) :
    ∃ before after, Text.lines (codeFrame source line (some column) radius) =
        before ++ (lineHead ">" line ++ text) :: caretLine (lineHead ">" line).length column :: after ∧
      ∀ l ∈ before ++ after, l.toList.head? = some ' ' := by
  have hlength : line ≤ (Text.lines source).length := by
    have := (List.getElem?_eq_some_iff.mp htext).1
    omega
  have hplain : ∀ l ∈ Text.lines source, '\n' ∉ l.toList := fun l hl => not_mem_of_mem_partsAt hl
  rw [codeFrame, if_neg (by omega)]
  extract_lets lines first last numbers
  have hfirst : first ≤ line := by omega
  have hlast : line ≤ last := by
    have : lines.size = (Text.lines source).length := rfl
    omega
  have hnumbers : numbers = _ := numbers_eq hfirst hlast
  refine ⟨(List.range' first (line - first)).flatMap (frameLines lines line (some column)),
    (List.range' (line + 1) (last - line)).flatMap (frameLines lines line (some column)), ?_, ?_⟩
  · have hshown : numbers.flatMap (frameLines lines line (some column)) = _ :=
      (congrArg (List.flatMap _) hnumbers).trans List.flatMap_append
    rw [List.flatMap_cons, frameLines_self, htext] at hshown
    rw [Text.lines, show "\n" = String.singleton '\n' from rfl, partsAt_intercalate, hshown]
    · rfl
    · rw [hshown]
      simp
    · intro l hl
      obtain ⟨number, -, hl⟩ := List.mem_flatMap.mp hl
      exact newLine_not_mem_frameLines hplain l hl
  · intro l hl
    rw [← List.flatMap_append] at hl
    obtain ⟨number, hnumber, hl⟩ := List.mem_flatMap.mp hl
    refine head?_of_mem_frameLines ?_ l hl
    rcases List.mem_append.mp hnumber with h | h
    all_goals
      obtain ⟨i, hi, rfl⟩ := List.mem_range'.mp h
      omega

/-- With fewer than no lines on either side, nothing is shown. -/
theorem codeFrame_of_neg {source : String} {line radius : Int} (column : Option Int) (h : radius < 0) :
    codeFrame source line column radius = "" := by
  rw [codeFrame]
  split
  · rfl
  · extract_lets lines first last numbers
    have hnone : last + 1 - first = 0 := by omega
    have hnumbers : numbers = [] := by
      show (List.range (last + 1 - first)).map _ = _
      rw [hnone]
      rfl
    rw [hnumbers]
    rfl

/-! ### Agreement -/

/-- **A frame marks an offset**, given as a line and a column: the line with its number is the only one that starts
with the mark. The line after it holds the caret, which stands below the character at the offset if the line has one
there. -/
structure Marks (source : String) (offset line column : Nat) (frame : List String) (text : String)
    (before : List String) (caret : String) (after : List String) : Prop where
  shown : (Text.lines source)[line - 1]? = some text
  around : frame = before ++ (lineHead ">" line ++ text) :: caret :: after
  only : ∀ l ∈ before ++ caret :: after, l.toList.head? ≠ some '>'
  single : caret.toList.count '^' = 1
  below : column - 1 < text.length → ∃ i c, i = (lineHead ">" line).length + (column - 1) ∧
    caret.toList[i]? = some '^' ∧ (lineHead ">" line ++ text).toList[i]? = some c ∧ source.toList[offset]? = some c

theorem IsCut.marks {source : String} {offset : Nat} {above below : List String} {left right : List Char}
    (h : IsCut source offset above left right below) {radius : Int} (hradius : 0 ≤ radius) :
    ∃ text before caret after, Marks source offset (above.length + 1) (left.length + 1)
      (Text.lines (codeFrame source (above.length + 1 : Nat) (some (left.length + 1 : Nat)) radius)) text before caret
      after := by
  obtain ⟨before, after, hframe, hplain⟩ := @lines_codeFrame source (String.ofList (left ++ right)) (above.length + 1)
    (left.length + 1 : Nat) radius hradius (Nat.le_add_left 1 _) h.line
  refine ⟨_, before, _, after, h.line, hframe, fun l hl => ?_, count_caretLine _, fun hin => ?_⟩
  · rcases List.mem_append.mp hl with hl | hl
    · rw [hplain l (List.mem_append_left _ hl)]
      decide
    rcases List.mem_cons.mp hl with rfl | hl
    · exact head?_caretLine _
    · rw [hplain l (List.mem_append_right _ hl)]
      decide
  · rw [Nat.add_sub_cancel, String.length_ofList] at hin
    obtain ⟨c, hline, hsource⟩ := h.getElem?_line hin
    refine ⟨_, c, rfl, ?_, ?_, hsource⟩
    · rw [show left.length + 1 - 1 = ((left.length + 1 : Nat) - 1 : Int).toNat by omega]
      exact getElem?_caretLine (two_le_length_lineHead ">")
    · rw [String.toList_append, List.getElem?_append_right (by rw [String.length_toList]; omega), String.length_toList,
        Nat.add_sub_cancel_left, Nat.add_sub_cancel, String.toList_ofList, hline]

/-- **Positions agree.** The line and the column of an offset, counted from one, are the position of a node that
starts there, counted from zero; with the lines of the text in front of them they lead back to the offset; and a frame
around them marks the offset, unless it has room for less than no line. -/
theorem positions_agree {source : String} {offset line column : Nat} (h : offset ≤ source.length)
    (hat : lineColumn source offset = (line, column)) : 1 ≤ line ∧ 1 ≤ column ∧
      (∀ (t : Tree) (rest : List Tree), t.get "range" = .list (.int offset :: rest) →
        Program.positionOf source t = some ⟨line - 1, column - 1⟩) ∧
      (((Text.lines source).take (line - 1)).map fun l => l.length + 1).sum + (column - 1) = offset ∧
      (∀ radius : Int, 0 ≤ radius → ∃ text before caret after, Marks source offset line column
        (Text.lines (codeFrame source line (some column) radius)) text before caret after) ∧
      ∀ radius : Int, radius < 0 → codeFrame source line (some column) radius = "" := by
  obtain ⟨above, left, right, below, hcut⟩ := exists_isCut h
  obtain ⟨rfl, rfl⟩ := Prod.mk.inj (hcut.lineColumn.symm.trans hat)
  refine ⟨Nat.le_add_left 1 _, Nat.le_add_left 1 _, fun t rest hrange => ?_, ?_, fun radius hradius => hcut.marks hradius,
    fun radius hradius => codeFrame_of_neg _ hradius⟩
  · rw [Program.positionOf, hrange]
    show some (Program.position source offset) = _
    rw [hcut.position h]
    simp
  · rw [Nat.add_sub_cancel, Nat.add_sub_cancel, hcut.lines, List.take_left', hcut.sum]
    rfl

/-- The last letter of a text of three lines, the middle one of them empty. -/
theorem positions_agree_lastLetter : 5 ≤ "ab\n\ncd".length ∧ lineColumn "ab\n\ncd" 5 = (3, 2) ∧
    Program.positionOf "ab\n\ncd" (.obj 1 [("range", .list [.int 5, .int 6])]) = some ⟨2, 1⟩ ∧
    ∃ text before caret after, Marks "ab\n\ncd" 5 3 2 (Text.lines (codeFrame "ab\n\ncd" 3 (some 2) 1)) text before caret
      after := by
  have hat : lineColumn "ab\n\ncd" 5 = (3, 2) := by decide
  obtain ⟨-, -, hposition, -, hmarks, -⟩ := @positions_agree "ab\n\ncd" 5 3 2 (by decide) hat
  exact ⟨by decide, hat, hposition _ _ rfl, hmarks 1 (by decide)⟩

/-- A frame with fewer than no lines around a line does not show the line. -/
theorem not_marked_of_neg : ¬∀ (source : String) (offset line column : Nat) (radius : Int), offset ≤ source.length →
    lineColumn source offset = (line, column) →
      ∃ l ∈ Text.lines (codeFrame source line (some column) radius), l.toList.head? = some '>' := by
  intro hall
  obtain ⟨l, hl, hmark⟩ := hall "a" 0 1 1 (-1) (by decide) (by decide)
  rw [codeFrame_of_neg _ (by decide)] at hl
  cases List.mem_singleton.mp hl
  cases hmark

end Deminify
