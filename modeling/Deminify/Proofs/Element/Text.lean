import Deminify.Rules.Element.Parts
import Deminify.Token.Tag
import Deminify.Token.Source

/-!
# What children say

Between two tags stand texts, expressions in braces and other elements. Of a text, not everything that is written is
said (`Deminify.Rules.Element.textSaid?`): it is split at its line ends, each line is trimmed, empty lines are dropped,
what is left is joined by one blank, and a character may be written by name or number. Texts side by side are one text
(`Deminify.Rules.Element.read`).

**A text that can stand between tags says what it says as a literal**, with any blanks and line ends around it
(`Deminify.Rules.Element.textSaid?_around`).
-/

namespace Deminify.Rules.Element

/-! ### Texts between tags -/

/-- Whether a character ends a line between tags. -/
def endsLine (c : Char) : Bool := c == '\n' || c == '\r'

/-- Whether a character is trimmed at the ends of a line between tags. -/
def isGap (c : Char) : Bool := c == ' ' || c == '\t'

/-- The lines of a text between tags. -/
def textLines : List Char → List (List Char)
  | [] => [[]]
  | c :: rest => if endsLine c then [] :: textLines rest else (textLines rest).modifyHead (c :: ·)

/-- A line without the gaps at its ends. -/
def trimLine (line : List Char) : List Char := ((line.dropWhile isGap).reverse.dropWhile isGap).reverse

/-- The lines of a text that say something, trimmed. -/
def saidLines (cs : List Char) : List (List Char) := ((textLines cs).map trimLine).filter (!·.isEmpty)

/-- A hexadecimal digit. -/
def isHexChar (c : Char) : Bool := c.isDigit || ('a' ≤ c && c ≤ 'f') || ('A' ≤ c && c ≤ 'F')

/-- The character that digits up to a semicolon stand for, and how far that goes from a start. -/
def numbered? (base : Nat) (isDigit : Char → Bool) (start : Nat) (cs : List Char) : Option (Char × Nat) :=
  let digits := cs.takeWhile isDigit
  if !digits.isEmpty && (cs.dropWhile isDigit).head? == some ';' then
    some (Char.ofNat (Token.valueIn base digits), start + digits.length + 1)
  else none

/-- The character that is written by name or number at the front of a text, and how many characters that takes. -/
def entityAt? : List Char → Option (Char × Nat)
  | '&' :: '#' :: 'x' :: rest => numbered? 16 isHexChar 3 rest
  | '&' :: '#' :: rest => numbered? 10 Char.isDigit 2 rest
  | '&' :: c :: rest =>
    let name := c :: rest.takeWhile Char.isAlphanum
    if c.isAlpha && (rest.dropWhile Char.isAlphanum).head? == some ';' then
      (Token.entity? (String.ofList name)).map (·, name.length + 2)
    else none
  | _ => none

/-- A text with the characters that are written by name or number; so many characters at its front have been read. -/
def decodeFrom : Nat → List Char → List Char
  | _, [] => []
  | read + 1, _ :: rest => decodeFrom read rest
  | 0, c :: rest =>
    match entityAt? (c :: rest) with
    | some (d, length) => d :: decodeFrom (length - 1) rest
    | none => c :: decodeFrom 0 rest

/-- **What a text between tags says**, if it says anything. -/
def textSaid? (cs : List Char) : Option String :=
  match saidLines cs with
  | [] => none
  | lines => some (String.ofList (decodeFrom 0 (List.intercalate [' '] lines)))

/-! ### Children -/

/-- A child of an element: a text, the value of an expression, or the items of one. -/
inductive Child where
  | text (s : String)
  | value (t : Tree)
  | spread (t : Tree)

/-- The child that an argument gives. -/
def Child.of (t : Tree) : Child :=
  if t.isKind "SpreadElement" then .spread (t.get "argument")
  else if t.isStringLiteral then .text (((t.get "value").str?).getD "")
  else .value t

/-- What stands between tags: a text as it is written, an expression or a spread in braces, or an element. -/
inductive Piece where
  | text (s : String)
  | braces (t : Tree)
  | spread (t : Tree)
  | element (t : Tree)

/-- The child that a text gives, if it says anything. -/
def textChild (cs : List Char) : List Child := (textSaid? cs).toList.map .text

/-- The children that pieces give behind a text. -/
def readFrom (before : List Char) : List Piece → List Child
  | [] => textChild before
  | .text s :: rest => readFrom (before ++ s.toList) rest
  | .braces t :: rest => textChild before ++ .of t :: readFrom [] rest
  | .spread t :: rest => textChild before ++ .spread t :: readFrom [] rest
  | .element t :: rest => textChild before ++ .value t :: readFrom [] rest

/-- **The children that pieces give.** -/
def read (pieces : List Piece) : List Child := readFrom [] pieces

/-! ### Lines -/

section Lines

variable {cs around : List Char} {c : Char}

/-- Whether a text consists of blanks and line ends. -/
def IsAround (cs : List Char) : Prop := ∀ c ∈ cs, isGap c = true ∨ endsLine c = true

theorem trimLine_cons (h : isGap c = true) (line : List Char) : trimLine (c :: line) = trimLine line := by
  rw [trimLine, List.dropWhile_cons_of_pos h, trimLine]

theorem textLines_ne_nil (cs : List Char) : textLines cs ≠ [] := by
  cases cs with
  | nil => exact List.cons_ne_nil _ _
  | cons c rest =>
    rw [textLines]
    split
    · exact List.cons_ne_nil _ _
    · cases h : textLines rest with
      | nil => exact absurd h (textLines_ne_nil rest)
      | cons line lines => exact List.cons_ne_nil _ _

/-- What is around a text in front of it says nothing. -/
theorem saidLines_append (h : IsAround around) (cs : List Char) : saidLines (around ++ cs) = saidLines cs := by
  induction around with
  | nil => rfl
  | cons c rest ih =>
    have hrest := ih fun x hx => h x (List.mem_cons_of_mem _ hx)
    rw [List.cons_append, ← hrest, saidLines, textLines]
    split
    · rfl
    · rename_i hc
      have hgap := (h c List.mem_cons_self).resolve_right hc
      obtain ⟨line, lines, hlines⟩ := List.exists_cons_of_ne_nil (textLines_ne_nil (rest ++ cs))
      rw [saidLines, hlines, List.modifyHead_cons, List.map_cons, List.map_cons, trimLine_cons hgap]

theorem saidLines_around (h : IsAround around) : saidLines around = [] := by
  rw [← List.append_nil around, saidLines_append h]
  rfl

/-- Lines that are around a text are gaps. -/
theorem isGap_of_mem_textLines (h : IsAround cs) : ∀ line ∈ textLines cs, ∀ c ∈ line, isGap c = true := by
  induction cs with
  | nil =>
    rw [textLines, List.forall_mem_singleton]
    exact List.forall_mem_nil _
  | cons c rest ih =>
    have hrest := ih fun x hx => h x (List.mem_cons_of_mem _ hx)
    rw [textLines]
    split
    · exact List.forall_mem_cons.mpr ⟨List.forall_mem_nil _, hrest⟩
    · rename_i hc
      have hgap := (h c List.mem_cons_self).resolve_right hc
      obtain ⟨line, lines, hlines⟩ := List.exists_cons_of_ne_nil (textLines_ne_nil rest)
      rw [hlines] at hrest ⊢
      rw [List.modifyHead_cons]
      obtain ⟨hline, hlines⟩ := List.forall_mem_cons.mp hrest
      exact List.forall_mem_cons.mpr ⟨List.forall_mem_cons.mpr ⟨hgap, hline⟩, hlines⟩

theorem trimLine_eq_nil (h : ∀ c ∈ cs, isGap c = true) : trimLine cs = [] := by
  have hdrop : cs.dropWhile isGap = [] := by
    rw [← List.append_nil cs, List.dropWhile_append_of_pos h]
    rfl
  rw [trimLine, hdrop]
  rfl

/-- A text of one line goes on into what stands behind it. -/
theorem textLines_append (h : ∀ c ∈ cs, endsLine c = false) (rest : List Char) :
    textLines (cs ++ rest) = (textLines rest).modifyHead (cs ++ ·) := by
  induction cs with
  | nil =>
    rw [List.nil_append]
    cases textLines rest <;> rfl
  | cons c cs ih =>
    obtain ⟨hc, hcs⟩ := List.forall_mem_cons.mp h
    rw [List.cons_append, textLines, if_neg (by rw [hc]; decide), ih hcs]
    cases textLines rest <;> rfl

/-- Whether a text is one line, without gaps at its ends. -/
structure IsLine (cs : List Char) : Prop where
  ne : cs ≠ []
  inside : ∀ c ∈ cs, endsLine c = false
  front : cs.dropWhile isGap = cs
  back : cs.reverse.dropWhile isGap = cs.reverse

theorem IsLine.trimLine_append (h : IsLine cs) (hgap : ∀ c ∈ around, isGap c = true) :
    trimLine (cs ++ around) = cs := by
  have hfront : (cs ++ around).dropWhile isGap = cs ++ around := by
    obtain ⟨c, rest, rfl⟩ := List.exists_cons_of_ne_nil h.ne
    have hc : ¬isGap c = true := fun hc => by
      have := congrArg List.length (List.dropWhile_cons_of_pos hc ▸ h.front)
      have := (List.dropWhile_suffix isGap (l := rest)).length_le
      grind
    rw [List.cons_append, List.dropWhile_cons_of_neg hc]
  rw [trimLine, hfront, List.reverse_append, List.dropWhile_append_of_pos fun c hc => hgap c (List.mem_reverse.mp hc),
    h.back, List.reverse_reverse]

/-- **A line says what it is**, whatever is around it. -/
theorem IsLine.saidLines_eq (h : IsLine cs) {before after : List Char} (hb : IsAround before) (ha : IsAround after) :
    saidLines (before ++ (cs ++ after)) = [cs] := by
  rw [saidLines_append hb, saidLines, textLines_append h.inside]
  obtain ⟨line, lines, hlines⟩ := List.exists_cons_of_ne_nil (textLines_ne_nil after)
  have hgaps := isGap_of_mem_textLines ha
  rw [hlines] at hgaps ⊢
  obtain ⟨hline, hrest⟩ := List.forall_mem_cons.mp hgaps
  have hnone : (lines.map trimLine).filter (!·.isEmpty) = [] := by
    rw [List.filter_eq_nil_iff]
    rintro _ hm
    obtain ⟨l, hl, rfl⟩ := List.mem_map.mp hm
    rw [trimLine_eq_nil (hrest l hl)]
    decide
  have hsome : (!cs.isEmpty) = true := by simpa using h.ne
  rw [List.modifyHead_cons, List.map_cons, h.trimLine_append hline, List.filter_cons_of_pos (p := fun l : List Char => !l.isEmpty) hsome,
    hnone]

end Lines

/-! ### Characters by name or number -/

section Entities

theorem takeWhile_of_head {p q : Char → Bool} (hpq : ∀ c, p c = true → q c = true) {d : Char} (hd : q d = false)
    {cs : List Char} (h : (cs.dropWhile p).head? = some d) :
    cs.takeWhile q = cs.takeWhile p ∧ cs.dropWhile q = cs.dropWhile p := by
  induction cs with
  | nil => cases h
  | cons c rest ih =>
    by_cases hp : p c = true
    · rw [List.dropWhile_cons_of_pos hp] at h ⊢
      rw [List.takeWhile_cons_of_pos hp, List.takeWhile_cons_of_pos (hpq c hp), List.dropWhile_cons_of_pos (hpq c hp)]
      exact ⟨congrArg _ (ih h).1, (ih h).2⟩
    · rw [List.dropWhile_cons_of_neg hp, List.head?_cons, Option.some.injEq] at h
      subst h
      have hq : ¬q c = true := by simp [hd]
      rw [List.takeWhile_cons_of_neg hp, List.takeWhile_cons_of_neg hq, List.dropWhile_cons_of_neg hp,
        List.dropWhile_cons_of_neg hq]
      exact ⟨rfl, rfl⟩

theorem isDecimal_of_isDigit {c : Char} (h : c.isDigit = true) : Text.isDecimal c = true := by
  have hlt : c.toNat < 128 := by
    simp only [Char.isDigit, Bool.and_eq_true, decide_eq_true_eq] at h
    exact Nat.lt_of_le_of_lt (UInt32.le_iff_toNat_le.mp h.2) (by decide)
  rw [Text.isDecimal, if_pos hlt, h]

/-- What does not start like an entity is none. -/
theorem entityAt?_eq_none {cs : List Char} (h : startsEntity cs = false) : entityAt? cs = none := by
  unfold entityAt?
  split
  · rename_i rest
    simp only [startsEntity, Bool.or_eq_false_iff] at h
    have h' : (!(rest.takeWhile isHexChar).isEmpty && (rest.dropWhile isHexChar).head? == some ';') = false := h.2
    rw [numbered?, if_neg (by rw [h']; decide)]
  · rename_i rest _
    simp only [startsEntity, Bool.or_eq_false_iff] at h
    have hdecimal := h.1
    rw [numbered?, if_neg]
    intro hdigits
    obtain ⟨hsome, hhead⟩ := Bool.and_eq_true_iff.mp hdigits
    obtain ⟨htake, hdrop⟩ := takeWhile_of_head (p := Char.isDigit) (q := Text.isDecimal)
      (fun _ => isDecimal_of_isDigit) (by decide) (beq_iff_eq.mp hhead)
    rw [htake, hdrop, hsome, hhead] at hdecimal
    cases hdecimal
  · rename_i c rest _ hc
    have h' : (c.isAlpha && (rest.dropWhile Char.isAlphanum).head? == some ';') = false := by
      rw [startsEntity] at h
      · exact h
      · exact hc
    rw [if_neg (by rw [h']; decide)]
  · rfl

/-- A text without entities is written as it is. -/
theorem decodeFrom_of_not_holdsEntity {cs : List Char} (h : holdsEntityFrom cs = false) : decodeFrom 0 cs = cs := by
  induction cs with
  | nil => rfl
  | cons c rest ih =>
    rw [holdsEntityFrom, Bool.or_eq_false_iff] at h
    rw [decodeFrom, entityAt?_eq_none h.1]
    exact congrArg _ (ih h.2)

end Entities

/-! ### Texts that are written as they are -/

section Said

theorem isBlank_of_isGap {c : Char} (h : isGap c = true) : Text.isBlank c = true := by
  simp only [isGap, Bool.or_eq_true, beq_iff_eq] at h
  rcases h with rfl | rfl <;> decide

theorem dropWhile_eq_self_mono {p q : Char → Bool} (hpq : ∀ c, p c = true → q c = true) {cs : List Char}
    (h : cs.dropWhile q = cs) : cs.dropWhile p = cs := by
  cases cs with
  | nil => rfl
  | cons c rest =>
    refine List.dropWhile_cons_of_neg fun hp => ?_
    have hlength := congrArg List.length (List.dropWhile_cons_of_pos (hpq c hp) ▸ h)
    have hle := (List.dropWhile_suffix q (l := rest)).length_le
    grind

/-- A text that can stand between tags is one line. -/
theorem isLine_of_isChildText {s : String} (h : isChildText s = true) : IsLine s.toList := by
  simp only [isChildText, Bool.and_eq_true, Bool.not_eq_true', beq_iff_eq] at h
  obtain ⟨⟨⟨hne, hspecial⟩, hstrip⟩, -⟩ := h
  -- nothing is taken away by the strip, on either side
  have hstrip' : s.toList = (Text.dropBlanks (Text.dropBlanks s.toList).reverse).reverse :=
    (congrArg String.toList hstrip).trans String.toList_ofList
  have hle (cs : List Char) : (Text.dropBlanks cs).length ≤ cs.length := (List.dropWhile_suffix _).length_le
  have hself {cs : List Char} (h : (Text.dropBlanks cs).length = cs.length) : Text.dropBlanks cs = cs :=
    (List.dropWhile_suffix Text.isBlank).eq_of_length h
  have hlength := congrArg List.length hstrip'
  rw [List.length_reverse] at hlength
  have hfirst := hle s.toList
  have hsecond := hle (Text.dropBlanks s.toList).reverse
  rw [List.length_reverse] at hsecond
  have hfront : Text.dropBlanks s.toList = s.toList := hself (by omega)
  have hback : Text.dropBlanks s.toList.reverse = s.toList.reverse := by
    rw [hfront] at hsecond hlength
    exact hself (by rw [List.length_reverse]; exact hlength.symm)
  refine ⟨fun h => ?_, fun c hc => ?_, dropWhile_eq_self_mono (fun _ => isBlank_of_isGap) hfront,
    dropWhile_eq_self_mono (fun _ => isBlank_of_isGap) hback⟩
  · rw [String.toList_eq_nil_iff.mp h] at hne
    cases hne
  · have := List.any_eq_false.mp hspecial c hc
    simp only [Bool.or_eq_true, beq_iff_eq, not_or] at this
    simp [endsLine, this.1.2, this.2]

/-- **A text that can stand between tags says what it says as a literal**, whatever is around it. -/
theorem textSaid?_around {s : String} (h : isChildText s = true) {before after : List Char} (hb : IsAround before)
    (ha : IsAround after) : textSaid? (before ++ (s.toList ++ after)) = some s := by
  have hentity : holdsEntityFrom s.toList = false := by
    simp only [isChildText, Bool.and_eq_true, Bool.not_eq_true'] at h
    exact h.2
  rw [textSaid?, (isLine_of_isChildText h).saidLines_eq hb ha]
  dsimp only
  rw [show List.intercalate [' '] [s.toList] = s.toList by simp [List.intercalate],
    decodeFrom_of_not_holdsEntity hentity, String.ofList_toList]

theorem textSaid?_nothing {around : List Char} (h : IsAround around) : textSaid? around = none := by
  rw [textSaid?, saidLines_around h]

end Said

end Deminify.Rules.Element
