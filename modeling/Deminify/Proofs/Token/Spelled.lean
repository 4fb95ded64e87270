import Mathlib.Data.List.Basic
import Deminify.Token.Lexer

/-!
# Words and the texts that spell them

A text spells words if they stand in it one after the other, with blanks and new lines between them where
two would run together (`Deminify.Spells`). **Each word is read as its token**
(`Deminify.Token.scan_of_isSpelled`): all that matters to a token is what stands at its place, and that
what follows is no part of it. So what is printed can be read again with only its words in view.

Words are names, keywords and the punctuators of one character that no other starts with. No word has
an escape.
-/

namespace Deminify

/-! ### Texts from an offset on -/

namespace Source

variable {src : Source} {i : Nat} {c d : Char} {u v cs : List Char}

/-- The text from an offset on. -/
def rest (src : Source) (i : Nat) : List Char := src.chars.toList.drop i

theorem rest_ofString (s : String) : (ofString s).rest 0 = s.toList := rfl

theorem length_rest : (src.rest i).length = src.size - i := by
  rw [rest, List.length_drop]
  rfl

theorem size_le_of_rest (h : src.rest i = []) : src.size ≤ i := by
  have := congrArg List.length h
  rw [length_rest, List.length_nil] at this
  omega

theorem lt_size_of_rest (h : src.rest i = c :: cs) : i < src.size := by
  have := congrArg List.length h
  rw [length_rest, List.length_cons] at this
  omega

theorem get_of_rest (h : src.rest i = c :: cs) : src.get i = c := by
  have hget : (src.rest i)[0]? = src.chars.toList[i]? := by rw [rest, List.getElem?_drop, Nat.add_zero]
  rw [h, List.getElem?_cons_zero, Array.getElem?_toList] at hget
  rw [get, ← hget]
  rfl

theorem rest_add (h : src.rest i = u ++ cs) : src.rest (i + u.length) = cs := by
  have hdrop : src.rest (i + u.length) = (src.rest i).drop u.length := by rw [rest, rest, List.drop_drop]
  rw [hdrop, h, List.drop_left]

theorem rest_succ (h : src.rest i = c :: cs) : src.rest (i + 1) = cs := rest_add (u := [c]) h

theorem toList_slice (n : Nat) : (src.slice i (i + n)).toList = (src.rest i).take n := by
  rw [slice, String.toList_ofList, Array.toList_extract, List.extract_eq_take_drop, Nat.add_sub_cancel_left]
  rfl

theorem slice_of_rest (h : src.rest i = u ++ cs) : src.slice i (i + u.length) = String.ofList u := by
  rw [← String.toList_inj, toList_slice, h, List.take_left, String.toList_ofList]

theorem not_startsWith (word : String) (h : src.rest i = c :: cs) (hw : word.toList = d :: v) (hne : c ≠ d) :
    src.startsWith i word = false := by
  refine beq_eq_false_iff_ne.mpr fun heq => hne ?_
  have hlist := congrArg String.toList heq
  rw [toList_slice, h, hw, ← String.length_toList, hw, List.length_cons, List.take_succ_cons] at hlist
  exact (List.cons.inj hlist).1

theorem skip_of_rest {p : Char → Bool} (hu : ∀ c ∈ u, p c = true) (hcs : ∀ c ∈ cs.head?, p c = false) :
    ∀ {steps i}, src.rest i = u ++ cs → steps = src.size - i → src.skip p steps i = i + u.length := by
  induction u with
  | nil =>
    intro steps i h hsteps
    cases cs with
    | nil =>
      have := size_le_of_rest h
      obtain rfl : steps = 0 := by omega
      rfl
    | cons c rest =>
      have := lt_size_of_rest h
      obtain ⟨steps, rfl⟩ : ∃ k, steps = k + 1 := ⟨steps - 1, by omega⟩
      rw [skip, get_of_rest h, hcs c rfl]
      rfl
  | cons c u ih =>
    intro steps i h hsteps
    have := lt_size_of_rest h
    obtain ⟨steps, rfl⟩ : ∃ k, steps = k + 1 := ⟨steps - 1, by omega⟩
    rw [skip, get_of_rest h, if_pos (hu c List.mem_cons_self),
      ih (fun c hc => hu c (List.mem_cons_of_mem _ hc)) (rest_succ h) (by omega), List.length_cons]
    omega

theorem skipWhile_of_rest {p : Char → Bool} (h : src.rest i = u ++ cs) (hu : ∀ c ∈ u, p c = true)
    (hcs : ∀ c ∈ cs.head?, p c = false) : src.skipWhile p i = i + u.length :=
  skip_of_rest hu hcs h rfl

end Source

/-! ### Words -/

/-- A word: what the token that stands for it is. -/
structure Word where
  type : TokenType
  value : String
  /-- Whether no line may end in front of it. -/
  joined : Bool := false

namespace Word

/-- A punctuator. -/
def mark (value : String) : Word := ⟨.punctuator, value, false⟩

end Word

theorem Scan.bind_of_ok {α β : Type} {x : Scan α} {f : α → Scan β} {a : α} {c c' : Cursor}
    (h : x c = .ok (a, c')) : (x >>= f) c = f a c' := by
  show (x c >>= fun r => f r.1 r.2) = _
  rw [h]
  rfl

theorem Scan.get_bind {α : Type} (f : Cursor → Scan α) (c : Cursor) : (get >>= f) c = f c c := rfl

namespace Token

/-- Whether characters are the letters of a word. -/
def isLetters (cs : List Char) : Bool :=
  cs.head?.any Text.isIdentifierStart && cs.all fun c => Text.isIdentifierPart c && c != '\\'

/-- How a word is spelled: in letters, or as a punctuator of one character. -/
inductive IsSpelled (w : Word) : Prop
  | letters (h : isLetters w.value.toList = true) (ht : w.type = wordType w.value)
  | mark {c : Char} (hc : c ∈ singlePunctuators) (hv : w.value = String.singleton c) (ht : w.type = .punctuator)

/-- Whether a word ends in front of a character. -/
def endsBefore (w : Word) (next : Option Char) : Bool :=
  w.type == .punctuator || !next.any Text.isIdentifierPart

section Scan

variable {src : Source} {c : Cursor} {l : Char} {u cs : List Char} {w : Word}

/-! ### Reading a word -/

theorem wordText_eq (h : src.rest c.index = u ++ cs) (hu : isLetters u = true)
    (hcs : cs.head?.any Text.isIdentifierPart = false) :
    wordText src c = .ok (String.ofList u, { c with index := c.index + u.length }) := by
  rw [isLetters, Bool.and_eq_true, List.all_eq_true] at hu
  obtain ⟨hhead, hall⟩ := hu
  have hstop : src.skipWhile (fun l => Text.isIdentifierPart l && l != '\\') c.index = c.index + u.length := by
    refine Source.skipWhile_of_rest h hall fun l hl => ?_
    rw [hl, Option.any_some] at hcs
    rw [hcs, Bool.false_and]
  obtain ⟨l, more, rfl⟩ : ∃ l more, u = l :: more := by
    cases u with
    | nil => cases hhead
    | cons l more => exact ⟨l, more, rfl⟩
  have hfirst : (src.get c.index != '\\') = true := by
    rw [Source.get_of_rest h]
    exact (Bool.and_eq_true_iff.mp (hall l List.mem_cons_self)).2
  have hend : (decide (c.index + (l :: more).length < src.size) && src.get (c.index + (l :: more).length) == '\\') =
      false := by
    have hrest := Source.rest_add h
    cases cs with
    | nil =>
      have := Source.size_le_of_rest hrest
      rw [decide_eq_false (by omega), Bool.false_and]
    | cons k cs =>
      rw [Source.get_of_rest hrest, Bool.and_eq_false_iff]
      refine .inr (beq_eq_false_iff_ne.mpr ?_)
      rintro rfl
      have hpart : Text.isIdentifierPart '\\' = true := by decide
      rw [List.head?_cons, Option.any_some, hpart] at hcs
      cases hcs
  rw [wordText]
  show (if _ then _ else _ : Scan String) c = _
  rw [if_pos, hstop, Source.slice_of_rest h]
  · rfl
  · rw [hfirst, hstop, hend]
    rfl

theorem scanWord_eq (h : src.rest c.index = u ++ cs) (hu : isLetters u = true)
    (hcs : cs.head?.any Text.isIdentifierPart = false) :
    scanWord src c = .ok (
      { type := wordType (String.ofList u), value := String.ofList u, line := c.line, lineStart := c.lineStart,
        start := c.index, stop := c.index + u.length },
      { c with index := c.index + u.length }) := by
  rw [scanWord]
  rw [Scan.get_bind, Scan.bind_of_ok (wordText_eq h hu hcs)]
  show (if _ then _ else _ : Scan Token) _ = _
  rw [if_neg]
  · rfl
  · rw [String.length_ofList, bne_self_eq_false, Bool.and_false]
    exact Bool.false_ne_true

theorem scanPunctuator_eq (h : src.rest c.index = l :: cs) (hl : l ∈ singlePunctuators) :
    scanPunctuator src c = .ok (
      { type := .punctuator, value := String.singleton l, line := c.line, lineStart := c.lineStart, start := c.index,
        stop := c.index + (String.singleton l).length },
      { c with index := c.index + 1
               braces := bracesAfter (String.singleton l) c.braces }) := by
  have hat : punctuatorAt? src c.index = some (String.singleton l) := by
    rw [punctuatorAt?, Source.get_of_rest h]
    exact if_pos (List.contains_iff_mem.mpr hl)
  have hstop : c.index + 1 = c.index + (String.singleton l).length := by rw [String.length_singleton]
  rw [scanPunctuator, Scan.get_bind]
  simp only [hat, hstop]
  rfl

theorem hole_not_mem_bracesAfter {braces : List Brace} (h : .hole ∉ braces) (p : String) :
    .hole ∉ bracesAfter p braces := by
  unfold bracesAfter
  split
  · exact fun hm => (List.mem_cons.mp hm).elim nofun h
  · split
    · exact fun hm => h (List.mem_of_mem_tail hm)
    · exact h

theorem wordType_ne_punctuator (word : String) : wordType word ≠ .punctuator := by
  unfold wordType
  split <;> [skip; split <;> [skip; split]] <;> nofun

theorem not_isIdentifierStart_of_single (hl : l ∈ singlePunctuators) : Text.isIdentifierStart l = false := by
  have hall : singlePunctuators.all (fun l => !Text.isIdentifierStart l) = true := by decide
  simpa using List.all_eq_true.mp hall l hl

theorem scan_letters (h : src.rest c.index = u ++ cs) (hu : isLetters u = true) : scan src c = scanWord src c := by
  obtain ⟨l, more, rfl⟩ : ∃ l more, u = l :: more := by
    cases u with
    | nil => cases hu
    | cons l more => exact ⟨l, more, rfl⟩
  have hstart : Text.isIdentifierStart l = true := (Bool.and_eq_true_iff.mp hu).1
  have hin : ¬src.size ≤ c.index := Nat.not_le.mpr (Source.lt_size_of_rest h)
  rw [scan]
  show (if _ then _ else _ : Scan Token) c = _
  rw [if_neg hin, Source.get_of_rest h, if_pos hstart]

theorem scan_single (h : src.rest c.index = l :: cs) (hl : l ∈ singlePunctuators) (hb : .hole ∉ c.braces) :
    scan src c = scanPunctuator src c := by
  have hin : ¬src.size ≤ c.index := Nat.not_le.mpr (Source.lt_size_of_rest h)
  have hhole : (c.braces.head? == some .hole) = false :=
    beq_eq_false_iff_ne.mpr fun heq => hb (List.mem_of_head? heq)
  have hplain : singlePunctuators.all (fun l => (l == '\x27' || l == '"') == false && l.isDigit == false &&
      (l == '.') == false && (l == '\x60') == false) = true := by decide
  have hl' := List.all_eq_true.mp hplain l hl
  simp only [Bool.and_eq_true, beq_iff_eq] at hl'
  obtain ⟨⟨⟨hquote, hdigit⟩, hpoint⟩, htick⟩ := hl'
  rw [scan]
  show (if _ then _ else _ : Scan Token) c = _
  rw [if_neg hin, Source.get_of_rest h, if_neg (by rw [not_isIdentifierStart_of_single hl]; decide),
    if_neg (by rw [hquote]; decide), if_neg (by rw [hdigit, hpoint, Bool.false_and]; decide),
    if_neg (by rw [htick, hhole, Bool.and_false]; decide)]

/-- **A word is read as its token**, whatever stands around it. -/
theorem scan_of_isSpelled (h : src.rest c.index = w.value.toList ++ cs) (hw : IsSpelled w)
    (hcs : endsBefore w cs.head? = true) (hb : .hole ∉ c.braces) :
    ∃ token c', scan src c = .ok (token, c') ∧ token.type = w.type ∧ token.value = w.value ∧
      token.line = c.line ∧ src.rest c'.index = cs ∧ c'.line = c.line ∧ .hole ∉ c'.braces := by
  cases hw with
  | letters hl ht =>
    have hpart : cs.head?.any Text.isIdentifierPart = false := by
      rw [endsBefore, ht, beq_eq_false_iff_ne.mpr (wordType_ne_punctuator _), Bool.false_or,
        Bool.not_eq_true'] at hcs
      exact hcs
    have hscan := (scan_letters h hl).trans (scanWord_eq h hl hpart)
    rw [String.ofList_toList] at hscan
    exact ⟨_, _, hscan, ht.symm, rfl, rfl, Source.rest_add h, rfl, hb⟩
  | @mark l hl hv ht =>
    have hrest : src.rest c.index = l :: cs := by rw [h, hv, String.toList_singleton]; rfl
    have hscan := (scan_single hrest hl hb).trans (scanPunctuator_eq hrest hl)
    exact ⟨_, _, hscan, ht.symm, hv.symm, rfl, Source.rest_succ hrest, rfl, hole_not_mem_bracesAfter hb _⟩

/-- At the end of the text is the token that says so. -/
theorem scan_of_rest_nil (h : src.rest c.index = []) :
    ∃ token, scan src c = .ok (token, c) ∧ token.type = .stop ∧ token.value = "" ∧ token.line = c.line := by
  have hscan : scan src c = .ok ({
      type := .stop, value := "", line := c.line, lineStart := c.lineStart, start := c.index, stop := c.index }, c) := by
    rw [scan]
    show (if _ then _ else _ : Scan Token) c = _
    rw [if_pos (Source.size_le_of_rest h)]
    rfl
  exact ⟨_, hscan, rfl, rfl, rfl⟩

/-! ### Gaps between words -/

/-- Whether characters are blanks and new lines. -/
def IsGap (cs : List Char) : Prop := ∀ c ∈ cs, c = ' ' ∨ c = '\n'

/-- Whether a character is the first of a word. -/
def opensWord (l : Char) : Bool := Text.isIdentifierStart l || singlePunctuators.contains l

theorem not_isIdentifierStart_of_isGap (h : isGap l = true) : Text.isIdentifierStart l = false := by
  have hwide : ∀ n ≤ 10, Text.identifierStarts.covers (0x2000 + n) = false := by decide +kernel
  simp only [isGap, Bool.or_eq_true, Bool.and_eq_true, beq_iff_eq, decide_eq_true_eq] at h
  rcases h with ((((((((((rfl | rfl) | rfl) | rfl) | rfl) | rfl) | rfl) | ⟨hlow, hhigh⟩) | rfl) | rfl) | rfl) | rfl
  case inl.inl.inl.inl.inr =>
    have hlow : 0x2000 ≤ l.toNat := hlow
    have hhigh : l.toNat ≤ 0x200a := hhigh
    rw [Text.isIdentifierStart, if_neg (by omega), Text.Ranges.contains]
    have := hwide (l.toNat - 0x2000) (by omega)
    rwa [Nat.add_sub_cancel' hlow] at this
  all_goals decide +kernel

theorem not_isIdentifierStart_of_isLineEnd (h : isLineEnd l = true) : Text.isIdentifierStart l = false := by
  rw [isLineEnd, Bool.or_eq_true, Bool.or_eq_true, Bool.or_eq_true, beq_iff_eq, beq_iff_eq, beq_iff_eq,
    beq_iff_eq] at h
  rcases h with ((rfl | rfl) | rfl) | rfl <;> decide +kernel

/-- The first character of a word is no gap, and no mark of a comment. -/
theorem plain_of_opensWord (h : opensWord l = true) :
    isGap l = false ∧ isLineEnd l = false ∧ l ≠ '/' ∧ l ≠ '-' ∧ l ≠ '<' := by
  rw [opensWord, Bool.or_eq_true, List.contains_iff_mem] at h
  rcases h with h | h
  · refine ⟨?_, ?_, ?_, ?_, ?_⟩
    · rw [Bool.eq_false_iff]
      exact fun hgap => absurd h (Bool.eq_false_iff.mp (not_isIdentifierStart_of_isGap hgap))
    · rw [Bool.eq_false_iff]
      exact fun hend => absurd h (Bool.eq_false_iff.mp (not_isIdentifierStart_of_isLineEnd hend))
    all_goals
      rintro rfl
      exact absurd h (by decide)
  · have hplain : singlePunctuators.all (fun l => isGap l == false && isLineEnd l == false && l != '/' && l != '-' &&
        l != '<') = true := by decide
    have hl := List.all_eq_true.mp hplain l h
    simp only [Bool.and_eq_true, beq_iff_eq, bne_iff_ne] at hl
    obtain ⟨⟨⟨⟨hgap, hend⟩, hslash⟩, hdash⟩, hless⟩ := hl
    exact ⟨hgap, hend, hslash, hdash, hless⟩

variable {script lineStart : Bool} {i : Nat}

theorem gapAt_of_opensWord (h : src.rest i = l :: cs) (hl : opensWord l = true) :
    gapAt src script lineStart i = .none := by
  obtain ⟨hgap, hend, hslash, hdash, hless⟩ := plain_of_opensWord hl
  have hin : ¬src.size ≤ i := Nat.not_le.mpr (Source.lt_size_of_rest h)
  rw [gapAt, if_neg hin, Source.get_of_rest h, if_neg (Bool.eq_false_iff.mp hgap), if_neg (Bool.eq_false_iff.mp hend),
    if_neg (by simpa using hslash), Source.not_startsWith "-->" h rfl hdash,
    Source.not_startsWith "<!--" h rfl hless, Bool.and_false, Bool.and_false]
  rfl

theorem gapAt_of_rest_nil (h : src.rest i = []) : gapAt src script lineStart i = .none :=
  if_pos (Source.size_le_of_rest h)

theorem gapAt_blank (h : src.rest i = ' ' :: cs) : gapAt src script lineStart i = .blank := by
  have hin : ¬src.size ≤ i := Nat.not_le.mpr (Source.lt_size_of_rest h)
  rw [gapAt, if_neg hin, Source.get_of_rest h]
  rfl

theorem gapAt_newLine (h : src.rest i = '\n' :: cs) : gapAt src script lineStart i = .lineEnd := by
  have hin : ¬src.size ≤ i := Nat.not_le.mpr (Source.lt_size_of_rest h)
  rw [gapAt, if_neg hin, Source.get_of_rest h]
  rfl

theorem skipGapsFrom_eq {gap : List Char} (hg : IsGap gap) (hcs : ∀ l ∈ cs.head?, opensWord l = true)
    (found : List Comment) : ∀ {fuel lineStart c}, src.rest c.index = gap ++ cs → gap.length < fuel →
      ∃ c', skipGapsFrom src script fuel lineStart found c = .ok (found.reverse, c') ∧ src.rest c'.index = cs ∧
        c'.braces = c.braces ∧ ('\n' ∉ gap → c'.line = c.line) := by
  induction gap with
  | nil =>
    intro fuel lineStart c h hfuel
    obtain ⟨fuel, rfl⟩ : ∃ k, fuel = k + 1 := ⟨fuel - 1, by omega⟩
    have hnone : gapAt src script lineStart c.index = .none := by
      cases cs with
      | nil => exact gapAt_of_rest_nil h
      | cons l cs => exact gapAt_of_opensWord h (hcs l rfl)
    refine ⟨c, ?_, h, rfl, fun _ => rfl⟩
    rw [skipGapsFrom, Scan.get_bind]
    simp only [hnone]
    rfl
  | cons b gap ih =>
    intro fuel lineStart c h hfuel
    obtain ⟨fuel, rfl⟩ : ∃ k, fuel = k + 1 := ⟨fuel - 1, by omega⟩
    obtain ⟨hb, hgap⟩ := List.forall_mem_cons.mp hg
    have hrest : src.rest (c.index + 1) = gap ++ cs := Source.rest_succ h
    have hless : gap.length < fuel := Nat.lt_of_succ_lt_succ hfuel
    rw [skipGapsFrom, Scan.get_bind]
    rcases hb with rfl | rfl
    · obtain ⟨c', hrun, hcs', hbraces, hline⟩ := @ih hgap fuel lineStart { c with index := c.index + 1 } hrest hless
      refine ⟨c', ?_, hcs', hbraces, fun hn => hline fun hm => hn (List.mem_cons_of_mem _ hm)⟩
      simp only [gapAt_blank h]
      exact hrun
    · have hafter : afterLineEnd src c.index = c.index + 1 := by
        rw [afterLineEnd, Source.get_of_rest h]
        rfl
      obtain ⟨c', hrun, hcs', hbraces, -⟩ := @ih hgap fuel true (c.newLine (c.index + 1)) hrest hless
      refine ⟨c', ?_, hcs', hbraces, fun hn => absurd List.mem_cons_self hn⟩
      simp only [gapAt_newLine h]
      show skipGapsFrom src script fuel true found (c.newLine (afterLineEnd src c.index)) = _
      rw [hafter]
      exact hrun

/-- **Gaps are skipped** up to the next word, or to the end. -/
theorem skipGaps_eq {gap : List Char} (hg : IsGap gap) (hcs : ∀ l ∈ cs.head?, opensWord l = true)
    (h : src.rest c.index = gap ++ cs) :
    ∃ c', skipGaps src script c = .ok ([], c') ∧ src.rest c'.index = cs ∧ c'.braces = c.braces ∧
      ('\n' ∉ gap → c'.line = c.line) := by
  have hlength := congrArg List.length h
  rw [Source.length_rest, List.length_append] at hlength
  exact skipGapsFrom_eq hg hcs [] h (by omega)

theorem IsSpelled.opensWord (h : IsSpelled w) : ∃ l more, w.value.toList = l :: more ∧ opensWord l = true := by
  cases h with
  | letters h _ =>
    cases hv : w.value.toList with
    | nil => rw [hv] at h; cases h
    | cons l more =>
      rw [hv, isLetters, Bool.and_eq_true] at h
      exact ⟨l, more, rfl, Bool.or_eq_true_iff.mpr (.inl h.1)⟩
  | mark hc hv _ =>
    exact ⟨_, [], by rw [hv, String.toList_singleton], Bool.or_eq_true_iff.mpr (.inr (List.contains_iff_mem.mpr hc))⟩

end Scan

end Token

/-! ### Texts that spell words -/

open Token

/-- **A text spells words**: it starts with the first word, perhaps behind a gap, and ends with the
last one. In strict code no name is a reserved word. -/
inductive Spells (strict : Bool) : List Char → List Word → Prop
  | nil : Spells strict [] []
  | word {gap cs : List Char} {w : Word} {ws : List Word} (hg : IsGap gap) (hj : w.joined = true → '\n' ∉ gap)
    (hw : IsSpelled w) (hp : strict = true → w.type = .name → isStrictReserved w.value = false)
    (he : endsBefore w cs.head? = true) (h : Spells strict cs ws) :
    Spells strict (gap ++ (w.value.toList ++ cs)) (w :: ws)

namespace Spells

variable {strict : Bool} {c : Char} {g cs : List Char} {n : String} {w : Word} {ws : List Word}

theorem next (hw : IsSpelled w) (hp : strict = true → w.type = .name → isStrictReserved w.value = false)
    (he : endsBefore w cs.head? = true) (h : Spells strict cs ws) : Spells strict (w.value.toList ++ cs) (w :: ws) :=
  @word strict [] cs w ws (fun _ hc => absurd hc List.not_mem_nil) (fun _ => List.not_mem_nil) hw hp he h

theorem name (joined : Bool) (hn : isLetters n.toList = true)
    (hp : strict = true → wordType n = .name → isStrictReserved n = false)
    (hcs : cs.head?.any Text.isIdentifierPart = false) (h : Spells strict cs ws) :
    Spells strict (n.toList ++ cs) (⟨wordType n, n, joined⟩ :: ws) :=
  @next strict cs ⟨wordType n, n, joined⟩ ws (.letters hn rfl) hp
    (by rw [endsBefore, hcs, Bool.not_false, Bool.or_true]) h

theorem mark (hc : c ∈ singlePunctuators) (h : Spells strict cs ws) :
    Spells strict (c :: cs) (Word.mark (String.singleton c) :: ws) := by
  have hw : IsSpelled (Word.mark (String.singleton c)) := .mark hc rfl rfl
  have hs : Spells strict ((String.singleton c).toList ++ cs) _ :=
    @next strict cs (Word.mark (String.singleton c)) ws hw (fun _ h => nomatch h) rfl h
  rwa [String.toList_singleton] at hs

/-- A gap in front of the first word may be longer. -/
theorem gap (hg : IsGap g) (hj : ∀ w ∈ ws.head?, w.joined = true → '\n' ∉ g) (hne : ws ≠ [])
    (h : Spells strict cs ws) : Spells strict (g ++ cs) ws := by
  cases h with
  | nil => exact absurd rfl hne
  | @word inner cs w ws hg' hj' hw hp he h =>
    rw [← List.append_assoc]
    refine .word (fun c hc => (List.mem_append.mp hc).elim (hg c) (hg' c)) (fun hjoined hm => ?_) hw hp he h
    exact (List.mem_append.mp hm).elim (hj w rfl hjoined) (hj' hjoined)

/-- A new line in front of the first word may be left out. -/
theorem of_newLine (h : Spells strict ('\n' :: cs) ws) : Spells strict cs ws := by
  generalize hcs : '\n' :: cs = text at h
  cases h with
  | nil => cases hcs
  | @word inner cs' w ws hg hj hw hp he h =>
    cases inner with
    | nil =>
      obtain ⟨l, more, hv, hl⟩ := hw.opensWord
      rw [hv] at hcs
      obtain rfl : '\n' = l := (List.cons.inj hcs).1
      exact absurd hl (by decide)
    | cons c inner =>
      obtain ⟨rfl, rfl⟩ := List.cons.inj hcs
      exact .word (List.forall_mem_cons.mp hg).2 (fun hjoined hm => hj hjoined (List.mem_cons_of_mem _ hm)) hw hp he h

/-- There are no more words than characters. -/
theorem length_le (h : Spells strict cs ws) : ws.length ≤ cs.length := by
  induction h with
  | nil => exact Nat.le_refl _
  | word _ _ hw _ _ _ ih =>
    obtain ⟨l, more, hv, -⟩ := hw.opensWord
    rw [List.length_cons, List.length_append, List.length_append, hv, List.length_cons]
    omega

end Spells

/-- **What stands ahead of a text that spells words**: behind the gap, the token of the first word, or that of
the end. -/
theorem Token.ahead_of_spells {src : Source} {c : Cursor} {cs gap : List Char} {ws : List Word} {script strict : Bool}
    (h : src.rest c.index = cs ++ gap) (hg : IsGap gap) (hs : Spells strict cs ws) (hb : .hole ∉ c.braces) :
    ∃ c₁ token c₂, skipGaps src script c = .ok ([], c₁) ∧ scan src c₁ = .ok (token, c₂) ∧
      token.type = (ws.head?.map (·.type)).getD .stop ∧ token.value = (ws.head?.map (·.value)).getD "" ∧
      token.line = c₂.line ∧ .hole ∉ c₂.braces ∧ (∀ w ∈ ws.head?, w.joined = true → token.line = c.line) ∧
      (strict = true → token.type = .name → isStrictReserved token.value = false) ∧
      ∃ cs' gap', src.rest c₂.index = cs' ++ gap' ∧ IsGap gap' ∧ Spells strict cs' ws.tail := by
  cases hs with
  | nil =>
    obtain ⟨c₁, hskip, hrest, hbraces, -⟩ := @skipGaps_eq src c [] script gap hg nofun (by rw [h, List.append_nil]; rfl)
    obtain ⟨token, hscan, htype, hvalue, hline⟩ := scan_of_rest_nil hrest
    refine ⟨c₁, token, c₁, hskip, hscan, htype, hvalue, hline, hbraces ▸ hb, nofun, fun _ hname => ?_, [], [], hrest,
      nofun, .nil⟩
    rw [htype] at hname
    cases hname
  | @word g cs w ws hg' hj hw hp he hs =>
    obtain ⟨l, more, hv, hl⟩ := hw.opensWord
    have hrest : src.rest c.index = g ++ (w.value.toList ++ (cs ++ gap)) := by
      rw [h, List.append_assoc, List.append_assoc]
    obtain ⟨c₁, hskip, hrest, hbraces, hline⟩ := skipGaps_eq hg' (by
      rw [hv]
      rintro _ ⟨⟩
      exact hl) hrest
    have hend : endsBefore w (cs ++ gap).head? = true := by
      cases cs with
      | cons c cs => exact he
      | nil =>
        cases gap with
        | nil => exact he
        | cons c gap =>
          have hpart : Text.isIdentifierPart c = false := by
            rcases hg c List.mem_cons_self with rfl | rfl <;> decide
          rw [List.nil_append, List.head?_cons, endsBefore, Option.any_some, hpart, Bool.not_false, Bool.or_true]
    obtain ⟨token, c₂, hscan, htype, hvalue, htoken, hrest, hline', hbraces'⟩ :=
      scan_of_isSpelled hrest hw hend (hbraces ▸ hb)
    refine ⟨c₁, token, c₂, hskip, hscan, htype, hvalue, htoken.trans hline'.symm, hbraces', ?_, fun hs hname => ?_, cs,
      gap, hrest, hg, hs⟩
    · rintro _ ⟨⟩ hjoined
      exact htoken.trans (hline (hj hjoined))
    · rw [hvalue]
      exact hp hs (htype ▸ hname)

end Deminify
