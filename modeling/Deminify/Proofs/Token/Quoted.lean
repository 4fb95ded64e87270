import Deminify.Printer.Function
import Deminify.Proofs.Token.Spelled
import Deminify.Proofs.Tree.Node
import Deminify.Tree.Build

/-!
# Text between quotes, read again

A literal that has no text of its own is printed from its value: a string between quotes, with escapes for the
quote, the backslash and the control characters. **It is read back as one string with the value it had**
(`Deminify.Printer.string_literal_read_back`), whatever follows, unless the value holds a line separator or a
paragraph separator.

Each character that is printed is read back on its own: it stands for itself, or its escape for it
(`Deminify.Token.stringRest_escape`). The two separators are the only characters of which that fails. They are
printed as they are, and end the line in the middle of the string.
-/

namespace Deminify

theorem Scan.moveTo_bind {α : Type} (index : Nat) (f : Unit → Scan α) (c : Cursor) :
    (Scan.moveTo index >>= f) c = f () { c with index } := rfl

namespace Token

/-! ### The digits of an escape -/

section Digits

variable {src : Source} {c : Cursor} {cs : List Char} {i n d : Nat}

theorem hexValue?_hexDigit : ∀ d < 16, hexValue? (Text.hexDigit d) = some d := by decide

theorem hexDigits_succ (h : src.rest i = Text.hexDigit d :: cs) (hd : d < 16) (value count : Nat) :
    hexDigits src i value (count + 1) = hexDigits src (i + 1) (16 * value + d) count := by
  rw [hexDigits, if_pos (Source.lt_size_of_rest h), Source.get_of_rest h, hexValue?_hexDigit d hd]

/-- Four digits are read back. -/
theorem hexDigits_hexFour (hn : n < 65536) (h : src.rest i = Text.hexFour n ++ cs) :
    hexDigits src i 0 4 = (some n, i + 4) := by
  have hlt (k : Nat) : k % 16 < 16 := Nat.mod_lt _ (by decide)
  have h₁ := Source.rest_succ h
  have h₂ := Source.rest_succ h₁
  have h₃ := Source.rest_succ h₂
  rw [hexDigits_succ h (hlt _), hexDigits_succ h₁ (hlt _), hexDigits_succ h₂ (hlt _), hexDigits_succ h₃ (hlt _),
    hexDigits]
  have hsum : 16 * (16 * (16 * (16 * 0 + n / 4096 % 16) + n / 256 % 16) + n / 16 % 16) + n % 16 = n := by omega
  rw [hsum]

theorem unicodeEscape_hexFour (hn : n < 65536) (h : src.rest c.index = Text.hexFour n ++ cs) :
    unicodeEscape src c = .ok (some n, { c with index := c.index + 4 }) := by
  have hbrace : ∀ d < 16, Text.hexDigit d ≠ '\x7b' := by decide
  have hfirst : ¬(src.get c.index == '\x7b') = true := by
    rw [Source.get_of_rest h]
    exact fun heq => hbrace _ (Nat.mod_lt _ (by decide)) (beq_iff_eq.mp heq)
  have hdigits : hexEscape? src 4 c = .ok (some n, { c with index := c.index + 4 }) := by
    show (Except.ok ((hexDigits src c.index 0 4).1, { c with index := (hexDigits src c.index 0 4).2 }) :
      Except SyntaxError (Option Nat × Cursor)) = _
    rw [hexDigits_hexFour hn h]
  rw [unicodeEscape]
  show (if _ then _ else _ : Scan (Option Nat)) c = _
  rw [if_neg hfirst, hdigits]

end Digits

/-! ### One character -/

section Escape

variable {src : Source} {c : Cursor} {cs : List Char} {a l : Char} {q : Quoted} {fuel : Nat}

/-- The letters of escapes, with the characters they stand for. -/
def letterEscapes : List (Char × Char) :=
  [('"', '"'), ('\\', '\\'), ('n', '\n'), ('r', '\r'), ('t', '\t'), ('b', '\x08'), ('f', '\x0c')]

/-- The ways in which a character is written. -/
theorem escape_cases (a : Char) :
    (∃ l, (l, a) ∈ letterEscapes ∧ Text.escape a = ['\\', l]) ∨
    (a.toNat < 32 ∧ Text.escape a = '\\' :: 'u' :: Text.hexFour a.toNat) ∨
    ((a ≠ '"' ∧ a ≠ '\\' ∧ a ≠ '\n' ∧ a ≠ '\r') ∧ Text.escape a = [a]) := by
  rw [Text.escape]
  split_ifs with hquote hback hline hreturn htab hstep hfeed hcontrol
  case pos => exact .inl ⟨'"', by rw [hquote]; decide, rfl⟩
  case pos => exact .inl ⟨'\\', by rw [hback]; decide, rfl⟩
  case pos => exact .inl ⟨'n', by rw [hline]; decide, rfl⟩
  case pos => exact .inl ⟨'r', by rw [hreturn]; decide, rfl⟩
  case pos => exact .inl ⟨'t', by rw [htab]; decide, rfl⟩
  case pos => exact .inl ⟨'b', by rw [hstep]; decide, rfl⟩
  case pos => exact .inl ⟨'f', by rw [hfeed]; decide, rfl⟩
  case pos => exact .inr (.inl ⟨hcontrol, rfl⟩)
  case neg => exact .inr (.inr ⟨⟨hquote, hback, hline, hreturn⟩, rfl⟩)

theorem escape_ne_nil (a : Char) : Text.escape a ≠ [] := by
  rcases escape_cases a with ⟨_, _, h⟩ | ⟨_, h⟩ | ⟨_, h⟩ <;> rw [h] <;> nofun

theorem stringEscape_letter (h : src.rest c.index = l :: cs) (hl : (l, a) ∈ letterEscapes) :
    stringEscape src q c = .ok (q.push a.toNat, { c with index := c.index + 1 }) := by
  have hplain : ∀ p ∈ letterEscapes, isLineEnd p.1 = false ∧ (p.1 == 'u') = false ∧ (p.1 == 'x') = false ∧
      (p.1 == '8' || p.1 == '9') = false ∧ isOctalDigit p.1 = false ∧ (controlEscape? p.1).getD p.1 = p.2 := by decide
  obtain ⟨hend, hu, hx, hnine, hoctal, hletter⟩ := hplain _ hl
  rw [stringEscape, Scan.get_bind]
  simp only [Source.get_of_rest h, hend, hu, hx, hnine, hoctal, Bool.and_false, Bool.false_eq_true, if_false, hletter]
  rfl

theorem stringEscape_unicode (hn : a.toNat < 65536) (h : src.rest c.index = 'u' :: (Text.hexFour a.toNat ++ cs)) :
    stringEscape src q c = .ok (q.push a.toNat, { c with index := c.index + 5 }) := by
  have hend : isLineEnd 'u' = false := by decide
  have hdigits := unicodeEscape_hexFour (c := { c with index := c.index + 1 }) hn (Source.rest_succ h)
  rw [stringEscape, Scan.get_bind]
  simp only [Source.get_of_rest h, hend, Bool.and_false, Bool.false_eq_true, if_false, beq_self_eq_true, if_true]
  rw [Scan.moveTo_bind, Scan.bind_of_ok hdigits]
  rfl

theorem stringRest_backslash {q' : Quoted} {c' : Cursor} (h : src.rest c.index = '\\' :: cs)
    (hescape : stringEscape src q { c with index := c.index + 1 } = .ok (q', c')) :
    stringRest src '"' (fuel + 1) q c = stringRest src '"' fuel q' c' := by
  have hin : ¬src.size ≤ c.index := Nat.not_le.mpr (Source.lt_size_of_rest h)
  have hget : src.get c.index = '\\' := Source.get_of_rest h
  have hmark : ('\\' == '"') = false := by decide
  rw [stringRest, Scan.get_bind]
  simp only [hget, hin, hmark, if_false, Bool.false_eq_true, beq_self_eq_true, if_true]
  show (stringEscape src q >>= _) { c with index := c.index + 1 } = _
  rw [Scan.bind_of_ok hescape]

theorem stringRest_plain (hq : a ≠ '"') (hb : a ≠ '\\') (ha : isLineEnd a = false) (h : src.rest c.index = a :: cs) :
    stringRest src '"' (fuel + 1) q c = stringRest src '"' fuel (q.push a.toNat) { c with index := c.index + 1 } := by
  have hin : ¬src.size ≤ c.index := Nat.not_le.mpr (Source.lt_size_of_rest h)
  rw [stringRest, Scan.get_bind]
  simp only [Source.get_of_rest h, hin, if_false, beq_eq_false_iff_ne.mpr hq, beq_eq_false_iff_ne.mpr hb, ha,
    Bool.false_eq_true]
  rfl

/-- A line end that is not escaped ends the reading without a string. -/
theorem stringRest_lineEnd (ha : isLineEnd a = true) (h : src.rest c.index = a :: cs) :
    stringRest src '"' (fuel + 1) q c = .ok (none, { c with index := c.index + 1 }) := by
  have hin : ¬src.size ≤ c.index := Nat.not_le.mpr (Source.lt_size_of_rest h)
  have hq : a ≠ '"' := by rintro rfl; exact absurd ha (by decide)
  have hb : a ≠ '\\' := by rintro rfl; exact absurd ha (by decide)
  rw [stringRest, Scan.get_bind]
  simp only [Source.get_of_rest h, hin, if_false, beq_eq_false_iff_ne.mpr hq, beq_eq_false_iff_ne.mpr hb, ha,
    Bool.false_eq_true, if_true]
  rfl

theorem stringRest_quote (h : src.rest c.index = '"' :: cs) :
    stringRest src '"' (fuel + 1) q c = .ok (some q, { c with index := c.index + 1 }) := by
  have hin : ¬src.size ≤ c.index := Nat.not_le.mpr (Source.lt_size_of_rest h)
  rw [stringRest, Scan.get_bind]
  simp only [Source.get_of_rest h, hin, if_false, beq_self_eq_true, if_true]
  rfl

/-- Whether a character is a line separator or a paragraph separator. -/
def isSeparator (c : Char) : Bool := c == '\u2028' || c == '\u2029'

theorem isLineEnd_of_isSeparator (h : isSeparator a = true) : isLineEnd a = true := by
  rw [isSeparator] at h
  rw [isLineEnd, Bool.or_assoc, h, Bool.or_true]

theorem escape_of_isSeparator (h : isSeparator a = true) : Text.escape a = [a] := by
  rw [isSeparator, Bool.or_eq_true, beq_iff_eq, beq_iff_eq] at h
  rcases h with rfl | rfl <;> decide

/-- **A character is read back from the way it is written**, unless it is a separator. -/
theorem stringRest_escape (ha : isSeparator a = false) (h : src.rest c.index = Text.escape a ++ cs) :
    stringRest src '"' (fuel + 1) q c =
      stringRest src '"' fuel (q.push a.toNat) { c with index := c.index + (Text.escape a).length } := by
  rcases escape_cases a with ⟨l, hl, hwritten⟩ | ⟨hcontrol, hwritten⟩ | ⟨⟨hquote, hback, hline, hreturn⟩, hwritten⟩ <;>
    rw [hwritten] at h ⊢
  · exact stringRest_backslash h (stringEscape_letter (Source.rest_succ h) hl)
  · exact stringRest_backslash h (stringEscape_unicode (by omega) (Source.rest_succ h))
  · have hend : isLineEnd a = false := by
      rw [isSeparator] at ha
      rw [isLineEnd, beq_eq_false_iff_ne.mpr hline, beq_eq_false_iff_ne.mpr hreturn, Bool.false_or, Bool.false_or, ha]
    exact stringRest_plain hquote hback hend h

end Escape

/-! ### The whole text -/

section Text

variable {src : Source} {cs : List Char} {l : List Char}

/-- No character is a surrogate. -/
theorem textOfCodes_map_toNat (l : List Char) : textOfCodes (l.map Char.toNat) = l := by
  induction l with
  | nil => rfl
  | cons a l ih =>
    have hvalid : a.toNat < 0xD800 ∨ 0xDFFF < a.toNat ∧ a.toNat < 0x110000 := a.valid
    have hhigh : ¬(0xD800 ≤ a.toNat && a.toNat < 0xDC00) = true := by
      rw [Bool.and_eq_true, decide_eq_true_eq, decide_eq_true_eq]
      omega
    have hlow : ¬(0xDC00 ≤ a.toNat && a.toNat < 0xE000) = true := by
      rw [Bool.and_eq_true, decide_eq_true_eq, decide_eq_true_eq]
      omega
    rw [List.map_cons, textOfCodes.eq_def]
    show (if _ then _ else _) = _
    rw [if_neg hhigh, if_neg hlow, Char.ofNat_toNat, ih]

theorem length_le_escape (l : List Char) : l.length ≤ (l.flatMap Text.escape).length := by
  induction l with
  | nil => exact Nat.le_refl _
  | cons a l ih =>
    have := List.length_pos_iff.mpr (escape_ne_nil a)
    rw [List.flatMap_cons, List.length_append, List.length_cons]
    omega

/-- What is written of characters up to the quote is read back, if none of them is a separator. -/
theorem stringRest_flatMap (hl : ∀ a ∈ l, isSeparator a = false) {q : Quoted} :
    ∀ {fuel : Nat} {c : Cursor}, src.rest c.index = l.flatMap Text.escape ++ '"' :: cs → l.length < fuel →
      stringRest src '"' fuel q c = .ok (some ⟨(l.map Char.toNat).reverse ++ q.codes, q.octal⟩,
        { c with index := c.index + (l.flatMap Text.escape).length + 1 }) := by
  induction l generalizing q with
  | nil =>
    intro fuel c h hfuel
    obtain ⟨fuel, rfl⟩ : ∃ k, fuel = k + 1 := ⟨fuel - 1, by omega⟩
    exact stringRest_quote h
  | cons a l ih =>
    intro fuel c h hfuel
    obtain ⟨fuel, rfl⟩ : ∃ k, fuel = k + 1 := ⟨fuel - 1, by omega⟩
    obtain ⟨ha, hl⟩ := List.forall_mem_cons.mp hl
    rw [List.flatMap_cons, List.append_assoc] at h
    rw [stringRest_escape ha h, ih hl (Source.rest_add h) (Nat.lt_of_succ_lt_succ hfuel), List.flatMap_cons,
      List.length_append, List.map_cons, List.reverse_cons, List.append_assoc, Quoted.push, List.singleton_append,
      Nat.add_assoc c.index]

/-- Reading stops at a separator, still on the line. -/
theorem stringRest_of_isSeparator (hl : ∃ a ∈ l, isSeparator a = true) {q : Quoted} :
    ∀ {fuel : Nat} {c : Cursor}, src.rest c.index = l.flatMap Text.escape ++ '"' :: cs → l.length < fuel →
      ∃ index, stringRest src '"' fuel q c = .ok (none, { c with index }) := by
  induction l generalizing q with
  | nil => exact absurd hl (by simp)
  | cons a l ih =>
    intro fuel c h hfuel
    obtain ⟨fuel, rfl⟩ : ∃ k, fuel = k + 1 := ⟨fuel - 1, by omega⟩
    rw [List.flatMap_cons, List.append_assoc] at h
    cases ha : isSeparator a with
    | true =>
      rw [escape_of_isSeparator ha] at h
      exact ⟨_, stringRest_lineEnd (isLineEnd_of_isSeparator ha) h⟩
    | false =>
      have hl : ∃ a ∈ l, isSeparator a = true := by
        obtain ⟨b, hb, hsep⟩ := hl
        rcases List.mem_cons.mp hb with rfl | hb
        · rw [ha] at hsep; cases hsep
        · exact ⟨b, hb, hsep⟩
      rw [stringRest_escape ha h]
      exact ih hl (Source.rest_add h) (Nat.lt_of_succ_lt_succ hfuel)

end Text

/-! ### The token -/

section Scan

variable {src : Source} {c : Cursor} {cs : List Char} {v : String}

theorem toList_quote (v : String) : (Text.quote v).toList = '"' :: (v.toList.flatMap Text.escape ++ ['"']) := by
  rw [Text.quote, String.toList_ofList, List.cons_append]

theorem scan_quote (h : src.rest c.index = '"' :: cs) : scan src c = scanString src c := by
  have hin : ¬src.size ≤ c.index := Nat.not_le.mpr (Source.lt_size_of_rest h)
  have hstart : ¬Text.isIdentifierStart '"' = true := by decide
  rw [scan]
  show (if _ then _ else _ : Scan Token) c = _
  rw [if_neg hin, Source.get_of_rest h, if_neg hstart]
  rfl

/-- Enough steps to read all that stands between the quotes. -/
theorem length_lt_size (h : src.rest c.index = (Text.quote v).toList ++ cs) : v.toList.length < src.size + 1 := by
  have hlength := congrArg List.length h
  have := length_le_escape v.toList
  rw [Source.length_rest, toList_quote, List.length_append, List.length_cons, List.length_append] at hlength
  omega

/-- The string that stands between quotes is read as one token, with its value. -/
theorem scan_quoted (h : src.rest c.index = (Text.quote v).toList ++ cs) (hv : ∀ a ∈ v.toList, isSeparator a = false) :
    scan src c = .ok (
      { type := .string, value := v, line := c.line, lineStart := c.lineStart, start := c.index,
        stop := c.index + (Text.quote v).length },
      { c with index := c.index + (Text.quote v).length }) := by
  have hfuel := length_lt_size h
  have hlength : c.index + 1 + (v.toList.flatMap Text.escape).length + 1 = c.index + (Text.quote v).length := by
    rw [← String.length_toList, toList_quote, List.length_cons, List.length_append, List.length_singleton]
    omega
  rw [toList_quote, List.cons_append, List.append_assoc, List.singleton_append] at h
  have hrest := stringRest_flatMap hv (q := ⟨[], false⟩) (c := { c with index := c.index + 1 }) (Source.rest_succ h) hfuel
  rw [scan_quote h, scanString, Scan.get_bind, Scan.moveTo_bind, Source.get_of_rest h, Scan.bind_of_ok hrest]
  simp only [hlength, List.append_nil, List.reverse_reverse]
  rw [Scan.get_bind, textOfCodes_map_toNat, String.ofList_toList]
  rfl

/-- With a separator between the quotes no token starts at the first of them. -/
theorem scan_quoted_of_isSeparator (h : src.rest c.index = (Text.quote v).toList ++ cs)
    (hv : ∃ a ∈ v.toList, isSeparator a = true) : scan src c = .error (c.error "Unexpected token ILLEGAL") := by
  have hfuel := length_lt_size h
  rw [toList_quote, List.cons_append, List.append_assoc, List.singleton_append] at h
  obtain ⟨index, hrest⟩ :=
    stringRest_of_isSeparator hv (q := ⟨[], false⟩) (c := { c with index := c.index + 1 }) (Source.rest_succ h) hfuel
  rw [scan_quote h, scanString, Scan.get_bind, Scan.moveTo_bind, Source.get_of_rest h, Scan.bind_of_ok hrest]
  rfl

end Scan

end Token

/-! ### Literals -/

namespace Printer

open Token

theorem literal_eq_quote {t : Tree} {v : String} (hraw : t.get "raw" = .null) (hregex : (t.get "regex").truthy = false)
    (hvalue : t.get "value" = .str v) (layout : Layout) : literal t layout = .ok (Text.quote v) := by
  rw [literal, hraw, hvalue]
  show (if _ then _ else _ : Printing String) layout = _
  rw [if_neg (Bool.eq_false_iff.mp hregex)]
  rfl

/-- **A string literal without a text of its own is printed so that it is read back.** In front of whatever
follows, what is printed is one token with the value of the literal, unless a separator stands in the value; then
no token can be read there. -/
theorem string_literal_read_back (t : Tree) (v : String) (hraw : t.get "raw" = .null)
    (hregex : (t.get "regex").truthy = false) (hvalue : t.get "value" = .str v) :
    ∃ text : String, (∀ layout, literal t layout = .ok text) ∧
      ∀ (src : Source) (c : Cursor) (follows : List Char), src.rest c.index = text.toList ++ follows →
        ((∀ a ∈ v.toList, isSeparator a = false) → scan src c = .ok (
          { type := .string, value := v, line := c.line, lineStart := c.lineStart, start := c.index,
            stop := c.index + text.length },
          { c with index := c.index + text.length })) ∧
        ((∃ a ∈ v.toList, isSeparator a = true) → scan src c = .error (c.error "Unexpected token ILLEGAL")) := by
  refine ⟨Text.quote v, literal_eq_quote hraw hregex hvalue, fun src c follows h => ⟨?_, ?_⟩⟩
  · exact scan_quoted h
  · exact scan_quoted_of_isSeparator h

/-- A value with characters of every sort, in front of a call. -/
theorem string_literal_read_back_escapes :
    ∃ text : String, (∀ layout, literal (Tree.stringLiteral "\"\\\n\x00é😀") layout = .ok text) ∧
      ∃ token c, scan (Source.ofString (text ++ ".at(0)")) (Cursor.start (Source.ofString (text ++ ".at(0)"))) =
        .ok (token, c) ∧ token.value = "\"\\\n\x00é😀" ∧ token.stop = text.length := by
  obtain ⟨text, hprint, hread⟩ := string_literal_read_back (Tree.stringLiteral "\"\\\n\x00é😀") "\"\\\n\x00é😀" rfl rfl rfl
  have hrest : (Source.ofString (text ++ ".at(0)")).rest 0 = text.toList ++ ".at(0)".toList := by
    rw [Source.rest_ofString, String.toList_append]
  have hplain : ∀ a ∈ "\"\\\n\x00é😀".toList, isSeparator a = false := by
    simp only [← Bool.not_eq_true', ← List.all_eq_true]
    decide
  have hscan := (hread _ (Cursor.start (Source.ofString (text ++ ".at(0)"))) _ hrest).1 hplain
  exact ⟨text, hprint, _, _, hscan, rfl, Nat.zero_add _⟩

/-- A value with a line separator is printed, and what is printed is not read. -/
theorem line_separator_not_read_back :
    literal (Tree.stringLiteral "x\u2028.js") ⟨0, false, none⟩ = .ok "\"x\u2028.js\"" ∧
      ¬∃ token c, scan (Source.ofString "\"x\u2028.js\"") (Cursor.start (Source.ofString "\"x\u2028.js\"")) =
        .ok (token, c) := by
  refine ⟨rfl, ?_⟩
  have hscan : scan (Source.ofString "\"x\u2028.js\"") (Cursor.start (Source.ofString "\"x\u2028.js\"")) =
      .error ((Cursor.start (Source.ofString "\"x\u2028.js\"")).error "Unexpected token ILLEGAL") := by rfl
  rintro ⟨token, c, h⟩
  rw [hscan] at h
  cases h

end Printer

end Deminify
