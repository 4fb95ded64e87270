import Mathlib.Data.List.TakeWhile
import Deminify.Grammar.Binding
import Deminify.Printer.Statement
import Deminify.Proofs.Token.Spelled
import Deminify.Proofs.Tree.Node

/-!
# Bare keys, read again

A key that looks like a name is written without quotes: as the key of a property or a pattern, or as the name of an
import. What is read there is one word, up to the first character that no name goes on with
(`Deminify.Token.scan_key`). **It is the key exactly if no line break and no number of another kind than a digit is
in it** (`Deminify.Token.bare_key_read_back_iff`).

To look like a name is not to be one, in two ways. A final line break is overlooked, and of the word characters that
may stand behind the first letter some are numbers that no name has in it, as the raised two.
-/

namespace Deminify

namespace Token

/-! ### What looks like a name -/

section Letters

variable {c : Char} {key : String}

theorem toNat_lt_of_isAlpha (h : c.isAlpha = true) : c.toNat < 128 := by
  change (decide ('A'.val ≤ c.val ∧ c.val ≤ 'Z'.val) || (decide ('a'.val ≤ c.val) && decide (c.val ≤ 'z'.val))) = true
    at h
  simp only [Bool.or_eq_true, Bool.and_eq_true, decide_eq_true_eq, UInt32.le_iff_toNat_le] at h
  have hc : c.toNat = c.val.toNat := rfl
  have hZ : ('Z' : Char).val.toNat = 90 := rfl
  have hz : ('z' : Char).val.toNat = 122 := rfl
  omega

theorem isKeyStart_cases (h : isKeyStart c = true) : c.isAlpha = true ∨ c = '_' ∨ c = '$' := by
  simpa [isKeyStart, or_assoc] using h

theorem isWord_of_isKeyStart (h : isKeyStart c = true) : Text.isWord c = true ∨ c = '$' := by
  rcases isKeyStart_cases h with h | rfl | rfl
  · refine .inl ?_
    rw [Text.isWord, if_pos (toNat_lt_of_isAlpha h), Char.isAlphanum, h]
    rfl
  · exact .inl rfl
  · exact .inr rfl

theorem isIdentifierStart_of_isKeyStart (h : isKeyStart c = true) : Text.isIdentifierStart c = true := by
  rcases isKeyStart_cases h with h | rfl | rfl
  · rw [Text.isIdentifierStart, if_pos (toNat_lt_of_isAlpha h), h]
    rfl
  · rfl
  · rfl

theorem isIdentifierPart_of_isKeyStart (h : isKeyStart c = true) : Text.isIdentifierPart c = true := by
  rcases isKeyStart_cases h with h | rfl | rfl
  · rw [Text.isIdentifierPart, if_pos (toNat_lt_of_isAlpha h), Char.isAlphanum, h]
    rfl
  · rfl
  · rfl

/-- **What looks like a name**: a first letter, word characters and dollar signs, and perhaps a line break. -/
theorem exists_of_isIdentifierName (h : isIdentifierName key = true) : ∃ c rest stop,
    key.toList = c :: (rest ++ stop) ∧ isKeyStart c = true ∧ (∀ l ∈ rest, Text.isWord l = true ∨ l = '$') ∧
      (stop = [] ∨ stop = ['\n']) := by
  obtain ⟨stop, hkey, hstop⟩ : ∃ stop, key.toList = beforeLastBreak key.toList ++ stop ∧ (stop = [] ∨ stop = ['\n']) := by
    rw [beforeLastBreak]
    split
    · rename_i hlast
      exact ⟨['\n'], (List.dropLast_append_getLast? _ (beq_iff_eq.mp hlast)).symm, .inr rfl⟩
    · exact ⟨[], (List.append_nil _).symm, .inl rfl⟩
  rw [isIdentifierName] at h
  split at h
  · cases h
  · rename_i c rest hfront
    rw [hfront] at hkey
    rw [Bool.and_eq_true, List.all_eq_true] at h
    exact ⟨c, rest, stop, hkey, h.1, fun l hl => by simpa using h.2 l hl, hstop⟩

theorem cases_of_mem_key (h : isIdentifierName key = true) {l : Char} (hl : l ∈ key.toList) :
    Text.isWord l = true ∨ l = '$' ∨ l = '\n' := by
  obtain ⟨c, rest, stop, hkey, hc, hrest, hstop⟩ := exists_of_isIdentifierName h
  rw [hkey] at hl
  rcases List.mem_cons.mp hl with rfl | hl
  · exact (isWord_of_isKeyStart hc).imp_right .inl
  rcases List.mem_append.mp hl with hl | hl
  · exact (hrest l hl).imp_right .inl
  · rcases hstop with rfl | rfl
    · cases hl
    · exact .inr (.inr (List.mem_singleton.mp hl))

/-- A key can be read as a whole unless it has a line break or a word character that is in no name. -/
theorem forall_isIdentifierPart_iff (h : isIdentifierName key = true) :
    (∀ l ∈ key.toList, Text.isIdentifierPart l = true) ↔
      '\n' ∉ key.toList ∧ ∀ l ∈ key.toList, Text.isWord l = true → Text.isIdentifierPart l = true := by
  refine ⟨fun hall => ⟨fun hbreak => ?_, fun l hl _ => hall l hl⟩, fun ⟨hbreak, hword⟩ l hl => ?_⟩
  · exact absurd (hall _ hbreak) (by decide)
  · rcases cases_of_mem_key h hl with hl' | rfl | rfl
    · exact hword l hl hl'
    · rfl
    · exact absurd hl hbreak

/-! ### What is read of it -/

/-- The letters that a key starts with. -/
def keyLetters (key : String) : List Char := key.toList.takeWhile Text.isIdentifierPart

theorem isLetters_keyLetters (h : isIdentifierName key = true) : isLetters (keyLetters key) = true := by
  rw [isLetters, Bool.and_eq_true, List.all_eq_true]
  constructor
  · obtain ⟨c, rest, stop, hkey, hc, -⟩ := exists_of_isIdentifierName h
    rw [keyLetters, hkey, List.takeWhile_cons_of_pos (isIdentifierPart_of_isKeyStart hc)]
    exact isIdentifierStart_of_isKeyStart hc
  · intro l hl
    have hpart : Text.isIdentifierPart l = true := List.all_eq_true.mp List.all_takeWhile l hl
    have hslash : l ≠ '\\' := by
      rintro rfl
      have hmem := (List.takeWhile_prefix Text.isIdentifierPart).subset hl
      rcases cases_of_mem_key h hmem with hword | hword | hword <;> revert hword <;> decide
    rw [hpart, Bool.true_and]
    exact bne_iff_ne.mpr hslash

theorem ofList_keyLetters_eq_iff : String.ofList (keyLetters key) = key ↔
    ∀ l ∈ key.toList, Text.isIdentifierPart l = true := by
  rw [← String.toList_inj, String.toList_ofList, keyLetters, List.takeWhile_eq_self_iff]

theorem isWord_of_wordType {token : Token} {word : String} (h : token.type = wordType word) :
    Grammar.isWord token = true := by
  rw [Grammar.isWord, h, wordType]
  split <;> [skip; split <;> [skip; split]] <;> rfl

variable {src : Source} {cursor : Cursor} {follows : List Char}

/-- **What is read of a key is the word of its first letters.** -/
theorem scan_key (h : isIdentifierName key = true) (hkey : src.rest cursor.index = key.toList ++ follows)
    (hfollows : follows.head?.any Text.isIdentifierPart = false) :
    scan src cursor = .ok (
      { type := wordType (String.ofList (keyLetters key)), value := String.ofList (keyLetters key),
        line := cursor.line, lineStart := cursor.lineStart, start := cursor.index,
        stop := cursor.index + (keyLetters key).length },
      { cursor with index := cursor.index + (keyLetters key).length }) := by
  have hrest : src.rest cursor.index =
      keyLetters key ++ (key.toList.dropWhile Text.isIdentifierPart ++ follows) := by
    rw [hkey, ← List.append_assoc, keyLetters, List.takeWhile_append_dropWhile]
  have hend : (key.toList.dropWhile Text.isIdentifierPart ++ follows).head?.any Text.isIdentifierPart = false := by
    have hnot := List.head?_dropWhile_not Text.isIdentifierPart key.toList
    cases hdrop : key.toList.dropWhile Text.isIdentifierPart with
    | nil => exact hfollows
    | cons l more =>
      rw [hdrop] at hnot
      exact hnot
  have hletters := isLetters_keyLetters h
  exact (scan_letters hrest hletters).trans (scanWord_eq hrest hletters hend)

end Letters

end Token

/-! ### What is written -/

namespace Printer

open Token

/-- The node of a name. -/
structure IsNameNode (t : Tree) (name : String) : Prop where
  type : t.get? "type" = some (.str "Identifier")
  name : t.get? "name" = some (.str name)

/-- The node of a text that has no written form of its own. -/
structure IsTextNode (t : Tree) (value : String) : Prop where
  type : t.get? "type" = some (.str "Literal")
  value : t.get? "value" = some (.str value)
  raw : t.get "raw" = .null

section Bare

variable {go : Roles} {t n value : Tree} {key text : String} {layout : Layout}

/-- A name is written bare as the key of a property. -/
theorem propertyKey_of_name (hkey : t.get? "key" = some n) (hplain : (t.get "computed").truthy = false)
    (hn : IsNameNode n key) : propertyKey go t layout = .ok key := by
  rw [propertyKey, Tree.field_of_get? hkey, pure_bind, hplain, if_neg Bool.false_ne_true, Tree.kindOf,
    Tree.textField_of_get? hn.type, pure_bind]
  show (n.textField "name" : Printing String) layout = _
  rw [Tree.textField_of_get? hn.name]
  rfl

/-- A text that looks like a name is written bare as the key of a pattern. -/
theorem patternProperty_of_text (h : isIdentifierName key = true) (hkind : t.get? "type" = some (.str "Property"))
    (hkey : t.get? "key" = some n) (hplain : (t.get "computed").truthy = false) (hn : IsTextNode n key)
    (hvalue : t.get? "value" = some value) (htext : go .pattern value layout = .ok text) :
    patternProperty go t layout = .ok (key ++ ": " ++ text) := by
  have hliteral : n.isIdentifier = false := Tree.isKind_eq hn.type "Identifier"
  have hraw : (n.get "raw").isNull = true := by rw [hn.raw]; rfl
  rw [patternProperty, Tree.kindOf, Tree.textField_of_get? hkind, pure_bind]
  simp only [Tree.field_of_get? hkey, Tree.field_of_get? hvalue, pure_bind, hplain, hliteral, Bool.and_false,
    Tree.kindOf, Tree.textField_of_get? hn.type, hraw, Tree.get_of_get? hn.value, h]
  show (go .pattern value layout >>= fun s => _) = _
  rw [htext]
  rfl

/-- A name is written bare as the name of an import. -/
theorem specifierName_of_name {key' : String} (hkey : t.get? key' = some n) (hn : IsNameNode n key) :
    specifierName t key' layout = .ok key := by
  rw [specifierName, Tree.field_of_get? hkey, pure_bind, Tree.textField_of_get? hn.name]
  rfl

/-- **A key that looks like a name is written bare, and what is read there is one word.** It stands where the key
stands, and it is the key exactly if the key has no line break and no word character that is in no name. -/
theorem bare_key_read_back_iff (h : isIdentifierName key = true) :
    (∀ go t n layout, t.get? "key" = some n → (t.get "computed").truthy = false → IsNameNode n key →
      propertyKey go t layout = .ok key) ∧
    (∀ go t n value layout text, t.get? "type" = some (.str "Property") → t.get? "key" = some n →
      (t.get "computed").truthy = false → IsTextNode n key → t.get? "value" = some value →
      go .pattern value layout = .ok text → patternProperty go t layout = .ok (key ++ ": " ++ text)) ∧
    (∀ t n layout, t.get? "imported" = some n → IsNameNode n key → specifierName t "imported" layout = .ok key) ∧
    ∀ (src : Source) (cursor : Cursor) (follows : List Char), src.rest cursor.index = key.toList ++ follows →
      follows.head?.any Text.isIdentifierPart = false →
      ∃ token cursor', scan src cursor = .ok (token, cursor') ∧ Grammar.isWord token = true ∧
        token.start = cursor.index ∧ cursor'.index = token.stop ∧
        (token.value = key ∧ token.stop = cursor.index + key.length ↔
          '\n' ∉ key.toList ∧ ∀ l ∈ key.toList, Text.isWord l = true → Text.isIdentifierPart l = true) := by
  refine ⟨fun go t n layout hkey hplain hn => propertyKey_of_name hkey hplain hn,
    fun go t n value layout text hkind hkey hplain hn hvalue htext =>
      patternProperty_of_text h hkind hkey hplain hn hvalue htext,
    fun t n layout hkey hn => specifierName_of_name hkey hn, fun src cursor follows hkey hfollows => ?_⟩
  refine ⟨_, _, scan_key h hkey hfollows, isWord_of_wordType rfl, rfl, rfl, ?_⟩
  rw [← forall_isIdentifierPart_iff h, ← ofList_keyLetters_eq_iff]
  refine and_iff_left_of_imp fun hvalue : String.ofList (keyLetters key) = key => ?_
  show cursor.index + (keyLetters key).length = _
  rw [← String.length_ofList, hvalue]

/-- A key with letters beyond the alphabet, in a pattern. -/
theorem bare_key_read_back_umlaut : isIdentifierName "größe" = true ∧
    ∃ token cursor, scan (Source.ofString "\x7b größe: x \x7d") ⟨2, 1, 0, [.block]⟩ = .ok (token, cursor) ∧
      Grammar.isWord token = true ∧ token.value = "größe" ∧ token.stop = 7 := by
  have h : isIdentifierName "größe" = true := by decide +kernel
  obtain ⟨-, -, -, hread⟩ := bare_key_read_back_iff h
  obtain ⟨token, cursor, hscan, hword, -, -, hiff⟩ := hread (Source.ofString "\x7b größe: x \x7d") ⟨2, 1, 0, [.block]⟩
    ": x \x7d".toList (by decide) (by decide)
  have hparts : "größe".toList.all Text.isIdentifierPart = true := by decide +kernel
  obtain ⟨hvalue, hstop⟩ := hiff.mpr ((forall_isIdentifierPart_iff h).mp (List.all_eq_true.mp hparts))
  exact ⟨h, token, cursor, hscan, hword, hvalue, hstop⟩

/-- A final line break is overlooked, but not read. -/
theorem not_all_bare_keys_read_back : ¬∀ key, isIdentifierName key = true →
    ∃ token cursor, scan (Source.ofString (key ++ ": x")) (Cursor.start (Source.ofString (key ++ ": x"))) =
      .ok (token, cursor) ∧ token.value = key := by
  intro hall
  obtain ⟨token, cursor, hscan, hvalue⟩ := hall "a\n" rfl
  have hread : scan (Source.ofString ("a\n" ++ ": x")) (Cursor.start (Source.ofString ("a\n" ++ ": x"))) =
    .ok (_, _) := rfl
  rw [hread] at hscan
  cases hscan
  exact absurd hvalue (by decide)

end Bare

end Printer

end Deminify
