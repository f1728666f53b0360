import Mathlib

/-!
# Text

Strings are modelled by the list of their characters, so that the functions
that build and read them compute by structural recursion.  A line format is a
list of words separated by single blanks; a word may carry a key and a decimal
number.  Each reader below inverts the writer it belongs to.
-/

namespace Zrotext.Foundation

open List Bool Nat

/-- A string of characters. -/
abbrev Text := List Char

instance Text.lawfulBEq : LawfulBEq Text := List.instLawfulBEq

namespace Text

variable (count : Nat) (char : Char) (text : Text) (value : Nat)

/-- The characters with the Unicode `White_Space` property. -/
def isWhitespace : Bool :=
  let code := char.toNat
  decide (9 ≤ code ∧ code ≤ 13) || code == 0x20 || code == 0x85 ||
    code == 0xA0 || code == 0x1680 || decide (0x2000 ≤ code ∧ code ≤ 0x200A) ||
    code == 0x2028 || code == 0x2029 || code == 0x202F || code == 0x205F ||
    code == 0x3000

/-- Some character of the text is white space. -/
def hasWhitespace : Bool := text.any isWhitespace

/-- The maximal runs of characters that are not white space. -/
def splitWhitespace : List Text := (text.splitOnP isWhitespace).filter fun word => !word.isEmpty

/-- Words separated by single blanks. -/
def unwords (words : List Text) : Text := intercalate [' '] words

/-- A nonempty text without white space. -/
def IsWord : Prop := text ≠ [] ∧ text.hasWhitespace = false

instance (text : Text) : Decidable text.IsWord := inferInstanceAs (Decidable (_ ∧ _))

theorem isWhitespace_eq_false_of_hasWhitespace {text : Text} (clean : text.hasWhitespace = false) :
    ∀ char ∈ text, isWhitespace char = false := by
  intro char member
  unfold hasWhitespace at clean
  rw [any_eq_false] at clean
  exact eq_false_iff.mpr (clean char member)

theorem hasWhitespace_append (first second : Text) : hasWhitespace (first ++ second) =
      (hasWhitespace first || hasWhitespace second) :=
  any_append

theorem isWord_append {second : Text} (firstWord : IsWord first)
    (secondClean : second.hasWhitespace = false) : IsWord (first ++ second) := by
  refine ⟨?_, ?_⟩
  · intro empty
    exact firstWord.1 (append_eq_nil_iff.mp empty).1
  · rw [hasWhitespace_append, firstWord.2, secondClean]
    rfl

/-- Joining clean texts with a clean separator adds no white space. -/
theorem hasWhitespace_intercalate {separator : Text}
    (separatorClean : separator.hasWhitespace = false) (texts : List Text)
    (clean : ∀ text ∈ texts, text.hasWhitespace = false) :
    hasWhitespace (intercalate separator texts) = false := by
  induction texts with
  | nil => rfl
  | cons text texts ih =>
    have here := clean text mem_cons_self
    have rest := ih fun other listed =>
      clean other (mem_cons_of_mem text listed)
    cases texts with
    | nil => simpa [intercalate] using here
    | cons next texts =>
      rw [intercalate_cons_cons, hasWhitespace_append,
        hasWhitespace_append, here, separatorClean, rest]
      rfl

theorem unwords_cons (word next : Text) (words : List Text) :
    unwords (word :: next :: words) = word ++ ' ' :: unwords (next :: words) := by
  simp [unwords, intercalate]

/-- The pieces of a text have its characters without the separators. -/
theorem mem_of_mem_splitOnP {char : Char} {text : Text} {isSeparator : Char → Bool}
    (listed : piece ∈ splitOnP isSeparator text) (inside : char ∈ piece) :
    char ∈ text ∧ isSeparator char = false := by
  induction text generalizing piece with
  | nil =>
    rw [splitOnP_nil, mem_singleton] at listed
    subst listed
    cases inside
  | cons head text ih =>
    rw [splitOnP_cons_eq_if_modifyHead] at listed
    split at listed
    · rcases mem_cons.mp listed with rfl | later
      · cases inside
      · exact ⟨mem_cons_of_mem head (ih later inside).1, (ih later inside).2⟩
    next plain =>
      obtain ⟨first, rest, pieces⟩ := exists_cons_of_ne_nil (splitOnP_ne_nil isSeparator text)
      rw [pieces] at listed ih
      rcases mem_cons.mp listed with rfl | later
      · rcases mem_cons.mp inside with rfl | within
        · exact ⟨mem_cons_self, eq_false_iff.mpr plain⟩
        · have known := ih mem_cons_self within
          exact ⟨mem_cons_of_mem head known.1, known.2⟩
      · have known := ih (mem_cons_of_mem first later) inside
        exact ⟨mem_cons_of_mem head known.1, known.2⟩

theorem isWord_of_mem_splitWhitespace {text word : Text} (listed : word ∈ text.splitWhitespace) :
    IsWord word := by
  obtain ⟨piece, nonempty⟩ := mem_filter.mp listed
  refine ⟨fun empty => ?_, any_eq_false.mpr fun char inside => ?_⟩
  · rw [empty] at nonempty
    cases nonempty
  · exact eq_false_iff.mp (mem_of_mem_splitOnP piece inside).2

/-- Splitting at white space recovers the words of a line. -/
theorem splitWhitespace_unwords (words : List Text) (allWords : ∀ word ∈ words, IsWord word) :
    splitWhitespace (unwords words) = words := by
  induction words with
  | nil => rfl
  | cons word words ih =>
    obtain ⟨nonempty, clean⟩ := allWords word mem_cons_self
    have noSeparator := isWhitespace_eq_false_of_hasWhitespace clean
    have kept : (!word.isEmpty) := by
      cases word with
      | nil => exact absurd rfl nonempty
      | cons char rest => rfl
    cases words with
    | nil =>
      have alone : unwords [word] = word := by simp [unwords]
      rw [alone, splitWhitespace, splitOnP_eq_singleton noSeparator]
      simp [kept]
    | cons next words =>
      have rest := ih fun other member =>
        allWords other (mem_cons_of_mem word member)
      rw [unwords_cons, splitWhitespace, splitOnP_append_cons_of_forall_mem noSeparator ' ' rfl,
        filter_cons, if_pos kept]
      exact congrArg (word :: ·) rest

theorem dropPrefix_append (key value : Text) : (key ++ value).dropPrefix? key = some value :=
  dropPrefix?_eq_some_iff.mpr ⟨key, rfl, by simp⟩

/-- The decimal digits of a number. -/
def decimal : Text := toDigits 10 value

/-- Read an unsigned number below `width`: an optional plus sign and at least
one digit. -/
def parseUnsigned (width : Nat) (text : Text) : Option (Fin width) :=
  let digits :=
    match text with
    | '+' :: rest => rest
    | _ => text
  if digits.isEmpty || !digits.all Char.isDigit then
    none
  else if fits : ofDigitChars 10 digits 0 < width then
    some ⟨ofDigitChars 10 digits 0, fits⟩
  else
    none

theorem isDigit_of_mem_decimal (char : Char) (member : char ∈ decimal value) :
    char.isDigit :=
  isDigit_of_mem_toDigits (by decide) (by decide) member

theorem isWhitespace_of_isDigit (digit : char.isDigit) : isWhitespace char = false := by
  have bounds : 48 ≤ char.toNat ∧ char.toNat ≤ 57 := by
    simp only [Char.isDigit, and_eq_true, decide_eq_true_eq] at digit
    exact digit
  simp only [isWhitespace, or_eq_false_iff, decide_eq_false_iff_not,
    beq_eq_false_iff_ne, ne_eq]
  omega

theorem isWord_decimal : IsWord (decimal value) := by
  refine ⟨toDigits_ne_nil, ?_⟩
  unfold hasWhitespace
  rw [any_eq_false]
  intro char member
  rw [isWhitespace_of_isDigit char (isDigit_of_mem_decimal value char member)]
  exact false_ne_true

theorem parseUnsigned_decimal (value : Fin width) :
    parseUnsigned width (decimal value.val) = some value := by
  have digits : (decimal value.val).all Char.isDigit := by
    rw [all_eq_true]
    exact fun char member => isDigit_of_mem_decimal value.val char member
  have nonempty : decimal value.val ≠ [] := toDigits_ne_nil
  have read : ofDigitChars 10 (decimal value.val) 0 = value.val := ofDigitChars_ten_toDigits
  have unsigned : (match decimal value.val with
      | '+' :: rest => rest
      | _ => decimal value.val) = decimal value.val := by
    split
    case h_1 rest starts =>
      rw [starts] at digits
      simp at digits
    case h_2 => rfl
  unfold parseUnsigned
  rw [unsigned]
  simp [List.isEmpty_iff, nonempty, digits, read]

/-- The lower-case digit of a value below sixteen. -/
def hexDigit : Char :=
  if value < 10 then Char.ofNat (48 + value) else Char.ofNat (87 + value)

/-- The last `count` hexadecimal digits of a number, zero padded. -/
def hexadecimal : Nat → Nat → Text
  | 0, _ => []
  | count + 1, value => hexadecimal count (value / 16) ++ [hexDigit (value % 16)]

/-- An ASCII hexadecimal digit of either case. -/
def isHexDigit : Bool := char.isDigit || decide ('a' ≤ char ∧ char ≤ 'f') ||
    decide ('A' ≤ char ∧ char ≤ 'F')

/-- The value of a hexadecimal digit. -/
def hexValue : Nat :=
  if char.isDigit then char.toNat - 48
  else if char.toNat < 97 then char.toNat - 55
  else char.toNat - 87

/-- Read a number from hexadecimal digits. -/
def readHexadecimal : Nat := text.foldl (fun value char => 16 * value + hexValue char) 0

theorem hexDigit_facts : ∀ value < 16,
    isHexDigit (hexDigit value) ∧ hexValue (hexDigit value) = value ∧
      isWhitespace (hexDigit value) = false := by
  decide

theorem length_hexadecimal : (hexadecimal count value).length = count := by
  induction count generalizing value with
  | zero => rfl
  | succ count ih =>
    rw [hexadecimal, length_append, ih]
    rfl

theorem hexDigit_of_mem_hexadecimal {count value : Nat} {char : Char}
    (member : char ∈ hexadecimal count value) : ∃ digit < 16, char = hexDigit digit := by
  induction count generalizing value with
  | zero => cases member
  | succ count ih =>
    rcases mem_append.mp member with earlier | last
    · exact ih earlier
    · exact ⟨value % 16, mod_lt _ (by decide), mem_singleton.mp last⟩

theorem readHexadecimal_hexadecimal (fits : value < 16 ^ count) :
    readHexadecimal (hexadecimal count value) = value := by
  induction count generalizing value with
  | zero =>
    rw [pow_zero, lt_one_iff] at fits
    rw [fits]
    rfl
  | succ count ih =>
    have rest := ih (value / 16) (by
      rw [pow_succ] at fits
      omega)
    unfold readHexadecimal at rest ⊢
    rw [hexadecimal, foldl_append, rest, foldl_cons, foldl_nil,
      (hexDigit_facts (value % 16) (mod_lt _ (by decide))).2.1]
    omega

theorem hasWhitespace_hexadecimal : (hexadecimal count value).hasWhitespace = false := by
  unfold hasWhitespace
  rw [any_eq_false]
  intro char member
  obtain ⟨digit, small, rfl⟩ := hexDigit_of_mem_hexadecimal member
  rw [(hexDigit_facts digit small).2.2]
  exact false_ne_true

theorem all_isHexDigit_hexadecimal : (hexadecimal count value).all isHexDigit := by
  rw [all_eq_true]
  intro char member
  obtain ⟨digit, small, rfl⟩ := hexDigit_of_mem_hexadecimal member
  exact (hexDigit_facts digit small).1

/-- The texts before and after the first separator. -/
def splitOnce (separator : Char) : Text → Option (Text × Text)
  | [] => none
  | char :: rest =>
    if char = separator then some ([], rest)
    else (splitOnce separator rest).map fun pair => (char :: pair.1, pair.2)

theorem splitOnce_append (absent : separator ∉ first)
    (second : Text) : splitOnce separator (first ++ separator :: second) =
      some (first, second) := by
  induction first with
  | nil => exact if_pos rfl
  | cons char first ih =>
    have different : ¬ char = separator := by
      rintro rfl
      exact absent mem_cons_self
    rw [cons_append, splitOnce, if_neg different, ih fun member =>
        absent (mem_cons_of_mem char member)]
    rfl

/-- Lines, each ended by a newline. -/
def unlines (lines : List Text) : Text := lines.flatMap fun line => line ++ ['\n']

theorem unlines_append (first second : List Text) :
    unlines (first ++ second) = unlines first ++ unlines second := by
  exact flatMap_append

theorem unlines_eq_intercalate (line : Text) (lines : List Text) : unlines (line :: lines) =
      intercalate ['\n'] (line :: lines) ++ ['\n'] := by
  induction lines generalizing line with
  | nil => simp [unlines, intercalate]
  | cons next lines ih =>
    rw [intercalate_cons_cons, append_assoc, append_assoc, ← ih next]
    simp [unlines]

theorem getLast_unlines (nonempty : lines ≠ []) : (unlines lines).getLast? = some '\n' := by
  cases lines with
  | nil => exact absurd rfl nonempty
  | cons line lines =>
    rw [unlines_eq_intercalate, getLast?_append]
    rfl

theorem splitOn_unlines (nonempty : lines ≠ [])
    (single : ∀ line ∈ lines, '\n' ∉ line) : (unlines lines).dropLast.splitOn '\n' = lines := by
  cases lines with
  | nil => exact absurd rfl nonempty
  | cons line lines =>
    rw [unlines_eq_intercalate, dropLast_concat]
    exact splitOn_intercalate '\n' single nonempty

theorem newline_not_mem_unwords (words : List Text) (allWords : ∀ word ∈ words, IsWord word) :
    '\n' ∉ unwords words := by
  have clean : ∀ word ∈ words, '\n' ∉ word := by
    intro word member newline
    have separator := isWhitespace_eq_false_of_hasWhitespace (allWords word member).2 '\n' newline
    cases separator
  induction words with
  | nil => exact nofun
  | cons word words ih =>
    cases words with
    | nil =>
      have alone : unwords [word] = word := by simp [unwords]
      rw [alone]
      exact clean word mem_cons_self
    | cons next words =>
      rw [unwords_cons, mem_append, mem_cons]
      rintro (here | blank | rest)
      · exact clean word mem_cons_self here
      · cases blank
      · exact ih (fun other member =>
            allWords other (mem_cons_of_mem word member))
          (fun other member =>
            clean other (mem_cons_of_mem word member)) rest

end Text
end Zrotext.Foundation
