import Testbed.Text.ShellWords

/-!
# Reading written words back

How bash reads a command line, as far as the commands of a test run need it: blanks separate
words; line breaks, `|`, `&`, `;`, `<`, `>`, `(` and `)` are operators; a `#` that starts a word
starts a comment; a backslash protects the next character (and with a line break after it,
joins the lines); single quotes protect everything up to the next single quote. Quote removal
leaves each character of a word marked with whether quoting protected it. A word with an
unprotected character that may start an expansion (`$`, a backquote, `*`, `?`, `[`, an
opening brace, `!`), an unprotected leading `~`, or an unprotected `~` in a word that begins as
an assignment does, is not read as its own text; the reader marks it as expanding and goes no
further. Double quotes are outside what the commands use, and a line that needs them, or that
ends inside a quote or after a backslash, is marked unread.

Against that reader, every word that `quote` writes reads back as itself, provided it does not
start with `#` and does not begin as an assignment; `join` then writes a list of such words as
a command line that reads back as the same list.
-/

namespace Testbed.ShellWords

/-- A character of a word after quote removal, and whether quoting protected it. -/
structure Piece where
  quoted : Bool
  char : Char
  deriving DecidableEq, Repr

def separator (c : Char) : Bool := c == ' ' || c == '\t'

def operatorChar (c : Char) : Bool :=
  c == '\n' || c == '|' || c == '&' || c == ';' || c == '<' || c == '>' || c == '(' || c == ')'

/-- Unprotected characters that may start an expansion: parameters and arithmetic, command
substitution, pathname patterns, braces, and history in an interactive shell. -/
def expansionChar (c : Char) : Bool :=
  c == '$' || c == '\x60' || c == '*' || c == '?' || c == '[' || c == '\x7b' || c == '!'

def nameStart (c : Char) : Bool := c.isAlpha || c == '_'

def nameChar (c : Char) : Bool := c.isAlphanum || c == '_'

/-- Whether what follows the first character of a name completes an assignment: more name
characters, then `=` or `+=`. -/
def afterName : List Char → Bool
  | [] => false
  | c :: rest =>
    if c == '=' then true
    else if c == '+' then rest.head? == some '='
    else nameChar c && afterName rest

/-- Whether characters begin as an assignment does: a name, then `=` or `+=`. Bash reads such a
word as an assignment before a command name, and expands a `~` in it wherever it stands. -/
def assigns : List Char → Bool
  | [] => false
  | c :: rest => nameStart c && afterName rest

/-- What the reader makes of a stretch of a command line. -/
inductive Token where
  | word (text : String) (assignment : Bool)
  | expanding
  | operator (c : Char)
  | unread
  deriving DecidableEq, Repr

/-- The token a word ends as, from its characters after quote removal. -/
def finish (pieces : List Piece) : Token :=
  let bare := (pieces.filter (!·.quoted)).map (·.char)
  let assignment := assigns ((pieces.takeWhile (!·.quoted)).map (·.char))
  if bare.any expansionChar then .expanding
  else if pieces.head? = some ⟨false, '~'⟩ then .expanding
  else if assignment && bare.contains '~' then .expanding
  else .word (String.ofList (pieces.map (·.char))) assignment

/-- Where the reader stands: between or inside words (with the word read so far, if any), after
a backslash, inside single quotes, or in a comment. -/
inductive Mode where
  | plain (word : Option (List Piece))
  | escaped (word : Option (List Piece))
  | single (pieces : List Piece)
  | comment

def close : Option (List Piece) → List Token
  | none => []
  | some pieces => [finish pieces]

/-- Reads the rest of a line from a mode. -/
def scan : Mode → List Char → List Token
  | .plain word, [] => close word
  | .plain word, c :: rest =>
    if separator c then close word ++ scan (.plain none) rest
    else if operatorChar c then close word ++ .operator c :: scan (.plain none) rest
    else if c == '#' && word.isNone then scan .comment rest
    else if c == '\\' then scan (.escaped word) rest
    else if c == '\'' then scan (.single (word.getD [])) rest
    else if c == '"' then [.unread]
    else scan (.plain (some (word.getD [] ++ [⟨false, c⟩]))) rest
  | .escaped _, [] => [.unread]
  | .escaped word, c :: rest =>
    if c == '\n' then scan (.plain word) rest
    else scan (.plain (some (word.getD [] ++ [⟨true, c⟩]))) rest
  | .single _, [] => [.unread]
  | .single pieces, c :: rest =>
    if c == '\'' then scan (.plain (some pieces)) rest
    else scan (.single (pieces ++ [⟨true, c⟩])) rest
  | .comment, [] => []
  | .comment, c :: rest =>
    if c == '\n' then .operator c :: scan (.plain none) rest else scan .comment rest

def tokens (line : String) : List Token := scan (.plain none) line.toList

def reservedWords : List String :=
  ["!", "[[", "]]", "\x7b", "\x7d", "case", "coproc", "do", "done", "elif", "else", "esac", "fi",
    "for", "function", "if", "in", "select", "then", "time", "until", "while"]

def Token.text? : Token → Option String
  | .word text _ => some text
  | _ => none

/-- The words of a simple command: a name that is neither reserved nor an assignment, then
words. -/
def simpleCommand : List Token → Option (List String)
  | .word name false :: args =>
    if reservedWords.contains name then none else (args.mapM Token.text?).map (name :: ·)
  | _ => none

def pipeline (tokens : List Token) : Option (List (List String)) :=
  (tokens.splitOn (.operator '|')).mapM simpleCommand

/-- A word that reads as itself wherever it stands unquoted: it does not start a comment and
does not begin as an assignment. -/
structure ReadsPlain (word : String) : Prop where
  notComment : word.toList.head? ≠ some '#'
  notAssignment : assigns word.toList = false

instance (word : String) : Decidable (ReadsPlain word) :=
  decidable_of_iff (word.toList.head? ≠ some '#' ∧ assigns word.toList = false)
    ⟨fun ⟨notComment, notAssignment⟩ => ⟨notComment, notAssignment⟩,
      fun plain => ⟨plain.notComment, plain.notAssignment⟩⟩

def Boundary (rest : List Char) : Prop := ∀ c ∈ rest.head?, separator c ∨ operatorChar c

def ordinary (c : Char) : Bool :=
  !separator c && !operatorChar c && c != '\\' && c != '\'' && c != '"'

/-! ## Steps of the reader -/

section Steps

variable (word : Option (List Piece)) (rest : List Char)

theorem scan_ordinary {c : Char} (plain : ordinary c = true) (inside : c ≠ '#' ∨ word.isSome) :
    scan (.plain word) (c :: rest) = scan (.plain (some (word.getD [] ++ [⟨false, c⟩]))) rest := by
  simp only [ordinary, Bool.and_eq_true, Bool.not_eq_true', bne_iff_ne, ne_eq] at plain
  obtain ⟨⟨⟨⟨notSeparator, notOperator⟩, notBackslash⟩, notQuote⟩, notDouble⟩ := plain
  have notComment : (c == '#' && word.isNone) = false := by
    rcases inside with other | started
    · simp [other]
    · obtain ⟨pieces, rfl⟩ := Option.isSome_iff_exists.1 started
      simp
  rw [scan]
  simp [notSeparator, notOperator, notComment, notBackslash, notQuote, notDouble]

theorem scan_backslash {c : Char} (notNewline : c ≠ '\n') :
    scan (.plain word) ('\\' :: c :: rest) =
      scan (.plain (some (word.getD [] ++ [⟨true, c⟩]))) rest := by
  simp [scan, separator, operatorChar, notNewline]

theorem scan_open_quote :
    scan (.plain word) ('\'' :: rest) = scan (.single (word.getD [])) rest := by
  simp [scan, separator, operatorChar]

theorem scan_single (pieces : List Piece) {run : List Char} (noQuote : '\'' ∉ run) :
    scan (.single pieces) (run ++ '\'' :: rest) =
      scan (.plain (some (pieces ++ run.map (Piece.mk true)))) rest := by
  induction run generalizing pieces with
  | nil => simp [scan]
  | cons c run ih =>
    have notQuote : c ≠ '\'' := fun same => noQuote (same ▸ List.mem_cons_self)
    rw [List.cons_append, scan, if_neg (by simpa using notQuote),
      ih _ fun member => noQuote (List.mem_cons_of_mem c member)]
    simp

theorem scan_boundary (pieces : List Piece) (boundary : Boundary rest) :
    scan (.plain (some pieces)) rest = finish pieces :: scan (.plain none) rest := by
  cases rest with
  | nil => rfl
  | cons c rest =>
    by_cases separates : separator c = true
    · simp [scan, separates, close]
    · have operates := (boundary c rfl).resolve_left separates
      simp [scan, separates, operates, close]

theorem boundary_of_head? {rest : List Char} (leading : rest.head? = some ' ') : Boundary rest := by
  intro c first
  rw [leading] at first
  cases Option.some.inj first
  exact .inl rfl

theorem scan_separator {c : Char} (separates : separator c = true) :
    scan (.plain none) (c :: rest) = scan (.plain none) rest := by
  simp [scan, separates, close]

theorem scan_operator {c : Char} (operates : operatorChar c = true) :
    scan (.plain none) (c :: rest) = .operator c :: scan (.plain none) rest := by
  have notSeparator : separator c = false := by
    revert operates
    simp only [separator, operatorChar, Bool.or_eq_true, beq_iff_eq]
    rintro (((((((rfl | rfl) | rfl) | rfl) | rfl) | rfl) | rfl) | rfl) <;> rfl
  simp [scan, notSeparator, operates, close]

end Steps

/-! ## Assignments -/

section Assignments

theorem afterName_append (more : List Char) :
    ∀ {chars : List Char}, afterName chars = true → afterName (chars ++ more) = true
  | [], completes => by simp [afterName] at completes
  | c :: chars, completes => by
    rw [List.cons_append, afterName]
    rw [afterName] at completes
    by_cases equals : c = '='
    · simp [equals]
    · by_cases plus : c = '+'
      · obtain ⟨rest, rfl⟩ : ∃ rest, chars = '=' :: rest := by
          cases chars <;> simp_all
        simp [plus]
      · simp only [beq_iff_eq, equals, plus, if_false, Bool.and_eq_true] at completes ⊢
        exact ⟨completes.1, afterName_append more completes.2⟩

theorem assigns_of_prefix {chars whole : List Char} (leading : chars <+: whole)
    (plain : assigns whole = false) : assigns chars = false := by
  obtain ⟨more, rfl⟩ := leading
  cases chars with
  | nil => rfl
  | cons c chars =>
    simp only [assigns, List.cons_append, Bool.and_eq_false_iff] at plain ⊢
    rcases plain with notName | notAfter
    · exact .inl notName
    · exact .inr (Bool.eq_false_iff.2 fun completes =>
        Bool.false_ne_true (notAfter ▸ afterName_append more completes))

theorem afterName_colon (rest : List Char) :
    ∀ {front : List Char}, '=' ∉ front → afterName (front ++ ':' :: rest) = false
  | [], _ => by
    have notName : nameChar ':' = false := by decide
    simp [afterName, notName]
  | c :: front, noEquals => by
    have notEquals : c ≠ '=' := fun same => noEquals (same ▸ List.mem_cons_self)
    have later : '=' ∉ front := fun member => noEquals (List.mem_cons_of_mem c member)
    rw [List.cons_append, afterName, if_neg (by simpa using notEquals)]
    by_cases plus : c = '+'
    · have next : (front ++ ':' :: rest).head? ≠ some '=' := by
        cases front with
        | nil => simp
        | cons d front => simpa using fun same : d = '=' => later (same ▸ List.mem_cons_self)
      rw [if_pos (by simpa using plus), beq_eq_false_iff_ne]
      exact next
    · simp [plus, afterName_colon rest later]

theorem ReadsPlain.of_head {word : String} {c : Char} (leading : word.toList.head? = some c)
    (notHash : c ≠ '#') (notName : nameStart c = false) : ReadsPlain word := by
  obtain ⟨rest, spelled⟩ : ∃ rest, word.toList = c :: rest := by
    cases spelledAs : word.toList with
    | nil => simp [spelledAs] at leading
    | cons d rest => simp_all
  refine ⟨by simpa [spelled] using notHash, ?_⟩
  rw [spelled, assigns, notName, Bool.false_and]

theorem head?_eq_slash_of_rooted {word : String} (rooted : word.startsWith "/" = true) :
    word.toList.head? = some '/' := by
  simp only [String.startsWith_string_iff] at rooted
  obtain ⟨rest, spelled⟩ := rooted
  simp [← spelled]

theorem ReadsPlain.of_rooted {word : String} (rooted : word.startsWith "/" = true) :
    ReadsPlain word :=
  ReadsPlain.of_head (head?_eq_slash_of_rooted rooted) (by decide) (by decide)

theorem not_mem_reservedWords_of_rooted {name : String} (rooted : name.startsWith "/" = true) :
    name ∉ reservedWords := by
  intro reserved
  have unslashed : ∀ word ∈ reservedWords, word.toList.head? ≠ some '/' := by decide
  exact unslashed name reserved (head?_eq_slash_of_rooted rooted)

/-- A word that starts with a run without `=` or `#`, then a colon, reads plain: a web address
with its scheme, for one. -/
theorem ReadsPlain.of_colon {word : String} {front rest : List Char}
    (spelled : word.toList = front ++ ':' :: rest) (noEquals : '=' ∉ front) (noHash : '#' ∉ front) :
    ReadsPlain word := by
  refine ⟨?_, ?_⟩
  · cases front with
    | nil => simp [spelled]
    | cons c front => simpa [spelled] using fun same : c = '#' => noHash (same ▸ List.mem_cons_self)
  · cases front with
    | nil => rw [spelled, List.nil_append, assigns]; rfl
    | cons c front =>
      rw [spelled, List.cons_append, assigns,
        afterName_colon rest fun member => noEquals (List.mem_cons_of_mem c member), Bool.and_false]

end Assignments

/-! ## Quoted words -/

section Quoting

/-- The pieces of a word written by backslash escapes after its first character: exactly the
special characters are protected. -/
def tailPieces (chars : List Char) : List Piece := chars.map fun c => ⟨special c, c⟩

theorem ordinary_of_not_special {c : Char} (plain : special c = false) (noBlank : blank c = false) :
    ordinary c = true := by
  simp only [special, specialChars, blank, Bool.or_eq_false_iff, beq_eq_false_iff_ne,
    List.contains_eq_mem, decide_eq_false_iff_not, List.mem_cons, List.not_mem_nil] at plain noBlank
  simp only [ordinary, separator, operatorChar]
  simp_all

theorem special_of_expansionChar {c : Char} (expands : expansionChar c = true) :
    special c = true := by
  revert expands
  simp only [expansionChar, Bool.or_eq_true, beq_iff_eq]
  rintro ((((((rfl | rfl) | rfl) | rfl) | rfl) | rfl) | rfl) <;> rfl

theorem not_newline_of_special {c : Char} (protects : special c = true) : c ≠ '\n' := by
  rintro rfl
  exact absurd protects (by decide)

variable (rest : List Char)

theorem scan_escapeTail (pieces : List Piece) {chars : List Char}
    (noBlank : ∀ c ∈ chars, blank c = false) :
    scan (.plain (some pieces)) (escapeTail chars ++ rest) =
      scan (.plain (some (pieces ++ tailPieces chars))) rest := by
  induction chars generalizing pieces with
  | nil => simp [escapeTail, tailPieces]
  | cons c chars ih =>
    have later := fun pieces => ih pieces fun d member => noBlank d (List.mem_cons_of_mem c member)
    cases protects : special c
    · rw [escapeTail, if_neg (by simp [protects]), List.singleton_append, List.cons_append,
        scan_ordinary _ _ (ordinary_of_not_special protects (noBlank c List.mem_cons_self))
          (.inr rfl), later]
      simp [tailPieces, protects]
    · rw [escapeTail, if_pos protects]
      simp only [List.cons_append, List.nil_append]
      rw [scan_backslash _ _ (not_newline_of_special protects), later]
      simp [tailPieces, protects]

theorem scan_escape {c : Char} {chars : List Char} (noBlank : ∀ d ∈ c :: chars, blank d = false)
    (notComment : c ≠ '#') :
    scan (.plain none) (escape (c :: chars) ++ rest) =
      scan (.plain (some (⟨special c || c == '~', c⟩ :: tailPieces chars))) rest := by
  have later := scan_escapeTail rest
  cases protects : special c || c == '~'
  · have plain : special c = false := by simp_all
    rw [escape, if_neg (by simp [protects]), List.singleton_append, List.cons_append,
      scan_ordinary _ _ (ordinary_of_not_special plain (noBlank c List.mem_cons_self))
        (.inl notComment), later _ fun d member => noBlank d (List.mem_cons_of_mem c member)]
    rfl
  · have notNewline : c ≠ '\n' := by
      rintro rfl
      exact absurd (noBlank _ List.mem_cons_self) (by decide)
    rw [escape, if_pos protects]
    simp only [List.cons_append, List.nil_append]
    rw [scan_backslash _ _ notNewline,
      later _ fun d member => noBlank d (List.mem_cons_of_mem c member)]
    rfl

theorem scan_quotedRun (word : Option (List Piece)) {run : List Char} (noQuote : '\'' ∉ run)
    (nonempty : run ≠ []) :
    scan (.plain word) (quotedRun run ++ rest) =
      scan (.plain (some (word.getD [] ++ run.map (Piece.mk true)))) rest := by
  rw [quotedRun, if_neg (by simpa using nonempty)]
  simp only [List.cons_append, List.append_assoc, List.nil_append]
  rw [scan_open_quote, scan_single _ _ noQuote]

/-- A single-quoted word: `run` holds the characters already inside the open quote, and each
quote of the word is a protected quote between quoted runs. -/
theorem scan_singleQuoted (chars : List Char) :
    ∀ (word : Option (List Piece)) (run : List Char), '\'' ∉ run → (word.isSome ∨ run ++ chars ≠ []) →
      scan (.plain word) (singleQuoted run chars ++ rest) =
        scan (.plain (some (word.getD [] ++ (run ++ chars).map (Piece.mk true)))) rest := by
  induction chars with
  | nil =>
    intro word run noQuote started
    cases run with
    | nil =>
      obtain ⟨pieces, rfl⟩ := Option.isSome_iff_exists.1 (by simpa using started)
      simp [singleQuoted, quotedRun]
    | cons r run =>
      rw [singleQuoted, scan_quotedRun _ _ noQuote (List.cons_ne_nil r run), List.append_nil]
  | cons c chars ih =>
    intro word run noQuote _
    by_cases quote : c = '\''
    · subst quote
      have opened : scan (.plain word) (quotedRun run ++ '\\' :: '\'' :: (singleQuoted [] chars ++ rest)) =
          scan (.plain (some (word.getD [] ++ run.map (Piece.mk true) ++ [⟨true, '\''⟩])))
            (singleQuoted [] chars ++ rest) := by
        cases run with
        | nil => simp [quotedRun, scan_backslash]
        | cons r run =>
          rw [scan_quotedRun _ _ noQuote (List.cons_ne_nil r run), scan_backslash _ _ (by decide)]
          simp
      simp only [singleQuoted, beq_self_eq_true, if_true, List.append_assoc, List.cons_append,
        List.nil_append]
      rw [opened, ih _ [] (by simp) (.inl rfl)]
      simp
    · rw [singleQuoted, if_neg (by simpa using quote),
        ih _ _ (by simpa [Ne.symm quote] using noQuote) (.inr (by simp))]
      simp

theorem finish_quoted (chars : List Char) :
    finish (chars.map (Piece.mk true)) = .word (String.ofList chars) false := by
  cases chars with
  | nil => rfl
  | cons c chars => simp [finish, Function.comp_def, assigns]

/-- A word written by backslash escapes reads as its text when it does not begin as an
assignment: its unprotected characters start no expansion, a leading `~` is protected, and
the unprotected characters it starts with are a prefix of it. -/
theorem finish_escaped {c : Char} {chars : List Char} (notAssignment : assigns (c :: chars) = false) :
    finish (⟨special c || c == '~', c⟩ :: tailPieces chars) = .word (String.ofList (c :: chars)) false := by
  have spelled : (⟨special c || c == '~', c⟩ :: tailPieces chars).map (·.char) = c :: chars := by
    simp [tailPieces, Function.comp_def]
  have leading : assigns (((⟨special c || c == '~', c⟩ :: tailPieces chars).takeWhile
      (!·.quoted)).map (·.char)) = false := by
    refine assigns_of_prefix ?_ notAssignment
    rw [← spelled]
    exact (List.takeWhile_prefix _).map _
  have noExpansion : (((⟨special c || c == '~', c⟩ :: tailPieces chars).filter (!·.quoted)).map
      (·.char)).any expansionChar = false := by
    rw [List.any_eq_false]
    intro d member expands
    obtain ⟨piece, kept, rfl⟩ := List.mem_map.1 member
    have bare := (List.mem_filter.1 kept).2
    rcases List.mem_cons.1 (List.mem_filter.1 kept).1 with rfl | later
    · simp [special_of_expansionChar expands] at bare
    · obtain ⟨e, -, rfl⟩ := List.mem_map.1 later
      simp [special_of_expansionChar expands] at bare
  have notTilde : (⟨special c || c == '~', c⟩ :: tailPieces chars).head? ≠ some ⟨false, '~'⟩ := by
    simp only [List.head?_cons, ne_eq, Option.some.injEq, Piece.mk.injEq, not_and]
    intro unprotected tilde
    simp [tilde] at unprotected
  simp only [finish, noExpansion, notTilde, leading, spelled, Bool.false_and, if_false,
    Bool.false_eq_true]

theorem scan_quote {word : String} (plain : ReadsPlain word) :
    ∃ pieces, finish pieces = .word word false ∧
      scan (.plain none) ((quote word).toList ++ rest) = scan (.plain (some pieces)) rest := by
  have text : String.ofList word.toList = word := String.ofList_toList
  simp only [quote]
  cases spelled : word.toList with
  | nil =>
    rw [spelled] at text
    refine ⟨[], by rw [← text]; rfl, ?_⟩
    simp [scan, separator, operatorChar]
  | cons c chars =>
    rw [spelled] at text
    by_cases spaced : (c :: chars).any blank = true
    · refine ⟨(c :: chars).map (Piece.mk true), by rw [finish_quoted, text], ?_⟩
      rw [if_neg (by simp), if_pos spaced, String.toList_ofList,
        scan_singleQuoted rest (c :: chars) none [] (by simp) (.inr (by simp))]
      simp
    · have noBlank : ∀ d ∈ c :: chars, blank d = false := by simpa using spaced
      have notComment : c ≠ '#' := fun same => plain.notComment (by simp [spelled, same])
      refine ⟨⟨special c || c == '~', c⟩ :: tailPieces chars,
        by rw [finish_escaped (spelled ▸ plain.notAssignment), text], ?_⟩
      rw [if_neg (by simp), if_neg spaced, String.toList_ofList,
        scan_escape rest noBlank notComment]

end Quoting

/-! ## Command lines of words -/

section Lines

theorem scan_join {rest : List Char} (boundary : Boundary rest) :
    ∀ {words : List String}, (∀ word ∈ words, ReadsPlain word) → words ≠ [] →
      scan (.plain none) ((join words).toList ++ rest) =
        words.map (Token.word · false) ++ scan (.plain none) rest
  | [word], plain, _ => by
    obtain ⟨pieces, finished, read⟩ := scan_quote rest (plain word List.mem_cons_self)
    rw [join, List.map_singleton, String.intercalate_singleton, read,
      scan_boundary _ _ boundary, finished]
    rfl
  | word :: next :: more, plain, _ => by
    obtain ⟨pieces, finished, read⟩ :=
      scan_quote (' ' :: ((join (next :: more)).toList ++ rest)) (plain word List.mem_cons_self)
    have later := @scan_join _ boundary (next :: more)
      (fun other member => plain other (List.mem_cons_of_mem word member)) (List.cons_ne_nil _ _)
    rw [join, List.map_cons, List.map_cons, String.intercalate_cons_cons, ← List.map_cons, ← join,
      String.toList_append, String.toList_append, List.append_assoc, List.append_assoc]
    rw [show (" " : String).toList = [' '] from rfl, List.singleton_append, read,
      scan_boundary _ _ (boundary_of_head? rfl), finished,
      scan_separator _ rfl, later]
    rfl

theorem tokens_join_append {words : List String} (plain : ∀ word ∈ words, ReadsPlain word)
    (nonempty : words ≠ []) {rest : String} (boundary : Boundary rest.toList) :
    tokens (join words ++ rest) = words.map (Token.word · false) ++ tokens rest := by
  rw [tokens, String.toList_append, scan_join boundary plain nonempty]
  rfl

theorem join_append {words more : List String} (nonempty : words ≠ []) (moreNonempty : more ≠ []) :
    join (words ++ more) = join words ++ " " ++ join more := by
  rw [join, List.map_append, String.intercalate_append_of_ne_nil (by simpa using nonempty)
    (by simpa using moreNonempty)]
  rfl

theorem tokens_join {words : List String} (plain : ∀ word ∈ words, ReadsPlain word) :
    tokens (join words) = words.map (Token.word · false) := by
  cases words with
  | nil => rfl
  | cons word more =>
    have read := @scan_join [] (by simp [Boundary]) _ plain (List.cons_ne_nil _ _)
    rw [List.append_nil] at read
    rw [tokens, read, show scan (.plain none) [] = [] from rfl, List.append_nil]

/-- Two commands of words that read plain, joined by ` | `, read as the two commands around a
`|`. -/
theorem tokens_pipe {first second : List String} (firstPlain : ∀ word ∈ first, ReadsPlain word)
    (secondPlain : ∀ word ∈ second, ReadsPlain word) (nonempty : first ≠ []) :
    tokens (join first ++ " | " ++ join second) =
      [Token.operator '|'].intercalate [first.map (Token.word · false), second.map (Token.word · false)] := by
  rw [String.append_assoc, tokens_join_append firstPlain nonempty (boundary_of_head? (by simp))]
  rw [tokens, String.toList_append, show (" | " : String).toList = [' ', '|', ' '] from rfl,
    List.cons_append, List.cons_append, List.cons_append, List.nil_append,
    scan_separator _ rfl, scan_operator _ rfl, scan_separator _ rfl, ← tokens, tokens_join secondPlain]
  simp

theorem mapM_text?_words (words : List String) :
    (words.map (Token.word · false)).mapM Token.text? = some words := by
  induction words with
  | nil => rfl
  | cons word words ih => simp [Token.text?, ih]

theorem simpleCommand_words {name : String} (args : List String) (named : name ∉ reservedWords) :
    simpleCommand ((name :: args).map (Token.word · false)) = some (name :: args) := by
  rw [List.map_cons, simpleCommand, if_neg (by simpa using named), mapM_text?_words]
  rfl

theorem pipeline_words : ∀ {commands : List (List String)}, commands ≠ [] →
    (∀ command ∈ commands, ∃ name args, command = name :: args ∧ name ∉ reservedWords) →
    pipeline ([Token.operator '|'].intercalate (commands.map (·.map (Token.word · false)))) =
      some commands := by
  intro commands nonempty named
  have noBar : ∀ line ∈ commands.map (·.map (Token.word · false)), Token.operator '|' ∉ line := by
    simp
  rw [pipeline, List.splitOn_intercalate _ noBar (by simpa using nonempty)]
  clear nonempty noBar
  induction commands with
  | nil => rfl
  | cons command commands ih =>
    obtain ⟨name, args, rfl, notReserved⟩ := named command List.mem_cons_self
    rw [List.map_cons, List.mapM_cons, simpleCommand_words args notReserved,
      ih fun other member => named other (List.mem_cons_of_mem _ member)]
    rfl

end Lines

end Testbed.ShellWords
