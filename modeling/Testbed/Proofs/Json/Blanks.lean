import Testbed.Json.Read

/-!
# Blanks after a JSON text

The reader takes characters off the front of the text and never looks past the end of the
value it reads, except to see that the value has ended: a digit run, a fraction or an exponent
ends at a character that cannot continue it, and a blank is never one. So a text that reads as
a value reads as the same value with blanks after it, the blanks left after the rest; the fuel
a longer text gets is only more. In particular a line that reads as JSON still does with a
carriage return at its end, which reading a journal drops.
-/

namespace Testbed.Json

theorem readFraction_dot (more : List Char) :
    readFraction ('.' :: more) = readDigits more >>= fun (digits, rest) => pure ('.' :: digits, rest) := rfl

theorem readFraction_of_not_dot {text : List Char} (notDot : ∀ more, text ≠ '.' :: more) :
    readFraction text = pure ([], text) := by
  unfold readFraction
  split
  · exact absurd rfl (notDot _)
  · rfl

section Stop

variable {p : Char → Bool} {s : List Char} (stop : ∀ c ∈ s.head?, p c = false)
include stop

/-- A run of characters that ends where the text ends also ends there when a character that
stops it follows. -/
theorem takeWhile_append_stop (chars : List Char) : (chars ++ s).takeWhile p = chars.takeWhile p := by
  cases s with
  | nil => simp
  | cons c more =>
    have stopped : p c = false := stop c (by simp)
    rw [List.takeWhile_append]
    split
    · rename_i whole
      rw [List.takeWhile_cons_of_neg (by simp [stopped]), List.append_nil]
      exact ((List.takeWhile_prefix p).eq_of_length whole).symm
    · rfl

theorem dropWhile_append_stop (chars : List Char) : (chars ++ s).dropWhile p = chars.dropWhile p ++ s := by
  cases s with
  | nil => simp
  | cons c more =>
    have stopped : p c = false := stop c (by simp)
    rw [List.dropWhile_append]
    split
    · rename_i empty
      rw [List.dropWhile_cons_of_neg (by simp [stopped]), List.isEmpty_iff.1 empty, List.nil_append]
    · rfl

end Stop

section Suffix
variable (s : List Char) (blank : ∀ c ∈ s, isBlank c = true)
include blank

theorem hexValue_blank : ∀ c ∈ s.head?, hexValue c = none := by
  intro c member
  have isB : isBlank c = true := blank c (List.mem_of_mem_head? member)
  simp only [isBlank, Bool.or_eq_true, beq_iff_eq] at isB
  rcases isB with ((rfl | rfl) | rfl) | rfl <;> decide

theorem readHex4_go_append :
    ∀ n value chars, (∀ result, readHex4.go n value chars = .ok result →
        readHex4.go n value (chars ++ s) = .ok (result.1, result.2 ++ s)) ∧
      (∀ err, readHex4.go n value chars = .error err → ∃ err', readHex4.go n value (chars ++ s) = .error err')
  | 0, value, chars => by simp [readHex4.go]
  | n + 1, value, [] => by
    cases s with
    | nil => simp [readHex4.go]
    | cons c more =>
      have : hexValue c = none := hexValue_blank (c :: more) blank c (by simp)
      simp [readHex4.go, this]
  | n + 1, value, c :: chars => by
    cases digit : hexValue c with
    | none => simp [readHex4.go, digit]
    | some d =>
      simp only [readHex4.go, digit, List.cons_append]
      exact readHex4_go_append n (value * 16 + d) chars

omit blank in
theorem surrogateJoin_of_not_escape (high : Nat) {chars : List Char}
    (notEscape : ∀ more, chars ≠ '\\' :: 'u' :: more) : surrogateJoin high chars = ('�', chars) := by
  unfold surrogateJoin
  split
  · exact absurd rfl (notEscape _)
  · rfl

theorem surrogateJoin_append (high : Nat) (rest : List Char) :
    surrogateJoin high (rest ++ s) = ((surrogateJoin high rest).1, (surrogateJoin high rest).2 ++ s) := by
  by_cases escape : ∃ more, rest = '\\' :: 'u' :: more
  · obtain ⟨more, rfl⟩ := escape
    have ⟨found, failed⟩ := readHex4_go_append s blank 4 0 more
    cases hex : readHex4 more with
    | ok result =>
      obtain ⟨low, after⟩ := result
      have extended : readHex4 (more ++ s) = .ok (low, after ++ s) := found (low, after) hex
      simp only [surrogateJoin, List.cons_append, hex, extended]
      split <;> simp
    | error err =>
      obtain ⟨err', extended⟩ := failed err hex
      simp only [surrogateJoin, List.cons_append, hex]
      rw [show readHex4 (more ++ s) = .error err' from extended]
  · have notEscape : ∀ more, rest ≠ '\\' :: 'u' :: more := fun more same => escape ⟨more, same⟩
    have stillNot : ∀ more, rest ++ s ≠ '\\' :: 'u' :: more := by
      intro more same
      match rest, s, same, blank with
      | [], c :: _, same, blank =>
        have isB := blank c (by simp)
        obtain ⟨rfl, -⟩ := List.cons.inj same
        exact absurd isB (by decide)
      | [_], c :: _, same, blank =>
        have isB := blank c (by simp)
        obtain ⟨-, rfl, -⟩ : _ ∧ c = 'u' ∧ _ := by simpa using same
        exact absurd isB (by decide)
      | a :: b :: r, _, same, _ =>
        simp at same
        exact notEscape r (by rw [same.1, same.2.1])
    rw [surrogateJoin_of_not_escape high notEscape, surrogateJoin_of_not_escape high stillNot]

theorem blank_head : ∀ c ∈ s.head?, c = ' ' ∨ c = '\t' ∨ c = '\n' ∨ c = '\r' := by
  intro c member
  have isB := blank c (List.mem_of_mem_head? member)
  simpa only [isBlank, Bool.or_eq_true, beq_iff_eq, or_assoc] using isB

theorem isDigit_head : ∀ c ∈ s.head?, c.isDigit = false := by
  intro c member
  rcases blank_head s blank c member with rfl | rfl | rfl | rfl <;> decide

omit blank in
theorem skipBlanks_append_of_cons {chars rest : List Char} {c : Char} (skipped : skipBlanks chars = c :: rest) :
    skipBlanks (chars ++ s) = c :: (rest ++ s) := by
  unfold skipBlanks at skipped ⊢
  rw [List.dropWhile_append, skipped]
  rfl

theorem skipBlanks_append_of_nil {chars : List Char} (skipped : skipBlanks chars = []) :
    skipBlanks (chars ++ s) = [] := by
  unfold skipBlanks at skipped ⊢
  rw [List.dropWhile_append, skipped, List.isEmpty_nil, if_pos rfl]
  have whole : (s ++ []).dropWhile isBlank = ([] : List Char).dropWhile isBlank :=
    List.dropWhile_append_of_pos blank
  simpa using whole

omit blank in
theorem readWord_append (word : String) :
    ∀ letters chars rest, readWord word letters chars = .ok rest →
      readWord word letters (chars ++ s) = .ok (rest ++ s)
  | [], chars, rest, read => by
    have same : chars = rest := by simpa [readWord] using read
    subst same
    simp [readWord]
  | _ :: _, [], rest, read => by simp [readWord] at read
  | letter :: letters, c :: chars, rest, read => by
    rw [List.cons_append]
    simp only [readWord] at read ⊢
    split at read
    · rename_i same
      simp only [same, if_true]
      exact readWord_append word letters chars rest read
    · simp at read

theorem readDigits_append {chars digits rest : List Char} (read : readDigits chars = .ok (digits, rest)) :
    readDigits (chars ++ s) = .ok (digits, rest ++ s) := by
  match chars, read with
  | c :: more, read =>
    simp only [readDigits] at read ⊢
    split at read
    · rename_i digit
      simp only [Except.ok.injEq, Prod.mk.injEq] at read
      obtain ⟨rfl, rfl⟩ := read
      simp only [List.cons_append, digit, if_true, takeWhile_append_stop (isDigit_head s blank),
        dropWhile_append_stop (isDigit_head s blank)]
    · simp at read

theorem readFraction_append {text fraction rest : List Char}
    (read : readFraction text = .ok (fraction, rest)) :
    readFraction (text ++ s) = .ok (fraction, rest ++ s) := by
  by_cases dot : ∃ more, text = '.' :: more
  · obtain ⟨more, rfl⟩ := dot
    rw [List.cons_append, readFraction_dot]
    rw [readFraction_dot] at read
    cases digits : readDigits more with
    | error err => simp [digits, bind, Except.bind] at read
    | ok pair =>
      obtain ⟨found, after⟩ := pair
      simp only [digits, bind, Except.bind, pure, Except.pure, Except.ok.injEq, Prod.mk.injEq] at read
      obtain ⟨rfl, rfl⟩ := read
      simp [readDigits_append s blank digits, bind, Except.bind, pure, Except.pure]
  · have notDot : ∀ more, text ≠ '.' :: more := fun more same => dot ⟨more, same⟩
    rw [readFraction_of_not_dot notDot] at read
    simp only [pure, Except.pure, Except.ok.injEq, Prod.mk.injEq] at read
    obtain ⟨rfl, rfl⟩ := read
    have stillNot : ∀ more, text ++ s ≠ '.' :: more := by
      intro more same
      cases text with
      | nil =>
        rw [List.nil_append] at same
        rcases blank_head s blank '.' (by simp [same]) with h | h | h | h <;> exact absurd h (by decide)
      | cons c chars =>
        simp only [List.cons_append, List.cons.injEq] at same
        exact notDot chars (by rw [same.1])
    rw [readFraction_of_not_dot stillNot]
    rfl

omit blank in
theorem signPart_append {more : List Char} {result : List Char × List Char}
    (read : readDigits (signPart more).2 = .ok result) :
    signPart (more ++ s) = ((signPart more).1, (signPart more).2 ++ s) := by
  match more, read with
  | [], read => simp [signPart, readDigits] at read
  | c :: after, _ =>
    by_cases plus : c = '+'
    · subst plus
      rfl
    · by_cases minus : c = '-'
      · subst minus
        rfl
      · have other : ∀ chars, signPart (c :: chars) = ([], c :: chars) := by
          intro chars
          unfold signPart
          split <;> simp_all
        rw [List.cons_append, other, other]
        rfl

theorem readExponent_append (fraction : List Char) {rest number left : List Char}
    (read : readExponent fraction rest = .ok (number, left)) :
    readExponent fraction (rest ++ s) = .ok (number, left ++ s) := by
  match rest, read with
  | [], read =>
    simp only [readExponent, pure, Except.pure, Except.ok.injEq, Prod.mk.injEq] at read
    obtain ⟨rfl, rfl⟩ := read
    cases s with
    | nil => rfl
    | cons c more =>
      have notE : (c == 'e' || c == 'E') = false := by
        rcases blank_head (c :: more) blank c (by simp) with rfl | rfl | rfl | rfl <;> decide
      simp [readExponent, notE, pure, Except.pure]
  | e :: more, read =>
    rw [List.cons_append]
    unfold readExponent at read ⊢
    by_cases isE : (e == 'e' || e == 'E') = true
    · simp only [isE, if_true] at read ⊢
      cases digits : readDigits (signPart more).2 with
      | error err => simp [digits, bind, Except.bind] at read
      | ok pair =>
        obtain ⟨found, after⟩ := pair
        simp only [digits, bind, Except.bind, pure, Except.pure, Except.ok.injEq, Prod.mk.injEq] at read
        obtain ⟨rfl, rfl⟩ := read
        rw [signPart_append s digits]
        simp [readDigits_append s blank digits, bind, Except.bind, pure, Except.pure]
    · simp only [isE, if_false, Bool.false_eq_true, pure, Except.pure, Except.ok.injEq,
        Prod.mk.injEq] at read ⊢
      obtain ⟨rfl, rfl⟩ := read
      exact ⟨rfl, rfl⟩

theorem readNumberTail_append {text tail left : List Char}
    (read : readNumberTail text = .ok (tail, left)) : readNumberTail (text ++ s) = .ok (tail, left ++ s) := by
  unfold readNumberTail at read ⊢
  cases fraction : readFraction text with
  | error err => simp [fraction, bind, Except.bind] at read
  | ok pair =>
    obtain ⟨digits, rest⟩ := pair
    simp only [fraction, bind, Except.bind] at read
    simp only [readFraction_append s blank fraction, bind, Except.bind]
    exact readExponent_append s blank digits read

theorem minusPart_append (text : List Char) :
    minusPart (text ++ s) = ((minusPart text).1, (minusPart text).2 ++ s) := by
  match text with
  | [] =>
    cases s with
    | nil => rfl
    | cons c more =>
      rcases blank_head (c :: more) blank c (by simp) with rfl | rfl | rfl | rfl <;> rfl
  | c :: more =>
    by_cases minus : c = '-'
    · subst minus
      rfl
    · have other : ∀ chars, minusPart (c :: chars) = ([], c :: chars) := by
        intro chars
        unfold minusPart
        split <;> simp_all
      rw [List.cons_append, other, other]
      rfl

theorem readWhole_append {body whole rest : List Char} (read : readWhole body = .ok (whole, rest)) :
    readWhole (body ++ s) = .ok (whole, rest ++ s) := by
  match body, read with
  | [], read => simp [readWhole, readDigits] at read
  | c :: more, read =>
    by_cases zero : c = '0'
    · subst zero
      simp only [readWhole, pure, Except.pure, Except.ok.injEq, Prod.mk.injEq] at read
      obtain ⟨rfl, rfl⟩ := read
      rfl
    · have other : ∀ chars, readWhole (c :: chars) = readDigits (c :: chars) := by
        intro chars
        unfold readWhole
        split <;> simp_all
      rw [List.cons_append, other, ← List.cons_append]
      rw [other] at read
      exact readDigits_append s blank read

theorem readNumber_append {text rest : List Char} {value : Json}
    (read : readNumber text = .ok (value, rest)) : readNumber (text ++ s) = .ok (value, rest ++ s) := by
  unfold readNumber at read ⊢
  rw [minusPart_append s blank]
  cases whole : readWhole (minusPart text).2 with
  | error err => simp [whole, bind, Except.bind] at read
  | ok pair =>
    obtain ⟨digits, after⟩ := pair
    simp only [whole, bind, Except.bind] at read
    simp only [readWhole_append s blank whole, bind, Except.bind]
    cases tail : readNumberTail after with
    | error err => simp [tail] at read
    | ok pair =>
      obtain ⟨fraction, left⟩ := pair
      simp only [tail, pure, Except.pure, Except.ok.injEq, Prod.mk.injEq] at read
      obtain ⟨rfl, rfl⟩ := read
      simp [readNumberTail_append s blank tail, pure, Except.pure]

/-- A string read from a text reads the same from the text with blanks after it, and with
more fuel. -/
theorem readStringBody_append (fuel : Nat) (acc chars : List Char) :
    ∀ str rest, readStringBody fuel acc chars = .ok (str, rest) → ∀ extra,
      readStringBody (fuel + extra) acc (chars ++ s) = .ok (str, rest ++ s) := by
  fun_induction readStringBody fuel acc chars
  all_goals intro str rest read extra
  all_goals try (simp at read; done)
  all_goals rw [Nat.succ_add]
  case case3 =>
    simp_all [readStringBody]
  all_goals simp only [readStringBody, List.cons_append, *, if_false, Bool.false_eq_true, if_true]
  case case12 =>
    rename_i more _ _ _ _ _ _ _ code after hex surrogate joined left joinedEq induction
    have hexAfter : readHex4 (more ++ s) = .ok (code, after ++ s) :=
      (readHex4_go_append s blank 4 0 more).1 (code, after) hex
    simp only [hexAfter, surrogate, if_true, surrogateJoin_append s blank, joinedEq]
    exact induction _ _ read extra
  case case13 =>
    rename_i more _ _ _ _ _ _ _ code after hex notSurrogate induction
    have hexAfter : readHex4 (more ++ s) = .ok (code, after ++ s) :=
      (readHex4_go_append s blank 4 0 more).1 (code, after) hex
    simp only [hexAfter, notSurrogate, if_false, Bool.false_eq_true]
    exact induction _ _ read extra
  all_goals
    rename_i induction
    exact induction _ _ read extra

omit blank in
theorem readWord_value_append (word : String) (letters : List Char) (result : Json) {after rest : List Char}
    {value : Json} (read : (do let left ← readWord word letters after; pure (result, left)) =
      (Except.ok (value, rest) : Except SyntaxError (Json × List Char))) :
    (do let left ← readWord word letters (after ++ s); pure (result, left)) =
      (Except.ok (value, rest ++ s) : Except SyntaxError (Json × List Char)) := by
  cases found : readWord word letters after with
  | error err => simp [found, bind, Except.bind] at read
  | ok left =>
    simp only [found, bind, Except.bind, pure, Except.pure, Except.ok.injEq, Prod.mk.injEq] at read
    obtain ⟨rfl, rfl⟩ := read
    simp [readWord_append s word letters after left found, bind, Except.bind, pure, Except.pure]

theorem readString_value_append {after rest : List Char} {value : Json}
    (read : (do let (str, left) ← readStringBody (after.length + 1) [] after; pure (Json.string str, left)) =
      (Except.ok (value, rest) : Except SyntaxError (Json × List Char))) :
    (do let (str, left) ← readStringBody ((after ++ s).length + 1) [] (after ++ s); pure (Json.string str, left)) =
      (Except.ok (value, rest ++ s) : Except SyntaxError (Json × List Char)) := by
  cases body : readStringBody (after.length + 1) [] after with
  | error err => simp [body, bind, Except.bind] at read
  | ok pair =>
    obtain ⟨str, left⟩ := pair
    simp only [body, bind, Except.bind, pure, Except.pure, Except.ok.injEq, Prod.mk.injEq] at read
    obtain ⟨rfl, rfl⟩ := read
    have longer := readStringBody_append s blank (after.length + 1) [] after str left body s.length
    rw [show after.length + 1 + s.length = after.length + s.length + 1 by omega] at longer
    simp [longer, bind, Except.bind, pure, Except.pure]

/-! ### Values, arrays and objects

The three readers call each other, so what each keeps is stated at a fuel and proved for the
next fuel from what the others keep at this one. -/

/-- Reading a value at `fuel` gives the same value, with the blanks after its rest, on the text
with the blanks after it and at any larger fuel. -/
def ValueKeeps (fuel : Nat) : Prop :=
  ∀ chars value rest, readValue fuel chars = .ok (value, rest) → ∀ extra,
    readValue (fuel + extra) (chars ++ s) = .ok (value, rest ++ s)

def ItemsKeep (fuel : Nat) : Prop :=
  ∀ first acc chars value rest, readItems fuel first acc chars = .ok (value, rest) → ∀ extra,
    readItems (fuel + extra) first acc (chars ++ s) = .ok (value, rest ++ s)

def MembersKeep (fuel : Nat) : Prop :=
  ∀ first acc chars value rest, readMembers fuel first acc chars = .ok (value, rest) → ∀ extra,
    readMembers (fuel + extra) first acc (chars ++ s) = .ok (value, rest ++ s)

variable {fuel : Nat}

theorem valueKeeps_succ (items : ItemsKeep s fuel) (members : MembersKeep s fuel) :
    ValueKeeps s (fuel + 1) := by
  intro chars value rest read extra
  rw [Nat.add_right_comm]
  unfold readValue at read ⊢
  cases skipped : skipBlanks chars with
  | nil => simp [skipped] at read
  | cons c after =>
    rw [skipped] at read
    rw [skipBlanks_append_of_cons s skipped]
    dsimp only at read ⊢
    by_cases brace : (c == '{') = true
    · simp only [brace, if_true] at read ⊢
      exact members true [] after value rest read extra
    simp only [brace, if_false, Bool.false_eq_true] at read ⊢
    by_cases bracket : (c == '[') = true
    · simp only [bracket, if_true] at read ⊢
      exact items true [] after value rest read extra
    simp only [bracket, if_false, Bool.false_eq_true] at read ⊢
    by_cases quote : (c == '"') = true
    · simp only [quote, if_true] at read ⊢
      exact readString_value_append s blank read
    simp only [quote, if_false, Bool.false_eq_true] at read ⊢
    by_cases number : (c == '-' || c.isDigit) = true
    · simp only [number, if_true] at read ⊢
      exact readNumber_append s blank read
    simp only [number, if_false, Bool.false_eq_true] at read ⊢
    by_cases letterT : (c == 't') = true
    · simp only [letterT, if_true] at read ⊢
      exact readWord_value_append s "true" _ _ read
    simp only [letterT, if_false, Bool.false_eq_true] at read ⊢
    by_cases letterF : (c == 'f') = true
    · simp only [letterF, if_true] at read ⊢
      exact readWord_value_append s "false" _ _ read
    simp only [letterF, if_false, Bool.false_eq_true] at read ⊢
    by_cases letterN : (c == 'n') = true
    · simp only [letterN, if_true] at read ⊢
      exact readWord_value_append s "null" _ _ read
    simp [letterN] at read

omit blank in
theorem itemsKeep_succ (values : ValueKeeps s fuel) (items : ItemsKeep s fuel) : ItemsKeep s (fuel + 1) := by
  intro first acc chars value rest read extra
  rw [Nat.add_right_comm]
  unfold readItems at read ⊢
  cases skipped : skipBlanks chars with
  | nil => simp [skipped] at read
  | cons c after =>
    rw [skipped] at read
    rw [skipBlanks_append_of_cons s skipped]
    dsimp only at read ⊢
    by_cases empty : (first && c == ']') = true
    · simp only [empty, if_true, Except.ok.injEq, Prod.mk.injEq] at read ⊢
      obtain ⟨rfl, rfl⟩ := read
      exact ⟨rfl, rfl⟩
    simp only [empty, if_false, Bool.false_eq_true] at read ⊢
    cases item : readValue fuel (c :: after) with
    | error err => simp [item, bind, Except.bind] at read
    | ok pair =>
      obtain ⟨element, afterItem⟩ := pair
      simp only [item, bind, Except.bind] at read
      have itemAfter := values (c :: after) element afterItem item extra
      rw [List.cons_append] at itemAfter
      simp only [itemAfter, bind, Except.bind]
      cases next : skipBlanks afterItem with
      | nil => simp [next] at read
      | cons d left =>
        rw [next] at read
        rw [skipBlanks_append_of_cons s next]
        dsimp only at read ⊢
        by_cases comma : (d == ',') = true
        · simp only [comma, if_true] at read ⊢
          exact items false (element :: acc) left value rest read extra
        simp only [comma, if_false, Bool.false_eq_true] at read ⊢
        by_cases closing : (d == ']') = true
        · simp only [closing, if_true, Except.ok.injEq, Prod.mk.injEq] at read ⊢
          obtain ⟨rfl, rfl⟩ := read
          exact ⟨rfl, rfl⟩
        simp [closing] at read

theorem membersKeep_succ (values : ValueKeeps s fuel) (members : MembersKeep s fuel) :
    MembersKeep s (fuel + 1) := by
  intro first acc chars value rest read extra
  rw [Nat.add_right_comm]
  unfold readMembers at read ⊢
  cases skipped : skipBlanks chars with
  | nil => simp [skipped] at read
  | cons c after =>
    rw [skipped] at read
    rw [skipBlanks_append_of_cons s skipped]
    dsimp only at read ⊢
    by_cases empty : (first && c == '}') = true
    · simp only [empty, if_true, Except.ok.injEq, Prod.mk.injEq] at read ⊢
      obtain ⟨rfl, rfl⟩ := read
      exact ⟨rfl, rfl⟩
    simp only [empty, if_false, Bool.false_eq_true] at read ⊢
    by_cases notKey : (c != '"') = true
    · simp [notKey] at read
    simp only [notKey, if_false, Bool.false_eq_true] at read ⊢
    cases key : readStringBody (after.length + 1) [] after with
    | error err => simp [key, bind, Except.bind] at read
    | ok pair =>
      obtain ⟨name, afterKey⟩ := pair
      simp only [key, bind, Except.bind] at read
      have keyAfter := readStringBody_append s blank (after.length + 1) [] after name afterKey key s.length
      rw [show after.length + 1 + s.length = (after ++ s).length + 1 by simp; omega] at keyAfter
      simp only [keyAfter, bind, Except.bind]
      cases colonNext : skipBlanks afterKey with
      | nil => simp [colonNext] at read
      | cons colon afterColon =>
        rw [colonNext] at read
        rw [skipBlanks_append_of_cons s colonNext]
        dsimp only at read ⊢
        by_cases notColon : (colon != ':') = true
        · simp [notColon] at read
        simp only [notColon, if_false, Bool.false_eq_true] at read ⊢
        cases member : readValue fuel afterColon with
        | error err => simp [member] at read
        | ok pair =>
          obtain ⟨element, afterValue⟩ := pair
          simp only [member] at read
          simp only [values afterColon element afterValue member extra]
          cases next : skipBlanks afterValue with
          | nil => simp [next] at read
          | cons d left =>
            rw [next] at read
            rw [skipBlanks_append_of_cons s next]
            dsimp only at read ⊢
            by_cases comma : (d == ',') = true
            · simp only [comma, if_true] at read ⊢
              exact members false ((name, element) :: acc) left value rest read extra
            simp only [comma, if_false, Bool.false_eq_true] at read ⊢
            by_cases closing : (d == '}') = true
            · simp only [closing, if_true, Except.ok.injEq, Prod.mk.injEq] at read ⊢
              obtain ⟨rfl, rfl⟩ := read
              exact ⟨rfl, rfl⟩
            simp [closing] at read

/-- A value, an array's items or an object's members read from a text read the same from the
text with blanks after it, and with more fuel. -/
theorem readers_append (fuel : Nat) : ValueKeeps s fuel ∧ ItemsKeep s fuel ∧ MembersKeep s fuel := by
  induction fuel with
  | zero =>
    exact ⟨by simp [ValueKeeps, readValue], by simp [ItemsKeep, readItems],
      by simp [MembersKeep, readMembers]⟩
  | succ fuel induction =>
    obtain ⟨values, items, members⟩ := induction
    exact ⟨valueKeeps_succ s blank items members, itemsKeep_succ s values items,
      membersKeep_succ s blank values members⟩

end Suffix

theorem read_append_blanks {text : String} {value : Json} (blanks : String)
    (blank : ∀ c ∈ blanks.toList, isBlank c = true) (found : read text = .ok value) :
    read (text ++ blanks) = .ok value := by
  unfold read at found ⊢
  cases whole : readValue (2 * text.toList.length + 2) text.toList with
  | error err => simp [whole, bind, Except.bind] at found
  | ok pair =>
    obtain ⟨read, rest⟩ := pair
    simp only [whole, bind, Except.bind] at found
    cases ending : skipBlanks rest with
    | cons c more => simp [ending] at found
    | nil =>
      simp only [ending, pure, Except.pure, Except.ok.injEq] at found
      subst found
      have longer := (readers_append blanks.toList blank _).1 _ _ _ whole (2 * blanks.toList.length)
      rw [show 2 * text.toList.length + 2 + 2 * blanks.toList.length =
        2 * (text.toList.length + blanks.toList.length) + 2 by omega] at longer
      simp [longer, skipBlanks_append_of_nil blanks.toList blank ending, bind, Except.bind, pure,
        Except.pure]

end Testbed.Json
