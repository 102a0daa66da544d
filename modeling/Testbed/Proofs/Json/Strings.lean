import Testbed.Json.Read
import Testbed.Json.Write

/-!
# Written strings read back

Every escape the writer makes is one the reader undoes in one step: a backslash before a quote,
a backslash or a letter, or a `\u` with four hexadecimal digits of a character that is not a
surrogate. A character the writer leaves as it is is neither a quote, a backslash nor a control
character, so the reader keeps it too. A quoted string therefore reads back as itself, and an
object whose members are all strings reads back member for member.
-/

namespace Testbed.Json

/-! ## Hexadecimal digits -/

def hexFold (value : Nat) (digits : List Char) : Nat :=
  digits.foldl (fun sofar c => sofar * 16 + (hexValue c).getD 0) value

theorem hexValue_digitChar : ∀ d, d < 16 → hexValue (Nat.digitChar d) = some d
  | 0, _ | 1, _ | 2, _ | 3, _ | 4, _ | 5, _ | 6, _ | 7, _ | 8, _ | 9, _ | 10, _ | 11, _ | 12, _
  | 13, _ | 14, _ | 15, _ => by decide
  | _ + 16, below => absurd below (by omega)

theorem toDigits_hex (n : Nat) :
    (∀ c ∈ Nat.toDigits 16 n, (hexValue c).isSome) ∧ hexFold 0 (Nat.toDigits 16 n) = n := by
  induction n using Nat.strongRecOn with
  | _ n induction =>
    rw [Nat.toDigits_eq_if (by decide)]
    split
    case isTrue small =>
      simp [hexFold, hexValue_digitChar n small]
    case isFalse large =>
      have lower : n / 16 < n := by omega
      obtain ⟨digitsHex, digitsValue⟩ := induction (n / 16) lower
      have lastDigit := hexValue_digitChar (n % 16) (by omega)
      refine ⟨fun c member => ?_, ?_⟩
      · rcases List.mem_append.1 member with inner | last
        · exact digitsHex c inner
        · simp_all
      · have folded : hexFold 0 (Nat.toDigits 16 (n / 16) ++ [Nat.digitChar (n % 16)]) =
            hexFold 0 (Nat.toDigits 16 (n / 16)) * 16 + n % 16 := by
          simp [hexFold, List.foldl_append, lastDigit]
        rw [folded, digitsValue]
        omega

theorem hexFold_zeros (k value : Nat) (digits : List Char) :
    hexFold value (List.replicate k '0' ++ digits) = hexFold (value * Nat.pow 16 k) digits := by
  induction k generalizing value with
  | zero => simp
  | succ k induction =>
    rw [List.replicate_succ, List.cons_append, hexFold, List.foldl_cons]
    have zeroDigit : (hexValue '0').getD 0 = 0 := by decide
    have power : Nat.pow 16 (k + 1) = 16 * Nat.pow 16 k := Nat.mul_comm _ _
    rw [zeroDigit, Nat.add_zero, ← hexFold, induction, power, Nat.mul_assoc]

theorem readHex4_hexDigits {n : Nat} (small : n < 0x10000) (rest : List Char) :
    readHex4 (Quoted.hexDigits 4 n ++ rest) = .ok (n, rest) := by
  obtain ⟨digitsHex, digitsValue⟩ := toDigits_hex n
  have width : (Nat.toDigits 16 n).length ≤ 4 :=
    (Nat.length_toDigits_le_iff (by decide) (by decide)).2 (by simpa using small)
  have reads : ∀ (digits : List Char) (value : Nat), (∀ c ∈ digits, (hexValue c).isSome) →
      readHex4.go digits.length value (digits ++ rest) = .ok (hexFold value digits, rest) := by
    intro digits
    induction digits with
    | nil => intro value _; rfl
    | cons c digits induction =>
      intro value allHex
      obtain ⟨d, found⟩ := Option.isSome_iff_exists.1 (allHex c List.mem_cons_self)
      simp only [List.length_cons, List.cons_append, readHex4.go, found]
      rw [induction _ fun x member => allHex x (List.mem_cons_of_mem c member)]
      simp [hexFold, found]
  have allHex : ∀ c ∈ Quoted.hexDigits 4 n, (hexValue c).isSome := by
    intro c member
    rcases List.mem_append.1 member with zero | digit
    · rw [List.eq_of_mem_replicate zero]
      decide
    · exact digitsHex c digit
  have length : (Quoted.hexDigits 4 n).length = 4 := by
    simp [Quoted.hexDigits]
    omega
  have read := reads _ 0 allHex
  rw [length] at read
  unfold readHex4
  rw [read]
  simp [Quoted.hexDigits, hexFold_zeros, digitsValue]

/-! ## Strings -/

/-- No character has the code of a surrogate, so a `\u` escape of a character's own code
reads back as that character. -/
theorem isSurrogate_toNat (c : Char) : isSurrogate c.toNat = false := by
  have valid : c.toNat < 0xD800 ∨ (0xDFFF < c.toNat ∧ c.toNat < 0x110000) := c.valid
  simp only [isSurrogate, Bool.and_eq_false_iff, decide_eq_false_iff_not, Nat.not_le,
    Nat.not_lt]
  omega

theorem readStringBody_unicode {c : Char} (small : c.toNat < 0x10000) (fuel : Nat)
    (acc more : List Char) :
    readStringBody (fuel + 1) acc (['\\', 'u'] ++ Quoted.hexDigits 4 c.toNat ++ more) =
      readStringBody fuel (c :: acc) more := by
  simp only [List.cons_append, List.nil_append]
  rw [readStringBody]
  simp [readHex4_hexDigits small, isSurrogate_toNat]

theorem readStringBody_escapeChar (c : Char) (fuel : Nat) (acc more : List Char) :
    readStringBody (fuel + 1) acc (escapeChar c ++ more) = readStringBody fuel (c :: acc) more := by
  unfold escapeChar
  split
  case isTrue quoteOrBackslash =>
    simp only [Bool.or_eq_true, beq_iff_eq] at quoteOrBackslash
    rcases quoteOrBackslash with rfl | rfl <;> rfl
  case isFalse notQuote =>
  split
  case isTrue backspace => rw [beq_iff_eq.1 backspace]; rfl
  case isFalse =>
  split
  case isTrue formFeed => rw [beq_iff_eq.1 formFeed]; rfl
  case isFalse =>
  split
  case isTrue lineFeed => rw [beq_iff_eq.1 lineFeed]; rfl
  case isFalse =>
  split
  case isTrue carriageReturn => rw [beq_iff_eq.1 carriageReturn]; rfl
  case isFalse =>
  split
  case isTrue tab => rw [beq_iff_eq.1 tab]; rfl
  case isFalse =>
  split
  case isTrue controlOrMarkup =>
    have small : c.toNat < 0x10000 := by
      simp only [Bool.or_eq_true, decide_eq_true_eq, beq_iff_eq] at controlOrMarkup
      rcases controlOrMarkup with ((below | rfl) | rfl) | rfl <;> simp_all
      omega
    exact readStringBody_unicode small fuel acc more
  case isFalse plain =>
  split
  case isTrue separator =>
    have small : c.toNat < 0x10000 := by
      simp only [Bool.or_eq_true, beq_iff_eq] at separator
      omega
    exact readStringBody_unicode small fuel acc more
  case isFalse =>
    simp only [Bool.or_eq_true, beq_iff_eq, not_or] at notQuote
    simp only [Bool.or_eq_true, decide_eq_true_eq, beq_iff_eq, not_or] at plain
    rw [List.singleton_append]
    simp [readStringBody, notQuote.1, notQuote.2, plain.1.1.1]

theorem escapeChar_ne_nil (c : Char) : escapeChar c ≠ [] := by
  unfold escapeChar
  repeat' split
  all_goals simp

theorem readStringBody_escaped (chars : List Char) (fuel : Nat) (acc more : List Char) :
    readStringBody (fuel + chars.length) acc (chars.flatMap escapeChar ++ more) =
      readStringBody fuel (chars.reverse ++ acc) more := by
  induction chars generalizing acc with
  | nil => rfl
  | cons c chars induction =>
    rw [List.flatMap_cons, List.append_assoc, List.length_cons, ← Nat.add_assoc,
      readStringBody_escapeChar, induction]
    simp

theorem length_le_escaped (chars : List Char) : chars.length ≤ (chars.flatMap escapeChar).length := by
  induction chars with
  | nil => simp
  | cons c chars induction =>
    have written : 1 ≤ (escapeChar c).length := List.length_pos_iff.2 (escapeChar_ne_nil c)
    simp only [List.flatMap_cons, List.length_append, List.length_cons]
    omega

theorem toList_quote (text : String) :
    (quote text).toList = '"' :: text.toList.flatMap escapeChar ++ ['"'] := by
  simp [quote]

theorem readStringBody_quote (text : String) (rest : List Char) :
    readStringBody ((text.toList.flatMap escapeChar ++ '"' :: rest).length + 1) []
      (text.toList.flatMap escapeChar ++ '"' :: rest) = .ok (text, rest) := by
  have longer : text.toList.length ≤ (text.toList.flatMap escapeChar ++ '"' :: rest).length := by
    have := length_le_escaped text.toList
    simp only [List.length_append, List.length_cons]
    omega
  obtain ⟨extra, sum⟩ : ∃ extra, (text.toList.flatMap escapeChar ++ '"' :: rest).length + 1 =
      (extra + 1) + text.toList.length :=
    ⟨(text.toList.flatMap escapeChar ++ '"' :: rest).length - text.toList.length, by omega⟩
  rw [sum, readStringBody_escaped]
  simp [readStringBody]

theorem skipBlanks_quoteChar (rest : List Char) : skipBlanks ('"' :: rest) = '"' :: rest := rfl

theorem skipBlanks_colon (rest : List Char) : skipBlanks (':' :: rest) = ':' :: rest := rfl

theorem skipBlanks_comma (rest : List Char) : skipBlanks (',' :: rest) = ',' :: rest := rfl

theorem skipBlanks_closeBrace (rest : List Char) : skipBlanks ('}' :: rest) = '}' :: rest := rfl

theorem readValue_quoteChar (fuel : Nat) (body : List Char) :
    readValue (fuel + 1) ('"' :: body) =
      (fun (read : String × List Char) => (Json.string read.1, read.2)) <$>
        readStringBody (body.length + 1) [] body := rfl

theorem readValue_quote (fuel : Nat) (text : String) (rest : List Char) :
    readValue (fuel + 1) ((quote text).toList ++ rest) = .ok (.string text, rest) := by
  rw [toList_quote]
  simp only [List.cons_append, List.append_assoc, List.nil_append]
  rw [readValue_quoteChar, readStringBody_quote]
  rfl

/-! ## Objects of strings -/

def stringMember (member : String × String) : String × Json := (member.1, .string member.2)

def memberText (member : String × String) : String := quote member.1 ++ ":" ++ quote member.2

theorem toList_memberText (member : String × String) :
    (memberText member).toList =
      '"' :: member.1.toList.flatMap escapeChar ++ '"' :: ':' :: (quote member.2).toList := by
  simp [memberText, toList_quote]

theorem renderMembers_strings (members : List (String × String)) :
    renderMembers (members.map stringMember) = members.map memberText := by
  induction members with
  | nil => rfl
  | cons member members induction =>
    simp only [List.map_cons, renderMembers, induction]
    rfl

theorem readMembers_member (first : Bool) (fuel : Nat) (acc : List (String × Json))
    (member : String × String) (tail : List Char) :
    readMembers (fuel + 1 + 1) first acc ((memberText member).toList ++ tail) =
      match skipBlanks tail with
      | [] => .error .unexpectedEnd
      | d :: left =>
        if d == ',' then readMembers (fuel + 1) false (stringMember member :: acc) left
        else if d == '}' then .ok (.object (stringMember member :: acc).reverse, left)
        else .error (.invalid d "after object key:value pair") := by
  rw [toList_memberText]
  simp only [List.cons_append, List.append_assoc]
  rw [readMembers, skipBlanks_quoteChar]
  have notClosing : ('"' == '}') = false := rfl
  have isQuote : ('"' != '"') = false := rfl
  simp only [notClosing, isQuote, Bool.and_false, Bool.false_eq_true, if_false]
  rw [readStringBody_quote]
  simp only [bind, Except.bind, skipBlanks_colon]
  have isColon : (':' != ':') = false := rfl
  simp only [isColon, Bool.false_eq_true, if_false]
  rw [readValue_quote]
  rfl

theorem readMembers_strings (members : List (String × String)) :
    ∀ (member : String × String) (first : Bool) (fuel : Nat) (acc : List (String × Json))
      (rest : List Char), members.length < fuel →
      readMembers (fuel + 1) first acc
          ((",".intercalate ((member :: members).map memberText)).toList ++ '}' :: rest) =
        .ok (.object (acc.reverse ++ (member :: members).map stringMember), rest) := by
  induction members with
  | nil =>
    intro member first fuel acc rest enough
    obtain ⟨fuel, rfl⟩ : ∃ less, fuel = less + 1 := ⟨fuel - 1, by omega⟩
    simp only [List.map_cons, List.map_nil, String.intercalate_singleton]
    rw [readMembers_member, skipBlanks_closeBrace]
    simp
  | cons next members induction =>
    intro member first fuel acc rest enough
    obtain ⟨fuel, rfl⟩ : ∃ less, fuel = less + 1 := ⟨fuel - 1, by omega⟩
    simp only [List.map_cons, String.intercalate_cons_cons, String.toList_append, List.append_assoc]
    rw [readMembers_member]
    have comma : ",".toList = [','] := rfl
    rw [comma, List.singleton_append, skipBlanks_comma]
    simp only [beq_self_eq_true, ↓reduceIte]
    have more := induction next false fuel (stringMember member :: acc) rest (by simpa using enough)
    rw [List.map_cons] at more
    rw [more]
    simp

theorem length_intercalate_comma (text : String) (texts : List String) :
    texts.length ≤ (",".intercalate (text :: texts)).length := by
  induction texts generalizing text with
  | nil => simp
  | cons next texts induction =>
    rw [String.intercalate_cons_cons, String.length_append, String.length_append]
    have := induction next
    simp only [List.length_cons]
    have comma : ",".length = 1 := rfl
    omega

theorem length_le_intercalate_comma {text : String} {texts : List String} (member : text ∈ texts) :
    text.length ≤ (",".intercalate texts).length := by
  induction texts with
  | nil => cases member
  | cons head texts induction =>
    cases texts with
    | nil => exact Nat.le_of_eq (by rw [List.mem_singleton.1 member, String.intercalate_singleton])
    | cons next texts =>
      rw [String.intercalate_cons_cons, String.length_append, String.length_append]
      rcases List.mem_cons.1 member with rfl | later
      · omega
      · have := induction later
        omega

theorem length_le_render_strings {members : List (String × String)} {member : String × String}
    (inMembers : member ∈ members) :
    member.2.length ≤ (render (.object (members.map stringMember))).length := by
  have quoted : member.2.length ≤ (memberText member).length := by
    have escaped := length_le_escaped member.2.toList
    have chars := congrArg List.length (toList_memberText member)
    simp only [String.length_toList, toList_quote, List.length_cons, List.length_append] at chars escaped
    omega
  have inTexts : memberText member ∈ members.map memberText := List.mem_map_of_mem inMembers
  have written := length_le_intercalate_comma inTexts
  rw [render, renderMembers_strings, String.length_append, String.length_append]
  omega

theorem readValue_braceChar (fuel : Nat) (rest : List Char) :
    readValue (fuel + 1) ('{' :: rest) = readMembers fuel true [] rest := rfl

theorem read_render_strings (members : List (String × String)) :
    read (render (.object (members.map stringMember))) = .ok (.object (members.map stringMember)) := by
  have written : render (.object (members.map stringMember)) =
      "\x7b" ++ ",".intercalate (members.map memberText) ++ "\x7d" := by
    rw [render, renderMembers_strings]
  rw [written]
  cases members with
  | nil => rfl
  | cons member members =>
    have chars : ("\x7b" ++ ",".intercalate ((member :: members).map memberText) ++ "\x7d").toList =
        '{' :: ((",".intercalate ((member :: members).map memberText)).toList ++ ['}']) := by
      simp only [String.toList_append, List.append_assoc]
      rfl
    have enough : members.length <
        2 * ('{' :: ((",".intercalate ((member :: members).map memberText)).toList ++ ['}'])).length := by
      have := length_intercalate_comma (memberText member) (members.map memberText)
      simp only [List.length_map, List.map_cons] at this ⊢
      simp only [List.length_cons, List.length_append, String.length_toList]
      omega
    unfold read
    rw [chars]
    dsimp only
    rw [readValue_braceChar, readMembers_strings members member true _ [] [] enough]
    rfl

/-! ## Written text stays on one line -/

theorem lineFeed_not_mem_hexDigits (n : Nat) : '\n' ∉ Quoted.hexDigits 4 n := by
  intro member
  rcases List.mem_append.1 member with zero | digit
  · exact absurd (List.eq_of_mem_replicate zero) (by decide)
  · have hex := (toDigits_hex n).1 '\n' digit
    exact absurd hex (by decide)

theorem lineFeed_not_mem_escapeChar (c : Char) : '\n' ∉ escapeChar c := by
  intro member
  unfold escapeChar at member
  repeat' split at member
  all_goals simp only [List.mem_cons, List.mem_append, List.not_mem_nil,
    lineFeed_not_mem_hexDigits] at member
  all_goals grind

theorem lineFeed_not_mem_quote (text : String) : '\n' ∉ (quote text).toList := by
  rw [toList_quote]
  simp [lineFeed_not_mem_escapeChar]

theorem lineFeed_not_mem_intercalate (texts : List String) (each : ∀ text ∈ texts, '\n' ∉ text.toList) :
    '\n' ∉ (",".intercalate texts).toList := by
  induction texts with
  | nil => simp
  | cons text texts induction =>
    cases texts with
    | nil => simpa using each text List.mem_cons_self
    | cons next texts =>
      rw [String.intercalate_cons_cons]
      simp only [String.toList_append, List.mem_append, not_or]
      exact ⟨⟨each text List.mem_cons_self, by decide⟩,
        induction fun other member => each other (List.mem_cons_of_mem text member)⟩

theorem lineFeed_not_mem_render_strings (members : List (String × String)) :
    '\n' ∉ (render (.object (members.map stringMember))).toList := by
  rw [render, renderMembers_strings]
  simp only [String.toList_append, List.mem_append, not_or]
  refine ⟨⟨by decide, lineFeed_not_mem_intercalate _ fun text member => ?_⟩, by decide⟩
  obtain ⟨member, -, rfl⟩ := List.mem_map.1 member
  simp only [memberText, String.toList_append, List.mem_append, not_or]
  exact ⟨⟨lineFeed_not_mem_quote _, by decide⟩, lineFeed_not_mem_quote _⟩

end Testbed.Json
