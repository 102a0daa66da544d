import Mathlib.Data.List.Induction
import Testbed.Path

/-!
# Clean paths as lists of parts

A clean path is a list of plain parts, below the root or below the working directory, written
with slashes between them; `compose` writes it. Reading its parts back, cleaning it and taking
its directory act on the list: the parts are the list, cleaning changes nothing, and the
directory drops the last part. Without a `..` part, cleaning any path keeps only plain parts,
so a state directory that does not climb places a test's journal at the directory's parts,
then `runs`, then the journal's own name.
-/

namespace Testbed.Path

/-- A part that a clean path keeps: not empty, not `.` or `..`, and without a slash. -/
def Plain (part : String) : Prop := part ≠ "" ∧ part ≠ "." ∧ part ≠ ".." ∧ '/' ∉ part.toList

/-- What every part of a clean path is, `..` included: not empty and without a slash. -/
def Bare (part : String) : Prop := part ≠ "" ∧ '/' ∉ part.toList

theorem Plain.bare {part : String} (plain : Plain part) : Bare part := ⟨plain.1, plain.2.2.2⟩

def keptParts (path : String) : List String :=
  (resolve (path.startsWith "/") [] (parts path)).reverse

def compose (rooted : Bool) (kept : List String) : String :=
  let body := "/".intercalate kept
  if rooted then "/" ++ body else if body.isEmpty then "." else body

/-! ## Parts -/

section Parts

theorem parts_eq (path : String) : parts path = (path.toList.splitOn '/').map String.ofList := rfl

theorem toList_slash_intercalate (kept : List String) :
    ("/".intercalate kept).toList = ['/'].intercalate (kept.map String.toList) := by
  rw [String.toList_intercalate]
  rfl

theorem parts_intercalate {kept : List String} (nonempty : kept ≠ [])
    (noSlash : ∀ part ∈ kept, '/' ∉ part.toList) : parts ("/".intercalate kept) = kept := by
  rw [parts_eq, toList_slash_intercalate, List.splitOn_intercalate]
  · simp
  · intro chars member
    obtain ⟨part, inKept, rfl⟩ := List.mem_map.1 member
    exact noSlash part inKept
  · simpa using nonempty

theorem parts_append_slash (front back : String) :
    parts (front ++ "/" ++ back) = parts front ++ parts back := by
  simp [parts_eq, List.splitOn_append_cons_self]

theorem parts_empty : parts "" = [""] := rfl

theorem parts_slash (rest : String) : parts ("/" ++ rest) = "" :: parts rest := by
  simpa [parts_empty] using parts_append_slash "" rest

theorem not_mem_of_mem_splitOn {sep : Char} :
    ∀ {chars piece : List Char}, piece ∈ chars.splitOn sep → sep ∉ piece
  | [], piece, inPieces => by
    rw [List.splitOn_nil, List.mem_singleton] at inPieces
    simp [inPieces]
  | c :: chars, piece, inPieces => by
    rw [List.splitOn_cons_eq_if_modifyHead] at inPieces
    split at inPieces
    · rcases List.mem_cons.1 inPieces with rfl | later
      · simp
      · exact not_mem_of_mem_splitOn later
    · rename_i notSep
      obtain ⟨head, tail, split⟩ := List.exists_cons_of_ne_nil (List.splitOn_ne_nil sep chars)
      rw [split, List.modifyHead_cons] at inPieces
      rcases List.mem_cons.1 inPieces with rfl | later
      · have headClear := not_mem_of_mem_splitOn (split ▸ List.mem_cons_self)
        simp only [List.mem_cons, not_or]
        exact ⟨fun same => notSep (by simp [same]), headClear⟩
      · exact not_mem_of_mem_splitOn (split ▸ List.mem_cons_of_mem head later)

theorem length_splitOn_le (sep : Char) :
    ∀ chars : List Char, (chars.splitOn sep).length ≤ chars.length + 1
  | [] => by simp [List.splitOn_nil]
  | c :: chars => by
    have shorter := length_splitOn_le sep chars
    rw [List.splitOn_cons_eq_if_modifyHead]
    split <;> simp only [List.length_cons, List.length_modifyHead] <;> omega

theorem length_parts_le (path : String) : (parts path).length ≤ path.length + 1 := by
  rw [parts_eq, List.length_map, ← String.length_toList]
  exact length_splitOn_le '/' path.toList

theorem parts_dot : parts "." = ["."] := by
  simpa using parts_intercalate (List.cons_ne_nil "." []) (by simp)

theorem parts_root : parts "/" = ["", ""] := by
  simpa [parts_empty] using parts_slash ""

theorem slash_not_mem_parts {path part : String} (member : part ∈ parts path) :
    '/' ∉ part.toList := by
  rw [parts_eq] at member
  obtain ⟨piece, inPieces, rfl⟩ := List.mem_map.1 member
  rw [String.toList_ofList]
  exact not_mem_of_mem_splitOn inPieces

end Parts

/-! ## Resolving parts -/

section Resolve

variable (rooted : Bool)

theorem resolve_cons (kept : List String) (part : String) (rest : List String) :
    resolve rooted kept (part :: rest) = resolve rooted (resolve rooted kept [part]) rest := by
  simp only [resolve]
  by_cases skipped : (part == "" || part == ".") = true
  · simp only [skipped, if_true]
  · simp only [skipped, if_false, Bool.false_eq_true]
    by_cases up : (part == "..") = true
    · simp only [up, if_true]
      cases kept with
      | nil => cases rooted <;> rfl
      | cons top below => by_cases topUp : (top == "..") = true <;> simp [topUp]
    · simp only [up, if_false, Bool.false_eq_true]

theorem resolve_append (kept front back : List String) :
    resolve rooted kept (front ++ back) = resolve rooted (resolve rooted kept front) back := by
  induction front generalizing kept with
  | nil => rfl
  | cons part front induction =>
    rw [List.cons_append, resolve_cons, induction, ← resolve_cons]

theorem resolve_plain (kept : List String) {part : String} (plain : Plain part) :
    resolve rooted kept [part] = part :: kept := by
  obtain ⟨nonempty, notDot, notUp, -⟩ := plain
  simp [resolve, nonempty, notDot, notUp]

theorem resolve_empty (kept : List String) : resolve rooted kept [""] = kept := by
  simp [resolve]

theorem resolve_plains (kept : List String) {parts : List String} (plain : ∀ part ∈ parts, Plain part) :
    resolve rooted kept parts = parts.reverse ++ kept := by
  induction parts generalizing kept with
  | nil => rfl
  | cons part parts induction =>
    rw [resolve_cons, resolve_plain rooted kept (plain part List.mem_cons_self),
      induction _ fun other member => plain other (List.mem_cons_of_mem part member)]
    simp

theorem resolve_one_plain_or_up (kept : List String) (part : String)
    (keptPlain : ∀ k ∈ kept, Plain k ∨ k = "..") (noSlash : '/' ∉ part.toList) :
    ∀ k ∈ resolve rooted kept [part], Plain k ∨ k = ".." := by
  simp only [resolve]
  split
  · exact keptPlain
  · rename_i notSkipped
    split
    · split
      · split
        · intro k member
          rcases List.mem_cons.1 member with rfl | inKept
          · exact .inr rfl
          · exact keptPlain k inKept
        · intro k member
          exact keptPlain k (List.mem_cons_of_mem _ member)
      · split <;> simp
    · rename_i notUp
      intro k member
      rcases List.mem_cons.1 member with rfl | inKept
      · simp only [Bool.or_eq_true, beq_iff_eq, not_or] at notSkipped notUp
        exact .inl ⟨notSkipped.1, notSkipped.2, notUp, noSlash⟩
      · exact keptPlain k inKept

theorem resolve_plain_or_up (kept parts : List String) (keptPlain : ∀ k ∈ kept, Plain k ∨ k = "..")
    (noSlash : ∀ part ∈ parts, '/' ∉ part.toList) :
    ∀ k ∈ resolve rooted kept parts, Plain k ∨ k = ".." := by
  induction parts generalizing kept with
  | nil => exact keptPlain
  | cons part parts induction =>
    rw [resolve_cons]
    exact induction _
      (resolve_one_plain_or_up rooted kept part keptPlain (noSlash part List.mem_cons_self))
      (fun other member => noSlash other (List.mem_cons_of_mem part member))

theorem keptParts_plain_or_up (path : String) : ∀ k ∈ keptParts path, Plain k ∨ k = ".." := by
  intro k member
  rw [keptParts, List.mem_reverse] at member
  exact resolve_plain_or_up _ [] (parts path) (by simp) (fun _ => slash_not_mem_parts) k member

theorem bare_of_plain_or_up {part : String} (plainOrUp : Plain part ∨ part = "..") : Bare part := by
  rcases plainOrUp with plain | rfl
  · exact plain.bare
  · exact ⟨by decide, by decide⟩

end Resolve

/-! ## Composed paths -/

section Compose

variable (rooted : Bool) {kept : List String}

theorem clean_eq_compose (path : String) : clean path = compose (path.startsWith "/") (keptParts path) := rfl

theorem clean_of_resolve {path : String} (start : path.startsWith "/" = rooted)
    (resolved : resolve rooted [] (parts path) = kept.reverse) : clean path = compose rooted kept := by
  rw [clean_eq_compose, keptParts, start, resolved, List.reverse_reverse]

theorem clean_empty : clean "" = compose false [] :=
  clean_of_resolve false (by simp) rfl

theorem clean_root : clean "/" = compose true [] := by
  apply clean_of_resolve true (by simp)
  have slash : parts "/" = "" :: parts "" := by simpa using parts_slash ""
  rw [slash, parts_empty]
  rfl

theorem startsWith_slash_append {front : String} (nonempty : front ≠ "") (back : String) :
    (front ++ back).startsWith "/" = front.startsWith "/" := by
  obtain ⟨c, chars, spelled⟩ := List.exists_cons_of_ne_nil (mt String.toList_eq_nil_iff.1 nonempty)
  rw [Bool.eq_iff_iff]
  simp [spelled]

theorem intercalate_ne_empty (nonempty : kept ≠ []) (bare : ∀ part ∈ kept, Bare part) :
    "/".intercalate kept ≠ "" := by
  obtain ⟨first, rest, rfl⟩ := List.exists_cons_of_ne_nil nonempty
  intro empty
  have chars := congrArg String.toList empty
  rw [toList_slash_intercalate] at chars
  have firstEmpty : first.toList = [] := by
    cases rest with
    | nil => simpa using chars
    | cons next rest => simp [List.intercalate_cons_cons] at chars
  exact (bare first List.mem_cons_self).1 (String.toList_eq_nil_iff.1 firstEmpty)

theorem compose_false (nonempty : kept ≠ []) (bare : ∀ part ∈ kept, Bare part) :
    compose false kept = "/".intercalate kept := by
  have notEmpty := intercalate_ne_empty nonempty bare
  simp [compose, notEmpty]

theorem compose_ne_empty (nonempty : kept ≠ []) (bare : ∀ part ∈ kept, Bare part) :
    compose rooted kept ≠ "" := by
  cases rooted with
  | true => simp [compose]
  | false => rw [compose_false nonempty bare]; exact intercalate_ne_empty nonempty bare

theorem parts_compose (nonempty : kept ≠ []) (bare : ∀ part ∈ kept, Bare part) :
    parts (compose rooted kept) = (if rooted then [""] else []) ++ kept := by
  have noSlash : ∀ part ∈ kept, '/' ∉ part.toList := fun part member => (bare part member).2
  cases rooted with
  | true => simp [compose, parts_slash, parts_intercalate nonempty noSlash]
  | false => rw [compose_false nonempty bare, parts_intercalate nonempty noSlash]; rfl

theorem startsWith_compose (nonempty : kept ≠ []) (bare : ∀ part ∈ kept, Bare part) :
    (compose rooted kept).startsWith "/" = rooted := by
  cases rooted with
  | true => simp [compose]
  | false =>
    obtain ⟨first, rest, rfl⟩ := List.exists_cons_of_ne_nil nonempty
    have firstChars : first.toList ≠ [] :=
      fun empty => (bare first List.mem_cons_self).1 (String.toList_eq_nil_iff.1 empty)
    obtain ⟨c, chars, spelled⟩ := List.exists_cons_of_ne_nil firstChars
    have notSlash : '/' ≠ c := fun same =>
      (bare first List.mem_cons_self).2 (by rw [spelled, ← same]; exact List.mem_cons_self)
    rw [compose_false nonempty bare]
    cases rest with
    | nil => simp [spelled, notSlash]
    | cons next rest => simp [String.intercalate_cons_cons, spelled, notSlash]

theorem resolve_parts_compose (nonempty : kept ≠ []) (plain : ∀ part ∈ kept, Plain part) :
    resolve rooted [] (parts (compose rooted kept)) = kept.reverse := by
  rw [parts_compose rooted nonempty fun part member => (plain part member).bare]
  cases rooted with
  | true => rw [if_pos rfl, List.singleton_append, resolve_cons, resolve_empty,
      resolve_plains true [] plain, List.append_nil]
  | false => rw [if_neg (by decide), List.nil_append, resolve_plains false [] plain, List.append_nil]

theorem keptParts_compose (nonempty : kept ≠ []) (plain : ∀ part ∈ kept, Plain part) :
    keptParts (compose rooted kept) = kept := by
  have bare : ∀ part ∈ kept, Bare part := fun part member => (plain part member).bare
  rw [keptParts, startsWith_compose rooted nonempty bare, resolve_parts_compose rooted nonempty plain,
    List.reverse_reverse]

theorem clean_compose (nonempty : kept ≠ []) (plain : ∀ part ∈ kept, Plain part) :
    clean (compose rooted kept) = compose rooted kept := by
  have bare : ∀ part ∈ kept, Bare part := fun part member => (plain part member).bare
  rw [clean_eq_compose, startsWith_compose rooted nonempty bare, keptParts_compose rooted nonempty plain]

theorem compose_inj {other : List String} (nonempty : kept ≠ []) (bare : ∀ part ∈ kept, Bare part)
    (otherNonempty : other ≠ []) (otherBare : ∀ part ∈ other, Bare part)
    (same : compose rooted kept = compose rooted other) : kept = other := by
  have partsSame := congrArg parts same
  rw [parts_compose rooted nonempty bare, parts_compose rooted otherNonempty otherBare] at partsSame
  exact List.append_cancel_left partsSame

theorem compose_ne_dot (nonempty : kept ≠ []) (plain : ∀ part ∈ kept, Plain part) :
    compose rooted kept ≠ "." := by
  intro same
  have partsSame := congrArg parts same
  rw [parts_compose rooted nonempty fun part member => (plain part member).bare, parts_dot] at partsSame
  cases rooted with
  | true => simp at partsSame
  | false =>
    have dot : "." ∈ kept := by simp_all
    exact (plain "." dot).2.1 rfl

theorem compose_ne_root (nonempty : kept ≠ []) (plain : ∀ part ∈ kept, Plain part) :
    compose rooted kept ≠ "/" := by
  intro same
  have partsSame := congrArg parts same
  rw [parts_compose rooted nonempty fun part member => (plain part member).bare, parts_root] at partsSame
  have empty : "" ∈ kept := by
    cases rooted with
    | true => simp_all
    | false => simp_all
  exact (plain "" empty).1 rfl

theorem length_le_compose (plain : ∀ part ∈ kept, Plain part) :
    kept.length ≤ (compose rooted kept).length + 1 := by
  by_cases nonempty : kept = []
  · simp [nonempty]
  · have counted := length_parts_le (compose rooted kept)
    rw [parts_compose rooted nonempty fun part member => (plain part member).bare] at counted
    simp only [List.length_append] at counted
    omega

theorem climbs_compose_of_plain (plain : ∀ part ∈ kept, Plain part) : climbs (compose rooted kept) = false := by
  by_cases nonempty : kept = []
  · subst nonempty
    cases rooted
    · rw [climbs, show compose false [] = "." from rfl, parts_dot]
      rfl
    · rw [climbs, show compose true [] = "/" by simp [compose], parts_root]
      rfl
  · rw [climbs, parts_compose rooted nonempty fun part member => (plain part member).bare]
    have notUp : ".." ∉ kept := fun up => (plain ".." up).2.2.1 rfl
    cases rooted <;> simp [notUp]

theorem up_not_mem_of_climbs (bare : ∀ part ∈ kept, Bare part)
    (noClimb : climbs (compose rooted kept) = false) : ".." ∉ kept := by
  intro up
  have nonempty : kept ≠ [] := List.ne_nil_of_mem up
  rw [climbs, parts_compose rooted nonempty bare] at noClimb
  simp [up] at noClimb

theorem compose_snoc {front : List String} (last : String) (nonempty : front ≠ [])
    (bare : ∀ part ∈ front, Bare part) :
    compose rooted (front ++ [last]) = compose rooted front ++ "/" ++ last := by
  have joined : "/".intercalate (front ++ [last]) = "/".intercalate front ++ "/" ++ last := by
    rw [String.intercalate_append_of_ne_nil nonempty (List.cons_ne_nil _ _),
      String.intercalate_singleton]
  cases rooted with
  | true => simp [compose, joined, String.append_assoc]
  | false =>
    rw [compose_false nonempty bare]
    simp [compose, joined]

theorem dir_eq_of_toList {path last : String} {lead : List Char}
    (spelled : path.toList = lead ++ last.toList) (noSlash : '/' ∉ last.toList)
    (leadEnds : lead = [] ∨ lead.getLast? = some '/') : dir path = clean (String.ofList lead) := by
  have lastKept : ∀ c ∈ last.toList.reverse, decide (c ≠ '/') = true := by
    intro c member
    have : c ∈ last.toList := List.mem_reverse.1 member
    simp only [decide_eq_true_eq]
    rintro rfl
    exact noSlash this
  unfold dir
  rw [spelled, List.reverse_append, List.dropWhile_append_of_pos lastKept]
  rcases leadEnds with rfl | ends
  · rfl
  · obtain ⟨init, rfl⟩ := List.getLast?_eq_some_iff.1 ends
    simp

/-- The characters of a composed path before its last part: the shorter path and a slash, the
root's slash alone, or nothing. -/
def leadOf (front : List String) : List Char :=
  if front = [] then (if rooted then ['/'] else []) else (compose rooted front).toList ++ ['/']

theorem leadOf_ends (front : List String) : leadOf rooted front = [] ∨ (leadOf rooted front).getLast? = some '/' := by
  unfold leadOf
  split
  · cases rooted <;> simp
  · simp

theorem toList_compose_snoc {front : List String} {last : String}
    (bare : ∀ part ∈ front ++ [last], Bare part) :
    (compose rooted (front ++ [last])).toList = leadOf rooted front ++ last.toList := by
  have frontBare : ∀ part ∈ front, Bare part := fun part member => bare part (by simp [member])
  by_cases empty : front = []
  · subst empty
    cases rooted with
    | true => simp [compose, leadOf]
    | false =>
      rw [List.nil_append, compose_false (List.cons_ne_nil _ _) (by simpa using bare)]
      simp [leadOf]
  · simp [compose_snoc rooted last empty frontBare, leadOf, empty]

theorem dir_compose {front : List String} {last : String}
    (plain : ∀ part ∈ front ++ [last], Plain part) :
    dir (compose rooted (front ++ [last])) = compose rooted front := by
  have lastPlain : Plain last := plain last (by simp)
  have frontPlain : ∀ part ∈ front, Plain part := fun part member => plain part (by simp [member])
  have frontBare : ∀ part ∈ front, Bare part := fun part member => (frontPlain part member).bare
  rw [dir_eq_of_toList (toList_compose_snoc rooted fun part member => (plain part member).bare)
    lastPlain.2.2.2 (leadOf_ends rooted front)]
  by_cases empty : front = []
  · subst empty
    cases rooted with
    | true => simpa [leadOf] using clean_root
    | false => simpa [leadOf] using clean_empty
  · have trailing : String.ofList (leadOf rooted front) = compose rooted front ++ "/" ++ "" := by
      simp [leadOf, empty]
    rw [trailing]
    apply clean_of_resolve rooted
    · rw [String.append_assoc, startsWith_slash_append (compose_ne_empty rooted empty frontBare)]
      exact startsWith_compose rooted empty frontBare
    · rw [parts_append_slash, parts_empty, resolve_append, resolve_empty,
        resolve_parts_compose rooted empty frontPlain]

end Compose

/-! ## Joining and placing below a root -/

section Join

theorem startsWith_join {first : String} (rooted : first.startsWith "/" = true) (rest : List String) :
    (join (first :: rest)).startsWith "/" = true := by
  have nonempty : first ≠ "" := by
    rintro rfl
    simp at rooted
  have whole : ("/".intercalate (first :: rest.filter (· ≠ ""))).startsWith "/" = true := by
    cases rest.filter (· ≠ "") with
    | nil => rwa [String.intercalate_singleton]
    | cons next more =>
      rw [String.intercalate_cons_cons, String.append_assoc, startsWith_slash_append nonempty]
      exact rooted
  have kept : (first :: rest).filter (· ≠ "") = first :: rest.filter (· ≠ "") := by simp [nonempty]
  rw [join, kept]
  show (clean ("/".intercalate (first :: rest.filter (· ≠ "")))).startsWith "/" = true
  rw [clean_eq_compose, whole]
  simp [compose]

theorem join_pair {front back : String} (frontNonempty : front ≠ "") (backNonempty : back ≠ "") :
    join [front, back] = clean (front ++ "/" ++ back) := by
  simp [join, frontNonempty, backNonempty, String.intercalate_cons_cons]

theorem join_plain (path : String) {part : String} (plain : Plain part) :
    join [path, part] = compose (path.startsWith "/") (keptParts path ++ [part]) := by
  have partPlain : ∀ other ∈ [part], Plain other := by simpa using plain
  have partBare : ∀ other ∈ [part], Bare other := by simpa using plain.bare
  by_cases empty : path = ""
  · subst empty
    have single : join ["", part] = clean part := by simp [join, plain.1]
    rw [single]
    have composed : compose false [part] = part := by
      rw [compose_false (List.cons_ne_nil _ _) partBare, String.intercalate_singleton]
    have clean := clean_compose false (List.cons_ne_nil _ _) partPlain
    rw [composed] at clean
    rw [clean]
    exact composed.symm
  · rw [join_pair empty plain.1]
    apply clean_of_resolve
    · rw [String.append_assoc]
      exact startsWith_slash_append empty _
    · have single : parts part = [part] := by
        simpa using parts_intercalate (List.cons_ne_nil part []) (by simpa using plain.2.2.2)
      rw [parts_append_slash, single, resolve_append, resolve_plain _ _ plain, keptParts,
        List.reverse_append, List.reverse_reverse]
      rfl

/-- A plain part placed below a root that does not climb comes below what cleaning keeps of
the root. -/
theorem within_plain {root part : String} (nonempty : root ≠ "") (noClimb : climbs root = false)
    (plain : Plain part) :
    within root part = .ok (compose (root.startsWith "/") (keptParts root ++ [part])) := by
  have partPlain : ∀ other ∈ [part], Plain other := by simpa using plain
  have rootedPart : clean ("/" ++ part) = "/" ++ part := by
    have composed : compose true [part] = "/" ++ part := by simp [compose]
    rw [← composed]
    exact clean_compose true (List.cons_ne_nil _ _) partPlain
  rw [within, if_neg (by simp [noClimb]), rootedPart, join_pair nonempty (by simp)]
  congr 1
  apply clean_of_resolve
  · rw [String.append_assoc]
    exact startsWith_slash_append nonempty _
  · have single : parts part = [part] := by
      simpa using parts_intercalate (List.cons_ne_nil part []) (by simpa using plain.2.2.2)
    rw [parts_append_slash, parts_slash, single, resolve_append, resolve_cons, resolve_empty,
      resolve_plain _ _ plain, keptParts]
    simp

end Join

end Testbed.Path
