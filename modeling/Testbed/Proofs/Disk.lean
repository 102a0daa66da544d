import Testbed.Disk
import Testbed.Proofs.Path

/-!
# Files below a chain of directories

A file that is written at a composed path sits below the directories of the path's shorter
prefixes. Looking it up walks those directories first; making its directory creates the ones
that are missing and leaves every other entry alone; appending creates the file or extends it.
Each operation changes the entries only at the paths it names, so a file elsewhere, a
sibling in the same directory included, keeps its entry.
-/

namespace Testbed.Disk

open Testbed.Path

/-! ## Entries -/

section Entries

theorem lookup_filter_key (entries : List (String × Node)) (key c : String) :
    (entries.filter (·.1 != key)).lookup c = if c = key then none else entries.lookup c := by
  induction entries with
  | nil => simp
  | cons entry entries induction =>
    obtain ⟨k, node⟩ := entry
    by_cases hit : c = k
    · subst hit
      by_cases same : c = key
      · subst same
        simp [induction]
      · simp [same]
    · have differ : (c == k) = false := beq_false_of_ne hit
      by_cases same : k = key
      · subst same
        simp [List.lookup_cons, differ, induction]
      · simp [List.lookup_cons, same, differ, induction]

theorem node?_put_of_ne (disk : Disk) (path : String) (node : Node) {c : String}
    (differ : c ≠ Path.clean path) : (disk.put path node).node? c = disk.node? c := by
  have unequal : (c == Path.clean path) = false := beq_false_of_ne differ
  simp [node?, put, List.lookup_append, lookup_filter_key, differ, List.lookup_cons, unequal]

theorem node?_put_self (disk : Disk) (path : String) (node : Node)
    (notTop : (Path.clean path == "." || Path.clean path == "/") = false) :
    (disk.put path node).node? (Path.clean path) = some node := by
  simp only [node?, put, notTop, Bool.false_eq_true, if_false, List.lookup_append, lookup_filter_key]
  simp

theorem node?_filter_of_ne (disk : Disk) {key c : String} (differ : c ≠ key) :
    ({ entries := disk.entries.filter (·.1 != key) } : Disk).node? c = disk.node? c := by
  simp [node?, lookup_filter_key, differ]

theorem node?_filter_self (disk : Disk) {key : String} (notTop : (key == "." || key == "/") = false) :
    ({ entries := disk.entries.filter (·.1 != key) } : Disk).node? key = none := by
  simp only [node?, notTop, Bool.false_eq_true, if_false, lookup_filter_key]
  simp

variable (rooted : Bool) {kept : List String}

theorem compose_not_top (nonempty : kept ≠ []) (plain : ∀ part ∈ kept, Plain part) :
    (compose rooted kept == "." || compose rooted kept == "/") = false := by
  simp [compose_ne_dot rooted nonempty plain, compose_ne_root rooted nonempty plain]

theorem node?_put_compose_self (nonempty : kept ≠ []) (plain : ∀ part ∈ kept, Plain part) (disk : Disk)
    (node : Node) : (disk.put (compose rooted kept) node).node? (compose rooted kept) = some node := by
  have self := node?_put_self disk (compose rooted kept) node
    (by rw [clean_compose rooted nonempty plain]; exact compose_not_top rooted nonempty plain)
  rwa [clean_compose rooted nonempty plain] at self

theorem node?_put_compose_of_ne (nonempty : kept ≠ []) (plain : ∀ part ∈ kept, Plain part) (disk : Disk)
    (node : Node) {c : String} (differ : c ≠ compose rooted kept) :
    (disk.put (compose rooted kept) node).node? c = disk.node? c :=
  node?_put_of_ne disk _ node (by rw [clean_compose rooted nonempty plain]; exact differ)

end Entries

/-! ## The prefixes of a composed path -/

section Prefixes

variable (rooted : Bool) {kept : List String}

theorem prefixes_compose (plain : ∀ part ∈ kept, Plain part) :
    prefixes (compose rooted kept) =
      (List.range kept.length).map fun n => compose rooted (kept.take (n + 1)) := by
  by_cases nonempty : kept = []
  · subst nonempty
    cases rooted with
    | true => simp [prefixes, clean_root, compose]
    | false =>
      have dot : clean "." = compose false [] :=
        clean_of_resolve false (by simp) (by rw [parts_dot]; rfl)
      simp [prefixes, compose, dot]
  · have bare : ∀ part ∈ kept, Bare part := fun part member => (plain part member).bare
    have noEmpty : kept.filter (· ≠ "") = kept :=
      List.filter_eq_self.2 fun part member => by simpa using (bare part member).1
    have filtered : (parts (compose rooted kept)).filter (· ≠ "") = kept := by
      rw [parts_compose rooted nonempty bare, List.filter_append, noEmpty]
      cases rooted <;> simp
    simp only [prefixes, clean_compose rooted nonempty plain, compose_not_top rooted nonempty plain,
      Bool.false_eq_true, if_false, startsWith_compose rooted nonempty bare, filtered]
    apply List.map_congr_left
    intro n member
    have taken : kept.take (n + 1) ≠ [] := by simpa [List.take_eq_nil_iff] using nonempty
    have takenBare : ∀ part ∈ kept.take (n + 1), Bare part :=
      fun part inTake => bare part (List.mem_of_mem_take inTake)
    cases rooted with
    | true => simp [compose]
    | false => simp [compose_false taken takenBare]

theorem prefixes_snoc {name : String} (plain : ∀ part ∈ kept ++ [name], Plain part) :
    prefixes (compose rooted (kept ++ [name])) =
      prefixes (compose rooted kept) ++ [compose rooted (kept ++ [name])] := by
  have keptPlain : ∀ part ∈ kept, Plain part := fun part member => plain part (by simp [member])
  have whole : (kept ++ [name]).take (kept.length + 1) = kept ++ [name] :=
    List.take_of_length_le (by simp)
  rw [prefixes_compose rooted plain, prefixes_compose rooted keptPlain, List.length_append,
    List.length_singleton, List.range_succ, List.map_append, List.map_singleton, whole]
  congr 1
  apply List.map_congr_left
  intro n member
  have below : n + 1 ≤ kept.length := List.mem_range.1 member
  simp [List.take_append_of_le_length below]

theorem compose_not_mem_prefixes {name : String} (plain : ∀ part ∈ kept ++ [name], Plain part) :
    compose rooted (kept ++ [name]) ∉ prefixes (compose rooted kept) := by
  have keptPlain : ∀ part ∈ kept, Plain part := fun part member => plain part (by simp [member])
  rw [prefixes_compose rooted keptPlain]
  intro member
  obtain ⟨n, below, same⟩ := List.mem_map.1 member
  have taken : kept.take (n + 1) ≠ [] := by
    simpa [List.take_eq_nil_iff] using List.ne_nil_of_length_pos (by simp at below; omega)
  have equal := compose_inj rooted taken
    (fun part inTake => (keptPlain part (List.mem_of_mem_take inTake)).bare)
    (by simp) (fun part member => (plain part member).bare) same
  have lengths := congrArg List.length equal
  simp at lengths below
  omega

theorem compose_sibling_ne {name other : String} (differ : name ≠ other)
    (plain : ∀ part ∈ kept ++ [name], Plain part) (otherPlain : ∀ part ∈ kept ++ [other], Plain part) :
    compose rooted (kept ++ [name]) ≠ compose rooted (kept ++ [other]) := by
  intro same
  have equal := compose_inj rooted (by simp) (fun part member => (plain part member).bare)
    (by simp) (fun part member => (otherPlain part member).bare) same
  exact differ (by simpa using equal)

end Prefixes

/-! ## Looking up -/

section Lookup

variable (disk : Disk)

theorem walk_cons_of_ne_nil (part : String) {rest : List String} (more : rest ≠ []) :
    lookup.walk disk (part :: rest) =
      match disk.node? part with
      | some .dir => lookup.walk disk rest
      | some (.file _) => .error .notDir
      | none => .error .noEntry := by
  obtain ⟨next, rest, rfl⟩ := List.exists_cons_of_ne_nil more
  rfl

theorem walk_singleton (last : String) :
    lookup.walk disk [last] = (disk.node? last).elim (.error .noEntry) .ok := by
  simp only [lookup.walk]
  cases disk.node? last <;> rfl

theorem walk_snoc (front : List String) (last : String)
    (dirs : ∀ p ∈ front, disk.node? p = some .dir) :
    lookup.walk disk (front ++ [last]) = (disk.node? last).elim (.error .noEntry) .ok := by
  induction front with
  | nil => exact walk_singleton disk last
  | cons part front induction =>
    rw [List.cons_append, walk_cons_of_ne_nil disk part (by simp),
      dirs part List.mem_cons_self]
    exact induction fun p member => dirs p (List.mem_cons_of_mem part member)

/-- A walk through directories and missing entries only ends at a directory when every entry
is one, and fails for a missing entry otherwise. -/
theorem walk_of_clear (parts : List String)
    (clear : ∀ p ∈ parts, disk.node? p = some .dir ∨ disk.node? p = none) :
    lookup.walk disk parts =
      if ∀ p ∈ parts, disk.node? p = some .dir then .ok .dir else .error .noEntry := by
  induction parts with
  | nil => rfl
  | cons part rest induction =>
    have restClear := fun p member => clear p (List.mem_cons_of_mem part member)
    rcases clear part List.mem_cons_self with isDir | missing
    · by_cases last : rest = []
      · subst last
        simp [walk_singleton, isDir]
      · rw [walk_cons_of_ne_nil disk part last, isDir, induction restClear]
        simp [isDir]
    · by_cases last : rest = []
      · subst last
        simp [walk_singleton, missing]
      · rw [walk_cons_of_ne_nil disk part last, missing]
        simp [missing]

theorem lookup_eq_walk (path : String) : disk.lookup path = lookup.walk disk (prefixes path) := rfl

variable (rooted : Bool) {kept : List String}

theorem lookup_compose_snoc {name : String} (plain : ∀ part ∈ kept ++ [name], Plain part)
    (dirs : ∀ p ∈ prefixes (compose rooted kept), disk.node? p = some .dir) :
    disk.lookup (compose rooted (kept ++ [name])) =
      (disk.node? (compose rooted (kept ++ [name]))).elim (.error .noEntry) .ok := by
  rw [lookup_eq_walk, prefixes_snoc rooted plain, walk_snoc disk _ _ dirs]

theorem lookup_of_dirs (path : String) (dirs : ∀ p ∈ prefixes path, disk.node? p = some .dir) :
    disk.lookup path = .ok .dir := by
  rw [lookup_eq_walk, walk_of_clear disk _ fun p member => .inl (dirs p member), if_pos dirs]

end Lookup

/-! ## Making directories -/

section MakeDirs

variable (rooted : Bool) {kept : List String}

theorem parentText_eq_of_toList {path last : String} {lead : List Char}
    (spelled : path.toList = lead ++ last.toList) (noSlash : '/' ∉ last.toList) (nonempty : last ≠ "")
    (leadEnds : lead = [] ∨ lead.getLast? = some '/') :
    parentText path = String.ofList lead.dropLast := by
  have lastChars : last.toList.reverse ≠ [] := by
    simpa using mt String.toList_eq_nil_iff.1 nonempty
  obtain ⟨c, chars, reversed⟩ := List.exists_cons_of_ne_nil lastChars
  have notSlash : ¬(c == '/') = true := by
    intro same
    apply noSlash
    rw [← List.mem_reverse, reversed, ← beq_iff_eq.1 same]
    exact List.mem_cons_self
  have lastKept : ∀ d ∈ last.toList.reverse, (d != '/') = true := by
    intro d member
    simp only [bne_iff_ne, ne_eq]
    rintro rfl
    exact noSlash (List.mem_reverse.1 member)
  have lastStays : (c :: (chars ++ lead.reverse)).dropWhile (· == '/') = c :: (chars ++ lead.reverse) :=
    List.dropWhile_cons_of_neg notSlash
  unfold parentText
  dsimp only
  rw [spelled, List.reverse_append, reversed, List.cons_append, lastStays, ← List.cons_append,
    ← reversed, List.dropWhile_append_of_pos lastKept]
  rcases leadEnds with rfl | ends
  · rfl
  · obtain ⟨init, rfl⟩ := List.getLast?_eq_some_iff.1 ends
    simp

theorem parentText_compose {front : List String} {last : String}
    (plain : ∀ part ∈ front ++ [last], Plain part) :
    parentText (compose rooted (front ++ [last])) = if front = [] then "" else compose rooted front := by
  have lastPlain : Plain last := plain last (by simp)
  rw [parentText_eq_of_toList (toList_compose_snoc rooted fun part member => (plain part member).bare)
    lastPlain.2.2.2 lastPlain.1 (leadOf_ends rooted front)]
  by_cases empty : front = []
  · subst empty
    cases rooted <;> simp [leadOf]
  · simp [leadOf, empty]

variable (disk : Disk)

theorem dirs_snoc {front : List String} {last : String} (plain : ∀ part ∈ front ++ [last], Plain part)
    (dirs : ∀ p ∈ prefixes (compose rooted front), disk.node? p = some .dir)
    (lastDir : disk.node? (compose rooted (front ++ [last])) = some .dir) :
    ∀ p ∈ prefixes (compose rooted (front ++ [last])), disk.node? p = some .dir := by
  intro p member
  rw [prefixes_snoc rooted plain, List.mem_append, List.mem_singleton] at member
  rcases member with above | rfl
  · exact dirs p above
  · exact lastDir

theorem mkdir_compose_missing {front : List String} {last : String}
    (plain : ∀ part ∈ front ++ [last], Plain part)
    (dirs : ∀ p ∈ prefixes (compose rooted front), disk.node? p = some .dir)
    (missing : disk.node? (compose rooted (front ++ [last])) = none) :
    disk.mkdir (compose rooted (front ++ [last])) = .ok (disk.put (compose rooted (front ++ [last])) .dir) := by
  have parentFound : disk.lookup (Path.dir (compose rooted (front ++ [last]))) = .ok .dir := by
    rw [dir_compose rooted plain]
    exact lookup_of_dirs disk _ dirs
  simp [mkdir, lookup_compose_snoc disk rooted plain dirs, missing, parentFound]

theorem mkdir_compose_present {front : List String} {last : String}
    (plain : ∀ part ∈ front ++ [last], Plain part)
    (dirs : ∀ p ∈ prefixes (compose rooted front), disk.node? p = some .dir)
    (present : disk.node? (compose rooted (front ++ [last])) = some .dir) :
    disk.mkdir (compose rooted (front ++ [last])) =
      .error (Errno.exists.fault "mkdir" (compose rooted (front ++ [last]))) := by
  simp [mkdir, lookup_compose_snoc disk rooted plain dirs, present]

/-- Making the directories of a composed path, when each of them is a directory or missing:
it succeeds, every one of them is then a directory, and no other entry changes. -/
theorem mkdirAll_compose {kept : List String} (plain : ∀ part ∈ kept, Plain part) (nonempty : kept ≠ [])
    (clear : ∀ p ∈ prefixes (compose rooted kept), disk.node? p = some .dir ∨ disk.node? p = none)
    (fuel : Nat) (enough : kept.length ≤ fuel) :
    ∃ made, disk.mkdirAll (compose rooted kept) fuel = .ok made ∧
      (∀ p ∈ prefixes (compose rooted kept), made.node? p = some .dir) ∧
      ∀ c, c ∉ prefixes (compose rooted kept) → made.node? c = disk.node? c := by
  induction kept using List.reverseRecOn generalizing fuel with
  | nil => exact absurd rfl nonempty
  | append_singleton front last induction =>
    obtain ⟨fuel, rfl⟩ : ∃ below, fuel = below + 1 := ⟨fuel - 1, by simp at enough; omega⟩
    have frontPlain : ∀ part ∈ front, Plain part := fun part member => plain part (by simp [member])
    have split := prefixes_snoc rooted plain
    have below : ∀ p ∈ prefixes (compose rooted front), p ∈ prefixes (compose rooted (front ++ [last])) :=
      fun p high => by rw [split]; exact List.mem_append_left _ high
    have frontClear : ∀ p ∈ prefixes (compose rooted front),
        disk.node? p = some .dir ∨ disk.node? p = none :=
      fun p member => clear p (below p member)
    have self := compose_not_mem_prefixes rooted plain
    rw [mkdirAll, lookup_eq_walk, walk_of_clear disk _ clear]
    by_cases allDirs : ∀ p ∈ prefixes (compose rooted (front ++ [last])), disk.node? p = some .dir
    · exact ⟨disk, by rw [if_pos allDirs], allDirs, fun _ _ => rfl⟩
    rw [if_neg allDirs]
    obtain ⟨above, aboveBind, aboveDirs, aboveFrame⟩ : ∃ above,
        (∀ next : Disk → Except Fault Disk,
          (if (parentText (compose rooted (front ++ [last]))).isEmpty = true then pure disk >>= next
            else disk.mkdirAll (parentText (compose rooted (front ++ [last]))) fuel >>= next) =
            next above) ∧
        (∀ p ∈ prefixes (compose rooted front), above.node? p = some .dir) ∧
        ∀ c, c ∉ prefixes (compose rooted front) → above.node? c = disk.node? c := by
      rw [parentText_compose rooted plain]
      by_cases single : front = []
      · subst single
        refine ⟨disk, fun next => by simp, ?_, fun _ _ => rfl⟩
        simp [prefixes_compose rooted frontPlain]
      · have notEmpty := compose_ne_empty rooted single fun part member => (frontPlain part member).bare
        have ⟨made, madeOk, madeDirs, madeFrame⟩ :=
          induction frontPlain single frontClear fuel (by simp at enough; omega)
        exact ⟨made, fun next => by simp [single, notEmpty, madeOk]; rfl, madeDirs, madeFrame⟩
    have lastAbove : above.node? (compose rooted (front ++ [last])) =
        disk.node? (compose rooted (front ++ [last])) := aboveFrame _ self
    have outside : ∀ c, c ∉ prefixes (compose rooted (front ++ [last])) → above.node? c = disk.node? c :=
      fun c notMember => aboveFrame c fun high => notMember (below c high)
    rw [aboveBind]
    rcases clear (compose rooted (front ++ [last])) (by rw [split]; simp) with present | missing
    · have found := lookup_compose_snoc above rooted plain aboveDirs
      rw [lastAbove, present] at found
      refine ⟨above, ?_, dirs_snoc rooted above plain aboveDirs (lastAbove ▸ present), outside⟩
      simp [mkdir_compose_present rooted above plain aboveDirs (lastAbove ▸ present), found]
    · have nonemptyAll : front ++ [last] ≠ [] := by simp
      refine ⟨above.put (compose rooted (front ++ [last])) .dir,
        by simp [mkdir_compose_missing rooted above plain aboveDirs (lastAbove ▸ missing)], ?_, ?_⟩
      · apply dirs_snoc rooted _ plain _ (node?_put_compose_self rooted nonemptyAll plain above .dir)
        intro p high
        rw [node?_put_compose_of_ne rooted nonemptyAll plain above .dir fun same => self (same ▸ high)]
        exact aboveDirs p high
      · intro c notMember
        have differ : c ≠ compose rooted (front ++ [last]) := by
          rintro rfl
          exact notMember (by rw [split]; simp)
        rw [node?_put_compose_of_ne rooted nonemptyAll plain above .dir differ]
        exact outside c notMember

theorem makeDirs_compose {kept : List String} (plain : ∀ part ∈ kept, Plain part) (nonempty : kept ≠ [])
    (clear : ∀ p ∈ prefixes (compose rooted kept), disk.node? p = some .dir ∨ disk.node? p = none) :
    ∃ made, disk.makeDirs (compose rooted kept) = .ok made ∧
      (∀ p ∈ prefixes (compose rooted kept), made.node? p = some .dir) ∧
      ∀ c, c ∉ prefixes (compose rooted kept) → made.node? c = disk.node? c :=
  mkdirAll_compose rooted disk plain nonempty clear _ (length_le_compose rooted plain)

end MakeDirs

/-! ## Files -/

/-- The text of the file at a path, empty when there is none. -/
def textAt (disk : Disk) (path : String) : String :=
  match disk.node? path with
  | some (.file content) => content
  | _ => ""

section Files

variable (rooted : Bool) (disk : Disk) {kept : List String} {name : String}

theorem textAt_of_entry {path content : String} (found : disk.node? path = some (.file content)) :
    disk.textAt path = content := by
  simp [textAt, found]

theorem textAt_of_missing {path : String} (missing : disk.node? path = none) : disk.textAt path = "" := by
  simp [textAt, missing]

theorem append_compose (plain : ∀ part ∈ kept ++ [name], Plain part)
    (dirs : ∀ p ∈ prefixes (compose rooted kept), disk.node? p = some .dir)
    (notDir : disk.node? (compose rooted (kept ++ [name])) ≠ some .dir) (data : String) :
    disk.append (compose rooted (kept ++ [name])) data =
      .ok (disk.put (compose rooted (kept ++ [name]))
        (.file (disk.textAt (compose rooted (kept ++ [name])) ++ data))) := by
  have keptPlain : ∀ part ∈ kept, Plain part := fun part member => plain part (by simp [member])
  have parentFound : disk.lookup (Path.dir (compose rooted (kept ++ [name]))) = .ok .dir := by
    rw [dir_compose rooted plain]
    exact lookup_of_dirs disk _ dirs
  unfold append
  rw [lookup_compose_snoc disk rooted plain dirs]
  cases found : disk.node? (compose rooted (kept ++ [name])) with
  | none => simp [parentFound, textAt_of_missing disk found]
  | some node =>
    cases node with
    | file content => simp [textAt_of_entry disk found]
    | dir => exact absurd found notDir

theorem lookup_compose_missing (plain : ∀ part ∈ kept ++ [name], Plain part)
    (clear : ∀ p ∈ prefixes (compose rooted kept), disk.node? p = some .dir ∨ disk.node? p = none)
    (missing : disk.node? (compose rooted (kept ++ [name])) = none) :
    disk.lookup (compose rooted (kept ++ [name])) = .error .noEntry := by
  have split := prefixes_snoc rooted plain
  have clearAll : ∀ p ∈ prefixes (compose rooted (kept ++ [name])),
      disk.node? p = some .dir ∨ disk.node? p = none := by
    intro p member
    rw [split, List.mem_append, List.mem_singleton] at member
    rcases member with above | rfl
    · exact clear p above
    · exact .inr missing
  have notAll : ¬∀ p ∈ prefixes (compose rooted (kept ++ [name])), disk.node? p = some .dir := by
    intro all
    have last := all (compose rooted (kept ++ [name])) (by rw [split]; simp)
    rw [missing] at last
    exact absurd last (by simp)
  rw [lookup_eq_walk, walk_of_clear disk _ clearAll, if_neg notAll]

theorem read_compose_file (plain : ∀ part ∈ kept ++ [name], Plain part)
    (dirs : ∀ p ∈ prefixes (compose rooted kept), disk.node? p = some .dir) {content : String}
    (found : disk.node? (compose rooted (kept ++ [name])) = some (.file content)) :
    disk.read (compose rooted (kept ++ [name])) = .content content := by
  have notEmpty : compose rooted (kept ++ [name]) ≠ "" :=
    compose_ne_empty rooted (by simp) fun part member => (plain part member).bare
  simp [read, notEmpty, lookup_compose_snoc disk rooted plain dirs, found]

theorem read_compose_missing (plain : ∀ part ∈ kept ++ [name], Plain part)
    (clear : ∀ p ∈ prefixes (compose rooted kept), disk.node? p = some .dir ∨ disk.node? p = none)
    (missing : disk.node? (compose rooted (kept ++ [name])) = none) :
    disk.read (compose rooted (kept ++ [name])) = .missing := by
  have notEmpty : compose rooted (kept ++ [name]) ≠ "" :=
    compose_ne_empty rooted (by simp) fun part member => (plain part member).bare
  have notFound : disk.lookup (compose rooted (kept ++ [name])) = .error .noEntry :=
    lookup_compose_missing rooted disk plain clear missing
  simp [read, notEmpty, notFound]

theorem remove_compose_file (plain : ∀ part ∈ kept ++ [name], Plain part)
    (dirs : ∀ p ∈ prefixes (compose rooted kept), disk.node? p = some .dir) {content : String}
    (found : disk.node? (compose rooted (kept ++ [name])) = some (.file content)) :
    disk.remove (compose rooted (kept ++ [name])) =
      .ok (some { entries := disk.entries.filter (·.1 != compose rooted (kept ++ [name])) }) := by
  have clean : Path.clean (compose rooted (kept ++ [name])) = compose rooted (kept ++ [name]) :=
    clean_compose rooted (by simp) plain
  simp [remove, lookup_compose_snoc disk rooted plain dirs, found, clean]

theorem remove_compose_missing (plain : ∀ part ∈ kept ++ [name], Plain part)
    (clear : ∀ p ∈ prefixes (compose rooted kept), disk.node? p = some .dir ∨ disk.node? p = none)
    (missing : disk.node? (compose rooted (kept ++ [name])) = none) :
    disk.remove (compose rooted (kept ++ [name])) = .ok none := by
  simp [remove, lookup_compose_missing rooted disk plain clear missing]

end Files

/-! ## A file that can be opened -/

/-- A disk on which the file `name` below the directories `kept` can be opened: every
directory above it is a directory or missing, and the file is missing or is a file below
directories that all exist. -/
structure Openable (disk : Disk) (rooted : Bool) (kept : List String) (name : String) : Prop where
  clear : ∀ p ∈ prefixes (compose rooted kept), disk.node? p = some .dir ∨ disk.node? p = none
  placed : disk.node? (compose rooted (kept ++ [name])) = none ∨
    (∀ p ∈ prefixes (compose rooted kept), disk.node? p = some .dir) ∧
      ∃ content, disk.node? (compose rooted (kept ++ [name])) = some (.file content)

/-- A disk on which the file `name` can be appended to: every directory above it exists, and
it is not a directory. -/
structure Ready (disk : Disk) (rooted : Bool) (kept : List String) (name : String) : Prop where
  built : ∀ p ∈ prefixes (compose rooted kept), disk.node? p = some .dir
  notDir : disk.node? (compose rooted (kept ++ [name])) ≠ some .dir

section Opening

variable {rooted : Bool} {disk : Disk} {kept : List String} {name : String}

theorem Ready.openable (ready : Ready disk rooted kept name) : Openable disk rooted kept name := by
  refine ⟨fun p member => .inl (ready.built p member), ?_⟩
  cases found : disk.node? (compose rooted (kept ++ [name])) with
  | none => exact .inl rfl
  | some node =>
    cases node with
    | file content => exact .inr ⟨ready.built, content, rfl⟩
    | dir => exact absurd found ready.notDir

/-- Making the directories above an openable file: they all exist afterwards, and no entry
elsewhere changes. -/
theorem Openable.makeDirs (openable : Openable disk rooted kept name) (nonempty : kept ≠ [])
    (plain : ∀ part ∈ kept ++ [name], Plain part) :
    ∃ made, disk.makeDirs (compose rooted kept) = .ok made ∧ Ready made rooted kept name ∧
      ∀ c, c ∉ prefixes (compose rooted kept) → made.node? c = disk.node? c := by
  have keptPlain : ∀ part ∈ kept, Plain part := fun part member => plain part (by simp [member])
  obtain ⟨made, madeOk, madeDirs, madeFrame⟩ :=
    makeDirs_compose rooted disk keptPlain nonempty openable.clear
  have fileSame := madeFrame _ (compose_not_mem_prefixes rooted plain)
  refine ⟨made, madeOk, ⟨madeDirs, ?_⟩, madeFrame⟩
  rw [fileSame]
  rcases openable.placed with missing | ⟨-, content, found⟩
  · simp [missing]
  · simp [found]

theorem Ready.append (ready : Ready disk rooted kept name) (plain : ∀ part ∈ kept ++ [name], Plain part)
    (data : String) :
    ∃ after, disk.append (compose rooted (kept ++ [name])) data = .ok after ∧
      Ready after rooted kept name ∧
      after.textAt (compose rooted (kept ++ [name])) = disk.textAt (compose rooted (kept ++ [name])) ++ data ∧
      ∀ c, c ≠ compose rooted (kept ++ [name]) → after.node? c = disk.node? c := by
  have nonempty : kept ++ [name] ≠ [] := by simp
  refine ⟨_, append_compose rooted disk plain ready.built ready.notDir data, ⟨?_, ?_⟩, ?_,
    fun c => node?_put_compose_of_ne rooted nonempty plain disk _⟩
  · intro p member
    rw [node?_put_compose_of_ne rooted nonempty plain disk _
      fun same => compose_not_mem_prefixes rooted plain (same ▸ member)]
    exact ready.built p member
  · rw [node?_put_compose_self rooted nonempty plain]
    simp
  · exact textAt_of_entry _ (node?_put_compose_self rooted nonempty plain disk _)

theorem Openable.read (openable : Openable disk rooted kept name)
    (plain : ∀ part ∈ kept ++ [name], Plain part) :
    disk.read (compose rooted (kept ++ [name])) = .missing ∧
        disk.textAt (compose rooted (kept ++ [name])) = "" ∨
      disk.read (compose rooted (kept ++ [name])) = .content (disk.textAt (compose rooted (kept ++ [name]))) := by
  rcases openable.placed with missing | ⟨built, content, found⟩
  · exact .inl ⟨read_compose_missing rooted disk plain openable.clear missing, textAt_of_missing disk missing⟩
  · rw [textAt_of_entry disk found]
    exact .inr (read_compose_file rooted disk plain built found)

theorem Openable.remove (openable : Openable disk rooted kept name)
    (plain : ∀ part ∈ kept ++ [name], Plain part) :
    disk.remove (compose rooted (kept ++ [name])) = .ok none ∧
        disk.node? (compose rooted (kept ++ [name])) = none ∨
      ∃ next, disk.remove (compose rooted (kept ++ [name])) = .ok (some next) ∧
        Openable next rooted kept name ∧ next.node? (compose rooted (kept ++ [name])) = none ∧
        ∀ c, c ≠ compose rooted (kept ++ [name]) → next.node? c = disk.node? c := by
  rcases openable.placed with missing | ⟨built, content, found⟩
  · exact .inl ⟨remove_compose_missing rooted disk plain openable.clear missing, missing⟩
  · have gone := node?_filter_self disk (compose_not_top rooted (by simp) plain)
    refine .inr ⟨_, remove_compose_file rooted disk plain built found, ⟨?_, .inl gone⟩, gone,
      fun c differ => node?_filter_of_ne disk differ⟩
    intro p member
    have differ : p ≠ compose rooted (kept ++ [name]) := by
      rintro rfl
      exact compose_not_mem_prefixes rooted plain member
    rw [node?_filter_of_ne disk differ]
    exact .inl (built p member)

end Opening

end Testbed.Disk
