import TlshubEbpf.Lib.CString

/-! # Text files that are read with `fgets`

A line that does not fit into the array comes in several pieces, and a reader that takes
every piece for a line sees other lines than the file has. -/

set_option autoImplicit false

namespace TlshubEbpf.Lib

/-- What `fgets` stores before the terminator, with room for `limit` bytes, and what is
left of the file. -/
def fgets : ℕ → List UInt8 → List UInt8 × List UInt8
  | 0, file => ([], file)
  | _ + 1, [] => ([], [])
  | limit + 1, c :: rest =>
      if c = 10 then
        ([c], rest)
      else
        (c :: (fgets limit rest).1, (fgets limit rest).2)

theorem fgets_append (limit : ℕ) (file : List UInt8) :
    (fgets limit file).1 ++ (fgets limit file).2 = file := by
  induction limit generalizing file with
  | zero => rfl
  | succ limit ih =>
      cases file with
      | nil => rfl
      | cons c rest =>
          rw [fgets]
          split
          · rfl
          · exact congrArg (c :: ·) (ih rest)

theorem length_fgets (limit : ℕ) (file : List UInt8) :
    (fgets limit file).1.length + (fgets limit file).2.length = file.length := by
  rw [← List.length_append, fgets_append]

/-- What successive calls store in an array of this size, up to the end of the file. -/
def reads (size : ℕ) (file : List UInt8) : List (List UInt8) :=
  if h : (fgets (size - 1) file).1 = [] then
    []
  else
    (fgets (size - 1) file).1 :: reads size (fgets (size - 1) file).2
termination_by file.length
decreasing_by
  have parts := length_fgets (size - 1) file
  have some := List.length_pos_iff.mpr h
  omega

def lines : List UInt8 → List (List UInt8)
  | [] => []
  | c :: rest =>
      if c = 10 then
        [c] :: lines rest
      else
        match lines rest with
        | [] => [[c]]
        | line :: more => (c :: line) :: more

/-! ## Lines and pieces -/

theorem lines_terminated (body rest : List UInt8) (unbroken : 10 ∉ body) :
    lines (body ++ 10 :: rest) = (body ++ [10]) :: lines rest := by
  induction body with
  | nil => rfl
  | cons c more ih =>
      rw [List.mem_cons, not_or] at unbroken
      rw [List.cons_append, lines, if_neg (Ne.symm unbroken.1), ih unbroken.2]
      rfl

theorem lines_unterminated (body : List UInt8) (unbroken : 10 ∉ body) (nonempty : body ≠ []) :
    lines body = [body] := by
  induction body with
  | nil => exact absurd rfl nonempty
  | cons c more ih =>
      rw [List.mem_cons, not_or] at unbroken
      rw [lines, if_neg (Ne.symm unbroken.1)]
      cases more with
      | nil => rfl
      | cons d rest => rw [ih unbroken.2 (List.cons_ne_nil d rest)]

theorem lines_cases (file : List UInt8) :
    file = [] ∨ (10 ∉ file ∧ file ≠ []) ∨ ∃ body rest, file = body ++ 10 :: rest ∧ 10 ∉ body := by
  by_cases broken : 10 ∈ file
  · obtain ⟨body, rest, split, unbroken⟩ := List.eq_append_cons_of_mem broken
    exact Or.inr (Or.inr ⟨body, rest, split, unbroken⟩)
  · by_cases empty : file = []
    · exact Or.inl empty
    · exact Or.inr (Or.inl ⟨broken, empty⟩)

theorem fgets_nonempty (limit : ℕ) (file : List UInt8) (room : limit ≠ 0) (nonempty : file ≠ []) :
    (fgets limit file).1 ≠ [] := by
  cases limit with
  | zero => exact absurd rfl room
  | succ limit =>
      cases file with
      | nil => exact absurd rfl nonempty
      | cons c rest =>
          rw [fgets]
          split <;> exact List.cons_ne_nil _ _

theorem fgets_append_rest (limit : ℕ) (text rest : List UInt8) (broken : 10 ∈ text) :
    fgets limit (text ++ rest) = ((fgets limit text).1, (fgets limit text).2 ++ rest) := by
  induction limit generalizing text with
  | zero => rfl
  | succ limit ih =>
      cases text with
      | nil => cases broken
      | cons c more =>
          rw [List.cons_append, fgets, fgets]
          by_cases ends : c = 10
          · rw [if_pos ends, if_pos ends]
          · rw [if_neg ends, if_neg ends,
              ih more ((List.mem_cons.mp broken).resolve_left (Ne.symm ends))]

theorem fgets_full (piece rest : List UInt8) (unbroken : 10 ∉ piece) :
    fgets piece.length (piece ++ rest) = (piece, rest) := by
  induction piece with
  | nil => rfl
  | cons c more ih =>
      rw [List.mem_cons, not_or] at unbroken
      rw [List.length_cons, List.cons_append, fgets, if_neg (Ne.symm unbroken.1), ih unbroken.2]

theorem reads_nil (size : ℕ) : reads size [] = [] := by
  rw [reads, dif_pos]
  exact (List.append_eq_nil_iff.mp (fgets_append (size - 1) [])).1

theorem reads_cons (size : ℕ) (file : List UInt8) (room : 1 < size) (nonempty : file ≠ []) :
    reads size file = (fgets (size - 1) file).1 :: reads size (fgets (size - 1) file).2 := by
  rw [reads, dif_neg (fgets_nonempty _ file (by omega) nonempty)]

def EndsLine (text : List UInt8) : Prop := text = [] ∨ text.getLast? = some 10

theorem EndsLine.fgets (limit : ℕ) (text : List UInt8) (ends : EndsLine text) :
    EndsLine (fgets limit text).2 := by
  have parts := fgets_append limit text
  rcases ends with empty | last
  · rw [empty] at parts ⊢
    exact Or.inl (List.append_eq_nil_iff.mp parts).2
  · rw [← parts, List.getLast?_append] at last
    cases left : (Lib.fgets limit text).2.getLast? with
    | none => exact Or.inl (List.getLast?_eq_none_iff.mp left)
    | some final =>
        rw [left, Option.some_or] at last
        exact Or.inr (left.trans last)

/-- What is read up to the end of a line does not depend on what comes after it. -/
theorem reads_append (size : ℕ) (room : 1 < size) (text rest : List UInt8)
    (ends : EndsLine text) : reads size (text ++ rest) = reads size text ++ reads size rest := by
  -- on the length, as each call takes a piece off the front
  induction length : text.length using Nat.strong_induction_on generalizing text with
  | _ n ih =>
      rcases ends with rfl | last
      · rw [reads_nil, List.nil_append, List.nil_append]
      · have broken : 10 ∈ text := List.mem_of_getLast? last
        have nonempty : text ≠ [] := List.ne_nil_of_mem broken
        have shorter : (fgets (size - 1) text).2.length < n := by
          have parts := length_fgets (size - 1) text
          have some := List.length_pos_iff.mpr
            (fgets_nonempty (size - 1) text (by omega) nonempty)
          omega
        rw [reads_cons size text room nonempty,
          reads_cons size (text ++ rest) room (List.append_ne_nil_of_left_ne_nil nonempty rest),
          fgets_append_rest (size - 1) text rest broken, List.cons_append]
        exact congrArg (_ :: ·)
          (ih _ shorter _ (EndsLine.fgets (size - 1) text (Or.inr last)) rfl)

/-- The pieces of a file are the pieces of its lines. -/
theorem reads_eq_flatMap (size : ℕ) (room : 1 < size) (file : List UInt8) :
    reads size file = (lines file).flatMap (reads size) := by
  induction length : file.length using Nat.strong_induction_on generalizing file with
  | _ n ih =>
      rcases lines_cases file with rfl | ⟨unbroken, nonempty⟩ | ⟨body, rest, rfl, unbroken⟩
      · exact reads_nil size
      · rw [lines_unterminated file unbroken nonempty, List.flatMap_singleton]
      · have ends : EndsLine (body ++ [10]) := Or.inr List.getLast?_concat
        have shorter : rest.length < n := by
          rw [List.length_append, List.length_cons] at length
          omega
        rw [lines_terminated body rest unbroken, List.flatMap_cons, ← ih _ shorter rest rfl,
          ← reads_append size room _ rest ends, List.append_assoc, List.singleton_append]

theorem reads_full (piece rest : List UInt8) (unbroken : 10 ∉ piece) (nonempty : piece ≠ []) :
    reads (piece.length + 1) (piece ++ rest) = piece :: reads (piece.length + 1) rest := by
  have room : 1 < piece.length + 1 := Nat.lt_succ_of_le (List.length_pos_iff.mpr nonempty)
  rw [reads_cons _ _ room (List.append_ne_nil_of_left_ne_nil nonempty rest), Nat.add_sub_cancel,
    fgets_full piece rest unbroken]

theorem flatten_reads (size : ℕ) (room : 1 < size) (file : List UInt8) :
    (reads size file).flatten = file := by
  induction length : file.length using Nat.strong_induction_on generalizing file with
  | _ n ih =>
      by_cases empty : file = []
      · rw [empty, reads_nil, List.flatten_nil]
      · have parts := length_fgets (size - 1) file
        have some := List.length_pos_iff.mpr (fgets_nonempty (size - 1) file (by omega) empty)
        rw [reads_cons size file room empty, List.flatten_cons, ih _ (by omega) _ rfl, fgets_append]

theorem reads_line (size : ℕ) (line : List UInt8) (nonempty : line ≠ [])
    (fits : line.length < size) (single : 10 ∉ line.dropLast) : reads size line = [line] := by
  have whole : ∀ limit (text : List UInt8), text.length ≤ limit → 10 ∉ text.dropLast →
      fgets limit text = (text, []) := by
    intro limit
    induction limit with
    | zero =>
        intro text short _
        rw [List.length_eq_zero_iff.mp (Nat.le_zero.mp short)]
        rfl
    | succ limit ih =>
        intro text short single
        cases text with
        | nil => rfl
        | cons c more =>
            cases more with
            | nil =>
                rw [fgets]
                split
                · rfl
                · rw [ih [] (Nat.zero_le _) single]
            | cons d rest =>
                rw [List.dropLast_cons_cons, List.mem_cons, not_or] at single
                rw [fgets, if_neg (Ne.symm single.1),
                  ih (d :: rest) (Nat.le_of_succ_le_succ short) single.2]
  have positive := List.length_pos_iff.mpr nonempty
  rw [reads_cons size line (by omega) nonempty, whole (size - 1) line (by omega) single, reads_nil]

theorem reads_fits (size : ℕ) (body : List UInt8) (unbroken : 10 ∉ body)
    (fits : body.length + 1 < size) : reads size (body ++ [10]) = [body ++ [10]] := by
  refine reads_line size _ (List.append_ne_nil_of_right_ne_nil body (List.cons_ne_nil 10 [])) ?_ ?_
  · rwa [List.length_append]
  · rwa [List.dropLast_concat]

def textOf (bodies : List (List UInt8)) : List UInt8 := bodies.flatMap (· ++ [10])

theorem lines_textOf (bodies : List (List UInt8)) (unbroken : ∀ body ∈ bodies, 10 ∉ body) :
    lines (textOf bodies) = bodies.map (· ++ [10]) := by
  induction bodies with
  | nil => rfl
  | cons body rest ih =>
      rw [textOf, List.flatMap_cons, List.append_assoc, List.singleton_append,
        lines_terminated body _ (unbroken body List.mem_cons_self), List.map_cons]
      exact congrArg (_ :: ·)
        (ih fun other later => unbroken other (List.mem_cons_of_mem body later))

theorem not_mem_textOf (c : UInt8) (other : c ≠ 10) (bodies : List (List UInt8))
    (without : ∀ body ∈ bodies, c ∉ body) : c ∉ textOf bodies := by
  intro inside
  obtain ⟨body, among, here⟩ := List.mem_flatMap.mp inside
  rcases List.mem_append.mp here with inBody | last
  · exact without body among inBody
  · exact other (List.mem_singleton.mp last)

theorem reads_textOf (size : ℕ) (room : 1 < size) (bodies : List (List UInt8))
    (unbroken : ∀ body ∈ bodies, 10 ∉ body) :
    reads size (textOf bodies) = bodies.flatMap fun body => reads size (body ++ [10]) := by
  rw [reads_eq_flatMap size room, lines_textOf bodies unbroken, List.flatMap_map]

section ReadWhole
variable {β : Type} (contributes : List UInt8 → Option β) (size : ℕ)

/-- The pieces of a line contribute what the line does. -/
def ReadWhole (line : List UInt8) : Prop :=
  (reads size line).filterMap contributes = (contributes line).toList

theorem filterMap_reads (some : List (List UInt8))
    (whole : ∀ line ∈ some, ReadWhole contributes size line) :
    (some.flatMap (reads size)).filterMap contributes = some.filterMap contributes := by
  induction some with
  | nil => rfl
  | cons line rest ih =>
      rw [List.flatMap_cons, List.filterMap_append, whole line List.mem_cons_self,
        ih fun other later => whole other (List.mem_cons_of_mem line later)]
      cases found : contributes line with
      | none => rw [List.filterMap_cons_none found, Option.toList_none, List.nil_append]
      | some value =>
          rw [List.filterMap_cons_some found, Option.toList_some, List.singleton_append]

theorem readWhole_of_fits (body : List UInt8) (unbroken : 10 ∉ body)
    (fits : body.length + 1 < size) : ReadWhole contributes size (body ++ [10]) := by
  rw [ReadWhole, reads_fits size body unbroken fits]
  cases found : contributes (body ++ [10]) with
  | none => rw [List.filterMap_cons_none found, List.filterMap_nil, Option.toList_none]
  | some value => rw [List.filterMap_cons_some found, List.filterMap_nil, Option.toList_some]

end ReadWhole

/-! ## Words -/

/-- `%s`: white space is passed over, and the word is what comes before the next. -/
def scanWord (text : List UInt8) : List UInt8 × List UInt8 :=
  let rest := text.dropWhile isspace
  (rest.takeWhile (!isspace ·), rest.dropWhile (!isspace ·))

def words (text : List UInt8) : List (List UInt8) := (text.splitOnP isspace).filter (· ≠ [])

theorem words_blank (c : UInt8) (rest : List UInt8) (blank : isspace c = true) :
    words (c :: rest) = words rest := by
  rw [words, List.splitOnP_cons_eq_if_modifyHead, if_pos blank, List.filter_cons_of_neg (by simp),
    words]

theorem unbroken_of_all (word : List UInt8) (all : word.all (fun c => !isspace c) = true) :
    ∀ c ∈ word, isspace c = false := by
  intro c among
  have unbroken := List.all_eq_true.mp all c among
  simpa using unbroken

theorem unbroken_replicate (n : ℕ) (c : UInt8) (nonblank : isspace c = false) :
    ∀ d ∈ List.replicate n c, isspace d = false := by
  intro d among
  rw [List.eq_of_mem_replicate among]
  exact nonblank

theorem words_dropWhile (text : List UInt8) : words (text.dropWhile isspace) = words text := by
  induction text with
  | nil => rfl
  | cons c rest ih =>
      by_cases blank : isspace c = true
      · rw [List.dropWhile_cons_of_pos blank, words_blank c rest blank, ih]
      · rw [List.dropWhile_cons_of_neg blank]

theorem words_word (word rest : List UInt8) (unbroken : ∀ c ∈ word, isspace c = false)
    (nonempty : word ≠ []) (ends : ∀ c ∈ rest.head?, isspace c = true) :
    words (word ++ rest) = word :: words rest := by
  cases rest with
  | nil =>
      rw [List.append_nil, words, List.splitOnP_eq_singleton unbroken,
        List.filter_cons_of_pos (by simpa using nonempty)]
      rfl
  | cons c more =>
      have blank := ends c rfl
      rw [words_blank c more blank, words, List.splitOnP_append_cons_of_forall_mem unbroken c blank,
        List.filter_cons_of_pos (by simpa using nonempty)]
      rfl

theorem words_word_blank (word : List UInt8) (c : UInt8) (rest : List UInt8)
    (unbroken : ∀ d ∈ word, isspace d = false) (nonempty : word ≠ [])
    (blank : isspace c = true) : words (word ++ c :: rest) = word :: words rest := by
  have ends : ∀ d ∈ (c :: rest).head?, isspace d = true := by
    intro d first
    cases first
    exact blank
  rw [words_word word (c :: rest) unbroken nonempty ends, words_blank c rest blank]

theorem scanWord_append (text : List UInt8) :
    (scanWord text).1 ++ (scanWord text).2 = text.dropWhile isspace :=
  List.takeWhile_append_dropWhile

theorem scanWord_unbroken (text : List UInt8) : ∀ c ∈ (scanWord text).1, isspace c = false := by
  intro c among
  have nonblank := List.mem_takeWhile_imp among
  simpa using nonblank

theorem mem_of_mem_scanWord (text : List UInt8) (c : UInt8)
    (among : c ∈ (scanWord text).1 ∨ c ∈ (scanWord text).2) : c ∈ text := by
  rw [← List.mem_append, scanWord_append] at among
  exact (List.dropWhile_suffix isspace).subset among

theorem words_eq (text : List UInt8) :
    words text =
      if (scanWord text).1 = [] then [] else (scanWord text).1 :: words (scanWord text).2 := by
  have parts := scanWord_append text
  rw [← words_dropWhile]
  split
  · rename_i empty
    have start := List.head?_dropWhile_not isspace text
    cases rest : text.dropWhile isspace with
    | nil => rfl
    | cons c more =>
        rw [rest] at start
        simp only [scanWord, rest] at empty
        rw [List.takeWhile_cons_of_pos (by simpa using start)] at empty
        cases empty
  · rename_i nonempty
    rw [← parts]
    refine words_word _ _ (scanWord_unbroken text) nonempty fun c first => ?_
    have start := List.head?_dropWhile_not (!isspace ·) (text.dropWhile isspace)
    have next : ((text.dropWhile isspace).dropWhile (!isspace ·)).head? = some c := first
    rw [next] at start
    simpa using start

theorem mem_of_mem_words (text word : List UInt8) (c : UInt8) (among : word ∈ words text)
    (inside : c ∈ word) : c ∈ text := by
  induction length : text.length using Nat.strong_induction_on generalizing text with
  | _ n ih =>
      rw [words_eq] at among
      split at among
      · cases among
      · rename_i nonempty
        rcases List.mem_cons.mp among with rfl | later
        · exact mem_of_mem_scanWord text c (Or.inl inside)
        · have shorter : (scanWord text).2.length < n := by
            have parts := congrArg List.length (scanWord_append text)
            rw [List.length_append] at parts
            have some := List.length_pos_iff.mpr nonempty
            have whole := List.length_dropWhile_le isspace text
            omega
          exact mem_of_mem_scanWord text c (Or.inr (ih _ shorter _ later rfl))

end TlshubEbpf.Lib
