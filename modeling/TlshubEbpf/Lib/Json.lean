import TlshubEbpf.Lib.Printf
import TlshubEbpf.Lib.Table

/-! # JSON documents

A document is read in two passes over its characters and over its tokens; either is
a fold, so that the text of a value can be read piece by piece.  Whatever is read is
a valid document; of the valid ones, those with a surrogate pair in an escape are
not read. -/

set_option autoImplicit false

namespace TlshubEbpf.Lib

inductive Json where
  | null
  | bool (value : Bool)
  | num (value : ℚ)
  | str (text : String)
  | arr (items : List Json)
  | obj (members : List (String × Json))

namespace Json

inductive Token where
  | openBrace
  | closeBrace
  | openBracket
  | closeBracket
  | colon
  | comma
  | null
  | bool (value : Bool)
  | num (value : ℚ)
  | str (text : String)

/-- The member of an object; of two with one name, the last. -/
def member (name : String) : Json → Option Json
  | .obj members => members.reverse.lookup name
  | _ => none

def numberMember (name : String) (value : Json) : Option ℚ :=
  match member name value with
  | some (.num number) => some number
  | _ => none

/-! ## From characters to tokens -/

/-- What has been read since the last token, the latest character first. -/
inductive Mode where
  | idle
  | word (read : List Char)
  | string (read : List Char)
  | escape (read : List Char)
  | unicode (read : List Char) (value digits : ℕ)
  | failed

def isSpace (c : Char) : Bool := c == ' ' || c == '\n' || c == '\t' || c == '\r'

def isWordChar (c : Char) : Bool := c.isAlphanum || c == '-' || c == '+' || c == '.'

def isPlain (c : Char) : Bool := c != '"' && c != '\\' && 32 ≤ c.toNat

def wordToken (word : List Char) : Option Token :=
  if word = ['n', 'u', 'l', 'l'] then some .null
  else if word = ['t', 'r', 'u', 'e'] then some (.bool true)
  else if word = ['f', 'a', 'l', 's', 'e'] then some (.bool false)
  else (readNumber word).map .num

def readIdle (before : List Token) (c : Char) : List Token × Mode :=
  if isSpace c then (before, .idle)
  else if isWordChar c then (before, .word [c])
  else if c = '"' then (before, .string [])
  else if c = '\x7b' then (.openBrace :: before, .idle)
  else if c = '\x7d' then (.closeBrace :: before, .idle)
  else if c = '[' then (.openBracket :: before, .idle)
  else if c = ']' then (.closeBracket :: before, .idle)
  else if c = ':' then (.colon :: before, .idle)
  else if c = ',' then (.comma :: before, .idle)
  else (before, .failed)

def escaped (c : Char) : Option Char :=
  if c = '"' ∨ c = '\\' ∨ c = '/' then some c
  else if c = 'b' then some '\x08'
  else if c = 'f' then some '\x0c'
  else if c = 'n' then some '\n'
  else if c = 'r' then some '\r'
  else if c = 't' then some '\t'
  else none

def hexValue (c : Char) : Option ℕ :=
  if c.isDigit then some (c.toNat - '0'.toNat)
  else if 'a' ≤ c ∧ c ≤ 'f' then some (c.toNat - 'a'.toNat + 10)
  else if 'A' ≤ c ∧ c ≤ 'F' then some (c.toNat - 'A'.toNat + 10)
  else none

def readUnicode (read : List Char) (value digits : ℕ) (c : Char) : Mode :=
  (hexValue c).elim .failed fun hex =>
    let value := 16 * value + hex
    if digits < 3 then .unicode read value (digits + 1)
    else if value.isValidChar then .string (Char.ofNat value :: read)
    else .failed

/-- One character; the tokens before it are kept with the latest first. -/
def readChar (state : List Token × Mode) (c : Char) : List Token × Mode :=
  let (before, mode) := state
  match mode with
  | .idle => readIdle before c
  | .word read =>
      if isWordChar c then (before, .word (c :: read))
      else (wordToken read.reverse).elim (before, .failed) fun token => readIdle (token :: before) c
  | .string read =>
      if c = '"' then (.str (String.ofList read.reverse) :: before, .idle)
      else if c = '\\' then (before, .escape read)
      else if isPlain c then (before, .string (c :: read))
      else (before, .failed)
  | .escape read =>
      if c = 'u' then (before, .unicode read 0 0)
      else (before, (escaped c).elim .failed fun plain => .string (plain :: read))
  | .unicode read value digits => (before, readUnicode read value digits c)
  | .failed => (before, .failed)

/-- A line break after the text ends its last word. -/
def lex (text : List Char) : Option (List Token) :=
  match (text ++ ['\n']).foldl readChar ([], .idle) with
  | (tokens, .idle) => some tokens.reverse
  | _ => none

/-- A value that is not complete, with what it has so far, the latest first. -/
inductive Frame where
  | items (before : List Json)
  | member (before : List (String × Json)) (key : String)

/-- What may come next, within the frames that are open, the innermost first. -/
inductive Expect where
  | value (frames : List Frame)
  | firstItem (frames : List Frame)
  | nextItem (before : List Json) (frames : List Frame)
  | firstKey (frames : List Frame)
  | key (before : List (String × Json)) (frames : List Frame)
  | colon (before : List (String × Json)) (key : String) (frames : List Frame)
  | nextMember (before : List (String × Json)) (frames : List Frame)
  | done (value : Json)
  | failed

def accept (value : Json) : List Frame → Expect
  | [] => .done value
  | .items before :: frames => .nextItem (value :: before) frames
  | .member before key :: frames => .nextMember ((key, value) :: before) frames

def readValue (frames : List Frame) : Token → Expect
  | .null => accept .null frames
  | .bool value => accept (.bool value) frames
  | .num value => accept (.num value) frames
  | .str text => accept (.str text) frames
  | .openBracket => .firstItem frames
  | .openBrace => .firstKey frames
  | _ => .failed

def readToken : Expect → Token → Expect
  | .value frames, token => readValue frames token
  | .firstItem frames, .closeBracket => accept (.arr []) frames
  | .firstItem frames, token => readValue (.items [] :: frames) token
  | .nextItem before frames, .comma => .value (.items before :: frames)
  | .nextItem before frames, .closeBracket => accept (.arr before.reverse) frames
  | .firstKey frames, .closeBrace => accept (.obj []) frames
  | .firstKey frames, .str key => .colon [] key frames
  | .key before frames, .str key => .colon before key frames
  | .colon before key frames, .colon => .value (.member before key :: frames)
  | .nextMember before frames, .comma => .key before frames
  | .nextMember before frames, .closeBrace => accept (.obj before.reverse) frames
  | _, _ => .failed

def parse (text : List Char) : Option Json :=
  (lex text).bind fun tokens =>
    match tokens.foldl readToken (.value []) with
    | .done value => some value
    | _ => none

mutual

def tokens : Json → List Token
  | .null => [.null]
  | .bool value => [.bool value]
  | .num value => [.num value]
  | .str text => [.str text]
  | .arr items => .openBracket :: (itemTokens items ++ [.closeBracket])
  | .obj members => .openBrace :: (memberTokens members ++ [.closeBrace])

def itemTokens : List Json → List Token
  | [] => []
  | value :: rest => tokens value ++ moreItemTokens rest

def moreItemTokens : List Json → List Token
  | [] => []
  | value :: rest => .comma :: (tokens value ++ moreItemTokens rest)

def memberTokens : List (String × Json) → List Token
  | [] => []
  | (key, value) :: rest => .str key :: .colon :: (tokens value ++ moreMemberTokens rest)

def moreMemberTokens : List (String × Json) → List Token
  | [] => []
  | (key, value) :: rest => .comma :: .str key :: .colon :: (tokens value ++ moreMemberTokens rest)

end

theorem readFirst_tokens (value : Json) (frames : List Frame) (rest : List Token) :
    (value.tokens ++ rest).foldl readToken (.firstItem frames) =
      (value.tokens ++ rest).foldl readToken (.value (.items [] :: frames)) := by
  cases value <;> simp [tokens, readToken]

mutual

theorem foldl_tokens (value : Json) (frames : List Frame) :
    value.tokens.foldl readToken (.value frames) = accept value frames := by
  cases value with
  | null => rfl
  | bool value => rfl
  | num value => rfl
  | str text => rfl
  | arr items =>
      rw [tokens, List.foldl_cons]
      cases items with
      | nil => rfl
      | cons value rest =>
          show (itemTokens (value :: rest) ++ [Token.closeBracket]).foldl readToken
            (.firstItem frames) = _
          rw [itemTokens, List.append_assoc, readFirst_tokens, ← List.append_assoc,
            List.foldl_append, List.foldl_append, foldl_tokens, accept, foldl_moreItemTokens]
          simp [readToken]
  | obj members =>
      rw [tokens, List.foldl_cons]
      cases members with
      | nil => rfl
      | cons member rest =>
          obtain ⟨key, value⟩ := member
          show (memberTokens ((key, value) :: rest) ++ [Token.closeBrace]).foldl readToken
            (.firstKey frames) = _
          rw [memberTokens, List.foldl_append]
          show [Token.closeBrace].foldl readToken ((value.tokens ++ moreMemberTokens rest).foldl
            readToken (.value (.member [] key :: frames))) = _
          rw [List.foldl_append, foldl_tokens, accept, foldl_moreMemberTokens]
          simp [readToken]

theorem foldl_moreItemTokens (items before : List Json) (frames : List Frame) :
    (moreItemTokens items).foldl readToken (.nextItem before frames) =
      .nextItem (items.reverse ++ before) frames := by
  cases items with
  | nil => rfl
  | cons value rest =>
      rw [moreItemTokens, List.foldl_cons, List.foldl_append]
      show (moreItemTokens rest).foldl readToken
        (value.tokens.foldl readToken (.value (.items before :: frames))) = _
      rw [foldl_tokens, accept, foldl_moreItemTokens]
      simp

theorem foldl_moreMemberTokens (members before : List (String × Json)) (frames : List Frame) :
    (moreMemberTokens members).foldl readToken (.nextMember before frames) =
      .nextMember (members.reverse ++ before) frames := by
  cases members with
  | nil => rfl
  | cons member rest =>
      obtain ⟨key, value⟩ := member
      rw [moreMemberTokens, List.foldl_cons, List.foldl_cons, List.foldl_cons, List.foldl_append]
      show (moreMemberTokens rest).foldl readToken
        (value.tokens.foldl readToken (.value (.member before key :: frames))) = _
      rw [foldl_tokens, accept, foldl_moreMemberTokens]
      simp

end

/-! ## The text of a value -/

/-- Wherever a token may start, the text is read as these tokens and the next may start. -/
def Lexes (text : List Char) (tokens : List Token) : Prop :=
  ∀ before, text.foldl readChar (before, .idle) = (tokens.reverse ++ before, .idle)

theorem Lexes.append {text rest : List Char} {tokens more : List Token}
    (first : Lexes text tokens) (second : Lexes rest more) :
    Lexes (text ++ rest) (tokens ++ more) := by
  intro before
  rw [List.foldl_append, first before, second, List.reverse_append, List.append_assoc]

theorem Lexes.nil : Lexes [] [] := fun _ => rfl

theorem Lexes.flatMap {α : Type} {text : α → List Char} {tokens : α → List Token} (items : List α)
    (each : ∀ item ∈ items, Lexes (text item) (tokens item)) :
    Lexes (items.flatMap text) (items.flatMap tokens) := by
  induction items with
  | nil => exact Lexes.nil
  | cons item rest ih =>
      rw [List.flatMap_cons, List.flatMap_cons]
      exact (each item List.mem_cons_self).append
        (ih fun other later => each other (List.mem_cons_of_mem item later))

theorem lexes_fprintf (template : List Char) (args : List PrintfArg) (tokens : List Token)
    (lexes : Lexes (format template args) tokens) :
    Lexes (fprintf (String.ofList template) args) tokens := by
  rw [fprintf_ofList]
  exact lexes

theorem lexes_spaces (text : List Char) (spaces : text.all isSpace = true) : Lexes text [] := by
  induction text with
  | nil => exact Lexes.nil
  | cons c rest ih =>
      rw [List.all_cons, Bool.and_eq_true] at spaces
      intro before
      have here : readChar (before, .idle) c = (before, .idle) := if_pos spaces.1
      rw [List.foldl_cons, here]
      exact ih spaces.2 before

theorem foldl_string (text read : List Char) (before : List Token)
    (plain : text.all isPlain = true) :
    text.foldl readChar (before, .string read) = (before, .string (text.reverse ++ read)) := by
  induction text generalizing read with
  | nil => rfl
  | cons c rest ih =>
      rw [List.all_cons, Bool.and_eq_true] at plain
      have characters := plain.1
      simp only [isPlain, Bool.and_eq_true, bne_iff_ne] at characters
      have here : readChar (before, .string read) c = (before, .string (c :: read)) := by
        simp only [readChar]
        rw [if_neg characters.1.1, if_neg characters.1.2, if_pos plain.1]
      rw [List.foldl_cons, here, ih (c :: read) plain.2, List.reverse_cons, List.append_assoc,
        List.singleton_append]

theorem lexes_string (text : List Char) (plain : text.all isPlain = true) :
    Lexes ('"' :: (text ++ ['"'])) [.str (String.ofList text)] := by
  intro before
  show (text ++ ['"']).foldl readChar (before, .string []) = _
  rw [List.foldl_append, foldl_string text [] before plain, List.append_nil]
  show (_, Mode.idle) = _
  rw [List.reverse_reverse]
  rfl

theorem foldl_word (text read : List Char) (before : List Token)
    (word : ∀ c ∈ text, isWordChar c = true) :
    text.foldl readChar (before, .word read) = (before, .word (text.reverse ++ read)) := by
  induction text generalizing read with
  | nil => rfl
  | cons c rest ih =>
      have here : readChar (before, .word read) c = (before, .word (c :: read)) :=
        if_pos (word c List.mem_cons_self)
      rw [List.foldl_cons, here, ih (c :: read) fun d member => word d (List.mem_cons_of_mem c member),
        List.reverse_cons, List.append_assoc, List.singleton_append]

theorem isWordChar_of_number (c : Char) (number : isNumberChar c = true) :
    isWordChar c = true := by
  simp only [isNumberChar, isWordChar, Char.isAlphanum, Bool.or_eq_true] at number ⊢
  tauto

theorem isSpace_of_word (c : Char) (word : isWordChar c = true) : isSpace c = false := by
  by_contra space
  simp only [Bool.not_eq_false, isSpace, Bool.or_eq_true, beq_iff_eq] at space
  rcases space with ((rfl | rfl) | rfl) | rfl <;> cases word

theorem wordToken_number (text : List Char) (value : ℚ) (number : NumberText text value) :
    wordToken text = some (.num value) := by
  have other : ∀ c rest, isNumberChar c = false → text ≠ c :: rest := by
    intro c rest keyword same
    rw [number.chars c (same ▸ List.mem_cons_self)] at keyword
    cases keyword
  rw [wordToken, if_neg (other _ _ rfl), if_neg (other _ _ rfl), if_neg (other _ _ rfl),
    number.reads, Option.map_some]

theorem lexes_number (text : List Char) (value : ℚ) (number : NumberText text value)
    (c : Char) (rest : List Char) (tokens : List Token) (ends : isWordChar c = false)
    (after : Lexes (c :: rest) tokens) : Lexes (text ++ c :: rest) (.num value :: tokens) := by
  intro before
  obtain ⟨first, others, rfl⟩ := List.exists_cons_of_ne_nil number.ne_nil
  have word : ∀ d ∈ first :: others, isWordChar d = true := fun d member =>
    isWordChar_of_number d (number.chars d member)
  have starts : readChar (before, .idle) first = (before, .word [first]) := by
    have head := word first List.mem_cons_self
    show readIdle before first = _
    rw [readIdle, if_neg (by rw [isSpace_of_word first head]; decide), if_pos head]
  have reads := foldl_word others [first] before fun d member =>
    word d (List.mem_cons_of_mem first member)
  have finishes : readChar (before, .word (others.reverse ++ [first])) c =
      readChar (.num value :: before, .idle) c := by
    have restored : (others.reverse ++ [first]).reverse = first :: others := by simp
    simp only [readChar]
    rw [ends, if_neg Bool.false_ne_true, restored, wordToken_number _ value number,
      Option.elim_some]
  rw [List.foldl_append]
  show rest.foldl readChar (readChar (others.foldl readChar (readChar (before, .idle) first)) c) = _
  rw [starts, reads, finishes, ← List.foldl_cons, after, List.reverse_cons, List.append_assoc,
    List.singleton_append]

theorem parse_of_lexes (text : List Char) (value : Json) (lexes : Lexes text value.tokens) :
    parse text = some value := by
  have read : lex text = some value.tokens := by
    unfold lex
    rw [lexes.append (lexes_spaces ['\n'] rfl) []]
    simp
  rw [parse, read, Option.bind_some, foldl_tokens]
  rfl

/-- A member as it is printed, and the number that the text stands for. -/
structure NumberMember where
  name : String
  chars : List Char
  text : List Char
  value : ℚ
  spelled : name = String.ofList chars
  plain : chars.all isPlain = true
  reads : NumberText text value

namespace NumberMember

section Printed
variable (name : String) {chars : List Char} (spelled : name = String.ofList chars)
  (plain : chars.all isPlain = true)

def natural (n : ℕ) : NumberMember :=
  ⟨name, chars, decimal n, n, spelled, plain, decimal_number n⟩

def signed (value : ℤ) : NumberMember :=
  ⟨name, chars, signedDecimal value, value, spelled, plain, signedDecimal_number value⟩

def fixed (digits : ℕ) (positive : 0 < digits) (x : ℚ) : NumberMember :=
  ⟨name, chars, fixedDecimal digits x, roundTo digits x, spelled, plain,
    fixedDecimal_number digits positive x⟩

end Printed

end NumberMember

def NumberMember.json (member : NumberMember) : String × Json :=
  (member.name, .num member.value)

def memberLine (indent : ℕ) (member : NumberMember) (ending : List Char) : List Char :=
  List.replicate indent ' ' ++ ('"' :: (member.chars ++ ['"']) ++
    (':' :: ' ' :: (member.text ++ ending)))

def memberLines (indent : ℕ) : List NumberMember → List (List Char)
  | [] => []
  | [member] => [memberLine indent member ['\n']]
  | member :: next :: rest =>
      memberLine indent member [',', '\n'] :: memberLines indent (next :: rest)

theorem lexes_memberLine (indent : ℕ) (member : NumberMember) (c : Char) (rest : List Char)
    (tokens : List Token) (ends : isWordChar c = false) (after : Lexes (c :: rest) tokens) :
    Lexes (memberLine indent member (c :: rest))
      (.str member.name :: .colon :: .num member.value :: tokens) := by
  have spaces : Lexes (List.replicate indent ' ') [] :=
    lexes_spaces _ (by simp [isSpace])
  have colon : Lexes [':', ' '] [.colon] := fun _ => rfl
  have number := lexes_number member.text member.value member.reads c rest tokens ends after
  rw [member.spelled]
  exact spaces.append ((lexes_string member.chars member.plain).append (colon.append number))

theorem lexes_separatedMember (indent : ℕ) (member : NumberMember) :
    Lexes (memberLine indent member [',', '\n'])
      [.str member.name, .colon, .num member.value, .comma] :=
  lexes_memberLine indent member ',' ['\n'] [.comma] rfl fun _ => rfl

theorem lexes_memberLines (indent : ℕ) (members : List NumberMember) :
    Lexes (memberLines indent members).flatten (memberTokens (members.map NumberMember.json)) := by
  induction members using memberLines.induct with
  | case1 => exact Lexes.nil
  | case2 member =>
      rw [memberLines, List.flatten_singleton]
      exact lexes_memberLine indent member '\n' [] [] rfl (lexes_spaces _ rfl)
  | case3 member next rest ih =>
      rw [memberLines, List.flatten_cons]
      exact (lexes_separatedMember indent member).append ih

theorem nodup_names (members : List NumberMember)
    (distinct : (members.map NumberMember.chars).Nodup) :
    (members.map NumberMember.name).Nodup := by
  have names : members.map NumberMember.name =
      (members.map NumberMember.chars).map String.ofList := by
    rw [List.map_map]
    exact List.map_congr_left fun member _ => member.spelled
  rw [names]
  exact distinct.map fun _ _ => String.ofList_injective

section Members
variable (members : List NumberMember) (distinct : (members.map NumberMember.name).Nodup)
include distinct

theorem member_obj :
    ∀ member ∈ members,
      Json.member member.name (.obj (members.map NumberMember.json)) = some (.num member.value) := by
  intro member among
  have found := lookup_map_of_mem NumberMember.name (fun member => Json.num member.value)
    members.reverse (by rw [List.map_reverse, List.nodup_reverse]; exact distinct) member
    (List.mem_reverse.mpr among)
  rw [Json.member, ← List.map_reverse]
  exact found

theorem numberMember_obj :
    ∀ member ∈ members,
      numberMember member.name (.obj (members.map NumberMember.json)) = some member.value := by
  intro member among
  rw [numberMember, member_obj members distinct member among]

end Members

theorem itemTokens_concat (items : List Json) (last : Json) :
    itemTokens (items ++ [last]) =
      (items.flatMap fun value => value.tokens ++ [.comma]) ++ last.tokens := by
  have more : ∀ items : List Json, moreItemTokens (items ++ [last]) =
      .comma :: ((items.flatMap fun value => value.tokens ++ [.comma]) ++ last.tokens) := by
    intro items
    induction items with
    | nil => simp [moreItemTokens]
    | cons value rest ih => simp [moreItemTokens, ih]
  cases items with
  | nil => simp [itemTokens, moreItemTokens]
  | cons value rest => simp [itemTokens, more rest]

/-- The items that a loop writes, each with a comma after it except the last. -/
theorem lexes_separated (count : ℕ) (text : ℕ → Bool → List Char) (value : ℕ → Json)
    (more : ℕ → Bool)
    (each : ∀ i more, Lexes (text i more) ((value i).tokens ++ if more then [.comma] else []))
    (separates : ∀ i < count, more i = decide (i + 1 < count)) :
    Lexes ((List.range count).flatMap fun i => text i (more i))
      (itemTokens ((List.range count).map value)) := by
  cases count with
  | zero => exact Lexes.nil
  | succ before =>
      rw [List.range_succ, List.map_append, List.flatMap_append, List.map_singleton,
        itemTokens_concat, List.flatMap_map, List.flatMap_singleton]
      refine Lexes.append (Lexes.flatMap _ fun i among => ?_) ?_
      · have earlier := List.mem_range.mp among
        rw [separates i (by omega), decide_eq_true (by omega)]
        exact each i true
      · have last := each before false
        rw [if_neg Bool.false_ne_true, List.append_nil] at last
        rw [separates before (by omega), decide_eq_false (by omega)]
        exact last

end Json

end TlshubEbpf.Lib
