import TlshubEbpf.Lib.Json
import TlshubEbpf.Lib.Utf8

/-! # Strings of a document

Whatever string is a value within a document stands in its text as a token.  A string
that is put between quotes as it is comes back only if it is plain: the first character
that is not ends it or turns it into something shorter. -/

set_option autoImplicit false

namespace TlshubEbpf.Lib

namespace Json

inductive HasString (text : String) : Json → Prop where
  | str : HasString text (.str text)
  | item (items : List Json) (value : Json) (among : value ∈ items)
      (inside : HasString text value) : HasString text (.arr items)
  | member (members : List (String × Json)) (value : Json)
      (among : value ∈ members.map Prod.snd) (inside : HasString text value) :
      HasString text (.obj members)

theorem hasString_of_member (text name : String) (value document : Json)
    (found : member name document = some value) (inside : value.HasString text) :
    document.HasString text := by
  cases document with
  | obj members =>
      obtain ⟨later, earlier, split, -⟩ := List.lookup_eq_some_iff.mp found
      have among : (name, value) ∈ members.reverse :=
        split ▸ List.mem_append_right later List.mem_cons_self
      exact .member members value (List.mem_map_of_mem (List.mem_reverse.mp among)) inside
  | null | bool | num | str | arr => cases found

def Frame.values : Frame → List Json
  | .items before => before
  | .member before _ => before.map Prod.snd

def Expect.values : Expect → List Json
  | .value frames | .firstItem frames | .firstKey frames => frames.flatMap Frame.values
  | .nextItem before frames => before ++ frames.flatMap Frame.values
  | .key before frames | .colon before _ frames | .nextMember before frames =>
      before.map Prod.snd ++ frames.flatMap Frame.values
  | .done whole => [whole]
  | .failed => []

def AnyHasString (text : String) (values : List Json) : Prop :=
  ∃ value ∈ values, value.HasString text

section Tokens
variable (text : String)

theorem anyHasString_append (values more : List Json) :
    AnyHasString text (values ++ more) ↔ AnyHasString text values ∨ AnyHasString text more := by
  simp only [AnyHasString, List.mem_append, or_and_right, exists_or]

theorem anyHasString_cons (value : Json) (values : List Json) :
    AnyHasString text (value :: values) ↔ value.HasString text ∨ AnyHasString text values := by
  simp only [AnyHasString, List.exists_mem_cons_iff]

theorem accept_hasString (value : Json) (frames : List Frame) :
    AnyHasString text (accept value frames).values ↔
      value.HasString text ∨ AnyHasString text (frames.flatMap Frame.values) := by
  cases frames with
  | nil => exact anyHasString_cons text value []
  | cons frame frames =>
      cases frame with
      | items before =>
          simp only [accept, Expect.values, List.flatMap_cons, Frame.values, anyHasString_append,
            anyHasString_cons, or_assoc]
      | member before key =>
          simp only [accept, Expect.values, List.flatMap_cons, Frame.values, anyHasString_append,
            List.map_cons, anyHasString_cons, or_assoc]

theorem readValue_hasString (frames : List Frame) (token : Token)
    (has : AnyHasString text (readValue frames token).values) :
    AnyHasString text (frames.flatMap Frame.values) ∨ token = .str text := by
  cases token with
  | str other =>
      rcases (accept_hasString text _ _).mp has with inside | earlier
      · cases inside
        exact Or.inr rfl
      · exact Or.inl earlier
  | null | bool | num =>
      rcases (accept_hasString text _ _).mp has with inside | earlier
      · cases inside
      · exact Or.inl earlier
  | openBracket | openBrace => exact Or.inl has
  | closeBracket | closeBrace | colon | comma =>
      obtain ⟨value, nothing, -⟩ := has
      cases nothing

theorem anyHasString_nil : ¬ AnyHasString text [] := by
  rintro ⟨value, among, -⟩
  cases among

theorem anyHasString_reverse (values : List Json) :
    AnyHasString text values.reverse ↔ AnyHasString text values := by
  simp only [AnyHasString, List.mem_reverse]

theorem hasString_arr (items : List Json) :
    HasString text (.arr items) ↔ AnyHasString text items := by
  constructor
  · intro has
    cases has with
    | item _ value among inside => exact ⟨value, among, inside⟩
  · rintro ⟨value, among, inside⟩
    exact .item items value among inside

theorem hasString_obj (members : List (String × Json)) :
    HasString text (.obj members) ↔ AnyHasString text (members.map Prod.snd) := by
  constructor
  · intro has
    cases has with
    | member _ value among inside => exact ⟨value, among, inside⟩
  · rintro ⟨value, among, inside⟩
    exact .member members value among inside

theorem readToken_hasString (expect : Expect) (token : Token)
    (has : AnyHasString text (readToken expect token).values) :
    AnyHasString text expect.values ∨ token = .str text := by
  revert has
  fun_cases readToken expect token
  case case1 frames => exact readValue_hasString text frames token
  case case2 frames =>
    rw [accept_hasString, hasString_arr]
    exact fun has => Or.inl (has.resolve_left (anyHasString_nil text))
  case case3 frames _ => exact readValue_hasString text (.items [] :: frames) token
  case case4 before frames => exact Or.inl
  case case5 before frames =>
    rw [accept_hasString, hasString_arr, anyHasString_reverse, ← anyHasString_append]
    exact Or.inl
  case case6 frames =>
    rw [accept_hasString, hasString_obj]
    exact fun has => Or.inl (has.resolve_left (anyHasString_nil text))
  case case7 frames key => exact Or.inl
  case case8 before frames key => exact Or.inl
  case case9 before key frames => exact Or.inl
  case case10 before frames => exact Or.inl
  case case11 before frames =>
    rw [accept_hasString, hasString_obj, List.map_reverse, anyHasString_reverse,
      ← anyHasString_append]
    exact Or.inl
  case case12 => exact fun has => absurd has (anyHasString_nil text)

theorem foldl_readToken_hasString (tokens : List Token) (expect : Expect)
    (has : AnyHasString text (tokens.foldl readToken expect).values) :
    AnyHasString text expect.values ∨ .str text ∈ tokens := by
  induction tokens generalizing expect with
  | nil => exact Or.inl has
  | cons token rest ih =>
      rcases ih (readToken expect token) has with here | later
      · rcases readToken_hasString text expect token here with earlier | rfl
        · exact Or.inl earlier
        · exact Or.inr List.mem_cons_self
      · exact Or.inr (List.mem_cons_of_mem token later)

/-- A string of a document is one of its tokens. -/
theorem str_mem_of_parse (characters : List Char) (document : Json)
    (parsed : parse characters = some document) (has : document.HasString text) :
    ∃ tokens, lex characters = some tokens ∧ .str text ∈ tokens := by
  obtain ⟨tokens, lexed, built⟩ := Option.bind_eq_some_iff.mp parsed
  refine ⟨tokens, lexed, ?_⟩
  have complete : tokens.foldl readToken (.value []) = .done document := by
    split at built
    · rename_i value complete
      cases built
      exact complete
    · cases built
  rcases foldl_readToken_hasString text tokens (.value [])
    ⟨document, complete ▸ List.mem_cons_self, has⟩ with before | among
  · exact absurd before (anyHasString_nil text)
  · exact among

end Tokens

/-! ## Characters -/

def Mode.pending : Mode → ℕ
  | .string read | .escape read | .unicode read _ _ => read.length
  | .idle | .word _ | .failed => 0

/-- What one character adds: tokens whose strings are no longer than what was pending,
and at most one character to what is. -/
structure Grows (state next : List Token × Mode) : Prop where
  tokens : ∃ new, next.1 = new ++ state.1 ∧
    ∀ text, .str text ∈ new → text.toList.length ≤ state.2.pending
  pending : next.2.pending ≤ state.2.pending + 1

theorem Grows.of_mode (before : List Token) (mode mode' : Mode)
    (pending : mode'.pending ≤ mode.pending + 1) : Grows (before, mode) (before, mode') :=
  ⟨⟨[], rfl, fun _ none => nomatch none⟩, pending⟩

theorem Grows.of_token (before : List Token) (mode mode' : Mode) (token : Token)
    (string : ∀ text, token = .str text → text.toList.length ≤ mode.pending)
    (pending : mode'.pending ≤ mode.pending + 1) : Grows (before, mode) (token :: before, mode') :=
  ⟨⟨[token], rfl, fun text among => string text (List.mem_singleton.mp among).symm⟩, pending⟩

theorem wordToken_ne_str (word : List Char) (token : Token) (read : wordToken word = some token)
    (text : String) : token ≠ .str text := by
  rintro rfl
  unfold wordToken at read
  split at read
  · cases read
  split at read
  · cases read
  split at read
  · cases read
  · obtain ⟨value, -, same⟩ := Option.map_eq_some_iff.mp read
    cases same

theorem readIdle_grows (before : List Token) (c : Char) :
    Grows (before, .idle) (readIdle before c) := by
  have token : ∀ token, (∀ text, token ≠ .str text) →
      Grows (before, .idle) (token :: before, .idle) := fun token other =>
    .of_token before _ _ token (fun text same => absurd same (other text)) (Nat.zero_le _)
  unfold readIdle
  split
  · exact .of_mode before _ _ (Nat.zero_le _)
  split
  · exact .of_mode before _ _ (Nat.zero_le _)
  split
  · exact .of_mode before _ _ (Nat.zero_le _)
  split
  · exact token .openBrace nofun
  split
  · exact token .closeBrace nofun
  split
  · exact token .openBracket nofun
  split
  · exact token .closeBracket nofun
  split
  · exact token .colon nofun
  split
  · exact token .comma nofun
  · exact .of_mode before _ _ (Nat.zero_le _)

theorem readUnicode_pending (read : List Char) (value digits : ℕ) (c : Char) :
    (readUnicode read value digits c).pending ≤ read.length + 1 := by
  unfold readUnicode
  cases hexValue c with
  | none => exact Nat.zero_le _
  | some hex =>
      simp only [Option.elim_some]
      split
      · exact Nat.le_succ _
      · split
        · exact Nat.le_refl _
        · exact Nat.zero_le _

theorem readChar_grows (state : List Token × Mode) (c : Char) : Grows state (readChar state c) := by
  obtain ⟨before, mode⟩ := state
  cases mode with
  | idle => exact readIdle_grows before c
  | word read =>
      simp only [readChar]
      split
      · exact .of_mode before _ _ (Nat.zero_le _)
      · cases word : wordToken read.reverse with
        | none => exact .of_mode before _ _ (Nat.zero_le _)
        | some token =>
            have grows := readIdle_grows (token :: before) c
            obtain ⟨new, more, strings⟩ := grows.tokens
            refine ⟨⟨new ++ [token], ?_, ?_⟩, grows.pending⟩
            · rw [List.append_assoc]
              exact more
            · intro text among
              rcases List.mem_append.mp among with later | here
              · exact strings text later
              · exact absurd (List.mem_singleton.mp here).symm
                  (wordToken_ne_str _ token word text)
  | string read =>
      simp only [readChar]
      split
      · refine .of_token before _ _ _ ?_ (Nat.zero_le _)
        rintro text same
        cases same
        rw [String.toList_ofList, List.length_reverse]
        exact Nat.le_refl _
      split
      · exact .of_mode before _ _ (Nat.le_succ _)
      split
      · exact .of_mode before _ _ (Nat.le_refl _)
      · exact .of_mode before _ _ (Nat.zero_le _)
  | escape read =>
      simp only [readChar]
      split
      · exact .of_mode before _ _ (Nat.le_succ _)
      · refine .of_mode before _ _ ?_
        cases escaped c with
        | none => exact Nat.zero_le _
        | some plain => exact Nat.le_refl _
  | unicode read value digits =>
      exact .of_mode before _ _ (readUnicode_pending read value digits c)
  | failed => exact .of_mode before _ _ (Nat.zero_le _)

/-- What has become of a text after the quote that opens a string. -/
inductive Quoted (before : List Token) (read : List Char) : List Token × Mode → Prop where
  | plain (plain : read.all isPlain = true) : Quoted before read (before, .string read.reverse)
  | shorter (new : List Token) (mode : Mode)
      (strings : ∀ text, .str text ∈ new → text.toList.length < read.length)
      (pending : mode.pending < read.length) : Quoted before read (new ++ before, mode)

theorem readChar_string_pending (before : List Token) (read : List Char) (c : Char)
    (special : isPlain c ≠ true) :
    (readChar (before, .string read) c).2.pending ≤ read.length := by
  simp only [readChar]
  split
  · exact Nat.zero_le _
  split
  · exact Nat.le_refl _
  · exact Nat.zero_le _

theorem Quoted.of_grows (before : List Token) (read : List Char) (state next : List Token × Mode)
    (grows : Grows state next) (earlier : List Token) (tokens : state.1 = earlier ++ before)
    (strings : ∀ text, .str text ∈ earlier → text.toList.length < read.length)
    (pending : state.2.pending < read.length) (left : next.2.pending < read.length) :
    Quoted before read next := by
  obtain ⟨more, added, short⟩ := grows.tokens
  obtain ⟨after, mode⟩ := next
  dsimp only at added left
  rw [added, tokens, ← List.append_assoc]
  refine .shorter (more ++ earlier) mode ?_ left
  intro text among
  rcases List.mem_append.mp among with later | old
  · exact Nat.lt_of_le_of_lt (short text later) pending
  · exact strings text old

theorem readChar_quoted (before : List Token) (read : List Char) (state : List Token × Mode)
    (c : Char) (quoted : Quoted before read state) :
    Quoted before (read ++ [c]) (readChar state c) := by
  have length : (read ++ [c]).length = read.length + 1 := List.length_append
  have grows := readChar_grows state c
  have pending := grows.pending
  cases quoted with
  | plain plain =>
      by_cases here : isPlain c = true
      · have next := foldl_string [c] read.reverse before (by rw [List.all_cons, here]; rfl)
        rw [List.foldl_cons, List.foldl_nil, ← List.reverse_append] at next
        rw [next]
        exact .plain (by rw [List.all_append, plain, List.all_cons, here]; rfl)
      · have left := readChar_string_pending before read.reverse c here
        rw [List.length_reverse] at left
        refine .of_grows before _ _ _ grows [] rfl (fun _ none => nomatch none) ?_ (by omega)
        rw [Mode.pending, List.length_reverse]
        omega
  | shorter new mode earlier below =>
      refine .of_grows before _ _ _ grows new rfl ?_ ?_ ?_
      · intro text among
        have := earlier text among
        omega
      · dsimp only
        omega
      · dsimp only at pending
        omega

theorem foldl_quoted (before : List Token) (text read : List Char) (state : List Token × Mode)
    (quoted : Quoted before read state) :
    Quoted before (read ++ text) (text.foldl readChar state) := by
  induction text generalizing read state with
  | nil => rwa [List.append_nil]
  | cons c rest ih =>
      have next := ih (read ++ [c]) (readChar state c) (readChar_quoted before read state c quoted)
      rwa [List.append_assoc, List.singleton_append] at next

theorem foldl_failed (text : List Char) (before : List Token) :
    text.foldl readChar (before, .failed) = (before, .failed) := by
  induction text with
  | nil => rfl
  | cons c rest ih => exact ih

/-- A line that ends in a quote and a comma closes an open string, or is not a valid one. -/
theorem foldl_closing (before : List Token) (mode : Mode) :
    (∃ after, ['"', ',', '\n'].foldl readChar (before, mode) = (after, .failed)) ∨
      ∃ read, mode = .string read ∧ ['"', ',', '\n'].foldl readChar (before, mode) =
        (.comma :: .str (String.ofList read.reverse) :: before, .idle) := by
  cases mode with
  | idle => exact Or.inl ⟨before, rfl⟩
  | word read =>
      refine Or.inl ?_
      simp only [List.foldl_cons, readChar]
      cases wordToken read.reverse with
      | none => exact ⟨before, rfl⟩
      | some token => exact ⟨token :: before, rfl⟩
  | string read => exact Or.inr ⟨read, rfl, rfl⟩
  | escape read => exact Or.inl ⟨before, rfl⟩
  | unicode read value digits => exact Or.inl ⟨before, rfl⟩
  | failed => exact Or.inl ⟨before, rfl⟩

/-- A text that stands between quotes as it is, and that the document has as a string, is
plain. -/
theorem isPlain_of_hasString (opening quoted rest : List Char) (before after : List Token)
    (opens : opening.foldl readChar ([], .idle) = (before, .string []))
    (lexes : Lexes rest after)
    (known : ∀ text, .str text ∈ before ++ after → text.toList.all isPlain = true)
    (document : Json)
    (parsed : parse (opening ++ (quoted ++ '"' :: ',' :: '\n' :: rest)) = some document)
    (has : document.HasString (String.ofList quoted)) : quoted.all isPlain = true := by
  obtain ⟨tokens, lexed, among⟩ := str_mem_of_parse _ _ document parsed has
  have inside := foldl_quoted before quoted [] (before, .string []) (.plain rfl)
  rw [List.nil_append] at inside
  have ending := lexes.append (lexes_spaces ['\n'] rfl)
  rw [List.append_nil] at ending
  have passes : (opening ++ (quoted ++ '"' :: ',' :: '\n' :: rest) ++ ['\n']).foldl readChar
      ([], .idle) = (rest ++ ['\n']).foldl readChar
        (['"', ',', '\n'].foldl readChar (quoted.foldl readChar (before, .string []))) := by
    rw [← opens]
    simp only [List.foldl_append, List.foldl_cons, List.foldl_nil]
  rw [lex, passes] at lexed
  generalize quoted.foldl readChar (before, .string []) = state at inside lexed
  cases inside with
  | plain plain => exact plain
  | shorter new mode strings pending =>
      rcases foldl_closing (new ++ before) mode with ⟨left, fails⟩ | ⟨read, rfl, closes⟩
      · rw [fails, foldl_failed] at lexed
        cases lexed
      · rw [closes, ending] at lexed
        cases lexed
        simp only [List.mem_reverse, List.mem_append, List.mem_cons, reduceCtorEq, false_or,
          Token.str.injEq, String.ofList_inj] at among
        rcases among with later | rfl | inNew | earlier
        · have plain := known _ (List.mem_append_right before later)
          rwa [String.toList_ofList] at plain
        · rw [List.length_reverse] at pending
          exact absurd pending (Nat.lt_irrefl _)
        · have short := strings _ inNew
          rw [String.toList_ofList] at short
          exact absurd short (Nat.lt_irrefl _)
        · have plain := known _ (List.mem_append_left after earlier)
          rwa [String.toList_ofList] at plain

theorem str_mem_moreMemberTokens (text : String) (members : List (String × Json))
    (among : .str text ∈ moreMemberTokens members) :
    ∃ member ∈ members, text = member.1 ∨ .str text ∈ member.2.tokens := by
  induction members with
  | nil => cases among
  | cons member rest ih =>
      obtain ⟨key, value⟩ := member
      simp only [moreMemberTokens, List.mem_cons, List.mem_append, reduceCtorEq, false_or,
        Token.str.injEq] at among
      rcases among with same | inside | later
      · exact ⟨_, List.mem_cons_self, Or.inl same⟩
      · exact ⟨_, List.mem_cons_self, Or.inr inside⟩
      · obtain ⟨member, inRest, found⟩ := ih later
        exact ⟨member, List.mem_cons_of_mem _ inRest, found⟩

theorem str_mem_memberTokens (text : String) (members : List (String × Json))
    (among : .str text ∈ memberTokens members) :
    ∃ member ∈ members, text = member.1 ∨ .str text ∈ member.2.tokens := by
  refine str_mem_moreMemberTokens text members ?_
  cases members with
  | nil => exact among
  | cons member rest => exact List.mem_cons_of_mem _ among

theorem str_mem_moreItemTokens (text : String) (items : List Json)
    (among : .str text ∈ moreItemTokens items) : ∃ value ∈ items, .str text ∈ value.tokens := by
  induction items with
  | nil => cases among
  | cons value rest ih =>
      simp only [moreItemTokens, List.mem_cons, List.mem_append, reduceCtorEq, false_or] at among
      rcases among with inside | later
      · exact ⟨value, List.mem_cons_self, inside⟩
      · obtain ⟨value, inRest, found⟩ := ih later
        exact ⟨value, List.mem_cons_of_mem _ inRest, found⟩

theorem str_mem_itemTokens (text : String) (items : List Json)
    (among : .str text ∈ itemTokens items) : ∃ value ∈ items, .str text ∈ value.tokens := by
  refine str_mem_moreItemTokens text items ?_
  cases items with
  | nil => exact among
  | cons value rest => exact List.mem_cons_of_mem _ among

theorem isPlain_numberMembers (members : List NumberMember) (text : String)
    (among : .str text ∈ memberTokens (members.map NumberMember.json)) :
    text.toList.all isPlain = true := by
  obtain ⟨_, inMap, found⟩ := str_mem_memberTokens text _ among
  obtain ⟨member, -, rfl⟩ := List.mem_map.mp inMap
  rcases found with rfl | inside
  · show member.name.toList.all isPlain = true
    rw [member.spelled, String.toList_ofList]
    exact member.plain
  · cases List.mem_singleton.mp inside

theorem isAscii_number (text : List Char) (value : ℚ) (number : NumberText text value) :
    IsAscii text := by
  intro c among
  have char := number.chars c among
  simp only [isNumberChar, Bool.or_eq_true, beq_iff_eq] at char
  rcases char with (digit | rfl) | rfl
  · have bound : c.toNat ≤ 57 := (Char.isDigit_iff_toNat.mp digit).2
    omega
  · decide
  · decide

theorem isAscii_memberLine (indent : ℕ) (member : NumberMember) (ending : List Char)
    (name : IsAscii member.chars) (ends : IsAscii ending) :
    IsAscii (memberLine indent member ending) := by
  have spaces : IsAscii (List.replicate indent ' ') := by
    intro c among
    rw [List.eq_of_mem_replicate among]
    decide
  have quote : IsAscii ['"'] := by decide
  have colon : IsAscii [':', ' '] := by decide
  have number := isAscii_number member.text member.value member.reads
  exact spaces.append ((quote.append (name.append quote)).append
    (colon.append (number.append ends)))

theorem isAscii_memberLines (indent : ℕ) (members : List NumberMember)
    (names : ∀ name ∈ members.map NumberMember.chars, IsAscii name) :
    IsAscii (memberLines indent members).flatten := by
  have separator : IsAscii [',', '\n'] := by decide
  have lineBreak : IsAscii ['\n'] := by decide
  induction members using memberLines.induct with
  | case1 =>
      intro c none
      exact absurd none List.not_mem_nil
  | case2 member =>
      rw [memberLines, List.flatten_singleton]
      exact isAscii_memberLine indent member _ (names _ List.mem_cons_self) lineBreak
  | case3 member next rest ih =>
      rw [memberLines, List.flatten_cons]
      exact (isAscii_memberLine indent member _ (names _ List.mem_cons_self) separator).append
        (ih fun name later => names name (List.mem_cons_of_mem _ later))

end Json

end TlshubEbpf.Lib
