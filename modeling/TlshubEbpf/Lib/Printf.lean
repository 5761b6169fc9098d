import TlshubEbpf.Lib.Decimal

/-! # Formatted output

The directives `%llu`, `%lu`, `%zu`, `%u`, `%ld`, `%d`, `%.Nf`, `%s` and `%%` of `fprintf`,
each with an argument of its type.  A directive without its argument, which the language leaves
undefined, prints itself. -/

set_option autoImplicit false

namespace TlshubEbpf.Lib

inductive PrintfArg where
  | llu (value : UInt64)
  | lu (value : UInt64)
  | zu (value : ℕ)
  | u (value : UInt32)
  | ld (value : ℤ)
  | d (value : ℤ)
  | f (value : ℚ)
  | s (text : List Char)

def format : List Char → List PrintfArg → List Char
  | '%' :: '%' :: rest, args => '%' :: format rest args
  | '%' :: 'l' :: 'l' :: 'u' :: rest, .llu value :: args => decimal value.toNat ++ format rest args
  | '%' :: 'l' :: 'u' :: rest, .lu value :: args => decimal value.toNat ++ format rest args
  | '%' :: 'z' :: 'u' :: rest, .zu value :: args => decimal value ++ format rest args
  | '%' :: 'u' :: rest, .u value :: args => decimal value.toNat ++ format rest args
  | '%' :: 'l' :: 'd' :: rest, .ld value :: args => signedDecimal value ++ format rest args
  | '%' :: 'd' :: rest, .d value :: args => signedDecimal value ++ format rest args
  | '%' :: '.' :: digits :: 'f' :: rest, .f value :: args =>
      fixedDecimal (digits.toNat - 48) value ++ format rest args
  | '%' :: 's' :: rest, .s text :: args => text ++ format rest args
  | c :: rest, args => c :: format rest args
  | [], _ => []

def fprintf (template : String) (args : List PrintfArg) : List Char :=
  format template.toList args

theorem fprintf_ofList (template : List Char) (args : List PrintfArg) :
    fprintf (String.ofList template) args = format template args := by
  rw [fprintf, String.toList_ofList]

/-- What is printed is part of the template, of a text or of a number. -/
theorem format_forall (P : Char → Prop) (number : ∀ c, isNumberChar c = true → P c)
    (template : List Char) (args : List PrintfArg) (plain : ∀ c ∈ template, P c)
    (texts : ∀ text, .s text ∈ args → ∀ c ∈ text, P c) : ∀ c ∈ format template args, P c := by
  have numeral : ∀ digits printed : List Char, (∀ c ∈ digits, isNumberChar c = true) →
      (∀ c ∈ printed, P c) → ∀ c ∈ digits ++ printed, P c := fun digits printed digitChars rest =>
    List.forall_mem_append.mpr ⟨fun c among => number c (digitChars c among), rest⟩
  induction template, args using format.induct with
  | case1 rest args ih =>
      simp only [List.forall_mem_cons] at plain
      exact List.forall_mem_cons.mpr ⟨plain.1, ih plain.2.2 texts⟩
  | case2 rest value args ih =>
      simp only [List.forall_mem_cons] at plain
      exact numeral _ _ (decimal_number _).chars
        (ih plain.2.2.2.2 fun text among => texts text (List.mem_cons_of_mem _ among))
  | case3 rest value args ih | case4 rest value args ih =>
      simp only [List.forall_mem_cons] at plain
      exact numeral _ _ (decimal_number _).chars
        (ih plain.2.2.2 fun text among => texts text (List.mem_cons_of_mem _ among))
  | case5 rest value args ih =>
      simp only [List.forall_mem_cons] at plain
      exact numeral _ _ (decimal_number _).chars
        (ih plain.2.2 fun text among => texts text (List.mem_cons_of_mem _ among))
  | case6 rest value args ih =>
      simp only [List.forall_mem_cons] at plain
      exact numeral _ _ (signedDecimal_number _).chars
        (ih plain.2.2.2 fun text among => texts text (List.mem_cons_of_mem _ among))
  | case7 rest value args ih =>
      simp only [List.forall_mem_cons] at plain
      exact numeral _ _ (signedDecimal_number _).chars
        (ih plain.2.2 fun text among => texts text (List.mem_cons_of_mem _ among))
  | case8 digits rest value args ih =>
      simp only [List.forall_mem_cons] at plain
      exact numeral _ _ (fixedDecimal_chars _ _)
        (ih plain.2.2.2.2 fun text among => texts text (List.mem_cons_of_mem _ among))
  | case9 rest text args ih =>
      simp only [List.forall_mem_cons] at plain
      exact List.forall_mem_append.mpr ⟨texts text List.mem_cons_self,
        ih plain.2.2 fun text among => texts text (List.mem_cons_of_mem _ among)⟩
  | case10 c rest args _ _ _ _ _ _ _ _ _ ih =>
      obtain ⟨here, later⟩ := List.forall_mem_cons.mp plain
      rw [format]
      · exact List.forall_mem_cons.mpr ⟨here, ih later texts⟩
      all_goals assumption
  | case11 args =>
      intro c none
      cases none

end TlshubEbpf.Lib
